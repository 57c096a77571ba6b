import StackAudit.AddressBlock
import StackAudit.Text.Integer

/-!
# Reading blocks of addresses

A block is written as an address, optionally followed by a slash and the length of the prefix; the
prefix of a block of 32-bit addresses may also be written as a mask. An address alone is a block of
one.
-/

namespace StackAudit.AddressBlock

open Text (decimalValue)

/-- The number that parts of `width` bits each make up, the first part being the highest. -/
def join (width : Nat) (parts : List Nat) : Nat :=
  parts.foldl (fun n part => n <<< width + part) 0

/-- A part of a 32-bit address: a number up to 255 without superfluous zeros. -/
def octet? (text : List Char) : Option Nat := do
  guard (text.length ≤ 3 ∧ (text.head? = some '0' → text = ['0']))
  let n ← Text.natural? text
  guard (n ≤ 255)
  return n

/-- A 32-bit address: four parts between points. -/
def address4? (text : List Char) : Option Nat := do
  let parts ← (text.splitOn '.').mapM octet?
  guard (parts.length = 4)
  return join 8 parts

/-- A part of a 128-bit address: one to four hexadecimal digits. -/
def group? (text : List Char) : Option Nat := do
  guard (text ≠ [] ∧ text.length ≤ 4)
  Text.hexValue? text

/-- Groups between colons. The last of them may be a 32-bit address, which counts for two, if that
is allowed. -/
def groups? (tail : Bool) (text : List Char) : Option (List Nat) :=
  let rec read : List (List Char) → Option (List Nat)
    | [] => some []
    | [part] =>
      match address4? part with
      | some address => if tail then some [address / 65536, address % 65536] else none
      | none => (group? part).map ([·])
    | part :: rest => do
      let group ← group? part
      let rest ← read rest
      return group :: rest
  if text = [] then some [] else read (text.splitOn ':')

/-- Cuts a text at its first double colon. -/
def splitDoubleColon? : List Char → Option (List Char × List Char)
  | [] => none
  | ':' :: ':' :: rest => some ([], rest)
  | c :: rest => (splitDoubleColon? rest).map fun (head, tail) => (c :: head, tail)

/-- A 128-bit address: eight groups, or fewer with a double colon in place of the zeros left out, of
which there is at least one. -/
def address6? (text : List Char) : Option Nat :=
  match splitDoubleColon? text with
  | none => do
    let groups ← groups? true text
    guard (groups.length = 8)
    return join 16 groups
  | some (head, tail) => do
    let head ← groups? false head
    let tail ← groups? true tail
    guard (head.length + tail.length ≤ 7)
    return join 16 (head ++ List.replicate (8 - head.length - tail.length) 0 ++ tail)

/-- The length of a prefix in decimal, up to a limit. A plus sign may stand in front, and any number
of zeros. -/
def length? (limit : Nat) (text : List Char) : Option Nat := do
  let n ← Text.natural? (match text with
    | '+' :: rest => rest
    | rest => rest)
  guard (n ≤ limit)
  return n

/-- The length of the prefix that a mask of 32 bits leaves: ones, and then only zeros. -/
def maskLength? (mask : Nat) : Option Nat :=
  (List.range 33).find? fun n => mask = 1 <<< 32 - 1 <<< (32 - n)

/-- The length of the prefix of a block of 32-bit addresses. -/
def prefix4? (text : List Char) : Option Nat :=
  match address4? text with
  | some mask => maskLength? mask
  | none => length? 32 text

/-- Reads a block of addresses of either family. -/
def ofChars? (text : List Char) : Option AddressBlock :=
  match text.splitOn '/' with
  | [address] =>
    (address4? address).map (⟨.v4, ·, 32⟩) <|> (address6? address).map (⟨.v6, ·, 128⟩)
  | [address, length] =>
    (do return ⟨.v4, ← address4? address, ← prefix4? length⟩)
      <|> (do return ⟨.v6, ← address6? address, ← length? 128 length⟩)
  | _ => none

end StackAudit.AddressBlock
