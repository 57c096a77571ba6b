/-!
# Base64

The base64 encoding of a text: three bytes of its UTF-8 form become four characters, and equality
signs fill up the last group.
-/

namespace StackAudit.Text

/-- The character of a number of six bits. -/
def base64Char (n : Nat) : Char :=
  if n < 26 then Char.ofNat (65 + n)
  else if n < 52 then Char.ofNat (71 + n)
  else if n < 62 then Char.ofNat (n - 4)
  else if n = 62 then '+'
  else '/'

/-- The encoding of bytes. -/
def base64OfBytes : List Nat → List Char
  | [] => []
  | [a] => [base64Char (a / 4), base64Char (a % 4 * 16), '=', '=']
  | [a, b] =>
    [base64Char (a / 4), base64Char (a % 4 * 16 + b / 16), base64Char (b % 16 * 4), '=']
  | a :: b :: c :: rest =>
    base64Char (a / 4) :: base64Char (a % 4 * 16 + b / 16) :: base64Char (b % 16 * 4 + c / 64)
      :: base64Char (c % 64) :: base64OfBytes rest

/-- The encoding of a text. -/
def base64 (s : String) : String :=
  String.ofList (base64OfBytes (s.toUTF8.toList.map UInt8.toNat))

end StackAudit.Text
