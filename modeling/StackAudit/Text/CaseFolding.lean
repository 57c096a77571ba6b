import StackAudit.Text.FoldingTable

/-!
# Case folding

`foldChar` is simple case folding, under which a character has one counterpart. `foldCase` is full
case folding, under which some characters become several, such as `ß` the two letters `ss`.
-/

namespace StackAudit.Text

/-- The run that a character is in, by bisection of the runs from `low` on and before `high`. The
fuel is the number of halvings that are left. -/
def findFoldingRun (runs : Array FoldingRun) (n low high : Nat) : Nat → Option FoldingRun
  | 0 => none
  | fuel + 1 =>
    if low < high then
      let middle := (low + high) / 2
      match runs[middle]? with
      | none => none
      | some run =>
        if n < run.first then findFoldingRun runs n low middle fuel
        else if run.last < n then findFoldingRun runs n (middle + 1) high fuel
        else if (n - run.first) % run.step = 0 then some run
        else none
    else none

/-- The simple case folding of a character. Below 128 only the capital letters fold. -/
def foldChar (c : Char) : Char :=
  if c.toNat < 128 then c.toLower
  else match findFoldingRun foldingRuns c.toNat 0 foldingRuns.size foldingRuns.size with
    | some run => Char.ofNat (run.target + (c.toNat - run.first))
    | none => c

/-- The full case folding of a character. -/
def foldFull (c : Char) : List Char :=
  if c.toNat < 128 then [c.toLower]
  else match longFoldings.lookup c.toNat with
    | some characters => characters.map Char.ofNat
    | none => [foldChar c]

/-- The full case folding of a text. -/
def foldCase (text : List Char) : List Char := text.flatMap foldFull

end StackAudit.Text
