/-! Sets of characters given by ranges of code points, and case mappings given by runs.
-/

namespace Tablewright.Text

/-- Ranges of code points, both ends included.
-/
abbrev Ranges := List (Nat × Nat)

/-- Whether a code point lies in one of the ranges.
-/
def Ranges.contain (ranges : Ranges) (c : Char) : Bool :=
  ranges.any fun range => range.1 ≤ c.toNat && c.toNat ≤ range.2

/-- Every `step`-th code point from `first` to `last` maps to the code point `shift` further on.
-/
structure CaseRun where
  first : Nat
  last : Nat
  step : Nat
  shift : Int

/-- The run maps this code point.
-/
def CaseRun.covers (run : CaseRun) (code : Nat) : Bool :=
  run.first ≤ code && code ≤ run.last && (code - run.first) % run.step == 0

/-- The case mapping of one character under runs and expansions; a character that neither
mentions maps to itself.
-/
def mapCase (runs : List CaseRun) (expansions : List (Nat × List Nat)) (c : Char)
    : List Char :=
  match expansions.find? (·.1 == c.toNat) with
  | some (_, codes) => codes.map Char.ofNat
  | none =>
    match runs.find? (·.covers c.toNat) with
    | some run => [Char.ofNat (c.toNat + run.shift).toNat]
    | none => [c]

end Tablewright.Text
