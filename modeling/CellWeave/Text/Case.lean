import CellWeave.Text
/-!
# Runs of letters

Most letters with another case lie in runs: every `step`-th code point from `first` to `last` is
mapped by one `shift`.
-/

namespace CellWeave.Text

structure CaseRun where
  first : Nat
  last : Nat
  step : Nat
  shift : Int

namespace CaseRun

def contains (run : CaseRun) (code : Nat) : Bool :=
  run.first ≤ code && code ≤ run.last && (code - run.first) % run.step == 0

end CaseRun

/-- The letter that the first run with `c` in it maps `c` to. -/
def shiftCase (runs : List CaseRun) (c : Char) : Char :=
  match runs.find? (·.contains c.toNat) with
  | some run => Char.ofNat (c.toNat + run.shift).toNat
  | none => c

end CellWeave.Text
