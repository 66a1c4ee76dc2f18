import CellWeave.Text
/-!
# Positions and spans

Lines count from 1 and columns from 0. Both are integers: a position names a place that a text
may or may not have.
-/

namespace CellWeave

structure Position where
  line : Int
  column : Int
  deriving DecidableEq

namespace Position

instance : LT Position where
  lt p q := p.line < q.line ∨ p.line = q.line ∧ p.column < q.column

instance : LE Position where
  le p q := p.line < q.line ∨ p.line = q.line ∧ p.column ≤ q.column

instance (p q : Position) : Decidable (p < q) :=
  inferInstanceAs (Decidable (_ ∨ _))

instance (p q : Position) : Decidable (p ≤ q) :=
  inferInstanceAs (Decidable (_ ∨ _))

theorem lt_iff {p q : Position} :
    p < q ↔ p.line < q.line ∨ p.line = q.line ∧ p.column < q.column :=
  Iff.rfl

theorem le_iff {p q : Position} :
    p ≤ q ↔ p.line < q.line ∨ p.line = q.line ∧ p.column ≤ q.column :=
  Iff.rfl

theorem not_lt {p q : Position} : ¬ p < q ↔ q ≤ p := by
  rw [lt_iff, le_iff]
  omega

/-- A pair in round brackets. -/
def shown (p : Position) : String :=
  s!"({p.line}, {p.column})"

end Position

/-- The text from `start` up to `stop`, the character at `stop` left out. -/
structure Span where
  start : Position
  stop : Position
  deriving DecidableEq

namespace Span

def of (startLine startColumn stopLine stopColumn : Int) : Span :=
  ⟨⟨startLine, startColumn⟩, ⟨stopLine, stopColumn⟩⟩

def isEmpty (span : Span) : Bool :=
  span.start == span.stop

/-- The same columns on other lines. -/
def onLines (span : Span) (startLine stopLine : Int) : Span :=
  ⟨⟨startLine, span.start.column⟩, ⟨stopLine, span.stop.column⟩⟩

def shown (span : Span) : String :=
  s!"TextRange(start_line={span.start.line}, start_col={span.start.column}, " ++
    s!"end_line={span.stop.line}, end_col={span.stop.column})"

end Span

end CellWeave
