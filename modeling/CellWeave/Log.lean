import CellWeave.Text
/-!
# Log records

Operations note what they did as records. A `Traced` value carries the records made on the way to
it, in order.
-/

namespace CellWeave

inductive Level where
  | debug
  | info
  | warning
  | error
  | critical
  deriving DecidableEq

namespace Level

def value : Level → Nat
  | debug => 10
  | info => 20
  | warning => 30
  | error => 40
  | critical => 50

def name : Level → String
  | debug => "DEBUG"
  | info => "INFO"
  | warning => "WARNING"
  | error => "ERROR"
  | critical => "CRITICAL"

end Level

structure LogRecord where
  level : Level
  message : Text
  deriving DecidableEq

namespace LogRecord

def debug (message : String) : LogRecord :=
  ⟨.debug, .ofString message⟩

def warning (message : String) : LogRecord :=
  ⟨.warning, .ofString message⟩

end LogRecord

structure Traced (α : Type) where
  value : α
  log : List LogRecord := []

namespace Traced

instance : Monad Traced where
  pure value := ⟨value, []⟩
  bind traced next :=
    let then_ := next traced.value
    ⟨then_.value, traced.log ++ then_.log⟩

/-- Does `step` for each item in turn. -/
def each {α β : Type} (step : α → Traced β) (items : List α) : Traced (List β) :=
  ⟨items.map fun item ↦ (step item).value, items.flatMap fun item ↦ (step item).log⟩

end Traced

end CellWeave
