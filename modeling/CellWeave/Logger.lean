import CellWeave.Text
/-!
# Loggers

Records are made under the names of loggers. A name with dots lies in the names before its dots, and
the innermost of these that is a logger by then is its parent. Of dots side by side only every other
one counts, so that a name may have no parent where it seems to have one.
-/

namespace CellWeave.Logger

/-- The names that a name lies in, the innermost one first. A dot at the beginning or right before
one that counts does not count. -/
def outerNames (name : Text) : List Text :=
  go name.reverse
where
  go : Text → List Text
    | [] => []
    | .char '.' :: c :: rest => (c :: rest).reverse :: go rest
    | _ :: rest => go rest

def parent? (loggers : List Text) (name : Text) : Option Text :=
  (outerNames name).find? loggers.contains

/-- Whether a name is `top` or comes to it from parent to parent. As every parent is shorter, the
length of the name bounds the steps. -/
def isWithin (loggers : List Text) (top name : Text) : Bool :=
  go name.length name
where
  go : Nat → Text → Bool
    | 0, name => name == top
    | fuel + 1, name => name == top || (parent? loggers name).any (go fuel)

end CellWeave.Logger
