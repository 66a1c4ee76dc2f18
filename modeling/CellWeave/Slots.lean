/-!
# Slots

Members of a set without an order of their own are listed as they lie in a row of slots. There are 8
slots, or for 5 members and more the least power of two that is above twice their number. A member
goes to the slot that its code names, modulo the number of slots. If that is taken it tries the next
nine, provided that the row is long enough, and then goes on from another slot, which the code and
the number of tries settle.
-/

namespace CellWeave.Slots

variable {α : Type}

/-- The least power of two times `size` that is above `least`, reached in at most `fuel` steps. -/
def doubled (least size : Nat) : Nat → Nat
  | 0 => size
  | fuel + 1 => if size ≤ least then doubled least (2 * size) fuel else size

def countFor (members : Nat) : Nat :=
  if members < 5 then 8 else doubled (2 * members) 8 members

/-- The distance to the first free slot among `slot` and those that are tried next to it. -/
def freeNear (slots : Array (Option α)) (slot : Nat) : Option Nat :=
  let reach := if slot + 9 < slots.size then 9 else 0
  (List.range (reach + 1)).find? fun distance ↦ (slots.getD (slot + distance) none).isNone

/-- The free slot that is found from `slot` on; `code` is what is left of the code. -/
def freeFrom (slots : Array (Option α)) (slot code : Nat) : Nat → Nat
  | 0 => slot
  | fuel + 1 =>
    match freeNear slots slot with
    | some distance => slot + distance
    | none =>
      let code := code / 32
      freeFrom slots ((5 * slot + 1 + code) % slots.size) code fuel

def put (slots : Array (Option α)) (code : Nat) (member : α) : Array (Option α) :=
  let slot := freeFrom slots (code % slots.size) code (slots.size + 16)
  slots.setIfInBounds slot (some member)

/-- The members in the order of their slots. -/
def arrange (code : α → Nat) (members : List α) : List α :=
  let empty : Array (Option α) := Array.replicate (countFor members.length) none
  let slots := members.foldl (fun slots member ↦ put slots (code member) member) empty
  slots.toList.filterMap id

end CellWeave.Slots
