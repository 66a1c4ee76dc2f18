import CellWeave.Offset
import CellWeave.Log
/-!
# Batches of edits

A batch replaces several spans of one text at once. Every span is a span of the text before any
edit, so the order in which the edits are listed has no effect on the result. Spans may touch but
neither overlap nor start at one place. A deletion over several lines that leaves nothing on the
line it merges them into takes that line away, together with one feed.
-/

namespace CellWeave

structure Edit where
  span : Span
  replacement : Text
  deriving DecidableEq

/-- The two ends of a span. -/
inductive Side where
  | start
  | stop
  deriving DecidableEq

inductive EditError where
  | reversed (span : Span)
  | outside (side : Side) (fault : PositionFault)
  | overlap (first second : Span)
  deriving DecidableEq

namespace Side

def shown : Side → String
  | start => "Start"
  | stop => "End"

end Side

namespace EditError

def message : EditError → String
  | reversed span =>
    s!"Edit range ends before it starts: {span.start.shown} > {span.stop.shown}"
  | outside side (.line line count) => s!"{side.shown} line {line} is outside 1..{count}"
  | outside side (.column line column width) =>
    s!"{side.shown} column {column} is outside 0..{width} on line {line}"
  | overlap first second => s!"Edits overlap: {first.shown} and {second.shown}"

end EditError

/-- An edit with the offsets of its span. -/
structure PlacedEdit where
  start : Nat
  stop : Nat
  edit : Edit
  deriving DecidableEq

namespace Edit

def isMultiline (edit : Edit) : Bool :=
  edit.span.start.line < edit.span.stop.line

def locate (text : Text) (side : Side) (position : Position) : Except EditError Nat :=
  match text.offset position with
  | .ok offset => .ok offset
  | .error fault => .error (.outside side fault)

/-- The offsets of an edit, which has to be forward and inside the text. -/
def place (text : Text) (edit : Edit) : Except EditError PlacedEdit :=
  if edit.span.stop < edit.span.start then .error (.reversed edit.span)
  else do
    let start ← locate text .start edit.span.start
    let stop ← locate text .stop edit.span.stop
    return ⟨start, stop, edit⟩

end Edit

namespace PlacedEdit

def precedes (first second : PlacedEdit) : Bool :=
  first.start < second.start || first.start == second.start && first.stop ≤ second.stop

/-- For `first` sorted before `second`: they overlap, or start at one place. -/
def clashes (first second : PlacedEdit) : Bool :=
  second.start < first.stop || second.start == first.start

/-- The first neighbours in a sorted batch that cannot both be made. -/
def firstClash? : List PlacedEdit → Option (PlacedEdit × PlacedEdit)
  | first :: second :: rest =>
    if clashes first second then some (first, second) else firstClash? (second :: rest)
  | _ => none

/-- Whether a deletion over several lines leaves its merged line empty, where `written` is the
result up to it and `next` is where the edit after it starts. -/
def emptiesLine (text written : Text) (item : PlacedEdit) (next : Option Nat) : Bool :=
  item.edit.isMultiline && item.edit.replacement.isEmpty && next != some item.stop &&
    (text[item.stop]? == none || text[item.stop]? == some feed) && Text.endsEmpty written

/-- Writes the text from `cursor` on with the edits made, after what is already written. The feed
of an emptied line is the one after the deletion, or, at the end of the text, the one before. -/
def splice (text : Text) (cursor : Nat) (written : Text) : List PlacedEdit → Text
  | [] => written ++ text.drop cursor
  | item :: rest =>
    let written := written ++ text.slice cursor item.start ++ item.edit.replacement
    if emptiesLine text written item (rest.head?.map start) then
      if item.stop < text.length then splice text (item.stop + 1) written rest
      else splice text item.stop written.dropFinalFeed rest
    else splice text item.stop written rest

end PlacedEdit

namespace Edit

/-- The edits of a batch in the order of their places in the text. -/
def placeAll (text : Text) (edits : List Edit) : Except EditError (List PlacedEdit) := do
  let placed ← edits.mapM (place text)
  let sorted := placed.mergeSort PlacedEdit.precedes
  match PlacedEdit.firstClash? sorted with
  | some (first, second) => .error (.overlap first.edit.span second.edit.span)
  | none => .ok sorted

def applyAll (text : Text) (edits : List Edit) : Except EditError Text := do
  let placed ← placeAll text edits
  return PlacedEdit.splice text 0 [] placed

/-- What a successful batch notes; an empty one notes nothing. -/
def appliedLog (edits : List Edit) : List LogRecord :=
  if edits.isEmpty then [] else [.debug s!"[PatchApplier] Applied {edits.length} edit(s)"]

@[simp] theorem applyAll_nil (text : Text) : applyAll text [] = .ok text := by
  simp [applyAll, placeAll, PlacedEdit.firstClash?, PlacedEdit.splice, pure, Except.pure, bind,
    Except.bind]

end Edit

end CellWeave
