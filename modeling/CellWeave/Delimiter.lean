import CellWeave.Text.Quoted
/-!
# Delimiters

The line that stands between two cells of a virtual document. It is a single line with its feed;
anything else would move the lines after it.
-/

namespace CellWeave

structure Delimiter where
  line : Text
  line_unbroken : feed ∉ line
  deriving DecidableEq

namespace Delimiter

def text (delimiter : Delimiter) : Text :=
  delimiter.line ++ [feed]

/-- Succeeds on exactly the texts with one feed, at the end. -/
def ofText? (text : Text) : Option Delimiter :=
  if h : text.getLast? = some feed ∧ feed ∉ text.dropLast then some ⟨text.dropLast, h.2⟩
  else none

def default : Delimiter :=
  ⟨.ofString "#NOTEBOOK_CELL_DELIMITER", by decide⟩

def misfitMessage (text : Text) : String :=
  "Cell delimiter must be a single line ending with a newline, got " ++
    String.ofList text.quoted

theorem ofText?_text (delimiter : Delimiter) : ofText? delimiter.text = some delimiter := by
  have h : delimiter.text.getLast? = some feed ∧ feed ∉ delimiter.text.dropLast := by
    simp [text, delimiter.line_unbroken]
  simp only [ofText?, dif_pos h]
  congr 1
  simp [text]

theorem text_of_ofText? {text : Text} {delimiter : Delimiter}
    (h : ofText? text = some delimiter) : delimiter.text = text := by
  unfold ofText? at h
  split at h
  · next hlast =>
    obtain rfl := Option.some.inj h
    obtain ⟨line, rfl⟩ := List.getLast?_eq_some_iff.1 hlast.1
    simp [Delimiter.text]
  · simp at h

end Delimiter

end CellWeave
