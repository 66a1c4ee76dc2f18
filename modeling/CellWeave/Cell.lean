import CellWeave.Text
/-!
# Cells

A cell is one independently edited unit of a notebook. Its version is the editor's, not the
notebook's.
-/

namespace CellWeave

structure Cell where
  uri : String
  text : Text := []
  version : Int := 0
  deriving DecidableEq

end CellWeave
