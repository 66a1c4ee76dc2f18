import CellWeave.Workspace.Request
import CellWeave.Board.Request
import CellWeave.Session.Request
import CellWeave.Session.Start
import CellWeave.Proofs.CellEdits
import CellWeave.Proofs.Closed
import CellWeave.Proofs.Shown
import CellWeave.Proofs.Stale
import CellWeave.Proofs.Distinct
import CellWeave.Proofs.Reading
import CellWeave.Proofs.History
import CellWeave.Proofs.Versions
import CellWeave.Proofs.InPlace
import CellWeave.Proofs.Collapse
import CellWeave.Proofs.Touched
import CellWeave.Proofs.Incarnation
import CellWeave.Proofs.View
import CellWeave.Proofs.Counterparts
import CellWeave.Proofs.Separate
import CellWeave.Proofs.Exact
import CellWeave.Proofs.Reordered
import CellWeave.Proofs.InTurn
import CellWeave.Proofs.LinePairs
import CellWeave.Proofs.Excerpt
import CellWeave.Proofs.Order
import CellWeave.Proofs.Cleared
import CellWeave.Proofs.Undone
import CellWeave.Proofs.Moved
import CellWeave.Proofs.Omitted
import CellWeave.Proofs.Projected
import CellWeave.Proofs.LineTable
import CellWeave.Proofs.WrittenOnce
import CellWeave.Proofs.OneLine
import CellWeave.Proofs.Fallback
