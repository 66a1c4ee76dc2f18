import CellWeave.TextFile
import CellWeave.Value
/-!
# Readers of documents

A settings file is a document, and whoever reads documents stands behind an interface here. A reader
takes the text of a file piece by piece. As the file has one document only, the reader cannot give
its value before it has come to the end; but it may refuse what it has read up to there.
-/

namespace CellWeave

/-- Why a reader gives no value: it refuses the text as no document, or it fails in a way of its
own. -/
inductive ReadFault (φ : Type) where
  | refused
  | raised (fault : φ)
  deriving DecidableEq

/-- Why a file gives no value: its reader fails, or bytes that are no text are met. -/
inductive DocumentFault (φ : Type) where
  | reader (fault : ReadFault φ)
  | undecodable (fault : Utf8.DecodeFault)
  deriving DecidableEq

structure DocumentReader (φ : Type) where
  pieceSize : Nat
  pieceSize_pos : 0 < pieceSize
  /-- How the reader fails on text that may go on after this. -/
  faultWithin? (text : Chars) : Option (ReadFault φ)
  /-- What the reader gives for text that ends. -/
  read (text : Chars) : Except (ReadFault φ) Value

namespace DocumentReader

variable {φ : Type}

/-- Reads on after some text. -/
def readPieces (reader : DocumentReader φ) (fault : Option Utf8.DecodeFault) (before : Chars) :
    List Chars → Except (DocumentFault φ) Value
  | [] =>
    match fault with
    | none => (reader.read before).mapError .reader
    | some fault => .error (.undecodable fault)
  | piece :: rest =>
    match reader.faultWithin? (before ++ piece) with
    | none => readPieces reader fault (before ++ piece) rest
    | some fault => .error (.reader fault)

/-- The value of the document in a file. -/
def readBytes (reader : DocumentReader φ) (bytes : List UInt8) : Except (DocumentFault φ) Value :=
  let (pieces, fault) := TextFile.pieces reader.pieceSize bytes
  reader.readPieces fault [] pieces

end DocumentReader

end CellWeave
