import RasterAlgebra.Text.Folding
/-!
# Cell types

The sample type that a grid declares. Whatever it declares, its samples are stored as binary32
numbers; the type decides which operations accept the grid.
-/

namespace RasterAlgebra

/-- What the samples of a grid stand for. -/
inductive CellType where
  | boolean
  | uint8
  | int16
  | uint16
  | float32
  deriving DecidableEq, Repr

namespace CellType

/-- The name of a cell type. -/
def name : CellType → String
  | boolean => "Boolean"
  | uint8 => "UInt8"
  | int16 => "Int16"
  | uint16 => "UInt16"
  | float32 => "Float32"

/-- All cell types. -/
def all : List CellType := [boolean, uint8, int16, uint16, float32]

/-- The cell type of a name, in any letter case. -/
def ofName? (name : String) : Option CellType :=
  all.find? fun cellType => Text.foldToAscii name == Text.foldToAscii cellType.name

/-- Whether samples can be read as 16-bit words. Signed and unsigned words share their bits, so both
are tested as residues modulo `2 ^ 16`. -/
def isWord : CellType → Bool
  | int16 | uint16 => true
  | _ => false

end CellType

end RasterAlgebra
