import RasterAlgebra.Proofs.ArrayFile.Encoding
import RasterAlgebra.Proofs.FileSource.Serving
import RasterAlgebra.Proofs.Grid.Gather

/-!
# Grids do not depend on how arrays are stored

The grid of a band is that of the matrix in its file (`matrixGrid`): one cell for each element, with the number
of the element rounded once. Neither the version of the file nor the order of its elements counts
(`source_of_stores`). The order of the bytes does in one case: elements of two bytes with the most significant
byte first have no cell type of their own, and their grid is one of real numbers.
-/

namespace RasterAlgebra

open ArrayFile
open ArrayFile.ElementType (Kind)

/-- The cell type that belongs to a kind of elements. -/
def cellTypeOf : Kind → CellType
  | .truth => .boolean
  | .unsigned 1 => .uint8
  | .signed 2 => .int16
  | .unsigned 2 => .uint16
  | _ => .float32

/-- The kinds whose cell type is lost if the most significant byte comes first. -/
def isWordKind (kind : Kind) : Bool := kind == .signed 2 || kind == .unsigned 2

theorem cellType_ofKind {kind : Kind} (hkind : kind ∈ sampleKinds) (bigEndian : Bool) :
    (ElementType.ofKind kind bigEndian).cellType =
      if bigEndian && isWordKind kind then .float32 else cellTypeOf kind := by
  revert bigEndian
  revert kind
  decide

theorem isSample_ofKind {kind : Kind} (hkind : kind ∈ sampleKinds) (bigEndian : Bool) :
    (ElementType.ofKind kind bigEndian).isSample := by
  revert bigEndian
  revert kind
  decide

namespace FileSource

variable {s : FileSource} {files : FileReader} {band : String} {path : Path} {bytes : List UInt8} {kind : Kind}
  {height width : ℕ}

/-- The grid of a matrix of elements. -/
def matrixGrid (s : FileSource) (cellType : CellType) (kind : Kind) (m : Matrix (Fin height) (Fin width) ℕ)
    (hheight : 0 < height) (hwidth : 0 < width) : Grid where
  cellType := cellType
  width := width
  height := height
  noData := s.noData
  cells := ((rowMajor m).map (sampleOf kind)).toArray
  width_pos := hwidth
  height_pos := hheight
  size_cells := by rw [List.size_toArray, List.length_map, length_rowMajor, Nat.mul_comm]

theorem cell_matrixGrid (cellType : CellType) (kind : Kind) (m : Matrix (Fin height) (Fin width) ℕ)
    (hheight : 0 < height) (hwidth : 0 < width) (y : Fin height) (x : Fin width) :
    (s.matrixGrid cellType kind m hheight hwidth).cell (x : ℕ) (y : ℕ) = .ok (sampleOf kind (m y x)) := by
  rw [Grid.cell_of_lt _ x.isLt y.isLt]
  simp only [Grid.get, matrixGrid, List.getElem_toArray, List.getElem_map, getElem_rowMajor]

theorem decode_of_stores [Host] {type : ElementType} {m : Matrix (Fin height) (Fin width) ℕ}
    (h : Stores bytes type m) (hsample : type.isSample) (hm : ∀ y x, m y x < 256 ^ type.kind.size)
    (hheight : 0 < height) (hwidth : 0 < width) :
    s.decode band bytes =
      .ok (s.matrixGrid ((s.cellTypes.lookup band).getD type.cellType) type.kind m hheight hwidth) := by
  obtain ⟨file, rest, hfile, htype, hshape, hcontent⟩ := h
  have hdecodes := s.decodes band bytes
  generalize s.decode band bytes = r at hdecodes
  cases hdecodes with
  | damaged h => cases hfile.symm.trans h
  | noSamples h hnone =>
    obtain rfl := Except.ok.inj (hfile.symm.trans h)
    rw [hnone type htype] at hsample
    cases hsample
  | noMatrix h hnone =>
    obtain rfl := Except.ok.inj (hfile.symm.trans h)
    have := hnone height width hshape
    omega
  | grid h htype' _ hshape' =>
    obtain rfl := Except.ok.inj (hfile.symm.trans h)
    obtain rfl := Descriptor.single.inj (htype.symm.trans htype')
    obtain ⟨rfl, rfl⟩ : height = _ ∧ width = _ := by simpa using hshape.symm.trans hshape'
    simp only [matrixGrid, samples_of_stored hm hcontent]

/-- The cell type of a band whose elements are of a kind. -/
def cellTypeFor (s : FileSource) (band : String) (kind : Kind) (bigEndian : Bool) : CellType :=
  (s.cellTypes.lookup band).getD (if bigEndian && isWordKind kind then .float32 else cellTypeOf kind)

/-- The file of a band makes the grid of the matrix that is stored in it. -/
theorem source_of_matrix [Host] (hkind : kind ∈ sampleKinds) {bigEndian : Bool} {m : Matrix (Fin height) (Fin width) ℕ}
    (hm : ∀ y x, m y x < 256 ^ kind.size) (hheight : 0 < height) (hwidth : 0 < width)
    (hpath : s.pathFor band = .ok path) (hfile : files path = .file bytes)
    (hstores : Stores bytes (.ofKind kind bigEndian) m) :
    s.source files band =
      .ok (s.matrixGrid (s.cellTypeFor band kind bigEndian) kind m hheight hwidth) := by
  have hdecode : s.decode band bytes = .ok _ :=
    decode_of_stores hstores (isSample_ofKind hkind bigEndian) hm hheight hwidth
  rw [cellType_ofKind hkind] at hdecode
  refine source_of_ok ?_
  rw [load, hpath]
  simp only [Except.mapError, bind, Except.bind, hfile]
  exact hdecode

end FileSource

/-- A matrix of truth values, whole numbers or real numbers makes one grid: with a cell for each element, which
is the number of the element rounded once, and with the cell type that belongs to the kind of the elements,
unless the band has one of its own. Every file that stores the matrix makes this grid, and there is one in every
layout. Only where elements of two bytes are stored with the most significant byte first, their cell type is
lost. -/
theorem source_of_stores [Host] (s : FileSource) (band : String) {kind : Kind} (hkind : kind ∈ sampleKinds)
    {height width : ℕ} (hheight : 0 < height) (hwidth : 0 < width) (m : Matrix (Fin height) (Fin width) ℕ)
    (hm : ∀ y x, m y x < 256 ^ kind.size) :
    ∃ g : Grid, g.width = width ∧ g.height = height ∧ g.noData = s.noData ∧
      g.cellType = (s.cellTypes.lookup band).getD (cellTypeOf kind) ∧
      (∀ (y : Fin height) (x : Fin width),
        g.cell (x : ℕ) (y : ℕ) = .ok (.ofUnpacked (elementNumber kind (m y x)))) ∧
      (∀ layout bigEndian, height * width * kind.size ≤ Host.arrayRoom →
        Stores (encode layout (.ofKind kind bigEndian) height width (rowMajor m)) (.ofKind kind bigEndian) m) ∧
      ∀ files path bytes bigEndian, s.pathFor band = .ok path → files path = .file bytes →
        Stores bytes (.ofKind kind bigEndian) m →
        s.source files band = .ok (if bigEndian && isWordKind kind && (s.cellTypes.lookup band).isNone then
          { g with cellType := .float32 } else g) := by
  refine ⟨s.matrixGrid ((s.cellTypes.lookup band).getD (cellTypeOf kind)) kind m hheight hwidth, rfl, rfl, rfl, rfl,
    fun y x => ?_, fun layout bigEndian hroom => ?_, fun files path bytes bigEndian hpath hfile hstores => ?_⟩
  · rw [FileSource.cell_matrixGrid, sampleOf_eq_ofUnpacked hkind (hm y x)]
  · exact stores_encode ⟨hkind, hheight, hwidth, hroom⟩ layout bigEndian m
  · rw [FileSource.source_of_matrix hkind hm hheight hwidth hpath hfile hstores, FileSource.cellTypeFor]
    cases s.cellTypes.lookup band with
    | some cellType =>
      simp only [Option.isNone_some, Bool.and_false, Bool.false_eq_true, if_false]
      rfl
    | none =>
      simp only [Option.isNone_none, Bool.and_true]
      split <;> rfl

/-- A source whose files have the names of their bands. -/
def bandFiles : FileSource := ⟨.ofText ".", "\x7bband\x7d.npy", [], 0, []⟩

theorem exists_pathFor_bandFiles : ∃ path, bandFiles.pathFor "B5" = .ok path := by
  have hok : (bandFiles.pathFor "B5").isOk := by decide +kernel
  cases h : bandFiles.pathFor "B5" with
  | ok path => exact ⟨path, rfl⟩
  | error fault =>
    rw [h] at hok
    cases hok

/-- Words of two bytes in all layouts, with the least significant byte first and with the most significant one
first. -/
theorem source_of_stores_words :
    let m : Matrix (Fin 2) (Fin 3) ℕ := fun y x => 256 * y + x
    let files (layout : Layout) (bigEndian : Bool) : FileReader := fun _ =>
      .file (encode layout (.ofKind (.unsigned 2) bigEndian) 2 3 (rowMajor m))
    ∃ g : Grid, g.width = 3 ∧ g.height = 2 ∧ g.cellType = .uint16 ∧
      g.cell 2 1 = .ok (.ofUnpacked (wholeNumber 258)) ∧
      (∀ layout, bandFiles.source (files layout false) "B5" = .ok g) ∧
      ∀ layout, bandFiles.source (files layout true) "B5" = .ok { g with cellType := .float32 } := by
  intro m files
  obtain ⟨path, hpath⟩ := exists_pathFor_bandFiles
  obtain ⟨g, hwidth, hheight, -, hcellType, hcells, hstores, hsource⟩ :=
    source_of_stores bandFiles "B5" (by decide : Kind.unsigned 2 ∈ sampleKinds) (by decide) (by decide) m (by decide)
  refine ⟨g, hwidth, hheight, hcellType, hcells 1 2, fun layout => ?_, fun layout => ?_⟩
  · exact hsource (files layout false) path _ false hpath rfl (hstores layout false (by decide))
  · exact hsource (files layout true) path _ true hpath rfl (hstores layout true (by decide))

/-- One word of two bytes, stored in both orders: the grids differ in their cell types. -/
theorem source_ne_of_byteOrder :
    let m : Matrix (Fin 1) (Fin 1) ℕ := fun _ _ => 7
    let bytes (bigEndian : Bool) := encode ⟨.one, false⟩ (.ofKind (.unsigned 2) bigEndian) 1 1 (rowMajor m)
    (∀ bigEndian, Stores (bytes bigEndian) (.ofKind (.unsigned 2) bigEndian) m) ∧
    ∃ g h : Grid, bandFiles.source (fun _ => .file (bytes false)) "B5" = .ok g ∧ g.cellType = .uint16 ∧
      bandFiles.source (fun _ => .file (bytes true)) "B5" = .ok h ∧ h.cellType = .float32 := by
  intro m bytes
  have hstores (bigEndian : Bool) : Stores (bytes bigEndian) (.ofKind (.unsigned 2) bigEndian) m :=
    stores_encode ⟨by decide, by decide, by decide, by decide⟩ _ bigEndian m
  obtain ⟨path, hpath⟩ := exists_pathFor_bandFiles
  have hsource (bigEndian : Bool) : bandFiles.source (fun _ => .file (bytes bigEndian)) "B5" = .ok _ :=
    FileSource.source_of_matrix (by decide) (by decide) Nat.one_pos Nat.one_pos hpath rfl (hstores bigEndian)
  exact ⟨hstores, _, _, hsource false, rfl, hsource true, rfl⟩

end RasterAlgebra
