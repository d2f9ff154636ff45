import RasterAlgebra.FileTree
import RasterAlgebra.Proofs.FileSource.Layouts
import RasterAlgebra.Proofs.Grid.Rows

/-!
# Grids in files of their own

A grid that is saved is a matrix of bits in a file (`arrayFile_eq`), and a source that finds the file makes the
same grid of it (`source_of_stores_bits`): with the same extents and the same samples, and as one of real numbers,
since that is what the file says.

`FileTree.put` is how a tree changes where a file is saved. Paths lead to where they led before (`place_put`), and
only the file at that place is another one.
-/

namespace RasterAlgebra

open ArrayFile

/-! ## Trees -/

namespace FileTree

variable {t : FileTree} {bytes : List UInt8} {here place target : List String} {p : Path}

/-- A tree with a file at a place. It counts, as the first one there. -/
def put (t : FileTree) (place : List String) (bytes : List UInt8) : FileTree :=
  { t with files := (place, bytes) :: t.files }

theorem lookup_put (t : FileTree) (place : List String) (bytes : List UInt8) :
    (t.put place bytes).files.lookup place = some bytes :=
  List.lookup_cons_self

theorem lookup_put_of_ne {other : List String} (h : other ≠ place) :
    (t.put place bytes).files.lookup other = t.files.lookup other := by
  have hne : (other == place) = false := beq_eq_false_iff_ne.mpr h
  rw [put, List.lookup_cons, hne]

/-- Directories stay directories. -/
theorem isDirectory_put (h : t.isDirectory here) : (t.put place bytes).isDirectory here := by
  unfold isDirectory at h ⊢
  rw [put, List.any_cons]
  rw [Bool.or_eq_true] at h ⊢
  exact h.imp_right fun hany => by rw [hany, Bool.or_true]

/-- Where names lead, every name on the way stands behind a directory. -/
theorem follow_cons_eq_ok {name : String} {rest : List String} :
    t.follow here (name :: rest) = .ok target ↔ t.isDirectory here ∧
      (name = ".." ∧ t.follow here.dropLast rest = .ok target ∨
        name ≠ ".." ∧ isLongName name = false ∧ t.follow (here ++ [name]) rest = .ok target) := by
  rw [follow]
  cases hdirectory : t.isDirectory here with
  | false => simp
  | true =>
    by_cases hname : name = ".."
    · simp [hname]
    · cases isLongName name <;> simp [hname]

/-- Names lead to where they led before. -/
theorem follow_put {names : List String} (h : t.follow here names = .ok target) :
    (t.put place bytes).follow here names = .ok target := by
  induction names generalizing here with
  | nil => exact h
  | cons name rest ih =>
    obtain ⟨hdirectory, hsteps⟩ := follow_cons_eq_ok.mp h
    refine follow_cons_eq_ok.mpr ⟨isDirectory_put hdirectory, ?_⟩
    rcases hsteps with ⟨hname, hrest⟩ | ⟨hname, hlong, hrest⟩
    · exact .inl ⟨hname, ih hrest⟩
    · exact .inr ⟨hname, hlong, ih hrest⟩

/-- Behind the last name stands nothing else. -/
theorem exists_of_follow {names : List String} {name : String} (hname : name ≠ "..")
    (h : t.follow here (names ++ [name]) = .ok target) : ∃ directory, target = directory ++ [name] := by
  induction names generalizing here with
  | nil =>
    obtain ⟨-, ⟨hdots, -⟩ | ⟨-, -, hrest⟩⟩ := follow_cons_eq_ok.mp h
    · exact absurd hdots hname
    · exact ⟨here, (Except.ok.inj hrest).symm⟩
  | cons first names ih =>
    obtain ⟨-, ⟨-, hrest⟩ | ⟨-, -, hrest⟩⟩ := follow_cons_eq_ok.mp h
    · exact ih hrest
    · exact ih hrest

/-- A path leads from the root, or from the directory where one is. -/
theorem place_eq_ok : t.place p = .ok target ↔
    p.text.utf8ByteSize ≤ maxPathSize ∧
      t.follow (if p.root = "" then t.here else []) p.names = .ok target := by
  rw [FileTree.place, ← Nat.not_lt]
  split <;> simp [*]

theorem place_put (h : t.place p = .ok target) : (t.put place bytes).place p = .ok target := by
  obtain ⟨hsize, hfollow⟩ := place_eq_ok.mp h
  exact place_eq_ok.mpr ⟨hsize, follow_put hfollow⟩

/-- A file is found at every path that leads to it. -/
theorem find_put (h : (t.put place bytes).place p = .ok place) : (t.put place bytes).find p = .file bytes := by
  unfold find
  rw [h]
  simp only [lookup_put]

theorem place_of_destination (h : t.destination p = .ok place) : t.place p = .ok place := by
  unfold destination at h
  cases hplace : t.place p with
  | error e =>
    rw [hplace] at h
    cases h
  | ok target =>
    rw [hplace] at h
    simp only [bind, Except.bind] at h
    split at h
    · cases h
    · exact h

end FileTree

/-! ## Grids -/

/-- A sample is the real number that its bits write. -/
theorem sampleOf_toBits (c : Sample) : sampleOf (.real 4) c.toBits.toNat = c := by
  show Float32.ofBits c.toBits.toNat.toUInt32 = c
  rw [Nat.toUInt32_eq, UInt32.ofNat_toNat]
  exact c.ofModel_pack_unpack

namespace Grid

/-- The type of the elements in the file of a grid. -/
abbrev elementType : ElementType := .ofKind (.real 4) false

/-- The bits of the samples, in the row and the column of their cell. -/
def bits (g : Grid) : Matrix (Fin g.height) (Fin g.width) ℕ := fun y x =>
  (g.get x y x.isLt y.isLt).toBits.toNat

theorem bits_lt (g : Grid) (y : Fin g.height) (x : Fin g.width) : g.bits y x < 256 ^ 4 :=
  UInt32.toNat_lt _

theorem cell_eq_bits (g : Grid) (y : Fin g.height) (x : Fin g.width) :
    g.cell (x : ℕ) (y : ℕ) = .ok (sampleOf (.real 4) (g.bits y x)) := by
  rw [g.cell_of_lt x.isLt y.isLt, bits, sampleOf_toBits]

/-- The samples row after row are the bits row after row. -/
theorem rowMajor_bits (g : Grid) : rowMajor g.bits = g.cells.toList.map fun c => c.toBits.toNat := by
  have hlength : (rowMajor g.bits).length = (g.cells.toList.map fun c => c.toBits.toNat).length := by
    rw [length_rowMajor, List.length_map, length_toList_cells, Nat.mul_comm]
  refine List.ext_getElem hlength fun i hi hi' => ?_
  simp only [rowMajor_eq_ofFn, List.getElem_ofFn, bits, get, Fin.divNat, Fin.modNat, List.getElem_map,
    Array.getElem_toList, Nat.div_add_mod']

/-- The file of a grid holds the bits of its samples, though its rows are scalars on the way. -/
theorem arrayFile_eq (g : Grid) :
    g.arrayFile = encode ⟨.one, false⟩ elementType g.height g.width (rowMajor g.bits) := by
  have hsamples : (fun x => (Sample.ofScalar x).toBits.toNat) ∘ Sample.toScalar =
      fun c : Sample => c.toBits.toNat := by
    funext c
    rw [Function.comp_apply, Sample.ofScalar_toScalar]
  have hscalars : ((g.rows.map (·.map Sample.toScalar)).flatten.map fun x => (Sample.ofScalar x).toBits.toNat) =
      rowMajor g.bits := by
    rw [← List.map_flatten, flatten_rows, List.map_map, hsamples, rowMajor_bits]
  rw [arrayFile, hscalars]
  rfl

end Grid

/-- A file with the bits of a grid makes the grid again, as one of real numbers. -/
theorem FileSource.source_of_stores_bits [Host] {s : FileSource} {files : FileReader} {band : String} {path : Path}
    {bytes : List UInt8} {g : Grid} (htypes : s.cellTypes.lookup band = none) (hpath : s.pathFor band = .ok path)
    (hfile : files path = .file bytes) (hstores : Stores bytes Grid.elementType g.bits) :
    s.source files band = .ok { g with cellType := .float32, noData := s.noData } := by
  rw [source_of_matrix (by decide) g.bits_lt g.height_pos g.width_pos hpath hfile hstores, cellTypeFor, htypes]
  refine congrArg Except.ok (Grid.eq_of_cells rfl ⟨rfl, rfl⟩ rfl ?_)
  have hsamples : sampleOf (.real 4) ∘ (fun c : Sample => c.toBits.toNat) = id := funext sampleOf_toBits
  show ((rowMajor g.bits).map (sampleOf (.real 4))).toArray = g.cells
  rw [g.rowMajor_bits, List.map_map, hsamples, List.map_id]

end RasterAlgebra
