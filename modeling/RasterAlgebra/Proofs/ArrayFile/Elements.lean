import Mathlib.Algebra.Group.Nat.Defs
import Mathlib.Data.List.OfFn
import Mathlib.LinearAlgebra.Matrix.Defs
import RasterAlgebra.Proofs.ArrayFile.Pieces

/-!
# Elements that are stored

What is written into an array file for an element is read as the sample of its bits, in either order of the
bytes (`sampleOfBytes_bytesOfElement`). And a matrix is the same one whether it is stored row by row or, as
its transpose, column by column (`samples_of_stored`).
-/

namespace RasterAlgebra.ArrayFile

/-! ## Bytes -/

theorem natOfBytes_bytesOfNat (count n : ℕ) : natOfBytes (bytesOfNat count n) = n % 256 ^ count := by
  induction count generalizing n with
  | zero => rw [bytesOfNat, natOfBytes, Nat.pow_zero, Nat.mod_one]
  | succ count ih =>
    rw [bytesOfNat, natOfBytes, ih, Nat.toUInt8_eq, UInt8.toNat_ofNat']
    show n % 256 + 256 * (n / 256 % 256 ^ count) = n % 256 ^ (count + 1)
    rw [Nat.pow_succ', Nat.mod_mul]

theorem natOfBytes_bytesOfNat_of_lt {count n : ℕ} (h : n < 256 ^ count) :
    natOfBytes (bytesOfNat count n) = n := by
  rw [natOfBytes_bytesOfNat, Nat.mod_eq_of_lt h]

theorem length_bytesOfElement (type : ElementType) (bits : ℕ) :
    (bytesOfElement type bits).length = type.kind.size := by
  rw [bytesOfElement]
  split
  · rw [List.length_reverse, length_bytesOfNat]
  · exact length_bytesOfNat _ _

/-- Both orders of the bytes hold the same element. -/
theorem sampleOfBytes_bytesOfElement {type : ElementType} {bits : ℕ} (h : bits < 256 ^ type.kind.size) :
    sampleOfBytes type (bytesOfElement type bits) = sampleOf type.kind bits := by
  rw [sampleOfBytes, bytesOfElement]
  cases type.bigEndian with
  | true => rw [if_pos rfl, if_pos rfl, List.reverse_reverse, natOfBytes_bytesOfNat_of_lt h]
  | false => rw [if_neg Bool.false_ne_true, if_neg Bool.false_ne_true, natOfBytes_bytesOfNat_of_lt h]

variable {α β : Type}

/-! ## Matrices -/

/-- The elements of a matrix row by row. -/
def rowMajor {height width : ℕ} (m : Matrix (Fin height) (Fin width) α) : List α :=
  (List.ofFn fun y => List.ofFn (m y)).flatten

variable {height width : ℕ}

/-- The place of an element tells its row and its column. -/
theorem divNat_modNat_mk (y : Fin height) (x : Fin width) (h : y * width + x < height * width) :
    Fin.divNat ⟨y * width + x, h⟩ = y ∧ Fin.modNat ⟨y * width + x, h⟩ = x := by
  constructor
  · refine Fin.ext ?_
    show (y * width + x : ℕ) / width = y
    rw [Nat.add_comm, Nat.add_mul_div_right _ _ x.pos, Nat.div_eq_of_lt x.isLt, Nat.zero_add]
  · refine Fin.ext ?_
    show (y * width + x : ℕ) % width = x
    rw [Nat.mul_add_mod', Nat.mod_eq_of_lt x.isLt]

theorem rowMajor_eq_ofFn (m : Matrix (Fin height) (Fin width) α) :
    rowMajor m = List.ofFn fun k : Fin (height * width) => m k.divNat k.modNat := by
  rw [rowMajor, List.ofFn_mul]
  simp only [divNat_modNat_mk]

theorem length_rowMajor (m : Matrix (Fin height) (Fin width) α) : (rowMajor m).length = height * width := by
  rw [rowMajor_eq_ofFn, List.length_ofFn]

theorem forall_mem_rowMajor {p : α → Prop} {m : Matrix (Fin height) (Fin width) α} (h : ∀ y x, p (m y x)) :
    ∀ a ∈ rowMajor m, p a := by
  rw [rowMajor_eq_ofFn, List.forall_mem_ofFn_iff]
  exact fun k => h _ _

theorem map_rowMajor (f : α → β) (m : Matrix (Fin height) (Fin width) α) :
    (rowMajor m).map f = rowMajor (m.map f) := by
  rw [rowMajor_eq_ofFn, rowMajor_eq_ofFn, List.map_ofFn]
  rfl

theorem getElem_rowMajor (m : Matrix (Fin height) (Fin width) α) (y : Fin height) (x : Fin width)
    (h : y * width + x < (rowMajor m).length) : (rowMajor m)[y * width + x] = m y x := by
  simp only [rowMajor_eq_ofFn, List.getElem_ofFn, divNat_modNat_mk]

theorem pieces_rowMajor (m : Matrix (Fin height) (Fin width) α) :
    pieces width height (rowMajor m) = List.ofFn fun y => List.ofFn (m y) := by
  have h := pieces_flatten width (List.ofFn fun y => List.ofFn (m y)) (by simp) []
  rwa [List.length_ofFn, List.append_nil] at h

/-- The columns of a matrix are the rows of its transpose. -/
theorem flatten_transpose_pieces (m : Matrix (Fin height) (Fin width) α) :
    (transpose width (pieces width height (rowMajor m))).flatten = rowMajor m.transpose := by
  rw [pieces_rowMajor, transpose, rowMajor]
  refine congrArg List.flatten (List.ext_getElem (by simp) fun x hx _ => ?_)
  have hx : x < width := by simpa using hx
  have hcell : (fun row : List α => row[x]?) ∘ (fun y => List.ofFn (m y)) = some ∘ fun y => m y ⟨x, hx⟩ := by
    funext y
    rw [Function.comp_apply, List.getElem?_ofFn, dif_pos hx]
    rfl
  have hrows : List.ofFn (fun y => List.ofFn (m y)) = (List.ofFn id).map fun y => List.ofFn (m y) := by
    rw [List.map_ofFn]
    rfl
  rw [List.getElem_map, List.getElem_range, List.getElem_ofFn, hrows, List.filterMap_map, hcell,
    List.filterMap_eq_map, List.map_ofFn]
  rfl

/-! ## Samples -/

/-- What stands behind the elements says nothing. -/
theorem pieces_elements {type : ElementType} {elements : List ℕ}
    (h : ∀ bits ∈ elements, bits < 256 ^ type.kind.size) (rest : List UInt8) :
    (pieces type.kind.size elements.length (elements.flatMap (bytesOfElement type) ++ rest)).map
      (sampleOfBytes type) = elements.map (sampleOf type.kind) := by
  have hpieces := pieces_flatten type.kind.size (elements.map (bytesOfElement type))
    (by simp [length_bytesOfElement]) rest
  rw [List.length_map] at hpieces
  rw [List.flatMap_def, hpieces, List.map_map]
  exact List.map_congr_left fun bits hbits => sampleOfBytes_bytesOfElement (h bits hbits)

/-- The samples of a matrix do not depend on the order in which its elements are stored. -/
theorem samples_of_stored {file : ArrayFile} {type : ElementType} {m : Matrix (Fin height) (Fin width) ℕ}
    (hm : ∀ y x, m y x < 256 ^ type.kind.size) {rest : List UInt8}
    (hcontent : file.content =
      (if file.columnOrder then rowMajor m.transpose else rowMajor m).flatMap (bytesOfElement type) ++ rest) :
    file.samples type height width = (rowMajor m).map (sampleOf type.kind) := by
  rw [samples, hcontent]
  cases file.columnOrder with
  | false =>
    have h := pieces_elements (forall_mem_rowMajor hm) rest
    rw [length_rowMajor] at h
    exact h
  | true =>
    -- the samples stand column by column, and are transposed once they are read
    have h := pieces_elements (forall_mem_rowMajor fun x y => hm y x : ∀ bits ∈ rowMajor m.transpose, _) rest
    rw [length_rowMajor, Nat.mul_comm] at h
    simp only [if_true]
    rw [h, map_rowMajor, map_rowMajor]
    exact flatten_transpose_pieces (m.transpose.map (sampleOf type.kind))

end RasterAlgebra.ArrayFile
