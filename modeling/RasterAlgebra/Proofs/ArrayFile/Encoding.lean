import RasterAlgebra.Proofs.ArrayFile.Elements
import RasterAlgebra.Proofs.ArrayFile.Headers
import RasterAlgebra.Proofs.Text.Ascii

/-!
# Arrays that are written and read again

A file stores a matrix if its header tells the type and the lengths, and its elements are those of the matrix,
row by row or column by column (`Stores`). Every matrix that is written in one of the layouts is stored in the
file (`stores_encode`).
-/

namespace RasterAlgebra.ArrayFile

open ElementType (Kind)

variable {height width : ℕ} {kind : Kind}

/-- The bytes are an array file of the matrix `m`. Its elements are of the given type, and stand row by row or
column by column behind whatever header, with whatever behind them. -/
def Stores [Host] (bytes : List UInt8) (type : ElementType) (m : Matrix (Fin height) (Fin width) ℕ) : Prop :=
  ∃ file rest, ofBytes Host.arrayRoom bytes = .ok file ∧ file.descriptor = .single type ∧ file.shape = [height, width] ∧
    file.content =
      (if file.columnOrder then rowMajor m.transpose else rowMajor m).flatMap (bytesOfElement type) ++ rest

/-! ## What is checked behind a header -/

theorem elementCount_eq [Host] (h : HasRoom kind height width) (d : Descriptor) (columnOrder : Bool) :
    Header.elementCount ⟨d, columnOrder, writtenLengths height width⟩ = .ok ((height * width : ℕ) : ℤ) := by
  have hheight := h.height_le
  have hwidth := h.width_le
  have hcount := h.count_le
  have hvalues : wordValues = 2 ^ 64 := rfl
  have hword : maxWord = 2 ^ 63 - 1 := rfl
  have hproduct : (writtenLengths height width).foldl (fun product l => product * l.value) 1 =
      ((height * width : ℕ) : ℤ) := by
    simp [writtenLengths]
  -- the product is taken modulo the words' values, but here it is small
  rw [Header.elementCount, if_pos, hproduct, Int.bmod_eq_of_le (by omega) (by omega)]
  simp only [writtenLengths, List.all_cons, List.all_nil, Bool.and_true, Bool.and_eq_true, decide_eq_true_eq]
  omega

theorem hasObjects_eq_false (hkind : kind ∈ sampleKinds) (bigEndian : Bool) :
    (Descriptor.single (.ofKind kind bigEndian)).hasObjects = false := by
  rw [Descriptor.hasObjects, beq_eq_false_iff_ne]
  rintro rfl
  exact absurd hkind (by decide)

theorem checkContent_eq [Host] (h : HasRoom kind height width) (bigEndian : Bool) {content : List UInt8}
    (hcontent : height * width * kind.size ≤ content.length) :
    checkContent Host.arrayRoom (.single (.ofKind kind bigEndian)) (height * width : ℕ) content = .ok () := by
  have hroom := h.le_arrayRoom
  have hword := h.size_le
  have hsize : (Descriptor.single (ElementType.ofKind kind bigEndian)).size = kind.size := rfl
  have hitems : (Descriptor.single (ElementType.ofKind kind bigEndian)).itemCount = 1 := rfl
  simp only [checkContent, Int.toNat_natCast, hsize, hitems, Nat.mul_one]
  rw [if_neg (by omega), if_neg (by omega), if_neg (by omega), if_neg (by omega), if_neg (by omega)]
  rfl

theorem check_eq {n : ℕ} (h : n ≤ maxWord) : WrittenLength.check ⟨n, false⟩ = .ok () := by
  rw [WrittenLength.check, if_neg Bool.false_ne_true, if_neg]
  show ¬ (maxWord : ℤ) < n
  omega

theorem forM_check_eq {lengths : List WrittenLength} (h : ∀ l ∈ lengths, l.check = .ok ()) :
    lengths.forM WrittenLength.check = .ok () := by
  induction lengths with
  | nil => rfl
  | cons l lengths ih =>
    obtain ⟨hl, hlengths⟩ := List.forall_mem_cons.mp h
    show (l.check >>= fun _ => lengths.forM WrittenLength.check) = _
    rw [hl, ih hlengths]
    rfl

theorem shape_eq [Host] (h : HasRoom kind height width) (columnOrder bigEndian : Bool) :
    Header.shape ⟨.single (.ofKind kind bigEndian), columnOrder, writtenLengths height width⟩ (height * width) =
      .ok [height, width] := by
  have hchecks : (if columnOrder then (writtenLengths height width).reverse
      else writtenLengths height width).forM WrittenLength.check = .ok () := by
    refine forM_check_eq fun l hl => ?_
    have hmem : l = ⟨height, false⟩ ∨ l = ⟨width, false⟩ := by
      cases columnOrder <;> simpa [writtenLengths, or_comm] using hl
    rcases hmem with rfl | rfl
    · exact check_eq h.height_le
    · exact check_eq h.width_le
  have hlength : ¬ 64 < (writtenLengths height width).length := by
    simp [writtenLengths]
  have hpositive : (writtenLengths height width).any (·.value < 0) = false := by
    simp [writtenLengths]
  have hshape : (writtenLengths height width).map (·.value.toNat) = [height, width] := rfl
  have hcount : Descriptor.count [height, width] = height * width := by
    simp [Descriptor.count]
  have hfilter : [height, width].filter (· ≠ 0) = [height, width] := by
    simp [h.height_pos.ne', h.width_pos.ne']
  have hsize : max (Descriptor.single (ElementType.ofKind kind bigEndian)).core.size 1 = kind.size :=
    Nat.max_eq_left (size_pos_of_mem h.kind_mem)
  have hroom : ¬ maxWord < height * width * kind.size := Nat.not_lt.mpr h.size_le
  unfold Header.shape
  simp only [hchecks, hpositive, hshape, hcount, hfilter, hsize, if_neg hlength, if_neg hroom, ne_eq,
    not_true_eq_false, Bool.false_eq_true, ↓reduceIte]
  rfl

/-! ## Files -/

/-- In every version, the characters of an ASCII header are read from its bytes. -/
theorem headerText?_toUTF8 (version : Version) {s : String} (hs : ∀ c ∈ s.toList, c.toNat < 0x80) :
    headerText? version s.toUTF8.toList = some s.toList := by
  rw [headerText?]
  split
  · rw [Text.fromUTF8?_toUTF8, Option.map_some]
  · rw [Text.map_ofNat_toUTF8 hs]

/-- A header with its length in front of it and the elements behind it. -/
theorem ofContent_eq {room : ℕ} {version : Version} {text content : List UInt8} {chars : List Char} {header : Header}
    {count : ℤ} {shape : List ℕ} (hlength : text.length < 256 ^ version.lengthSize)
    (hchars : headerText? version text = some chars) (hheader : Header.ofText version chars = .ok header)
    (hcount : header.elementCount = .ok count) (hobjects : header.descriptor.hasObjects = false)
    (hcontent : checkContent room header.descriptor count content = .ok ())
    (hshape : header.shape count.toNat = .ok shape) :
    ofContent room version (bytesOfNat version.lengthSize text.length ++ text ++ content) =
      .ok ⟨header.descriptor.core, header.columnOrder, shape, content⟩ := by
  have hsize : (bytesOfNat version.lengthSize text.length).length = version.lengthSize := length_bytesOfNat _ _
  have hnumber : natOfBytes (bytesOfNat version.lengthSize text.length) = text.length :=
    natOfBytes_bytesOfNat_of_lt hlength
  have hlong : ¬ (bytesOfNat version.lengthSize text.length ++ (text ++ content)).length <
      version.lengthSize := by
    rw [List.length_append, hsize]
    omega
  have hrest : ¬ (text ++ content).length < text.length := by
    rw [List.length_append]
    omega
  rw [List.append_assoc]
  unfold ofContent
  simp only [if_neg hlong, List.take_left' hsize, List.drop_left' hsize, hnumber, if_neg hrest,
    List.take_left' rfl, List.drop_left' rfl, hchars, hheader, Except.mapError, bind, Except.bind, hcount,
    hobjects, hcontent, hshape, Bool.false_eq_true, ↓reduceIte]
  rfl

theorem ofContent_header [Host] (h : HasRoom kind height width) (layout : Layout) (bigEndian : Bool)
    {content : List UInt8} (hcontent : height * width * kind.size ≤ content.length) :
    let header := headerOf layout (.ofKind kind bigEndian) height width
    let text := (header ++ padding layout height width header).toUTF8.toList
    ofContent Host.arrayRoom layout.version (bytesOfNat layout.version.lengthSize text.length ++ text ++ content) =
      .ok ⟨.single (.ofKind kind bigEndian), layout.columnOrder, [height, width], content⟩ := by
  intro header text
  obtain ⟨blanks, hblanks, htext⟩ := toList_header layout (.ofKind kind bigEndian) height width
  have hcode := readsCode h.kind_mem bigEndian
  have hascii : ∀ c ∈ (header ++ padding layout height width header).toList, c.toNat < 0x80 := by
    rw [htext]
    exact fun c hc => toNat_lt_of_isHeaderChar
      (List.all_eq_true.mp (all_header layout.columnOrder hcode.chars height width blanks) c hc)
  have hlength : text.length ≤ 220 := by
    show (String.toUTF8 _).toList.length ≤ 220
    rw [Text.toUTF8_of_ascii hascii, List.length_map, htext]
    exact length_header_le h layout.columnOrder hcode.length_le hblanks
  have hsize : 220 < 256 ^ layout.version.lengthSize := by
    cases layout.version <;> decide
  have hheader := ofText_header h layout.version layout.columnOrder bigEndian hblanks
  rw [← htext] at hheader
  exact ofContent_eq (hlength.trans_lt hsize) (headerText?_toUTF8 layout.version hascii) hheader
    (elementCount_eq h _ _) (hasObjects_eq_false h.kind_mem bigEndian) (checkContent_eq h bigEndian hcontent)
    (shape_eq h _ _)

theorem ofBytes_mark (room : ℕ) (version : Version) (rest : List UInt8) :
    ofBytes room (mark ++ [version.number.toUInt8, 0] ++ rest) = ofContent room version rest := by
  cases version <;> rfl

theorem length_elements (type : ElementType) (elements : List ℕ) :
    (elements.flatMap (bytesOfElement type)).length = elements.length * type.kind.size := by
  simp only [List.length_flatMap, length_bytesOfElement, List.map_const', List.sum_replicate, smul_eq_mul]

/-- A matrix can be read from the file into which it was written, in whatever layout. -/
theorem stores_encode [Host] (h : HasRoom kind height width) (layout : Layout) (bigEndian : Bool)
    (m : Matrix (Fin height) (Fin width) ℕ) :
    Stores (encode layout (.ofKind kind bigEndian) height width (rowMajor m)) (.ofKind kind bigEndian) m := by
  let stored := if layout.columnOrder then rowMajor m.transpose else rowMajor m
  let content := stored.flatMap (bytesOfElement (.ofKind kind bigEndian))
  have hstored : stored.length = height * width := by
    show (if layout.columnOrder then rowMajor m.transpose else rowMajor m).length = _
    split
    · rw [length_rowMajor, Nat.mul_comm]
    · exact length_rowMajor m
  have hcontent : height * width * kind.size ≤ content.length := by
    rw [length_elements, hstored]
    exact Nat.le_refl _
  refine ⟨⟨.single (.ofKind kind bigEndian), layout.columnOrder, [height, width], content⟩, [], ?_, rfl, rfl, ?_⟩
  · -- the columns are written as the rows of the transpose
    have hfile := (ofBytes_mark _ layout.version _).trans (ofContent_header h layout bigEndian hcontent)
    rw [encode, flatten_transpose_pieces]
    simpa only [List.append_assoc] using hfile
  · exact (List.append_nil content).symm

end RasterAlgebra.ArrayFile
