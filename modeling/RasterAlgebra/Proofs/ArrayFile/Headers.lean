import RasterAlgebra.ArrayFile
import RasterAlgebra.Host
import RasterAlgebra.Proofs.ArrayFile.Numbers
import RasterAlgebra.Proofs.Literal.Lexemes

/-!
# Headers that are written

The header of a matrix of samples is read again as it was written: the type of the elements, their order and
the lengths (`ofText_header`), whatever the version of the file.

* `toList_header`: the text of a header, with blanks behind it.
* `lexemes?_header`, `value_header`: the text is cut into its lexemes, and these are a dictionary.
* `ReadsCode`: what is known of the codes of the kinds.
* `HasRoom`: the matrices that are written. Their lengths fit into words, so that they have nineteen digits at
  most and their headers stay short.
-/

namespace RasterAlgebra.ArrayFile

open ElementType (Kind)
open Literal (Cuts Ends Lexeme Spells isPlain)

variable {rest : List Char} {ls : List Lexeme} {depth height width blanks : ℕ} {code : String} {kind : Kind}

/-! ## Texts -/

/-- The code points of a text. -/
def codes (s : String) : List ℕ := s.toList.map Char.toNat

/-- A text between single quotes. -/
def quoted (s : String) : List Char := '\'' :: s.toList ++ ['\'']

/-- The text of a header, with blanks and the end of the line behind it. -/
def headerText (columnOrder : Bool) (code : String) (height width blanks : ℕ) : List Char :=
  let comma (rest : List Char) := ',' :: ' ' :: rest
  let key (key : String) (rest : List Char) := quoted key ++ ':' :: ' ' :: rest
  let behind := ['\x7d'] ++ (List.replicate blanks ' ' ++ ['\n'])
  let lengths := Nat.toDigits 10 height ++ comma (Nat.toDigits 10 width ++ ([')'] ++ comma behind))
  let order := (if columnOrder then "True" else "False").toList ++ comma (key "shape" (['('] ++ lengths))
  ['\x7b'] ++ key "descr" (quoted code ++ comma (key "fortran_order" order))

/-- The padding is blanks and the end of the line. -/
theorem toList_padding (layout : Layout) (height width : ℕ) (header : String) :
    ∃ blanks ≤ 85, (padding layout height width header).toList = List.replicate blanks ' ' ++ ['\n'] :=
  ⟨_, by omega, String.toList_ofList⟩

/-- A header with its padding, character by character. -/
theorem toList_header (layout : Layout) (type : ElementType) (height width : ℕ) :
    ∃ blanks ≤ 85, (headerOf layout type height width ++
        padding layout height width (headerOf layout type height width)).toList =
      headerText layout.columnOrder type.code height width blanks := by
  obtain ⟨blanks, hblanks, hpadding⟩ :=
    toList_padding layout height width (headerOf layout type height width)
  have hheader : headerOf layout type height width =
      "\x7b'descr': " ++ "'" ++ type.code ++ "', 'fortran_order': " ++
        (if layout.columnOrder then "True" else "False") ++ ", 'shape': " ++
        ("(" ++ (height.repr ++ ", " ++ width.repr) ++ ")") ++ ", \x7d" := rfl
  refine ⟨blanks, hblanks, ?_⟩
  rw [String.toList_append, hpadding]
  simp only [hheader, headerText, quoted, String.toList_append, Nat.toList_repr, List.append_assoc,
    List.cons_append]
  rfl

/-! ## Lexemes -/

/-- A character that neither goes on a word nor a number ends it. -/
theorem ends_cons {c : Char} (hword : Literal.isWordChar c = false) (hpoint : c ≠ '.') (rest : List Char) :
    Ends (c :: rest) := by
  intro d hd
  obtain rfl := Option.some.inj hd
  exact ⟨hword, hpoint⟩

/-- A comma and a blank between two entries. -/
theorem cuts_comma (h : Cuts depth rest ls) : Cuts depth (',' :: ' ' :: rest) (.mark ',' :: ls) :=
  .lexeme (Literal.spells_mark (by decide) _) rfl (.blank h)

/-- A key, with its colon and a blank. -/
theorem cuts_key {key : String} (hkey : key.toList.all isPlain) (hne : key.toList ≠ [])
    (h : Cuts depth rest ls) :
    Cuts depth (quoted key ++ ':' :: ' ' :: rest) (.quotation (.text (codes key)) :: .mark ':' :: ls) := by
  refine .lexeme (Literal.spells_quotation (List.all_eq_true.mp hkey) hne _) rfl ?_
  exact .lexeme (Literal.spells_mark (by decide) _) rfl (.blank h)

/-- The padding is one end of a line. -/
theorem cuts_blanks (blanks : ℕ) : Cuts 0 (List.replicate blanks ' ' ++ ['\n']) [.lineEnd] := by
  induction blanks with
  | zero => exact .lineEnd
  | succ blanks ih => exact .blank ih

/-- The lexemes of a header. -/
def headerLexemes (columnOrder : Bool) (code : String) (height width : ℕ) : List Lexeme :=
  [.mark '\x7b',
    .quotation (.text (codes "descr")), .mark ':', .quotation (.text (codes code)), .mark ',',
    .quotation (.text (codes "fortran_order")), .mark ':', .word (if columnOrder then "True" else "False"),
    .mark ',',
    .quotation (.text (codes "shape")), .mark ':', .mark '(', .number (.whole height), .mark ',',
    .number (.whole width), .mark ')', .mark ',',
    .mark '\x7d', .lineEnd]

/-- A header is cut into the lexemes of a dictionary. -/
theorem lexemes?_header (columnOrder : Bool) (hcode : code.toList.all isPlain) (hne : code.toList ≠ [])
    (hheight : 0 < height) (hheightDigits : (Nat.toDigits 10 height).length ≤ Decimal.maxIntDigits)
    (hwidth : 0 < width) (hwidthDigits : (Nat.toDigits 10 width).length ≤ Decimal.maxIntDigits) (blanks : ℕ) :
    Literal.lexemes? (headerText columnOrder code height width blanks) =
      some (headerLexemes columnOrder code height width) := by
  refine Literal.lexemes?_of_cuts (Literal.spells_mark (by decide) _) rfl ?_
  refine cuts_key rfl (by decide) ?_
  refine .lexeme (Literal.spells_quotation (List.all_eq_true.mp hcode) hne _) rfl (cuts_comma ?_)
  refine cuts_key rfl (by decide) ?_
  refine .lexeme (Literal.spells_truth columnOrder (ends_cons (by decide) (by decide) _)) rfl (cuts_comma ?_)
  refine cuts_key rfl (by decide) ?_
  refine .lexeme (Literal.spells_mark (by decide) _) rfl ?_
  refine .lexeme (Literal.spells_whole hheight hheightDigits (ends_cons (by decide) (by decide) _)) rfl ?_
  refine cuts_comma ?_
  refine .lexeme (Literal.spells_whole hwidth hwidthDigits (ends_cons (by decide) (by decide) _)) rfl ?_
  refine .lexeme (Literal.spells_mark (by decide) _) rfl (cuts_comma ?_)
  exact .lexeme (Literal.spells_mark (by decide) _) rfl (cuts_blanks blanks)

/-- The entries of a header. -/
def headerEntries (columnOrder : Bool) (code : String) (height width : ℕ) : List (Literal × Literal) :=
  [(.text (codes "descr"), .text (codes code)), (.text (codes "fortran_order"), .truth columnOrder),
    (.text (codes "shape"), .tuple [.whole height, .whole width])]

/-- The lexemes make up a dictionary with three entries. -/
theorem value_header (columnOrder : Bool) (code : String) (height width : ℕ) :
    (Literal.wholeExpression? (headerLexemes columnOrder code height width)).map Literal.Expression.value =
      some (.ok (.dictionary (headerEntries columnOrder code height width))) := by
  cases columnOrder <;> rfl

/-! ## Characters -/

/-- The characters of a header: all of them are ASCII, and a line ends with a line feed alone. -/
def isHeaderChar (c : Char) : Bool := c == '\n' || (0x20 ≤ c.toNat && c.toNat < 0x80)

/-- The characters of a header are ASCII. -/
theorem toNat_lt_of_isHeaderChar {c : Char} (hc : isHeaderChar c) : c.toNat < 0x80 := by
  simp only [isHeaderChar, Bool.or_eq_true, Bool.and_eq_true, beq_iff_eq, decide_eq_true_eq] at hc
  rcases hc with rfl | hc
  · decide
  · exact hc.2

theorem isHeaderChar_of_isDigit {c : Char} (hc : c.isDigit) : isHeaderChar c := by
  rw [Char.isDigit_iff_toNat] at hc
  simp only [Char.reduceToNat] at hc
  simp only [isHeaderChar, Bool.or_eq_true, Bool.and_eq_true, decide_eq_true_eq]
  omega

/-- Every character of a header is one that is expected there. -/
theorem all_header (columnOrder : Bool) (hcode : code.toList.all isHeaderChar) (height width blanks : ℕ) :
    (headerText columnOrder code height width blanks).all isHeaderChar := by
  have hdigits (n : ℕ) : (Nat.toDigits 10 n).all isHeaderChar := List.all_eq_true.mpr fun c hc =>
    isHeaderChar_of_isDigit (Nat.isDigit_of_mem_toDigits (by decide) (by decide) hc)
  have horder : (if columnOrder then "True" else "False").toList.all isHeaderChar := by
    cases columnOrder <;> rfl
  have hblanks : (List.replicate blanks ' ').all isHeaderChar :=
    List.all_eq_true.mpr fun c hc => List.eq_of_mem_replicate hc ▸ rfl
  have hdescr : (quoted "descr").all isHeaderChar := rfl
  have hfortran : (quoted "fortran_order").all isHeaderChar := rfl
  have hshape : (quoted "shape").all isHeaderChar := rfl
  have hquoted : (quoted code).all isHeaderChar := by
    simp only [quoted, List.all_append, List.all_cons, hcode]
    rfl
  simp only [headerText, List.all_append, List.all_cons, hdigits, horder, hblanks, hdescr, hfortran, hshape,
    hquoted]
  rfl

/-- A header has no ends of lines but its own. -/
theorem plainLines_header {s : List Char} (hs : ∀ c ∈ s, isHeaderChar c) : Literal.plainLines s = s := by
  induction s with
  | nil => rfl
  | cons c s ih =>
    obtain ⟨hc, hs⟩ := List.forall_mem_cons.mp hs
    have hreturn : c ≠ '\r' := by
      rintro rfl
      exact absurd hc (by decide)
    rw [Literal.plainLines, ih hs]
    · exact fun _ h => absurd h hreturn
    · exact hreturn

/-! ## Codes -/

/-- What is read off the code of a kind in an order of bytes. -/
structure ReadsCode (kind : Kind) (bigEndian : Bool) : Prop where
  descriptor : Descriptor.ofLiteral (.text (codes (ElementType.ofKind kind bigEndian).code)) =
    .ok (.single (.ofKind kind bigEndian))
  plain : (ElementType.ofKind kind bigEndian).code.toList.all isPlain
  chars : (ElementType.ofKind kind bigEndian).code.toList.all isHeaderChar
  ne_nil : (ElementType.ofKind kind bigEndian).code.toList ≠ []
  length_le : (ElementType.ofKind kind bigEndian).code.toList.length ≤ 4

/-- The codes of all kinds of samples are read as they are written. -/
theorem readsCode (hkind : kind ∈ sampleKinds) (bigEndian : Bool) : ReadsCode kind bigEndian := by
  simp only [sampleKinds, List.mem_cons, List.not_mem_nil, or_false] at hkind
  rcases hkind with rfl | rfl | rfl | rfl | rfl | rfl | rfl | rfl | rfl | rfl | rfl | rfl | rfl
  all_goals cases bigEndian <;> exact ⟨rfl, rfl, rfl, by decide, by decide⟩

/-- A sample takes at least one byte. -/
theorem size_pos_of_mem (hkind : kind ∈ sampleKinds) : 0 < kind.size := by
  revert kind
  decide

/-! ## Matrices -/

/-- A number in a word has nineteen digits at most. -/
theorem length_toDigits_le {n : ℕ} (h : n ≤ maxWord) : (Nat.toDigits 10 n).length ≤ 19 :=
  (Nat.length_toDigits_le_iff (by decide) (by decide)).mpr (h.trans_lt (by decide))

/-- A matrix of samples that is not empty, and for whose elements there is room. -/
structure HasRoom [Host] (kind : Kind) (height width : ℕ) : Prop where
  kind_mem : kind ∈ sampleKinds
  height_pos : 0 < height
  width_pos : 0 < width
  le_arrayRoom : height * width * kind.size ≤ Host.arrayRoom

variable [Host]

namespace HasRoom

/-- Whatever there is room for can be counted in a word. -/
theorem size_le (h : HasRoom kind height width) : height * width * kind.size ≤ maxWord :=
  h.le_arrayRoom.trans (Nat.le_pred_of_lt Host.arrayRoom_lt)

/-- So the elements can be counted in a word. -/
theorem count_le (h : HasRoom kind height width) : height * width ≤ maxWord :=
  (Nat.le_mul_of_pos_right _ (size_pos_of_mem h.kind_mem)).trans h.size_le

/-- So can the rows. -/
theorem height_le (h : HasRoom kind height width) : height ≤ maxWord :=
  (Nat.le_mul_of_pos_right _ h.width_pos).trans h.count_le

/-- So can the columns. -/
theorem width_le (h : HasRoom kind height width) : width ≤ maxWord :=
  (Nat.le_mul_of_pos_left _ h.height_pos).trans h.count_le

end HasRoom

/-- So headers are short, whatever the lengths in them. -/
theorem length_header_le (h : HasRoom kind height width) (columnOrder : Bool) (hcode : code.toList.length ≤ 4)
    (hblanks : blanks ≤ 85) : (headerText columnOrder code height width blanks).length ≤ 220 := by
  have horder : (if columnOrder then "True" else "False").toList.length ≤ 5 := by
    cases columnOrder <;> decide
  have hheight := length_toDigits_le h.height_le
  have hwidth := length_toDigits_le h.width_le
  have hquoted (s : String) : (quoted s).length = s.toList.length + 2 := by
    rw [quoted, List.length_append, List.length_cons, List.length_singleton]
  have hdescr : (quoted "descr").length = 7 := rfl
  have hfortran : (quoted "fortran_order").length = 15 := rfl
  have hshape : (quoted "shape").length = 7 := rfl
  simp only [headerText, List.length_append, List.length_cons, List.length_nil, List.length_replicate, hdescr,
    hfortran, hshape, hquoted code]
  omega

/-- A header is read as the dictionary that it writes. -/
theorem read_header (h : HasRoom kind height width) (columnOrder : Bool)
    (hplain : code.toList.all isPlain) (hcode : code.toList.all isHeaderChar) (hne : code.toList ≠ [])
    (blanks : ℕ) :
    Literal.read (headerText columnOrder code height width blanks) =
      .ok (.dictionary (headerEntries columnOrder code height width)) := by
  have hdigits {n : ℕ} (hn : n ≤ maxWord) : (Nat.toDigits 10 n).length ≤ Decimal.maxIntDigits :=
    (length_toDigits_le hn).trans (by decide)
  have hchars := List.all_eq_true.mp (all_header columnOrder hcode height width blanks)
  have hlexemes := lexemes?_header columnOrder hplain hne h.height_pos (hdigits h.height_le) h.width_pos
    (hdigits h.width_le) blanks
  have hblank : (headerText columnOrder code height width blanks).dropWhile
      (fun c => c == ' ' || c == '\t') = headerText columnOrder code height width blanks := rfl
  -- from here on only these facts about the text count, and not how it is put together
  generalize headerText columnOrder code height width blanks = text at hchars hlexemes hblank ⊢
  have hnull : text.contains '\x00' = false := by
    rw [List.contains_eq_mem, decide_eq_false_iff_not]
    exact fun hmem => absurd (hchars _ hmem) (by decide)
  obtain ⟨e, he, hvalue⟩ := Option.map_eq_some_iff.mp (value_header columnOrder code height width)
  have hread : Literal.readExpression? text = some e := by
    rw [Literal.readExpression?, hnull, hblank, plainLines_header hchars, hlexemes]
    exact he
  rw [Literal.read, hread]
  exact hvalue

/-- The lengths of a matrix as its header writes them. -/
def writtenLengths (height width : ℕ) : List WrittenLength := [⟨height, false⟩, ⟨width, false⟩]

/-- A header is read as it was written. -/
theorem ofText_header (h : HasRoom kind height width) (version : Version) (columnOrder bigEndian : Bool)
    (hblanks : blanks ≤ 85) :
    Header.ofText version
        (headerText columnOrder (ElementType.ofKind kind bigEndian).code height width blanks) =
      .ok ⟨.single (.ofKind kind bigEndian), columnOrder, writtenLengths height width⟩ := by
  obtain ⟨hdescriptor, hplain, hcode, hne, hle⟩ := readsCode h.kind_mem bigEndian
  generalize (ElementType.ofKind kind bigEndian).code = code at hdescriptor hplain hcode hne hle ⊢
  have hread := read_header h columnOrder hplain hcode hne blanks
  have hlength := (length_header_le h columnOrder hle hblanks).trans (by decide : 220 ≤ maxHeaderLength)
  generalize headerText columnOrder code height width blanks = text at hread hlength ⊢
  have hvalue : headerValue version text = .ok (.dictionary (headerEntries columnOrder code height width)) := by
    rw [headerValue, hread]
    rfl
  rw [Header.ofText, if_neg (Nat.not_lt.mpr hlength), hvalue]
  -- the entries are found under their keys
  show (do
    let descriptor ← (Descriptor.ofLiteral (.text (codes code))).mapError Header.Error.descriptor
    return (⟨descriptor, columnOrder, writtenLengths height width⟩ : Header)) = _
  rw [hdescriptor]
  rfl

end RasterAlgebra.ArrayFile
