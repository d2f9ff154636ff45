import Mathlib.Tactic.Common
import RasterAlgebra.Path

/-!
# Names in paths

What stands between the slashes of a text are the names of its path. A text without slashes is the path of one
name (`Path.ofText_of_name`), and an ending without slashes is the ending of the last name
(`Path.exists_ofText_append`).
-/

namespace RasterAlgebra

namespace Text

variable {separates : Char → Bool}

theorem pieces_cons_of_separates {c : Char} (hc : separates c = true) (s : List Char) :
    pieces separates (c :: s) = [] :: pieces separates s := by
  show (if separates c then _ else _) = _
  rw [if_pos hc]
  rfl

theorem pieces_cons_of_not_separates {c : Char} (hc : separates c = false) {s piece : List Char}
    {others : List (List Char)} (hs : pieces separates s = piece :: others) :
    pieces separates (c :: s) = (c :: piece) :: others := by
  show (if separates c then _ else _) = _
  rw [if_neg (Bool.not_eq_true _ ▸ hc), show s.foldr _ [[]] = pieces separates s from rfl, hs]

/-- A text without separators is one piece. -/
theorem pieces_of_forall {s : List Char} (h : ∀ c ∈ s, separates c = false) : pieces separates s = [s] := by
  induction s with
  | nil => rfl
  | cons c s ih =>
    obtain ⟨hc, hs⟩ := List.forall_mem_cons.mp h
    exact pieces_cons_of_not_separates hc (ih hs)

/-- What has no separators goes on with the last piece of the text in front of it. -/
theorem exists_pieces_append (s : List Char) {w : List Char} (hw : ∀ c ∈ w, separates c = false) :
    ∃ front last, pieces separates (s ++ w) = front ++ [last ++ w] := by
  induction s with
  | nil => exact ⟨[], [], pieces_of_forall hw⟩
  | cons c s ih =>
    obtain ⟨front, last, hpieces⟩ := ih
    rw [List.cons_append]
    cases hc : separates c with
    | true => exact ⟨[] :: front, last, by rw [pieces_cons_of_separates hc, hpieces, List.cons_append]⟩
    | false =>
      cases front with
      | nil => exact ⟨[], c :: last, pieces_cons_of_not_separates hc hpieces⟩
      | cons piece front => exact ⟨(c :: piece) :: front, last, pieces_cons_of_not_separates hc hpieces⟩

end Text

namespace Path

/-- A text without slashes that is neither empty nor a dot is the path of one name. -/
theorem ofText_of_name {name : String} (hslash : '/' ∉ name.toList) (hempty : name.toList ≠ [])
    (hdot : name.toList ≠ ['.']) : ofText name = ⟨"", [name]⟩ := by
  have hpieces : Text.pieces (· == '/') name.toList = [name.toList] := by
    refine Text.pieces_of_forall fun c hc => beq_eq_false_iff_ne.mpr ?_
    rintro rfl
    exact hslash hc
  have hroot : rootOf name.toList = "" := by
    obtain ⟨c, s, hs⟩ := List.exists_cons_of_ne_nil hempty
    rw [hs] at hslash ⊢
    have hc : (c == '/') = false := beq_eq_false_iff_ne.mpr fun h => hslash (h ▸ List.mem_cons_self)
    unfold rootOf
    rw [List.takeWhile_cons, hc]
    rfl
  have hname : isName name.toList := by
    simp [isName, hempty, hdot]
  unfold ofText
  simp only [hpieces, hroot, List.filter_cons_of_pos hname, List.filter_nil, List.map_cons, List.map_nil,
    String.ofList_toList]

/-- An ending without slashes, if there is more to it than a dot, is that of the last name. -/
theorem exists_ofText_append (s : List Char) {w : List Char} (hslash : '/' ∉ w) (hw : 1 < w.length) :
    ∃ front last, (ofText (String.ofList (s ++ w))).names = front ++ [String.ofList (last ++ w)] := by
  have hnone : ∀ c ∈ w, (c == '/') = false := by
    refine fun c hc => beq_eq_false_iff_ne.mpr ?_
    rintro rfl
    exact hslash hc
  obtain ⟨front, last, hpieces⟩ := Text.exists_pieces_append s hnone
  have hlength : 1 < (last ++ w).length := by
    rw [List.length_append]
    omega
  have hname : isName (last ++ w) := by
    generalize last ++ w = piece at hlength
    match piece with
    | c :: d :: rest => simp [isName]
  refine ⟨(front.filter isName).map String.ofList, last, ?_⟩
  unfold ofText
  simp only [String.toList_ofList, hpieces, List.filter_append, List.map_append,
    List.filter_cons_of_pos hname, List.filter_nil, List.map_cons, List.map_nil]

end Path

end RasterAlgebra
