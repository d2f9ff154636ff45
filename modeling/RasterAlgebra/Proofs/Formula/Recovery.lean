import RasterAlgebra.Proofs.Formula.Locality
import RasterAlgebra.Proofs.Token.Scanning

/-!
# Faults stay within their segment

The semicolons of a text cut it into segments, and each is read by itself
(`parseWithin_semicolon_segments`):

* `statements_append`: tokens behind a semicolon are read as if nothing stood in front of them.
* `statements_shift`: a text that stands further on has the same statements, and the same faults further
  on.
* `statements_segment`: of a segment, the statements in front of its first fault are kept, and there is at
  most one fault.
* `pairwise_pos_faults`: faults stand in order.
-/

namespace RasterAlgebra

open Grammar

/-! ## Moving -/

/-- A fault that stands `k` characters further on. -/
def Fault.shift (k : ℕ) (f : Fault) : Fault := { f with token := f.token.shift k }

/-- A complaint about a span that starts `k` characters further on. -/
def Diagnostic.shift (k : ℤ) (d : Diagnostic) : Diagnostic :=
  { d with start := k + d.start, stop := k + d.stop }

theorem Fault.diagnostic_shift (k : ℕ) (f : Fault) :
    (f.shift k).diagnostic = f.diagnostic.shift k := rfl

namespace Parser

/-- The limits of a text that stands `k` characters further on. -/
def Bounds.shift (k : ℕ) (b : Bounds) : Bounds := { b with last := b.last.shift k }

theorem Bounds.limit_withLast (b : Bounds) (last : Token) : { b with last := last }.limit = b.limit := rfl

/-- Tokens in front of others. -/
def Copy.appending (b : Bounds) (last : Token) (us : List Token) : Copy where
  source := b
  target := { b with last := last }
  token := Eq
  behind := us
  limit_eq := b.limit_withLast last
  kind_eq := by
    rintro t u rfl
    rfl
  text_eq := by
    rintro t u rfl
    rfl

/-- Tokens that stand further on. -/
def Copy.shifting (b : Bounds) (k : ℕ) : Copy where
  source := b
  target := b.shift k
  token t u := u = t.shift k
  behind := []
  limit_eq := rfl
  kind_eq := by
    rintro t u rfl
    rfl
  text_eq := by
    rintro t u rfl
    rfl

/-- Tokens behind a semicolon are read as if nothing stood in front of them, and so are those in front of
it as if nothing stood behind. -/
theorem statements_append (b : Bounds) (last : Token) {ts : List Token} (hts : Closed ts)
    (us : List Token) :
    statements { b with last := last } (ts ++ us) =
      ((statements b ts).1 ++ (statements { b with last := last } us).1,
        (statements b ts).2 ++ (statements { b with last := last } us).2) := by
  have hextends : (Copy.appending b last us).Extends ts (ts ++ us) :=
    ⟨ts, List.forall₂_same.mpr fun t _ => rfl, rfl, .inr hts⟩
  obtain ⟨faults, hfaults, heq⟩ := (Copy.appending b last us).statements_eq hextends
  have hsame : (statements b ts).2 = faults := by
    rw [← List.forall₂_eq_eq_eq]
    refine hfaults.imp fun f g h => ?_
    obtain ⟨cause, token⟩ := f
    obtain ⟨cause', token'⟩ := g
    obtain ⟨rfl, rfl⟩ : cause' = cause ∧ token = token' := h
    rfl
  rw [hsame]
  exact heq

/-- Tokens that stand further on are the same statements, and their faults stand further on. -/
theorem statements_shift (b : Bounds) (k : ℕ) (ts : List Token) :
    statements (b.shift k) (ts.map (Token.shift k)) =
      ((statements b ts).1, (statements b ts).2.map (Fault.shift k)) := by
  have hextends : (Copy.shifting b k).Extends ts (ts.map (Token.shift k)) := by
    refine ⟨ts.map (Token.shift k), ?_, (List.append_nil _).symm, .inl ⟨rfl, rfl⟩⟩
    rw [List.forall₂_map_right_iff, List.forall₂_same]
    exact fun t _ => rfl
  obtain ⟨faults, hfaults, heq⟩ := (Copy.shifting b k).statements_eq hextends
  have hsame : (statements b ts).2.map (Fault.shift k) = faults := by
    rw [← List.forall₂_eq_eq_eq, List.forall₂_map_left_iff]
    refine hfaults.imp fun f g h => ?_
    obtain ⟨cause, token⟩ := f
    obtain ⟨cause', token'⟩ := g
    obtain ⟨rfl, rfl⟩ : cause' = cause ∧ token' = token.shift k := h
    rfl
  have hnil : statements (b.shift k) [] = ([], []) := statements_nil _
  rw [hsame]
  simpa [Copy.shifting, hnil] using heq

/-! ## Segments -/

variable {b : Bounds}

/-- `CutsOff b ts ds us`: the statements `ds` are cut off from the front of `ts`, one after the other and
as long as there is one within the limits, and `us` is left. -/
inductive CutsOff (b : Bounds) :
    List Token → List (Derivation .expression) → List Token → Prop where
  | stuck {us : List Token}
      (h : ∀ (d : Derivation .expression) (vs : List Token), d.tokens ++ vs = us → Cuts vs →
        ¬ Fits b b.limit.toNat d) : CutsOff b us [] us
  | cut (d : Derivation .expression) (hfits : Fits b b.limit.toNat d) {ts us : List Token}
      {ds : List (Derivation .expression)} (hcut : Cuts ts) (rest : CutsOff b ts ds us) :
      CutsOff b (d.tokens ++ ts) (d :: ds) us

theorem cutsOff_nil : CutsOff b [] [] [] := by
  refine .stuck ?_
  intro d vs hd
  obtain ⟨t, ts, htokens, -⟩ := exists_head_tokens d
  simp [htokens] at hd

theorem CutsOff.eq_of_nil {ts us : List Token} (h : CutsOff b ts [] us) : ts = us := by
  cases h
  rfl

/-- Whether tokens cut a statement is seen at the first of them. -/
theorem cuts_append_iff {c : Token} (hc : c.kind = .semicolon) {ts : List Token} :
    Cuts (ts ++ [c]) ↔ Cuts ts := by
  cases ts with
  | nil => exact iff_of_true (cuts_semicolon hc []) cuts_nil
  | cons t ts => exact Iff.rfl

/-- Tokens of expressions end in front of a semicolon. -/
theorem exists_eq_append_semicolon {taken rest ts : List Token} {c : Token}
    (h : taken ++ rest = ts ++ [c]) (hc : c.kind = .semicolon)
    (htaken : ∀ t ∈ taken, t.kind ∉ outside) :
    ∃ us, rest = us ++ [c] ∧ taken ++ us = ts := by
  rcases List.eq_nil_or_concat rest with rfl | ⟨us, t, rfl⟩
  · -- otherwise the semicolon itself would belong to an expression
    have hmem : c ∈ taken := by
      rw [← List.append_nil taken, h]
      exact List.mem_append_right ts List.mem_cons_self
    exact absurd hc (ne_semicolon_of_not_outside (htaken c hmem))
  · rw [List.concat_eq_append, ← List.append_assoc] at h
    obtain ⟨rfl, ht⟩ := List.append_inj' h rfl
    exact ⟨us, by rw [List.concat_eq_append, ht], rfl⟩

theorem resume_append_semicolon {c : Token} (hc : c.kind = .semicolon) {ts : List Token}
    (hts : ∀ t ∈ ts, t.kind ≠ .semicolon) : resume (ts ++ [c]) = [] := by
  rw [resume_append hts, resume_cons_of_eq hc]

/-- Of a segment with its semicolon, the statements that can be cut off are kept, and there is one fault
if anything but the semicolon is left, or if there is no statement. -/
theorem statements_segment {c : Token} (hc : c.kind = .semicolon) {ts : List Token}
    (hts : ∀ t ∈ ts, t.kind ≠ .semicolon) :
    ∃ ds us, CutsOff b ts ds us ∧ (statements b (ts ++ [c])).1 = ds.map Derivation.statement ∧
      (statements b (ts ++ [c])).2.length = if us = [] ∧ ds ≠ [] then 0 else 1 := by
  induction hall : ts ++ [c] using statements_induction (b := b) generalizing ts with
  | nil => simp at hall
  | error all f rest hne hread ih =>
    subst hall
    obtain ⟨taken, htaken, houtside, -⟩ := takes_of_statement_error hread
    obtain ⟨us, rfl, rfl⟩ := exists_eq_append_semicolon htaken hc houtside
    -- the semicolon is the first one behind the fault, and nothing stands behind it
    have hresume : resume (us ++ [c]) = [] :=
      resume_append_semicolon hc fun t ht => hts t (List.mem_append_right taken ht)
    refine ⟨[], taken ++ us, .stuck ?_, ?_, ?_⟩
    · intro d vs hd hcut hfits
      have hok := statement_eq_ok ((cuts_append_iff hc).mpr hcut) hfits
      rw [← List.append_assoc, hd, hread] at hok
      simp at hok
    · rw [statements_of_error hne hread, hresume, statements_nil]
      rfl
    · rw [statements_of_error hne hread, hresume, statements_nil]
      simp
  | ok all n rest hread ih =>
    subst hall
    obtain ⟨d, us, htokens, rfl, hfits, hcut, rfl⟩ := exists_derivation_of_statement hread
    obtain ⟨us, rfl, rfl⟩ := exists_eq_append_semicolon htokens hc (not_outside_of_mem_tokens d)
    have hcut := (cuts_append_iff hc).mp hcut
    rw [statements_of_ok hread]
    cases us with
    | nil =>
      have hskip : skipSemicolon ([] ++ [c]) = [] := by
        rw [List.nil_append, skipSemicolon, if_pos hc]
      rw [hskip, statements_nil]
      exact ⟨[d], [], .cut d hfits hcut cutsOff_nil, rfl, rfl⟩
    | cons t us =>
      have ht : t.kind ≠ .semicolon := hts t (List.mem_append_right _ List.mem_cons_self)
      have hskip : skipSemicolon (t :: us ++ [c]) = t :: us ++ [c] := by
        rw [List.cons_append, skipSemicolon, if_neg ht]
      rw [hskip] at ih ⊢
      obtain ⟨ds, left, hds, hnodes, hfaults⟩ :=
        ih (fun u hu => hts u (List.mem_append_right _ hu)) rfl
      refine ⟨d :: ds, left, .cut d hfits hcut hds, by rw [hnodes]; rfl, ?_⟩
      -- something is left of the segment, or a statement was cut off from it behind this one
      have hne : left = [] → ds ≠ [] := by
        rintro rfl rfl
        exact absurd hds.eq_of_nil (List.cons_ne_nil t us)
      rw [hfaults]
      refine if_congr ?_ rfl rfl
      exact and_congr_right fun hleft => iff_of_true (hne hleft) (List.cons_ne_nil d ds)

/-! ## Whole texts -/

/-- What the parser knows of a text. -/
def Bounds.within (limit : ℤ) (source : String) : Bounds := ⟨limit, (Cursor.start source).endToken⟩

end Parser

namespace Cursor

theorem lexemes_start_semicolon (a : String) :
    (start (a ++ ";")).lexemes =
      (start a).lexemes ++ [⟨.semicolon, ";", a.length, a.length + 1⟩] := by
  have htext : start (a ++ ";") = ⟨0, a.toList ++ ';' :: []⟩ := by
    rw [start, String.toList_append]
    rfl
  rw [htext, lexemes_append (breaks_semicolon []), lexemes_semicolon, lexemes_nil,
    String.length_toList, Nat.zero_add]
  rfl

/-- The tokens of two texts with a semicolon between them. -/
theorem lexemes_start_append (a b : String) :
    (start (a ++ ";" ++ b)).lexemes =
      (start (a ++ ";")).lexemes ++ (start b).lexemes.map (Token.shift (a.length + 1)) := by
  have htext : start (a ++ ";" ++ b) = ⟨0, a.toList ++ ';' :: b.toList⟩ := by
    rw [start, String.toList_append, String.toList_append, List.append_assoc]
    rfl
  have hshift : lexemes ⟨a.length + 1, b.toList⟩ =
      (start b).lexemes.map (Token.shift (a.length + 1)) := lexemes_shift (a.length + 1) 0 b.toList
  rw [htext, lexemes_append (breaks_semicolon _), lexemes_semicolon, String.length_toList,
    Nat.zero_add, lexemes_start_semicolon, ← hshift, List.append_assoc]
  rfl

theorem endToken_start_append (a b : String) :
    (start (a ++ ";" ++ b)).endToken = (start b).endToken.shift (a.length + 1) := by
  have hlength : (a ++ ";" ++ b).length = a.length + 1 + b.length := by
    rw [String.length_append, String.length_append]
    rfl
  simp only [start, endToken, Token.endOfText, Token.shift, String.length_toList, hlength,
    Nat.zero_add]

/-- The tokens of a text and the one that ends it stand in order. -/
theorem pairwise_pos_tokens (source : String) :
    ((start source).lexemes ++ [(start source).endToken]).Pairwise fun t u => t.pos < u.pos := by
  rw [List.pairwise_append]
  refine ⟨pairwise_pos_lexemes 0 _, List.pairwise_singleton _ _, ?_⟩
  intro t ht u hu
  rw [List.mem_singleton.mp hu]
  exact (pos_lexemes 0 _ t ht).2

end Cursor

namespace Parser

theorem closed_lexemes (a : String) : Closed (Cursor.start (a ++ ";")).lexemes := by
  intro t ht
  rw [Cursor.lexemes_start_semicolon, List.getLast?_append, Option.mem_def] at ht
  obtain rfl := Option.some.inj ht
  rfl

/-- What is read of two texts with a semicolon between them. -/
theorem statements_start_append (limit : ℤ) (a b : String) :
    statements (.within limit (a ++ ";" ++ b)) (Cursor.start (a ++ ";" ++ b)).lexemes =
      ((parseWithin limit (a ++ ";")).statements ++ (parseWithin limit b).statements,
        (parseWithin limit (a ++ ";")).faults ++
          (parseWithin limit b).faults.map (Fault.shift (a.length + 1))) := by
  have hbounds : Bounds.within limit (a ++ ";" ++ b) =
      (Bounds.within limit b).shift (a.length + 1) := by
    rw [Bounds.within, Cursor.endToken_start_append]
    rfl
  have happend := statements_append (.within limit (a ++ ";"))
    (Cursor.start (a ++ ";" ++ b)).endToken (closed_lexemes a)
    ((Cursor.start b).lexemes.map (Token.shift (a.length + 1)))
  have hshift := statements_shift (.within limit b) (a.length + 1) (Cursor.start b).lexemes
  rw [← hbounds] at hshift
  rw [← Cursor.lexemes_start_append] at happend
  rw [show statements (.within limit (a ++ ";" ++ b)) _ = _ from happend]
  rw [show statements { Bounds.within limit (a ++ ";") with last := _ } _ = _ from hshift]
  rfl

/-- The faults of a text stand in order. -/
theorem pairwise_pos_faults (limit : ℤ) (source : String) :
    (parseWithin limit source).faults.Pairwise fun f g => f.token.pos < g.token.pos := by
  have hsublist := sublist_tokens_faults (.within limit source) (Cursor.start source).lexemes
  have hpairs := (Cursor.pairwise_pos_tokens source).sublist hsublist
  rw [List.pairwise_map] at hpairs
  exact hpairs

end Parser

/-- Semicolons cut a text into segments that are read one by one, whatever the limit and whether or not
they are well formed. What stands behind a semicolon is read as if it were a text by itself, and so is
what stands in front. A segment keeps the statements in front of its first fault, and has at most one
fault. The faults of a text start one behind the other. -/
theorem parseWithin_semicolon_segments (limit : ℤ) :
    (∀ a b : String,
      (parseWithin limit (a ++ ";" ++ b)).statements =
        (parseWithin limit (a ++ ";")).statements ++ (parseWithin limit b).statements ∧
      (parseWithin limit (a ++ ";" ++ b)).faults.map Fault.diagnostic =
        (parseWithin limit (a ++ ";")).faults.map Fault.diagnostic ++
          (parseWithin limit b).faults.map fun f => f.diagnostic.shift ↑(a.length + 1)) ∧
    (∀ s : String, ';' ∉ s.toList →
      ∃ ds us, Parser.CutsOff (.within limit (s ++ ";")) (Cursor.start s).lexemes ds us ∧
        (parseWithin limit (s ++ ";")).statements = ds.map Derivation.statement ∧
        (parseWithin limit (s ++ ";")).faults.length = if us = [] ∧ ds ≠ [] then 0 else 1) ∧
    ∀ source : String, (parseWithin limit source).faults.Pairwise fun f g =>
      f.diagnostic.start < g.diagnostic.start := by
  refine ⟨?_, ?_, ?_⟩
  · intro a b
    have hread : parseWithin limit (a ++ ";" ++ b) = ⟨_, _⟩ :=
      congrArg (fun r => Parse.mk r.1 r.2) (Parser.statements_start_append limit a b)
    rw [hread]
    refine ⟨rfl, ?_⟩
    rw [List.map_append, List.map_map]
    exact congrArg _ (List.map_congr_left fun f _ => f.diagnostic_shift _)
  · intro s hs
    have hkinds : ∀ t ∈ (Cursor.start s).lexemes, t.kind ≠ .semicolon := fun t ht hkind =>
      hs (Cursor.semicolon_mem_of_mem_lexemes 0 s.toList t ht hkind)
    obtain ⟨ds, us, hcuts, hnodes, hfaults⟩ := Parser.statements_segment
      (b := .within limit (s ++ ";")) (c := ⟨.semicolon, ";", s.length, s.length + 1⟩) rfl hkinds
    rw [← Cursor.lexemes_start_semicolon] at hnodes hfaults
    exact ⟨ds, us, hcuts, hnodes, hfaults⟩
  · intro source
    refine (Parser.pairwise_pos_faults limit source).imp ?_
    intro f g h
    exact Int.ofNat_lt.mpr h

/-- A segment with a statement, and a fault behind it. -/
theorem parseWithin_semicolon_segments_unclosed :
    ';' ∉ "a -b (c".toList ∧
    ∃ ds us, Parser.CutsOff (.within 3 ("a -b (c" ++ ";")) (Cursor.start "a -b (c").lexemes ds us ∧
      (parseWithin 3 ("a -b (c" ++ ";")).statements = ds.map Derivation.statement ∧
      (parseWithin 3 ("a -b (c" ++ ";")).faults.length = if us = [] ∧ ds ≠ [] then 0 else 1 :=
  have hs : ';' ∉ "a -b (c".toList := by decide
  ⟨hs, (parseWithin_semicolon_segments 3).2.1 "a -b (c" hs⟩

end RasterAlgebra
