import Mathlib.Data.List.Induction
import RasterAlgebra.Proofs.Formula.Viability
import RasterAlgebra.Proofs.Token.Munch

/-!
# Faults at the first wrong token

Under a limit above the number of tokens, a segment of a text that is no program has exactly one fault, and
this is at the first token with which the tokens of the segment stop being the beginning of a program
(`faults_at_first_wrong_token`).

* `Segment.exists_faults`: the faults of a text are those in front of a segment, those of the segment, and
  those behind it. What stands in front of a segment ends with a semicolon, so its faults are at its own
  tokens.
* `Segment.verdict_of_judged`: what the way through the tokens of a segment shows is what the grammar says of
  them.
* `exists_segment_of_mem`: every token of a text belongs to a segment.
-/

namespace RasterAlgebra

open Grammar

namespace Grammar

/-- The tokens `before` are the beginning of a program, but with `t` behind them they are none. If `t` is the
end of the text, they are no program as they are. -/
structure FirstWrong (before : List Token) (t : Token) : Prop where
  viable : ∃ us ds, Derives (before ++ us) ds
  wrong : t.kind ≠ .eof → ¬ ∃ us ds, Derives (before ++ t :: us) ds
  unfinished : t.kind = .eof → ¬ ∃ ds, Derives before ds

/-- A segment of a text: the tokens between two semicolons, or between a semicolon and an end of the text. -/
structure Segment (source : String) where
  front : List Token
  inside : List Token
  /-- The token that ends the segment. -/
  stop : Token
  behind : List Token
  tokens_eq : tokenize source = front ++ (inside ++ stop :: behind)
  closed_front : Parser.Closed front
  inside_ne : ∀ t ∈ inside, t.kind ≠ .semicolon
  stop_kind : stop.kind = .semicolon ∨ stop.kind = .eof

namespace Segment

variable {source : String}

/-- The tokens of a segment, and the one that ends it. -/
def tokens (s : Segment source) : List Token := s.inside ++ [s.stop]

/-- The tokens of a segment that have to be a program: all but the end of the text. A semicolon needs a
statement in front of it. -/
def own (s : Segment source) : List Token :=
  if s.stop.kind = .eof then s.inside else s.tokens

/-- The tokens of a segment are a program. -/
def Grammatical (s : Segment source) : Prop := ∃ ds, Derives s.own ds

/-! ## Where a segment stands -/

/-- A segment is the last one of a text, or ends with a semicolon. -/
inductive Stands (s : Segment source) : Prop where
  | last (hstop : s.stop = (Cursor.start source).endToken) (hbehind : s.behind = [])
      (hlexemes : (Cursor.start source).lexemes = s.front ++ s.inside)
  | inner (hstop : s.stop.kind = .semicolon) {rest : List Token}
      (hbehind : s.behind = rest ++ [(Cursor.start source).endToken])
      (hlexemes : (Cursor.start source).lexemes = s.front ++ (s.inside ++ [s.stop] ++ rest))

theorem stands (s : Segment source) : Stands s := by
  have htokens := s.tokens_eq
  rw [tokenize, Cursor.tokens] at htokens
  rcases List.eq_nil_or_concat s.behind with hbehind | ⟨rest, t, hbehind⟩
  · rw [hbehind, ← List.append_assoc] at htokens
    obtain ⟨hlexemes, hlast⟩ := List.append_inj' htokens rfl
    exact .last (List.cons.inj hlast).1.symm hbehind hlexemes
  · rw [List.concat_eq_append] at hbehind
    have hassoc : s.front ++ (s.inside ++ s.stop :: s.behind) =
        s.front ++ (s.inside ++ [s.stop] ++ rest) ++ [t] := by
      rw [hbehind]
      simp only [List.append_assoc, List.cons_append, List.nil_append]
    obtain ⟨hlexemes, hlast⟩ := List.append_inj' (htokens.trans hassoc) rfl
    obtain ⟨rfl, -⟩ := List.cons.inj hlast
    -- the end of the text is no lexeme, so the segment ends with a semicolon
    have hmem : s.stop ∈ (Cursor.start source).lexemes := by
      rw [hlexemes]
      simp
    have hne := Cursor.kind_ne_eof_of_mem_lexemes 0 source.toList s.stop hmem
    exact .inner (s.stop_kind.resolve_right hne) hbehind hlexemes

theorem own_of_eof {s : Segment source} (h : s.stop.kind = .eof) : s.own = s.inside := if_pos h

theorem own_of_semicolon {s : Segment source} (h : s.stop.kind = .semicolon) : s.own = s.tokens :=
  if_neg (by rw [h]; decide)

theorem undivided_own (s : Segment source) : Parser.Undivided s.own := by
  rw [own]
  split
  · exact Parser.undivided_of_forall s.inside_ne
  · intro t ht
    rw [tokens, List.dropLast_concat] at ht
    exact s.inside_ne t ht

/-- The tokens of a segment that have to be a program stand in a row in the text. -/
theorem own_infix (s : Segment source) : s.own <:+: (Cursor.start source).lexemes := by
  cases s.stands with
  | last hstop _ hlexemes =>
    rw [own_of_eof (by rw [hstop]; rfl), hlexemes]
    exact (List.suffix_append s.front s.inside).isInfix
  | @inner hstop rest _ hlexemes =>
    rw [own_of_semicolon hstop, hlexemes]
    exact ⟨s.front, rest, List.append_assoc ..⟩

/-- The tokens in front of one of a segment are no semicolons. -/
theorem ne_semicolon_of_tokens_eq {s : Segment source} {before rest : List Token} {t : Token}
    (h : s.tokens = before ++ t :: rest) : ∀ u ∈ before, u.kind ≠ .semicolon := by
  intro u hu
  refine s.inside_ne u ?_
  have hinside : s.inside = before ++ (t :: rest).dropLast := by
    rw [← List.dropLast_append_of_ne_nil (List.cons_ne_nil t rest), ← h, tokens, List.dropLast_concat]
  rw [hinside]
  exact List.mem_append_left _ hu

/-! ## What is found in a segment -/

/-- The faults of a segment as the grammar has them: none if its tokens are a program, and otherwise one at
the first wrong token. -/
inductive Verdict (s : Segment source) : List Fault → Prop where
  | grammatical (h : s.Grammatical) : Verdict s []
  | wrong {f : Fault} {before rest : List Token} (h : ¬ s.Grammatical)
      (htokens : s.tokens = before ++ f.token :: rest) (hfirst : FirstWrong before f.token) :
      Verdict s [f]

/-- Where there is no way to go on with a token, no program does. -/
theorem not_derives_of_step {before : List Token} {t : Token} {s : Place}
    (hrun : Place.start.run before = some s) (hstuck : s.step t = none) :
    ¬ ∃ us ds, Derives (before ++ t :: us) ds := by
  rintro ⟨us, ds, hds⟩
  obtain ⟨s', hrun', -⟩ := Place.run_program hds (.inl rfl)
  rw [Place.run_append_of_run hrun, Place.run_cons, hstuck] at hrun'
  simp at hrun'

/-- Where the text may not end, no program does. -/
theorem not_derives_of_inside {ts : List Token} {s : Place} (hrun : Place.start.run ts = some s)
    (hinside : ¬ s.IsComplete) : ¬ ∃ ds, Derives ts ds := by
  rintro ⟨ds, hds⟩
  obtain ⟨s', hrun', hcomplete⟩ := Place.run_program hds (.inl rfl)
  obtain rfl := Option.some.inj (hrun.symm.trans hrun')
  exact hinside hcomplete

theorem verdict_of_judged {s : Segment source} {b : Parser.Bounds}
    (hlast : b.last = (Cursor.start source).endToken) {faults : List Fault}
    (h : Parser.Judged b .start s.own faults) : Verdict s faults := by
  cases h with
  | accepted hrun hcomplete =>
    exact .grammatical (Parser.exists_derives_of_run_complete s.undivided_own hrun hcomplete)
  | @wrong f before rest s' hown hrun hstuck =>
    have hnone := not_derives_of_step hrun hstuck
    have hnot : ¬ s.Grammatical := by
      rintro ⟨ds, hds⟩
      exact hnone ⟨rest, ds, hown ▸ hds⟩
    obtain ⟨rest', htokens⟩ : ∃ rest', s.tokens = before ++ f.token :: rest' := by
      rw [own] at hown
      split at hown
      · exact ⟨rest ++ [s.stop], by rw [tokens, ← hown, List.append_assoc]; rfl⟩
      · exact ⟨rest, hown.symm⟩
    have hkind : f.token.kind ≠ .eof := by
      refine Cursor.kind_ne_eof_of_mem_lexemes 0 source.toList _ (s.own_infix.subset ?_)
      rw [← hown]
      exact List.mem_append_right _ List.mem_cons_self
    have hviable := Parser.exists_derives_of_run (ne_semicolon_of_tokens_eq htokens) hrun
    exact .wrong hnot htokens ⟨hviable, fun _ => hnone, fun heof => absurd heof hkind⟩
  | @unfinished f s' htoken hrun hinside =>
    have hnot := not_derives_of_inside hrun hinside
    cases s.stands with
    | inner hstop =>
      -- behind a semicolon the text may end
      rw [own_of_semicolon hstop] at hrun
      exact absurd (.inl (Place.eq_start_of_run_semicolon hstop hrun)) hinside
    | last hstop =>
      have hstop' : s.stop = f.token := by rw [hstop, htoken, hlast]
      have hkind : f.token.kind = .eof := by
        rw [htoken, hlast]
        rfl
      have hown := own_of_eof (s := s) (by rw [hstop', hkind])
      have htokens : s.tokens = s.inside ++ f.token :: [] := by rw [tokens, hstop']
      rw [hown] at hrun
      have hviable := Parser.exists_derives_of_run s.inside_ne hrun
      exact .wrong hnot htokens ⟨hviable, fun hne => absurd hkind hne, fun _ => hown ▸ hnot⟩

end Segment

end Grammar

namespace Parser

variable {b : Bounds}

/-! ## The faults of a text, segment by segment -/

theorem faults_append {ts : List Token} (hts : Closed ts) (us : List Token) :
    (statements b (ts ++ us)).2 = (statements b ts).2 ++ (statements b us).2 :=
  congrArg Prod.snd (statements_append b b.last hts us)

/-- Faults in front of a semicolon are at tokens in front of it, or at the semicolon. -/
theorem mem_of_mem_faults_of_closed {ts : List Token} (hts : Closed ts) :
    ∀ f ∈ (statements b ts).2, f.token ∈ ts := by
  rcases List.eq_nil_or_concat ts with rfl | ⟨us, t, hconcat⟩
  · rw [statements_nil]
    simp
  · -- it makes no difference which token ends the text, so let it be the last one of these
    have hsame : (statements b ts).2 = (statements { b with last := t } ts).2 := by
      have happend := congrArg Prod.snd (statements_append { b with last := t } b.last hts [])
      simpa [statements_nil] using happend
    intro f hf
    rw [hsame] at hf
    have hmem := (sublist_tokens_faults { b with last := t } ts).mem (List.mem_map_of_mem hf)
    rw [hconcat, List.concat_eq_append] at hmem ⊢
    simpa using hmem

end Parser

namespace Grammar.Segment

variable {source : String}

/-- The faults of a text are those in front of a segment, those of the segment, and those behind it. -/
theorem exists_faults (s : Segment source) {limit : ℤ}
    (hlimit : ((Cursor.start source).lexemes.length : ℤ) < limit) :
    ∃ front own behind, (parseWithin limit source).faults = front ++ (own ++ behind) ∧
      (∀ f ∈ front, f.token ∈ s.front) ∧ Verdict s own ∧ ∀ f ∈ behind, f.token ∈ s.behind := by
  let b := Parser.Bounds.within limit source
  have hlength : s.own.length < b.limit.toNat := by
    have := s.own_infix.length_le
    show s.own.length < limit.toNat
    omega
  have hverdict : Verdict s (Parser.statements b s.own).2 := verdict_of_judged rfl
    (Parser.judged_statements rfl (Parser.ready_start s.own) s.undivided_own hlength)
  have hfront := Parser.mem_of_mem_faults_of_closed (b := b) s.closed_front
  have hfaults : (parseWithin limit source).faults =
      (Parser.statements b (Cursor.start source).lexemes).2 := rfl
  cases s.stands with
  | last hstop hbehind hlexemes =>
    refine ⟨_, _, [], ?_, hfront, hverdict, by simp⟩
    rw [hfaults, hlexemes, Parser.faults_append s.closed_front, List.append_nil,
      own_of_eof (by rw [hstop]; rfl)]
  | @inner hstop rest hbehind hlexemes =>
    have hclosed : Parser.Closed s.own := by
      rw [own_of_semicolon hstop]
      intro t ht
      rw [tokens, List.getLast?_concat, Option.mem_def] at ht
      exact Option.some.inj ht ▸ hstop
    refine ⟨_, _, (Parser.statements b rest).2, ?_, hfront, hverdict, ?_⟩
    · rw [hfaults, hlexemes, ← tokens, ← own_of_semicolon hstop, Parser.faults_append s.closed_front,
        Parser.faults_append hclosed]
    · intro f hf
      rw [hbehind]
      exact (Parser.sublist_tokens_faults b rest).mem (List.mem_map_of_mem hf)

theorem Verdict.mem_tokens {s : Segment source} {faults : List Fault} (h : Verdict s faults) :
    ∀ f ∈ faults, f.token ∈ s.tokens := by
  cases h with
  | grammatical => simp
  | wrong _ htokens =>
    intro f hf
    rw [List.mem_singleton.mp hf, htokens]
    exact List.mem_append_right _ List.mem_cons_self

/-- The faults of a text at the tokens of a segment are what the grammar says. -/
theorem verdict_filter_faults (s : Segment source) {limit : ℤ}
    (hlimit : ((Cursor.start source).lexemes.length : ℤ) < limit) :
    Verdict s ((parseWithin limit source).faults.filter fun f => f.token ∈ s.tokens) := by
  obtain ⟨front, own, behind, hfaults, hfront, hverdict, hbehind⟩ := s.exists_faults hlimit
  -- no token stands in two places
  have hpairs := Cursor.pairwise_pos_tokens source
  have htokens : (Cursor.start source).lexemes ++ [(Cursor.start source).endToken] =
      s.front ++ (s.tokens ++ s.behind) := by
    rw [tokens, List.append_assoc]
    exact s.tokens_eq
  rw [htokens, List.pairwise_append, List.pairwise_append] at hpairs
  obtain ⟨-, ⟨-, -, hright⟩, hleft⟩ := hpairs
  have hfrontNone : front.filter (fun f => f.token ∈ s.tokens) = [] := by
    refine List.filter_eq_nil_iff.mpr fun f hf hmem => ?_
    have hlt := hleft _ (hfront f hf) _ (List.mem_append_left s.behind (of_decide_eq_true hmem))
    exact absurd hlt (Nat.lt_irrefl _)
  have hbehindNone : behind.filter (fun f => f.token ∈ s.tokens) = [] := by
    refine List.filter_eq_nil_iff.mpr fun f hf hmem => ?_
    exact absurd (hright _ (of_decide_eq_true hmem) _ (hbehind f hf)) (Nat.lt_irrefl _)
  have hown : own.filter (fun f => f.token ∈ s.tokens) = own :=
    List.filter_eq_self.mpr fun f hf => decide_eq_true (hverdict.mem_tokens f hf)
  rw [hfaults, List.filter_append, List.filter_append, hfrontNone, hbehindNone, hown,
    List.nil_append, List.append_nil]
  exact hverdict

end Grammar.Segment

/-! ## The segment of a token -/

/-- A list of tokens up to its last semicolon, and the tokens behind that. -/
theorem exists_closed_append (ts : List Token) :
    ∃ front inside, ts = front ++ inside ∧ Parser.Closed front ∧ ∀ t ∈ inside, t.kind ≠ .semicolon := by
  induction ts using List.reverseRecOn with
  | nil => exact ⟨[], [], rfl, by intro t ht; simp at ht, by simp⟩
  | append_singleton ts t ih =>
    by_cases ht : t.kind = .semicolon
    · refine ⟨ts ++ [t], [], (List.append_nil _).symm, ?_, by simp⟩
      intro u hu
      rw [List.getLast?_concat, Option.mem_def] at hu
      exact Option.some.inj hu ▸ ht
    · obtain ⟨front, inside, rfl, hclosed, hinside⟩ := ih
      refine ⟨front, inside ++ [t], List.append_assoc .., hclosed, ?_⟩
      exact List.forall_mem_append.mpr ⟨hinside, List.forall_mem_singleton.mpr ht⟩

/-- A list of tokens up to its first one that ends a segment. -/
theorem exists_append_stop {ts : List Token} {t : Token} (hmem : t ∈ ts) (ht : t.kind = .eof) :
    ∃ inside stop behind, ts = inside ++ stop :: behind ∧ (∀ u ∈ inside, u.kind ≠ .semicolon) ∧
      (stop.kind = .semicolon ∨ stop.kind = .eof) := by
  have hsome : (ts.find? fun u => u.kind = .semicolon ∨ u.kind = .eof).isSome :=
    List.find?_isSome.mpr ⟨t, hmem, decide_eq_true (.inr ht)⟩
  obtain ⟨stop, hfind⟩ := Option.isSome_iff_exists.mp hsome
  obtain ⟨hstop, inside, behind, rfl, hinside⟩ := List.find?_eq_some_iff_append.mp hfind
  refine ⟨inside, stop, behind, rfl, fun u hu hkind => ?_, of_decide_eq_true hstop⟩
  have hnot := hinside u hu
  simp [hkind] at hnot

/-- Every token of a text belongs to a segment. -/
theorem exists_segment_of_mem {source : String} {t : Token} (ht : t ∈ tokenize source) :
    ∃ s : Segment source, t ∈ s.tokens := by
  obtain ⟨ts, us, htokens⟩ := List.append_of_mem ht
  obtain ⟨front, before, rfl, hclosed, hbefore⟩ := exists_closed_append ts
  -- the end of the text is the token itself, or stands behind it
  have hend : (Cursor.start source).endToken ∈ t :: us := by
    have hlast : (tokenize source).getLast? = some (Cursor.start source).endToken :=
      List.getLast?_concat
    rw [htokens, List.getLast?_append_of_ne_nil _ (List.cons_ne_nil t us)] at hlast
    exact List.mem_of_getLast? hlast
  obtain ⟨inside, stop, behind, hstop, hinside, hkind⟩ := exists_append_stop hend rfl
  have htokens' : tokenize source = front ++ (before ++ inside ++ stop :: behind) := by
    rw [htokens, hstop]
    simp only [List.append_assoc]
  refine ⟨⟨front, before ++ inside, stop, behind, htokens', hclosed,
    List.forall_mem_append.mpr ⟨hbefore, hinside⟩, hkind⟩, ?_⟩
  rw [Segment.tokens, List.append_assoc]
  refine List.mem_append_right before ?_
  cases inside with
  | nil =>
    obtain ⟨rfl, -⟩ := List.cons.inj hstop
    exact List.mem_cons_self
  | cons u inside =>
    obtain ⟨rfl, -⟩ := List.cons.inj hstop
    exact List.mem_cons_self

/-- Under a limit above the number of tokens of a text, every fault is at a token of it, the end of the text
included: the tokens of its segment in front of this token can become a program, but not with the token
behind them; if it is the end of the text, they are no program as they are. A segment that is no program has
exactly one fault, and one that is has none. -/
theorem faults_at_first_wrong_token (source : String) (limit : ℤ)
    (hlimit : ((Cursor.start source).lexemes.length : ℤ) < limit) :
    (∀ f ∈ (parseWithin limit source).faults,
      ∃ (s : Segment source) (before rest : List Token) (t : Token),
        s.tokens = before ++ t :: rest ∧ FirstWrong before t ∧
        f.diagnostic.start = t.pos ∧ f.diagnostic.stop = t.stop ∧
        f.diagnostic.found = some (Fault.foundText t)) ∧
    ∀ s : Segment source,
      (¬ s.Grammatical → ∃ f before rest,
        (parseWithin limit source).faults.filter (fun f => f.token ∈ s.tokens) = [f] ∧
        s.tokens = before ++ f.token :: rest ∧ FirstWrong before f.token) ∧
      (s.Grammatical →
        (parseWithin limit source).faults.filter (fun f => f.token ∈ s.tokens) = []) := by
  refine ⟨fun f hf => ?_, fun s => ?_⟩
  · have hmem : f.token ∈ tokenize source :=
      (Parser.sublist_tokens_faults (.within limit source) _).mem (List.mem_map_of_mem hf)
    obtain ⟨s, hs⟩ := exists_segment_of_mem hmem
    have hfilter : f ∈ (parseWithin limit source).faults.filter fun f => f.token ∈ s.tokens :=
      List.mem_filter.mpr ⟨hf, decide_eq_true hs⟩
    have hverdict := s.verdict_filter_faults hlimit
    generalize (parseWithin limit source).faults.filter _ = faults at hverdict hfilter
    cases hverdict with
    | grammatical => simp at hfilter
    | wrong _ htokens hfirst =>
      obtain rfl := List.mem_singleton.mp hfilter
      exact ⟨s, _, _, f.token, htokens, hfirst, rfl, rfl, rfl⟩
  · have hverdict := s.verdict_filter_faults hlimit
    generalize (parseWithin limit source).faults.filter _ = faults at hverdict
    cases hverdict with
    | grammatical h => exact ⟨fun hnot => absurd h hnot, fun _ => rfl⟩
    | wrong hnot htokens hfirst =>
      exact ⟨fun _ => ⟨_, _, _, rfl, htokens, hfirst⟩, fun h => absurd h hnot⟩

/-- A segment with a parenthesis that is not closed, and one without a fault. -/
theorem faults_at_first_wrong_token_unclosed :
    ((Cursor.start "a (b; c").lexemes.length : ℤ) < 6 ∧
    ((parseWithin 6 "a (b; c").faults.map fun f => f.diagnostic.start) = [4] ∧
    (∀ f ∈ (parseWithin 6 "a (b; c").faults,
      ∃ (s : Segment "a (b; c") (before rest : List Token) (t : Token),
        s.tokens = before ++ t :: rest ∧ FirstWrong before t ∧
        f.diagnostic.start = t.pos ∧ f.diagnostic.stop = t.stop ∧
        f.diagnostic.found = some (Fault.foundText t)) ∧
    ∃ s s' : Segment "a (b; c", ¬ s.Grammatical ∧ s'.Grammatical ∧
      (∃ f before rest,
        (parseWithin 6 "a (b; c").faults.filter (fun f => f.token ∈ s.tokens) = [f] ∧
        s.tokens = before ++ f.token :: rest ∧ FirstWrong before f.token) ∧
      (parseWithin 6 "a (b; c").faults.filter (fun f => f.token ∈ s'.tokens) = [] := by
  have hlimit : ((Cursor.start "a (b; c").lexemes.length : ℤ) < 6 := by decide +kernel
  obtain ⟨hall, hsegment⟩ := faults_at_first_wrong_token "a (b; c" 6 hlimit
  let semicolon : Token := ⟨.semicolon, ";", 4, 5⟩
  let unclosed : List Token := [⟨.ident, "a", 0, 1⟩, ⟨.leftParen, "(", 2, 3⟩, ⟨.ident, "b", 3, 4⟩]
  let s : Segment "a (b; c" := ⟨[], unclosed, semicolon, [⟨.ident, "c", 6, 7⟩, .endOfText 7],
    by decide +kernel, by intro t ht; simp at ht, by decide +kernel, .inl rfl⟩
  let s' : Segment "a (b; c" := ⟨unclosed ++ [semicolon], [⟨.ident, "c", 6, 7⟩], .endOfText 7, [],
    by decide +kernel, by intro t ht; obtain rfl := Option.some.inj ht; rfl, by decide +kernel, .inr rfl⟩
  have hfault : (parseWithin 6 "a (b; c").faults.filter (fun f => f.token ∈ s.tokens) ≠ [] := by
    decide +kernel
  have hnone : (parseWithin 6 "a (b; c").faults.filter (fun f => f.token ∈ s'.tokens) = [] := by
    decide +kernel
  have hs : ¬ s.Grammatical := fun h => hfault ((hsegment s).2 h)
  have hs' : s'.Grammatical := by
    by_contra hnot
    obtain ⟨f, before, rest, hone, -⟩ := (hsegment s').1 hnot
    simp [hnone] at hone
  exact ⟨hlimit, by decide +kernel, hall, s, s', hs, hs', (hsegment s).1 hs, hnone⟩

end RasterAlgebra
