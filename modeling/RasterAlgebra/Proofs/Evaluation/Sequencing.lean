import RasterAlgebra.Proofs.Evaluation.Requests
import RasterAlgebra.Proofs.Formula.Recovery

/-!
# One text behind the other

A semicolon puts two texts together, and what comes out is known from the two texts by themselves.

* `parse_semicolon_append`: the statements of both texts are read, if the first one does not already end
  with a semicolon.
* `walkProgram_append_of_error`, `walkProgram_append_of_value`: statements behind others are evaluated if
  the others have a value, with what those have left behind.
* `bands_memo_of_value`: a program that has a value remembers all that it asked for.

So what the first text remembers is not asked for again by the second one, and makes no other difference
(`run_semicolon_append`).
-/

namespace RasterAlgebra

/-! ## Reading -/

open Grammar

/-- A semicolon may stand behind a program that does not end in one. -/
theorem Grammar.Program.append_semicolon {ts : List Token} {ds : List (Derivation .expression)}
    (h : DerivesGreedily ts ds) {t c : Token} (ht : t ∈ ts.getLast?) (hkind : t.kind ≠ .semicolon)
    (hc : c.kind = .semicolon) : DerivesGreedily (ts ++ [c]) ds := by
  induction h with
  | nil => simp at ht
  | @bare d ts ds hcut rest ih =>
    rw [List.append_assoc]
    by_cases hts : ts = []
    · subst hts
      exact .terminated d c hc rest
    · rw [List.getLast?_append_of_ne_nil _ hts] at ht
      exact .bare d ((Parser.cuts_append_iff hc).mpr hcut) (ih ht)
  | @terminated d semicolon hsemicolon ts ds rest ih =>
    rw [List.append_assoc, List.cons_append]
    rw [List.getLast?_append_of_ne_nil _ (List.cons_ne_nil _ _)] at ht
    by_cases hts : ts = []
    · subst hts
      obtain rfl : semicolon = t := Option.some.inj ht
      exact absurd hsemicolon hkind
    · rw [List.getLast?_cons_of_ne_nil hts] at ht
      exact .terminated d semicolon hsemicolon (ih ht)

variable {a b : String}

/-- A semicolon at the end of a text adds nothing. -/
theorem parse_semicolon (ha : (parse a).faults = []) {t : Token}
    (ht : t ∈ (Cursor.start a).lexemes.getLast?) (hkind : t.kind ≠ .semicolon) :
    parse (a ++ ";") = parse a := by
  obtain ⟨ds, hds, hfits⟩ := Parser.exists_derivesGreedily_of_statements ha
  have hclosed := hds.append_semicolon (c := ⟨.semicolon, ";", a.length, a.length + 1⟩) ht hkind rfl
  rw [← Cursor.lexemes_start_semicolon] at hclosed
  -- whether a statement is within the limits does not depend on the end of the text
  have hread := Parser.statements_of_derivesGreedily
    (b := .within defaultLimit (a ++ ";")) hclosed hfits
  exact congrArg (fun r => Parse.mk r.1 r.2)
    (hread.trans (Parser.statements_of_derivesGreedily hds hfits).symm)

/-- Two texts without a fault have no fault together, and the statements of both. -/
theorem parse_semicolon_append (ha : (parse a).faults = []) (hb : (parse b).faults = []) {t : Token}
    (ht : t ∈ (Cursor.start a).lexemes.getLast?) (hkind : t.kind ≠ .semicolon) :
    parse (a ++ ";" ++ b) = ⟨(parse a).statements ++ (parse b).statements, []⟩ := by
  have hread : parse (a ++ ";" ++ b) = ⟨_, _⟩ :=
    congrArg (fun r => Parse.mk r.1 r.2) (Parser.statements_start_append defaultLimit a b)
  rw [hread]
  show Parse.mk ((parse (a ++ ";")).statements ++ (parse b).statements)
    ((parse (a ++ ";")).faults ++ (parse b).faults.map _) = _
  rw [parse_semicolon ha ht hkind, ha, hb]
  rfl

/-! ## Evaluating -/

theorem Outcome.after_nil (o : Outcome) : o.after [] = o := rfl

theorem Outcome.after_after (events events' : List Event) (o : Outcome) :
    (o.after events').after events = o.after (events ++ events') := by
  rw [after, after, after, List.append_assoc]

section
variable {env : Environment} {ss : List Node} {last : Value}

/-- Statements behind a failure are not evaluated. -/
theorem walkProgram_append_of_error (hss : ∀ s ∈ ss, s.IsStatement) (hlast : last.isError = false)
    (rest : List Node) (memo : Memo) (herror : (Node.walkProgram env ss last memo).value.isError) :
    Node.walkProgram env (ss ++ rest) last memo = Node.walkProgram env ss last memo := by
  induction ss generalizing last memo with
  | nil =>
    rw [Node.walkProgram, hlast] at herror
    exact absurd herror Bool.false_ne_true
  | cons s ss ih =>
    obtain ⟨hs, hss⟩ := List.forall_mem_cons.mp hss
    rcases walkProgram_cons env hs ss last memo with ⟨f, hf, heq⟩ | ⟨hvalue, heq⟩
    · rw [heq, List.cons_append, walkProgram_of_error hf]
    · rw [heq] at herror
      rw [heq, List.cons_append, walkProgram_cons_of_value hs hvalue, ih hss hvalue _ herror]

/-- Statements behind others that have a value. -/
theorem walkProgram_append_of_value (hss : ∀ s ∈ ss, s.IsStatement) (rest : List Node) (memo : Memo)
    (hvalue : (Node.walkProgram env ss last memo).value.isError = false) :
    Node.walkProgram env (ss ++ rest) last memo =
      (Node.walkProgram env rest (Node.walkProgram env ss last memo).value
        (Node.walkProgram env ss last memo).memo).after (Node.walkProgram env ss last memo).events := by
  induction ss generalizing last memo with
  | nil =>
    rw [List.nil_append, Node.walkProgram.eq_1, Outcome.after_nil]
  | cons s ss ih =>
    obtain ⟨hs, hss⟩ := List.forall_mem_cons.mp hss
    rcases walkProgram_cons env hs ss last memo with ⟨f, hf, heq⟩ | ⟨hs', heq⟩
    · rw [heq] at hvalue
      exact absurd (Value.isError_of_eq hf) (Bool.not_eq_true _ ▸ hvalue)
    · rw [heq] at hvalue ⊢
      rw [List.cons_append, walkProgram_cons_of_value hs hs', ih hss _ hvalue, Outcome.after_after]
      rfl

/-- Only without statements does the value in front matter. -/
theorem walkProgram_congr_last (hss : ss ≠ []) (last last' : Value) (memo : Memo) :
    Node.walkProgram env ss last memo = Node.walkProgram env ss last' memo := by
  cases ss with
  | nil => exact absurd rfl hss
  | cons s rest => rw [Node.walkProgram, Node.walkProgram]

theorem requests_congr_last (ss : List Node) (last last' : Value) (memo : Memo) :
    (Node.walkProgram env ss last memo).requests = (Node.walkProgram env ss last' memo).requests := by
  by_cases hss : ss = []
  · rw [hss, Node.walkProgram, Node.walkProgram]
    rfl
  · rw [walkProgram_congr_last hss last last']

/-- A program that has a value remembers all that it asked for. -/
theorem bands_memo_of_value (hss : ∀ s ∈ ss, s.IsStatement)
    (hvalue : (Node.walkProgram env ss last []).value.isError = false) (band : String) :
    band ∈ (Node.walkProgram env ss last []).memo.bands ↔
      band ∈ (Node.walkProgram env ss last []).requests := by
  obtain ⟨hhas, hrequests⟩ := walkProgram_requests_of_value hss last hvalue
  rw [(walkProgram_remembers env ss last []).memo_eq, List.nil_append, Source.mem_bands_served]
  refine and_iff_left_of_imp fun hband => hhas band ?_
  rwa [hrequests, List.mem_eraseDups] at hband

end

/-! ## Texts -/

/-- Two texts without a fault, with a semicolon between them that the first one does not have itself. Each
is also run alone, with anything remembered at the start.

If the first text fails, so do both together, with the same failure and the same requests. Otherwise the
value is that of the second text, or that of the first one if the second has no statement. The requests are
those of the first text, and then those of the second one without the bands that the first asked for. -/
theorem run_semicolon_append [Host] (env : Environment) (a b : String) (memo memoA memoB : Memo)
    (ha : (parse a).faults = []) (hb : (parse b).faults = [])
    (hlast : ∃ t ∈ (Cursor.start a).lexemes.getLast?, t.kind ≠ .semicolon) :
    (∀ f, (env.run a memoA).value = .error f →
      (env.run (a ++ ";" ++ b) memo).value = .error f ∧
      (env.run (a ++ ";" ++ b) memo).requests = (env.run a memoA).requests) ∧
    ((env.run a memoA).value.isError = false →
      ((parse b).statements ≠ [] →
        (env.run (a ++ ";" ++ b) memo).value = (env.run b memoB).value) ∧
      ((parse b).statements = [] →
        (env.run (a ++ ";" ++ b) memo).value = (env.run a memoA).value) ∧
      (env.run (a ++ ";" ++ b) memo).requests = (env.run a memoA).requests ++
        (env.run b memoB).requests.filter (· ∉ (env.run a memoA).requests)) := by
  obtain ⟨t, ht, hkind⟩ := hlast
  have hread := parse_semicolon_append ha hb ht hkind
  have hssA := isStatement_of_mem_parse a
  have hssB := isStatement_of_mem_parse b
  rw [run_eq_walkProgram ha, run_eq_walkProgram hb, run_eq_walkProgram (by rw [hread]), hread]
  set o := Node.walkProgram env (parse a).statements .null [] with ho
  refine ⟨fun f hf => ?_, fun hvalue => ?_⟩
  · rw [walkProgram_append_of_error hssA rfl _ _ (Value.isError_of_eq hf)]
    exact ⟨hf, rfl⟩
  · rw [walkProgram_append_of_value hssA _ _ hvalue, ← ho]
    -- the statements of `b`, behind what `a` remembers and alone
    have hconsistent : o.memo.Consistent env.source :=
      (walkProgram_remembers env _ _ []).consistent (Memo.consistent_nil _)
    have hrecalls := walkProgram_recalls hssB o.value hconsistent
    have hbands (band : String) : band ∈ o.memo.bands ↔ band ∈ o.requests :=
      bands_memo_of_value hssA hvalue band
    refine ⟨fun hne => ?_, fun hnil => ?_, ?_⟩
    · exact hrecalls.value.trans (congrArg Outcome.value (walkProgram_congr_last hne _ _ _))
    · rw [hnil, Node.walkProgram]
      rfl
    · rw [Outcome.requests_after, ← Outcome.requests, hrecalls.requests,
        requests_congr_last _ o.value .null]
      simp only [hbands]

/-- The second text names a band that the first one has, and fails at another that is missing. -/
theorem run_semicolon_append_missing :
    (parse "q - 1").faults = [] ∧ (parse " r; q * p").faults = [] ∧
    (∃ t ∈ (Cursor.start "q - 1").lexemes.getLast?, t.kind ≠ .semicolon) ∧
    (Environment.run ⟨.ieee, Source.allBut "p" oneCell⟩ "q - 1" []).value.isError = false ∧
    (parse " r; q * p").statements ≠ [] ∧
    (Environment.run ⟨.ieee, Source.allBut "p" oneCell⟩ ("q - 1" ++ ";" ++ " r; q * p") []).value =
      (Environment.run ⟨.ieee, Source.allBut "p" oneCell⟩ " r; q * p" []).value ∧
    (Environment.run ⟨.ieee, Source.allBut "p" oneCell⟩ " r; q * p" []).requests =
      ["r", "q", "p"] ∧
    (Environment.run ⟨.ieee, Source.allBut "p" oneCell⟩ ("q - 1" ++ ";" ++ " r; q * p") []).requests =
      ["q"] ++ ["r", "p"] := by
  have hfirst : (parse "q - 1").faults = [] := by decide +kernel
  have hsecond : (parse " r; q * p").faults = [] := by decide +kernel
  have hlast : ∃ t ∈ (Cursor.start "q - 1").lexemes.getLast?, t.kind ≠ .semicolon :=
    ⟨⟨.number, "1", 4, 5⟩, by decide +kernel, by decide⟩
  have hvalue : (Environment.run ⟨.ieee, Source.allBut "p" oneCell⟩ "q - 1" []).value.isError = false := by
    decide +kernel
  have hne : (parse " r; q * p").statements ≠ [] := by
    intro h
    exact absurd (congrArg List.length h) (by decide +kernel)
  have hq : (Environment.run ⟨.ieee, Source.allBut "p" oneCell⟩ "q - 1" []).requests = ["q"] := by
    decide +kernel
  have hrqp : (Environment.run ⟨.ieee, Source.allBut "p" oneCell⟩ " r; q * p" []).requests =
      ["r", "q", "p"] := by decide +kernel
  obtain ⟨-, h⟩ := run_semicolon_append ⟨.ieee, Source.allBut "p" oneCell⟩ "q - 1" " r; q * p" [] [] []
    hfirst hsecond hlast
  obtain ⟨hsame, -, hrequests⟩ := h hvalue
  refine ⟨hfirst, hsecond, hlast, hvalue, hne, hsame hne, hrqp, ?_⟩
  rw [hrequests, hq, hrqp]
  decide

end RasterAlgebra
