import RasterAlgebra.Proofs.Evaluation.Steps
import RasterAlgebra.Proofs.Formula.FaultText
import RasterAlgebra.Proofs.Formula.Recovery

/-!
# Blanks between tokens

Nothing in a text but its lexemes matters. They may be set apart from each other, and from the ends of the
text, by any blanks (`Token.Spaced`): a lexeme is as long as it can be, so by itself it is the same lexeme
again, and no lexeme takes a blank to itself.

* `lexemes_word`: a lexeme in front of a blank is one token.
* `sameLexemes_of_spaced`: so a spaced text has the tokens of the text, but for their places.
* `faults_respaced`: tokens that differ in their places only are the same statements and the same faults,
  at other places.

Hence a spaced text is read and evaluated as the text is (`run_respaced`).
-/

namespace RasterAlgebra

open Token

namespace Token

/-- Words in a row, with blanks between any two of them. -/
inductive Joined : List String → List Char → Prop where
  | nil : Joined [] []
  | single (word : String) : Joined [word] word.toList
  | cons (word : String) {gap : List Char} (hne : gap ≠ []) (hgap : ∀ c ∈ gap, IsSpace c)
      {next : String} {words : List String} {text : List Char} (rest : Joined (next :: words) text) :
      Joined (word :: next :: words) (word.toList ++ gap ++ text)

/-- Words in a row, with blanks between any two of them, and with or without blanks at either end. -/
def Spaced (words : List String) (text : List Char) : Prop :=
  ∃ front middle behind, (∀ c ∈ front, IsSpace c) ∧ Joined words middle ∧ (∀ c ∈ behind, IsSpace c) ∧
    text = front ++ middle ++ behind

/-- Tokens that differ in their places only. -/
structure SameLexeme (t u : Token) : Prop where
  kind : u.kind = t.kind
  text : u.text = t.text

end Token

/-- What a complaint says, apart from where it says it. -/
def Diagnostic.content (d : Diagnostic) : String × List String × Option String :=
  (d.message, d.expected, d.found)

/-! ## Lexemes between blanks -/

/-- No lexeme takes a blank to itself. -/
theorem breaks_of_isSpace {s : List Char} (h : ∀ c ∈ s.head?, IsSpace c) : Breaks s := by
  intro c hc
  have hall : [' ', '\t', '\r', '\n', '\x0c', '\x0b'].all fun d =>
      !isWordPart d && d != '.' && d != '=' := by decide
  simpa [and_assoc] using List.all_eq_true.mp hall c (h c hc)

theorem head?_blanks {gap : List Char} (hgap : ∀ c ∈ gap, IsSpace c) : ∀ c ∈ gap.head?, IsSpace c :=
  fun c hc => hgap c (List.mem_of_mem_head? hc)

namespace Cursor

/-- Blanks in front of a text are no tokens. -/
theorem lexemes_blanks {gap : List Char} (hgap : ∀ c ∈ gap, IsSpace c) (i : ℕ) (s : List Char) :
    lexemes ⟨i, gap ++ s⟩ = lexemes ⟨i + gap.length, s⟩ := by
  induction gap generalizing i with
  | nil => rfl
  | cons c gap ih =>
    have hc : isBlank c := isSpace_iff.mp (hgap c List.mem_cons_self)
    rw [List.cons_append, lexemes_blank i hc, ih fun d hd => hgap d (List.mem_cons_of_mem c hd),
      List.length_cons, Nat.add_assoc, Nat.add_comm 1]

/-- A token of a text is the only token of its own text. -/
theorem lexemes_word {t : Token} (ht : t.Written) (hkind : t.kind ≠ .eof) (i : ℕ) :
    lexemes ⟨i, t.text.toList⟩ = [⟨t.kind, t.text, i, i + t.text.toList.length⟩] := by
  cases ht with
  | endOfText => exact absurd rfl hkind
  | lexeme hlexeme hstart =>
    have hblank : ∀ c ∈ t.text.toList.head?, isBlank c = false := fun c hc =>
      Bool.eq_false_iff.mpr (mt isSpace_iff.mpr (hstart c hc))
    rw [lexemes_single hblank hlexeme, String.ofList_toList]

/-- Words that are tokens of a text are the same tokens in a row, in front of any blanks. -/
theorem sameLexemes_of_joined {ts : List Token} (hts : ∀ t ∈ ts, t.Written ∧ t.kind ≠ .eof)
    {text behind : List Char} (h : Joined (ts.map Token.text) text) (hbehind : ∀ c ∈ behind, IsSpace c)
    (i : ℕ) : List.Forall₂ SameLexeme ts (lexemes ⟨i, text ++ behind⟩) := by
  induction ts generalizing text i with
  | nil =>
    obtain rfl : text = [] := by cases h; rfl
    rw [List.nil_append, ← List.append_nil behind, lexemes_blanks hbehind, lexemes_nil]
    exact .nil
  | cons t ts ih =>
    obtain ⟨⟨ht, hkind⟩, hts⟩ := List.forall_mem_cons.mp hts
    have hword := lexemes_word ht hkind i
    cases ts with
    | nil =>
      obtain rfl : text = t.text.toList := by cases h; rfl
      rw [lexemes_append (breaks_of_isSpace (head?_blanks hbehind)), hword, ← List.append_nil behind,
        lexemes_blanks hbehind, lexemes_nil]
      exact .cons ⟨rfl, rfl⟩ .nil
    | cons u us =>
      obtain ⟨gap, text, hne, hgap, rest, rfl⟩ : ∃ gap text', gap ≠ [] ∧ (∀ c ∈ gap, IsSpace c) ∧
          Joined ((u :: us).map Token.text) text' ∧ text = t.text.toList ++ gap ++ text' := by
        cases h with
        | cons _ hne hgap rest => exact ⟨_, _, hne, hgap, rest, rfl⟩
      have hbreaks : Breaks (gap ++ (text ++ behind)) := by
        refine breaks_of_isSpace fun c hc => head?_blanks hgap c ?_
        rwa [List.head?_append_of_ne_nil gap hne] at hc
      rw [List.append_assoc, List.append_assoc, lexemes_append hbreaks, hword, lexemes_blanks hgap]
      exact .cons ⟨rfl, rfl⟩ (ih hts rest _)

/-- A spaced text has the tokens of the text, but for their places. -/
theorem sameLexemes_of_spaced {source spaced : String}
    (h : Spaced ((start source).lexemes.map Token.text) spaced.toList) :
    List.Forall₂ SameLexeme (start source).lexemes (start spaced).lexemes := by
  obtain ⟨front, middle, behind, hfront, hmiddle, hbehind, htext⟩ := h
  have hwritten : ∀ t ∈ (start source).lexemes, t.Written ∧ t.kind ≠ .eof := fun t ht =>
    ⟨written_of_mem_tokens source t (List.mem_append_left _ ht),
      kind_ne_eof_of_mem_lexemes 0 source.toList t ht⟩
  rw [show start spaced = ⟨0, front ++ (middle ++ behind)⟩ by
    rw [start, htext, List.append_assoc], lexemes_blanks hfront]
  exact sameLexemes_of_joined hwritten hmiddle hbehind _

end Cursor

/-! ## Reading tokens at other places -/

/-- Tokens at other places. -/
def Parser.Copy.respacing (b : Bounds) (last : Token) : Copy where
  source := b
  target := { b with last := last }
  token := SameLexeme
  behind := []
  limit_eq := b.limit_withLast last
  kind_eq := SameLexeme.kind
  text_eq := SameLexeme.text

theorem Fault.content_diagnostic_eq {f g : Fault} (hcause : g.cause = f.cause)
    (htoken : SameLexeme f.token g.token) : g.diagnostic.content = f.diagnostic.content := by
  simp only [Diagnostic.content, diagnostic, foundText, hcause, htoken.kind, htoken.text]

/-- Tokens that differ in their places only are the same statements, and the same faults at other
places. -/
theorem Parser.statements_respaced (b : Bounds) {last : Token} (hlast : SameLexeme b.last last)
    {ts us : List Token} (h : List.Forall₂ SameLexeme ts us) :
    (statements { b with last := last } us).1 = (statements b ts).1 ∧
    (statements { b with last := last } us).2.map (·.diagnostic.content) =
      (statements b ts).2.map (·.diagnostic.content) := by
  have hextends : (Copy.respacing b last).Extends ts us :=
    ⟨us, h, (List.append_nil us).symm, .inl ⟨rfl, hlast⟩⟩
  obtain ⟨faults, hfaults, heq⟩ := (Copy.respacing b last).statements_eq hextends
  have hnil : statements { b with last := last } [] = ([], []) := statements_nil _
  have hsame : List.Forall₂ (fun f g : Fault => f.diagnostic.content = g.diagnostic.content)
      (statements b ts).2 faults :=
    hfaults.imp fun f g hfault => (Fault.content_diagnostic_eq hfault.1 hfault.2).symm
  have hread : statements { b with last := last } us = ((statements b ts).1, faults) := by
    simpa [Copy.respacing, hnil] using heq
  rw [hread]
  refine ⟨rfl, ?_⟩
  rw [← List.forall₂_eq_eq_eq, List.forall₂_map_left_iff, List.forall₂_map_right_iff]
  exact hsame.flip.imp fun f g hcontent => hcontent.symm

/-- A text whose tokens differ in their places only has the same statements, and the same faults at other
places. -/
theorem parseWithin_respaced {source spaced : String}
    (h : List.Forall₂ SameLexeme (Cursor.start source).lexemes (Cursor.start spaced).lexemes)
    (limit : ℤ) :
    (parseWithin limit spaced).statements = (parseWithin limit source).statements ∧
    (parseWithin limit spaced).faults.map (·.diagnostic.content) =
      (parseWithin limit source).faults.map (·.diagnostic.content) := by
  have hend : SameLexeme (Cursor.start source).endToken (Cursor.start spaced).endToken := ⟨rfl, rfl⟩
  exact Parser.statements_respaced (.within limit source) hend h

/-- A text keeps its tokens, its statements and its faults, up to their places, and what it evaluates to,
if its lexemes are set apart by other blanks. -/
theorem run_respaced [Host] {source spaced : String}
    (h : Spaced ((Cursor.start source).lexemes.map Token.text) spaced.toList) :
    List.Forall₂ SameLexeme (tokenize source) (tokenize spaced) ∧
    (∀ limit, (parseWithin limit spaced).statements = (parseWithin limit source).statements ∧
      (parseWithin limit spaced).faults.map (·.diagnostic.content) =
        (parseWithin limit source).faults.map (·.diagnostic.content)) ∧
    ((parse source).faults = [] →
      ∀ (env : Environment) (memo : Memo), env.run spaced memo = env.run source memo) := by
  have htokens := Cursor.sameLexemes_of_spaced h
  refine ⟨?_, parseWithin_respaced htokens, ?_⟩
  · exact List.rel_append htokens (.cons ⟨rfl, rfl⟩ .nil)
  · intro hread env memo
    obtain ⟨hstatements, hfaults⟩ := parseWithin_respaced htokens defaultLimit
    have hread' : (parse spaced).faults = [] := by
      rw [show (parseWithin defaultLimit source).faults = [] from hread, List.map_nil,
        List.map_eq_nil_iff] at hfaults
      exact hfaults
    rw [run_eq_walkProgram hread, run_eq_walkProgram hread',
      show (parse spaced).statements = (parse source).statements from hstatements]

/-- Lexemes without any blank between them, of which two would be one if they were digits. -/
theorem run_respaced_adjacent :
    Spaced ((Cursor.start "2.x-!c").lexemes.map Token.text) "\t2. x\n- !\x0cc".toList ∧
    (parse "2.x-!c").faults = [] ∧
    List.Forall₂ SameLexeme (tokenize "2.x-!c") (tokenize "\t2. x\n- !\x0cc") ∧
    (parseWithin 1 "\t2. x\n- !\x0cc").faults.map (·.diagnostic.content) =
      (parseWithin 1 "2.x-!c").faults.map (·.diagnostic.content) ∧
    ∀ (env : Environment) (memo : Memo),
      env.run "\t2. x\n- !\x0cc" memo = env.run "2.x-!c" memo := by
  have hwords : (Cursor.start "2.x-!c").lexemes.map Token.text = ["2.", "x", "-", "!", "c"] := by
    decide +kernel
  have hspaced : Spaced ((Cursor.start "2.x-!c").lexemes.map Token.text)
      "\t2. x\n- !\x0cc".toList := by
    rw [hwords]
    have hjoined : Joined ["2.", "x", "-", "!", "c"] "2. x\n- !\x0cc".toList :=
      .cons "2." (List.cons_ne_nil ' ' []) (List.forall_mem_singleton.mpr (by decide)) <|
        .cons "x" (List.cons_ne_nil '\n' []) (List.forall_mem_singleton.mpr (by decide)) <|
        .cons "-" (List.cons_ne_nil ' ' []) (List.forall_mem_singleton.mpr (by decide)) <|
        .cons "!" (List.cons_ne_nil '\x0c' []) (List.forall_mem_singleton.mpr (by decide)) (.single "c")
    exact ⟨['\t'], _, [], List.forall_mem_singleton.mpr (by decide), hjoined, by simp, rfl⟩
  have hread : (parse "2.x-!c").faults = [] := by decide +kernel
  have hall := run_respaced hspaced
  exact ⟨hspaced, hread, hall.1, (hall.2.1 1).2, hall.2.2 hread⟩

end RasterAlgebra
