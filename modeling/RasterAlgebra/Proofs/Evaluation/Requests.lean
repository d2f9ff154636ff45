import RasterAlgebra.Proofs.Evaluation.Recall
import RasterAlgebra.Proofs.Formula.Parts
import RasterAlgebra.Proofs.Text.Distinct

/-!
# What is asked for

Evaluation asks the source for the bands of a formula in the order in which the text names them, and for
each of them once. It asks for all of them unless it fails, and a failure has a place: a part of the
formula that fails by itself (`Node.Raises`), with nothing that fails in front of it (`Node.FailsAt`).

* `requests_after_of_recalls`: behind a walk that asked for `xs`, a walk that by itself asks for `ys` asks
  for those of `ys` that are not in `xs`.
* `requests_of_value`, `requests_of_part`, `exists_part_of_error`: an expression has a value, and all its
  bands were asked for; or it fails at a part, and no band behind that part was asked for.
* `walkProgram_requests_of_value`, `walkProgram_requests_of_failsAt`, `walkProgram_exists_failsAt`: the
  same of the statements of a program.

`run_requests` says it of texts: what is written up to the end of the part that fails names the bands that
were asked for.
-/

namespace RasterAlgebra

/-! ## Where evaluation fails -/

/-- The source has all the bands. -/
def Source.Has (source : Source) (bands : List String) : Prop :=
  ∀ band ∈ bands, ∃ g, source band = .ok g

/-- A node has a value by itself. -/
def Environment.Evaluates (env : Environment) (n : Node) : Prop :=
  (env.walk n).value.isError = false

/-- A node fails, and the failure is not that of an operand: a band cannot be had, or an operator does not
apply to the values of its operands. -/
inductive Node.Raises (env : Environment) : Node → Failure → Prop where
  | band {name : String} {e : SourceError} (h : env.source name = .error e) :
      Raises env (.band name) (.bandFailed name)
  | unary {op : String} {operand : Node} {f : Failure} (hoperand : env.Evaluates operand)
      (h : (env.walk operand).value.unary op = .error f) : Raises env (.unary op operand) f
  | binary {op : String} {left right : Node} {f : Failure} (hleft : env.Evaluates left)
      (hright : env.Evaluates right)
      (h : Value.binary env.policy op (env.walk left).value (env.walk right).value = .error f) :
      Raises env (.binary op left right) f

/-- The statements fail at the part `m`: it raises the failure, and nothing in front of it fails. What is in
front of it names the bands `front`. -/
def Node.FailsAt (env : Environment) (statements : List Node) (m : Node) (front : List String)
    (f : Failure) : Prop :=
  m.PartOfList env.Evaluates statements front ∧ m.Raises env f

variable {env : Environment} {o p p₀ : Outcome} {xs ys : List String} {n m left right : Node}
  {front : List String} {f : Failure}

theorem Source.has_append {source : Source} :
    source.Has (xs ++ ys) ↔ source.Has xs ∧ source.Has ys :=
  List.forall_mem_append

/-- A band that cannot be had is not one of those that the source has. -/
theorem Source.Has.not_mem {source : Source} {bands : List String} (h : source.Has bands) {band : String}
    {e : SourceError} (hsource : source band = .error e) : band ∉ bands := by
  intro hmem
  obtain ⟨g, hg⟩ := h band hmem
  rw [hsource] at hg
  cases hg

/-! ## One walk behind the other -/

/-- Behind a walk that could ask for `xs`, a walk that by itself asks for `ys`. -/
theorem requests_after_of_recalls (ho : o.Remembers env.source []) (hxs : env.source.Has xs)
    (horequests : o.requests = xs.eraseDups) (hp : p.Recalls o.memo p₀)
    (hp₀requests : p₀.requests = ys.eraseDups) :
    (p.after o.events).requests = (xs ++ ys).eraseDups := by
  have hbands (band : String) : band ∉ o.memo.bands ↔ band ∉ xs := by
    rw [ho.memo_eq, List.nil_append, Source.mem_bands_served, horequests, List.mem_eraseDups]
    exact not_congr (and_iff_left_of_imp (hxs band))
  rw [Outcome.requests_after, ← Outcome.requests, horequests, hp.requests, hp₀requests,
    eraseDups_append_filter]
  simp only [hbands]

/-- The right operand behind a left one that has a value. -/
theorem right_recalls (env : Environment) (left : Node) (hr : right.IsExpression) :
    (right.walk env (left.walk env []).memo).Recalls (left.walk env []).memo (right.walk env []) :=
  walk_recalls hr ((walk_remembers env left []).consistent (Memo.consistent_nil _))

/-! ## Expressions -/

/-- An expression that has a value asked for all its bands, and the source has them. -/
theorem requests_of_value (hn : n.IsExpression) (hvalue : env.Evaluates n) :
    env.source.Has n.bands ∧ (env.walk n).requests = n.bands.eraseDups := by
  induction hn with
  | number x => exact ⟨by simp [Source.Has, Node.bands], by rw [Environment.walk, Node.walk]; rfl⟩
  | boolean b => exact ⟨by simp [Source.Has, Node.bands], by rw [Environment.walk, Node.walk]; rfl⟩
  | band name =>
    rw [Environment.Evaluates, Environment.walk, Node.walk, Environment.resolve,
      List.lookup_nil] at hvalue
    rw [Environment.walk, Node.walk, Environment.resolve, List.lookup_nil, Node.bands]
    cases hsource : env.source name with
    | ok g => exact ⟨by simp [Source.Has, hsource], rfl⟩
    | error e =>
      rw [hsource] at hvalue
      simp [Value.isError] at hvalue
  | @unary op operand _ ih =>
    rw [Environment.Evaluates, Environment.walk] at hvalue
    rw [Environment.walk]
    cases herror : (operand.walk env []).value.isError with
    | true => simp [walk_unary_of_error herror, herror] at hvalue
    | false =>
      rw [walk_unary_of_value herror]
      exact ih herror
  | @binary op left right hl hr ihl ihr =>
    rw [Environment.Evaluates, Environment.walk] at hvalue
    rw [Environment.walk]
    cases hlerror : (left.walk env []).value.isError with
    | true => simp [walk_binary_of_left_error hlerror, hlerror] at hvalue
    | false =>
      have hrecalls := right_recalls env left hr
      cases hrerror : (right.walk env (left.walk env []).memo).value.isError with
      | true =>
        simp [walk_binary_of_right_error hlerror hrerror, Outcome.after, hrerror] at hvalue
      | false =>
        have hright : (right.walk env []).value.isError = false := hrecalls.value ▸ hrerror
        obtain ⟨hlhas, hlrequests⟩ := ihl hlerror
        obtain ⟨hrhas, hrrequests⟩ := ihr hright
        rw [walk_binary_of_values hlerror hrerror]
        exact ⟨Source.has_append.mpr ⟨hlhas, hrhas⟩,
          requests_after_of_recalls (walk_remembers env left []) hlhas hlrequests hrecalls hrrequests⟩

/-- A part that fails by itself asked for all its bands. -/
theorem requests_of_raises (hm : m.IsExpression) (h : m.Raises env f) :
    (env.walk m).value = .error f ∧ (env.walk m).requests = m.bands.eraseDups := by
  cases h with
  | @band name e h =>
    rw [Environment.walk, Node.walk, Environment.resolve, List.lookup_nil, h]
    exact ⟨rfl, rfl⟩
  | unary hoperand h =>
    cases hm with
    | unary _ hm =>
      rw [Environment.walk, walk_unary_of_value hoperand]
      exact ⟨h, (requests_of_value hm hoperand).2⟩
  | @binary op left right _ hleft hright h =>
    cases hm with
    | binary _ hl hr =>
      have hrecalls := right_recalls env left hr
      obtain ⟨hlhas, hlrequests⟩ := requests_of_value hl hleft
      obtain ⟨-, hrrequests⟩ := requests_of_value hr hright
      rw [Environment.walk, walk_binary_of_values hleft (hrecalls.value ▸ hright)]
      refine ⟨?_, requests_after_of_recalls (walk_remembers env left []) hlhas hlrequests hrecalls
        hrrequests⟩
      rw [hrecalls.value]
      exact h

/-- An expression fails at a part, and asked for no band behind this part. -/
theorem requests_of_part (hn : n.IsExpression) (hpart : m.PartOf env.Evaluates n front)
    (h : m.Raises env f) :
    (env.walk n).value = .error f ∧
      (env.walk n).requests = (front ++ m.bands).eraseDups ∧ env.source.Has front := by
  induction hpart with
  | here =>
    obtain ⟨hvalue, hrequests⟩ := requests_of_raises hn h
    exact ⟨hvalue, hrequests, by simp [Source.Has]⟩
  | unary op _ ih =>
    cases hn with
    | unary _ hoperand =>
      obtain ⟨hvalue, hrequests, hhas⟩ := ih hoperand
      rw [Environment.walk, walk_unary_of_error (Value.isError_of_eq hvalue)]
      exact ⟨hvalue, hrequests, hhas⟩
  | left op right _ ih =>
    cases hn with
    | binary _ hl hr =>
      obtain ⟨hvalue, hrequests, hhas⟩ := ih hl
      rw [Environment.walk, walk_binary_of_left_error (Value.isError_of_eq hvalue)]
      exact ⟨hvalue, hrequests, hhas⟩
  | @right op left right front hleft _ ih =>
    cases hn with
    | binary _ hl hr =>
      -- the left operand has a value, so all its bands stand in front
      have hrecalls := right_recalls env left hr
      obtain ⟨hlhas, hlrequests⟩ := requests_of_value hl hleft
      obtain ⟨hvalue, hrequests, hhas⟩ := ih hr
      have hfails := hrecalls.value.trans hvalue
      rw [Environment.walk, walk_binary_of_right_error hleft (Value.isError_of_eq hfails),
        List.append_assoc]
      exact ⟨hfails,
        requests_after_of_recalls (walk_remembers env left []) hlhas hlrequests hrecalls hrequests,
        Source.has_append.mpr ⟨hlhas, hhas⟩⟩

/-- An expression that fails does so at a part. -/
theorem exists_part_of_error (hn : n.IsExpression) (herror : (env.walk n).value = .error f) :
    ∃ (m : Node) (front : List String), m.PartOf env.Evaluates n front ∧ m.Raises env f := by
  induction hn with
  | number x =>
    rw [Environment.walk, Node.walk] at herror
    cases herror
  | boolean b =>
    rw [Environment.walk, Node.walk] at herror
    cases herror
  | band name =>
    refine ⟨.band name, [], .here, ?_⟩
    rw [Environment.walk, Node.walk, Environment.resolve, List.lookup_nil] at herror
    cases hsource : env.source name with
    | ok g =>
      rw [hsource] at herror
      cases herror
    | error e =>
      rw [hsource] at herror
      cases herror
      exact .band hsource
  | @unary op operand _ ih =>
    by_cases hoperand : env.Evaluates operand
    · rw [Environment.walk, walk_unary_of_value hoperand] at herror
      exact ⟨_, [], .here, .unary hoperand herror⟩
    · rw [Environment.walk, walk_unary_of_error (Bool.not_eq_false _ ▸ hoperand)] at herror
      obtain ⟨m, front, hpart, hraises⟩ := ih herror
      exact ⟨m, front, .unary op hpart, hraises⟩
  | @binary op left right _ hr ihl ihr =>
    by_cases hleft : env.Evaluates left
    · have hrecalls := right_recalls env left hr
      by_cases hright : env.Evaluates right
      · rw [Environment.walk, walk_binary_of_values hleft (hrecalls.value ▸ hright)] at herror
        simp only [hrecalls.value] at herror
        exact ⟨_, [], .here, .binary hleft hright herror⟩
      · have hfails : (right.walk env []).value.isError := Bool.not_eq_false _ ▸ hright
        rw [Environment.walk, walk_binary_of_right_error hleft (hrecalls.value ▸ hfails)] at herror
        obtain ⟨m, front, hpart, hraises⟩ := ihr (hrecalls.value.symm.trans herror)
        exact ⟨m, _, .right op hleft hpart, hraises⟩
    · rw [Environment.walk, walk_binary_of_left_error (Bool.not_eq_false _ ▸ hleft)] at herror
      obtain ⟨m, front, hpart, hraises⟩ := ihl herror
      exact ⟨m, front, .left op right hpart, hraises⟩

/-! ## Programs -/

variable {ss rest : List Node}

/-- The other statements behind the first one. -/
theorem rest_recalls (env : Environment) (s : Node) (hrest : ∀ s ∈ rest, s.IsStatement)
    (last : Value) :
    (Node.walkProgram env rest last (s.walk env []).memo).Recalls (s.walk env []).memo
      (Node.walkProgram env rest last []) :=
  walkProgram_recalls hrest last ((walk_remembers env s []).consistent (Memo.consistent_nil _))

/-- A program that has a value asked for all its bands, and the source has them. -/
theorem walkProgram_requests_of_value (hss : ∀ s ∈ ss, s.IsStatement) (last : Value)
    (hvalue : (Node.walkProgram env ss last []).value.isError = false) :
    env.source.Has (Node.bandsOfList ss) ∧
      (Node.walkProgram env ss last []).requests = (Node.bandsOfList ss).eraseDups := by
  induction ss generalizing last with
  | nil => exact ⟨by simp [Source.Has, Node.bandsOfList], by rw [Node.walkProgram]; rfl⟩
  | cons s rest ih =>
    obtain ⟨hs, hrest⟩ := List.forall_mem_cons.mp hss
    rcases walkProgram_cons env hs rest last [] with ⟨f, hf, heq⟩ | ⟨herror, heq⟩
    · rw [heq] at hvalue
      simp [hf, Value.isError] at hvalue
    · have hrecalls := rest_recalls env s hrest (s.walk env []).value
      rw [heq] at hvalue ⊢
      obtain ⟨hrhas, hrrequests⟩ := ih hrest (s.walk env []).value (hrecalls.value ▸ hvalue)
      obtain ⟨hn⟩ := hs
      obtain ⟨hshas, hsrequests⟩ := requests_of_value hn herror
      exact ⟨Source.has_append.mpr ⟨hshas, hrhas⟩,
        requests_after_of_recalls (walk_remembers env _ []) hshas hsrequests hrecalls hrrequests⟩

/-- A program fails at a part, and asked for no band behind this part. -/
theorem walkProgram_requests_of_failsAt (hss : ∀ s ∈ ss, s.IsStatement) (last : Value)
    (h : Node.FailsAt env ss m front f) :
    (Node.walkProgram env ss last []).value = .error f ∧
      (Node.walkProgram env ss last []).requests = (front ++ m.bands).eraseDups ∧
      env.source.Has front := by
  obtain ⟨hpart, hraises⟩ := h
  induction hpart generalizing last with
  | @first n rest front hpart =>
    obtain ⟨⟨hn⟩, -⟩ := List.forall_mem_cons.mp hss
    obtain ⟨hvalue, hrequests, hhas⟩ := requests_of_part hn hpart hraises
    -- the statement fails as its expression does, and marking the end of the program asks for nothing
    have heq := walkProgram_of_error (s := .statement n) hvalue rest last
    rw [heq, Outcome.requests_stopped]
    exact ⟨hvalue, hrequests, hhas⟩
  | @later s rest front hs _ ih =>
    -- the value of the first statement is lost, but what it asked for is not asked for again
    obtain ⟨hstatement, hrest⟩ := List.forall_mem_cons.mp hss
    obtain ⟨hvalue, hrequests, hhas⟩ := ih hrest (s.walk env []).value
    have hrecalls := rest_recalls env s hrest (s.walk env []).value
    rcases walkProgram_cons env hstatement rest last [] with ⟨f, hf, -⟩ | ⟨-, heq⟩
    · simp [Environment.Evaluates, Environment.walk, hf, Value.isError] at hs
    · obtain ⟨hn⟩ := hstatement
      obtain ⟨hshas, hsrequests⟩ := requests_of_value hn hs
      rw [heq, List.append_assoc]
      exact ⟨hrecalls.value.trans hvalue,
        requests_after_of_recalls (walk_remembers env _ []) hshas hsrequests hrecalls hrequests,
        Source.has_append.mpr ⟨hshas, hhas⟩⟩

/-- A program that fails does so at a part. -/
theorem walkProgram_exists_failsAt (hss : ∀ s ∈ ss, s.IsStatement) {last : Value}
    (hlast : last.isError = false) (herror : (Node.walkProgram env ss last []).value = .error f) :
    ∃ (m : Node) (front : List String), Node.FailsAt env ss m front f := by
  induction ss generalizing last with
  | nil =>
    rw [Node.walkProgram] at herror
    obtain rfl : last = .error f := herror
    simp [Value.isError] at hlast
  | cons s rest ih =>
    obtain ⟨hs, hrest⟩ := List.forall_mem_cons.mp hss
    rcases walkProgram_cons env hs rest last [] with ⟨g, hg, heq⟩ | ⟨hvalue, heq⟩
    · rw [heq] at herror
      obtain ⟨hn⟩ := hs
      obtain ⟨m, front, hpart, hraises⟩ := exists_part_of_error hn herror
      exact ⟨m, front, .first rest hpart, hraises⟩
    · rw [heq] at herror
      have hrecalls := rest_recalls env s hrest (s.walk env []).value
      obtain ⟨m, front, hpart, hraises⟩ := ih hrest hvalue (hrecalls.value.symm.trans herror)
      exact ⟨m, _, .later hvalue hpart, hraises⟩

/-- A program asks for the bands that it names first, each of them once. -/
theorem exists_walkProgram_requests_eq (env : Environment) (hss : ∀ s ∈ ss, s.IsStatement)
    {last : Value} (hlast : last.isError = false) :
    ∃ bands, bands <+: Node.bandsOfList ss ∧
      (Node.walkProgram env ss last []).requests = bands.eraseDups := by
  cases herror : (Node.walkProgram env ss last []).value.isError with
  | false => exact ⟨_, List.prefix_refl _, (walkProgram_requests_of_value hss last herror).2⟩
  | true =>
    obtain ⟨f, hf⟩ := Value.exists_of_isError herror
    obtain ⟨m, front, hfails⟩ := walkProgram_exists_failsAt hss hlast hf
    exact ⟨_, hfails.1.isPrefix_bands, (walkProgram_requests_of_failsAt hss last hfails).2.1⟩

/-! ## Bands that cannot be had -/

/-- A part that fails by itself, with a band that the source does not have, is this band. -/
theorem Node.Raises.eq_band (h : m.Raises env f) (hm : m.IsExpression) {band : String} {e : SourceError}
    (hband : band ∈ m.bands) (hsource : env.source band = .error e) :
    m = .band band ∧ f = .bandFailed band := by
  have hnot {n : Node} (hn : n.IsExpression) (hvalue : env.Evaluates n) : band ∉ n.bands :=
    (requests_of_value hn hvalue).1.not_mem hsource
  cases h with
  | band _ =>
    obtain rfl := List.mem_singleton.mp hband
    exact ⟨rfl, rfl⟩
  | unary hvalue _ =>
    cases hm with
    | unary _ hoperand => exact (hnot hoperand hvalue hband).elim
  | binary hleft hright _ =>
    cases hm with
    | binary _ hl hr =>
      rcases List.mem_append.mp hband with hband | hband
      · exact absurd hband (hnot hl hleft)
      · exact absurd hband (hnot hr hright)

/-- A program that asks for a band that the source does not have fails there. -/
theorem walkProgram_requests_of_unavailable (hss : ∀ s ∈ ss, s.IsStatement) {last : Value}
    (hlast : last.isError = false) {band : String} {e : SourceError}
    (hband : band ∈ (Node.walkProgram env ss last []).requests) (hsource : env.source band = .error e) :
    (Node.walkProgram env ss last []).requests.getLast? = some band ∧
      (Node.walkProgram env ss last []).value = .error (.bandFailed band) := by
  cases herror : (Node.walkProgram env ss last []).value.isError with
  | false =>
    obtain ⟨hhas, hrequests⟩ := walkProgram_requests_of_value hss last herror
    rw [hrequests, List.mem_eraseDups] at hband
    exact absurd hband (hhas.not_mem hsource)
  | true =>
    obtain ⟨f, hf⟩ := Value.exists_of_isError herror
    obtain ⟨m, front, hfails⟩ := walkProgram_exists_failsAt hss hlast hf
    obtain ⟨hvalue, hrequests, hhas⟩ := walkProgram_requests_of_failsAt hss last hfails
    rw [hrequests, List.mem_eraseDups, List.mem_append, or_iff_right (hhas.not_mem hsource)] at hband
    obtain ⟨rfl, rfl⟩ := hfails.2.eq_band (hfails.1.isExpression hss) hband hsource
    refine ⟨?_, hvalue⟩
    have hnew : [band].eraseDups.filter (· ∉ front) = [band] :=
      List.filter_cons_of_pos (decide_eq_true (hhas.not_mem hsource))
    rw [hrequests, Node.bands, eraseDups_append_filter, hnew, List.getLast?_concat]

/-! ## Texts -/

/-- A text without a fault, in any environment and with anything remembered.

The bands that it asks for are those that it names first, none of them twice, and it asks for all of them
unless it fails. If it asks for a band that cannot be had, this is the last one and the failure says so.
It fails exactly if there is a part where it fails, and then it has asked for the bands that the text
names up to the end of this part. -/
theorem run_requests [Host] (env : Environment) (source : String) (memo : Memo)
    (hread : (parse source).faults = []) :
    (env.run source memo).requests <+: (Token.identifiers (Cursor.start source).lexemes).eraseDups ∧
    (env.run source memo).requests.Nodup ∧
    ((env.run source memo).value.isError = false →
      (env.run source memo).requests =
        (Token.identifiers (Cursor.start source).lexemes).eraseDups) ∧
    (∀ band ∈ (env.run source memo).requests, ∀ e, env.source band = .error e →
      (env.run source memo).requests.getLast? = some band ∧
        (env.run source memo).value = .error (.bandFailed band)) ∧
    (∀ f, (env.run source memo).value = .error f ↔
      ∃ m front, Node.FailsAt env (parse source).statements m front f) ∧
    (∀ m front f, Node.FailsAt env (parse source).statements m front f →
      ∃ (q : Grammar.Phrase) (d : Grammar.Derivation q) (before behind : List Token),
        (Cursor.start source).lexemes = before ++ d.tokens ++ behind ∧ d.node = m ∧
        Token.identifiers before = front ∧
        (env.run source memo).requests = (Token.identifiers (before ++ d.tokens)).eraseDups) := by
  have hss := isStatement_of_mem_parse source
  obtain ⟨ds, hds, hfits⟩ := Parser.exists_derivesGreedily_of_statements hread
  have hstatements : (parse source).statements = ds.map Grammar.Derivation.statement :=
    congrArg Prod.fst (Parser.statements_of_derivesGreedily hds hfits)
  have hnames : Node.bandsOfList (parse source).statements =
      Token.identifiers (Cursor.start source).lexemes := by
    rw [hstatements]
    exact Grammar.Program.bandsOfList_eq hds
  rw [run_eq_walkProgram hread, ← hnames]
  have hfailsAt {m : Node} {front : List String} {f : Failure}
      (h : Node.FailsAt env (parse source).statements m front f) :=
    walkProgram_requests_of_failsAt hss .null h
  have hnull : Value.null.isError = false := rfl
  obtain ⟨bands, hbands, hrequests⟩ := exists_walkProgram_requests_eq env hss hnull
  refine ⟨?_, ?_, ?_, ?_, ?_, ?_⟩
  · rw [hrequests]
    exact isPrefix_eraseDups hbands
  · rw [hrequests]
    exact nodup_eraseDups bands
  · intro hvalue
    exact (walkProgram_requests_of_value hss .null hvalue).2
  · intro band hband e hsource
    exact walkProgram_requests_of_unavailable hss hnull hband hsource
  · intro f
    exact ⟨walkProgram_exists_failsAt hss hnull, fun ⟨m, front, h⟩ => (hfailsAt h).1⟩
  · -- the part is written in one piece, with what it names and what is named in front of it
    intro m front f h
    obtain ⟨q, d, before, behind, htokens, hnode, hfront⟩ :=
      Grammar.Program.exists_tokens_of_part hds (hstatements ▸ h.1)
    refine ⟨q, d, before, behind, htokens, hnode, hfront, ?_⟩
    rw [(hfailsAt h).2.1, Grammar.identifiers_append, hfront, ← Grammar.bands_node, hnode]

/-- A source that has every band but one. -/
def Source.allBut (missing : String) (g : Grid) : Source := fun band =>
  if band = missing then .error ⟨.notFound, band, none⟩ else .ok g

/-- One cell. -/
def oneCell : Grid where
  cellType := .uint8
  width := 1
  height := 1
  noData := 0
  cells := #[1]
  width_pos := Nat.one_pos
  height_pos := Nat.one_pos
  size_cells := rfl

/-- A band is missing in the middle of a sum. What stands behind it is not asked for. -/
theorem run_requests_missing :
    (parse "q; -2 * q + (r - p) / q; s").faults = [] ∧
    Source.allBut "p" oneCell "p" = .error ⟨.notFound, "p", none⟩ ∧
    (Environment.run ⟨.ieee, Source.allBut "p" oneCell⟩ "q; -2 * q + (r - p) / q; s" []).requests =
      ["q", "r", "p"] ∧
    (Environment.run ⟨.ieee, Source.allBut "p" oneCell⟩ "q; -2 * q + (r - p) / q; s" []).value =
      .error (.bandFailed "p") ∧
    ∃ m front, Node.FailsAt ⟨.ieee, Source.allBut "p" oneCell⟩
      (parse "q; -2 * q + (r - p) / q; s").statements m front (.bandFailed "p") := by
  have hread : (parse "q; -2 * q + (r - p) / q; s").faults = [] := by decide +kernel
  have hrequests : (Environment.run ⟨.ieee, Source.allBut "p" oneCell⟩
      "q; -2 * q + (r - p) / q; s" []).requests = ["q", "r", "p"] := by decide +kernel
  obtain ⟨-, -, -, hlast, hfails, -⟩ :=
    run_requests ⟨.ieee, Source.allBut "p" oneCell⟩ "q; -2 * q + (r - p) / q; s" [] hread
  obtain ⟨-, hvalue⟩ := hlast "p" (by simp [hrequests]) ⟨.notFound, "p", none⟩ rfl
  exact ⟨hread, rfl, hrequests, hvalue, (hfails _).mp hvalue⟩

end RasterAlgebra
