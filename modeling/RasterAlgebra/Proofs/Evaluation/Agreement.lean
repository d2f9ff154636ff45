import Mathlib.Data.List.Forall2
import RasterAlgebra.Proofs.Evaluation.Steps

/-!
# Two runs side by side

A formula is evaluated in two environments whose sources answer with related grids. If the operators on
rasters keep the relation, so does the run (`run_agree`): both ask for the same bands, and both have the
same value, or related rasters.

* `Value.Agree.binary`, `Value.Agree.unary`: operators on values that agree.
* `walk_agree`: one expression; the induction is on the expression, and what is remembered agrees
  before and behind every part of it.
* `walkProgram_agree`: one statement behind the other.
-/

namespace RasterAlgebra

variable {R : Grid → Grid → Prop}

/-! ## Agreement -/

/-- The same value, or related rasters. -/
inductive Value.Agree (R : Grid → Grid → Prop) : Value → Value → Prop where
  | number (x : Scalar) : Agree R (.number x) (.number x)
  | boolean (b : Bool) : Agree R (.boolean b) (.boolean b)
  | null : Agree R .null .null
  | error (failure : Failure) : Agree R (.error failure) (.error failure)
  | raster {g g' : Grid} (h : R g g') : Agree R (.raster g) (.raster g')

/-- Related grids under the same names. -/
def Memo.Agree (R : Grid → Grid → Prop) (memo memo' : Memo) : Prop :=
  List.Forall₂ (fun p p' => p.1 = p'.1 ∧ R p.2 p'.2) memo memo'

/-- A related grid, or none in either case. -/
inductive Source.Agree (R : Grid → Grid → Prop) :
    Except SourceError Grid → Except SourceError Grid → Prop where
  | ok {g g' : Grid} (h : R g g') : Agree R (.ok g) (.ok g')
  | error (e e' : SourceError) : Agree R (.error e) (.error e')

/-- Values and memos that agree behind the same requests. -/
structure Outcome.Agree (R : Grid → Grid → Prop) (o o' : Outcome) : Prop where
  value : o.value.Agree R o'.value
  memo : Memo.Agree R o.memo o'.memo
  requests : o'.requests = o.requests

/-- Environments whose sources answer with related grids, and whose operators keep the relation. -/
structure Environment.Agree (R : Grid → Grid → Prop) (env env' : Environment) : Prop where
  source : ∀ band, Source.Agree R (env.source band) (env'.source band)
  broadcast : ∀ op side x {g g'}, R g g' →
    (broadcast env.policy op side g x).Agree R (broadcast env'.policy op side g' x)
  raster : ∀ op {g g' h h'}, R g g' → R h h' →
    (rasterBinary env.policy op g h).Agree R (rasterBinary env'.policy op g' h')

/-! ## Operators -/

namespace Value

theorem Agree.isError_eq {v v' : Value} (h : v.Agree R v') : v'.isError = v.isError := by
  cases h <;> rfl

theorem Agree.kind_eq {v v' : Value} (h : v.Agree R v') : v'.kind = v.kind := by
  cases h <;> rfl

theorem Agree.kind_ne_returned {v v' : Value} (h : v.Agree R v') : v.kind ≠ .returned := by
  intro hkind
  cases h <;> simp [kind] at hkind

/-- Values that agree fail in the same way. -/
theorem Agree.exists_error {v v' : Value} (h : v.Agree R v') (hkind : v.kind = .error) :
    ∃ failure, v = .error failure ∧ v' = .error failure := by
  cases h with
  | error failure => exact ⟨failure, rfl, rfl⟩
  | number | boolean | null | raster => simp [kind] at hkind

theorem numberBinary_agree (op : String) (x y : Scalar) :
    (numberBinary op x y).Agree R (numberBinary op x y) := by
  unfold numberBinary
  split
  · exact .number _
  · split
    · exact .boolean _
    · exact .error _

/-- Values that are only compared show their types and whether they are equal, which related rasters never
are. -/
theorem compare_agree (op : String) {v v' w w' : Value} (hv : v.Agree R v') (hw : w.Agree R w') :
    (compare op v w).Agree R (compare op v' w') := by
  have hsame : v'.same w' = v.same w := by cases hv <;> cases hw <;> rfl
  unfold compare
  rw [hv.kind_eq, hw.kind_eq, hsame]
  split
  · exact .error _
  · split
    · exact .boolean _
    · split
      · exact .boolean _
      · exact .error _

/-- An operator between values that agree. -/
theorem Agree.binary {env env' : Environment} (henv : env.Agree R env') (op : String)
    {v v' w w' : Value} (hv : v.Agree R v') (hw : w.Agree R w') :
    (Value.binary env.policy op v w).Agree R (Value.binary env'.policy op v' w') := by
  have hcompare := compare_agree op hv hw
  cases hv with
  | number x =>
    cases hw with
    | number y => exact numberBinary_agree op x y
    | raster h => exact henv.broadcast op .left x h
    | _ => exact hcompare
  | raster h =>
    cases hw with
    | number y => exact henv.broadcast op .right y h
    | raster h' => exact henv.raster op h h'
    | _ => exact hcompare
  | _ => cases hw <;> exact hcompare

/-- An operator in front of values that agree. -/
theorem Agree.unary (op : String) {v v' : Value} (h : v.Agree R v') :
    (v.unary op).Agree R (v'.unary op) := by
  have htruthy : v'.isTruthy = v.isTruthy := by cases h <;> rfl
  unfold Value.unary
  rw [htruthy]
  split
  · exact .boolean _
  · split
    · cases h with
      | number x => exact .number (-x)
      | boolean | null | error | raster => exact .error _
    · cases h <;> exact .error _

end Value

/-! ## Expressions -/

theorem Outcome.Agree.after {o o' p p' : Outcome} (h : o.Agree R o') (hp : p.Agree R p') :
    (p.after o.events).Agree R (p'.after o'.events) := by
  refine ⟨hp.value, hp.memo, ?_⟩
  rw [Outcome.requests_after, Outcome.requests_after, ← Outcome.requests, ← Outcome.requests,
    h.requests, hp.requests]

theorem Memo.Agree.lookup {memo memo' : Memo} (h : Memo.Agree R memo memo') (name : String) :
    (memo.lookup name = none ∧ memo'.lookup name = none) ∨
      ∃ g g', memo.lookup name = some g ∧ memo'.lookup name = some g' ∧ R g g' := by
  induction h with
  | nil => exact .inl ⟨rfl, rfl⟩
  | @cons p p' memo memo' hp _ ih =>
    obtain ⟨key, g⟩ := p
    obtain ⟨key', g'⟩ := p'
    obtain ⟨rfl, hg⟩ : key = key' ∧ R g g' := hp
    rw [List.lookup_cons, List.lookup_cons]
    cases name == key with
    | true => exact .inr ⟨g, g', rfl, rfl, hg⟩
    | false => exact ih

variable {env env' : Environment}

/-- A band from memos and sources that agree. -/
theorem walk_band_agree (henv : env.Agree R env') (name : String) {memo memo' : Memo}
    (hmemo : Memo.Agree R memo memo') :
    ((Node.band name).walk env memo).Agree R ((Node.band name).walk env' memo') := by
  rw [Node.walk, Node.walk, Environment.resolve, Environment.resolve]
  rcases hmemo.lookup name with ⟨hnone, hnone'⟩ | ⟨g, g', hsome, hsome', hg⟩
  · rw [hnone, hnone']
    have hsource := henv.source name
    generalize env.source name = answer at hsource ⊢
    generalize env'.source name = answer' at hsource ⊢
    cases hsource with
    | ok hg => exact ⟨.raster hg, List.rel_append hmemo (.cons ⟨rfl, hg⟩ .nil), rfl⟩
    | error => exact ⟨.error _, hmemo, rfl⟩
  · rw [hsome, hsome']
    exact ⟨.raster hg, hmemo, rfl⟩

/-- An expression in environments that agree. -/
theorem walk_agree (henv : env.Agree R env') {n : Node} (hn : n.IsExpression) {memo memo' : Memo}
    (hmemo : Memo.Agree R memo memo') : (n.walk env memo).Agree R (n.walk env' memo') := by
  induction hn generalizing memo memo' with
  | number x => exact ⟨.number x, hmemo, rfl⟩
  | boolean b => exact ⟨.boolean b, hmemo, rfl⟩
  | band name => exact walk_band_agree henv name hmemo
  | unary op _ ih =>
    have ho := ih hmemo
    simp only [Node.walk]
    rw [ho.value.isError_eq]
    split
    · exact ho
    · exact ⟨ho.value.unary op, ho.memo, ho.requests⟩
  | binary op _ _ ihl ihr =>
    have hl := ihl hmemo
    -- the right operand starts from what the left one has remembered
    have hr := hl.after (ihr hl.memo)
    simp only [Node.walk]
    rw [hl.value.isError_eq]
    split
    · exact hl
    · rw [hr.value.isError_eq]
      split
      · exact hr
      · exact ⟨.binary henv op hl.value hr.value, hr.memo, hr.requests⟩

/-! ## Programs -/

/-- A program in environments that agree, behind values that agree. -/
theorem walkProgram_agree (henv : env.Agree R env') {ss : List Node}
    (hss : ∀ s ∈ ss, s.IsStatement) {last last' : Value}
    (hlast : last.Agree R last') {memo memo' : Memo} (hmemo : Memo.Agree R memo memo') :
    (Node.walkProgram env ss last memo).Agree R (Node.walkProgram env' ss last' memo') := by
  induction ss generalizing last last' memo memo' with
  | nil =>
    rw [Node.walkProgram, Node.walkProgram]
    exact ⟨hlast, hmemo, rfl⟩
  | cons s rest ih =>
    obtain ⟨hs, hrest⟩ := List.forall_mem_cons.mp hss
    have ho : (s.walk env memo).Agree R (s.walk env' memo') := by
      obtain ⟨hn⟩ := hs
      rw [Node.walk, Node.walk]
      exact walk_agree henv hn hmemo
    by_cases hkind : (s.walk env memo).value.kind = .error
    · -- both programs end here, with the same failure
      obtain ⟨failure, hfailure, hfailure'⟩ := ho.value.exists_error hkind
      rw [walkProgram_of_error hfailure, walkProgram_of_error hfailure']
      refine ⟨ho.value, ho.memo, ?_⟩
      rw [Outcome.requests_stopped, Outcome.requests_stopped, ho.requests]
    · have hkind' := ho.value.kind_eq ▸ hkind
      have hreturned := ho.value.kind_ne_returned
      have hreturned' := ho.value.kind_eq ▸ hreturned
      rw [walkProgram_of_value hkind hreturned, walkProgram_of_value hkind' hreturned']
      exact ho.after (ih hrest ho.value ho.memo)

/-- A text in environments that agree, whatever is remembered from before: both runs ask for the same
bands, and both have the same value, or related rasters. -/
theorem run_agree [Host] (henv : env.Agree R env') (source : String) (memo memo' : Memo) :
    (env.run source memo).value.Agree R (env'.run source memo').value ∧
      (env'.run source memo').requests = (env.run source memo).requests := by
  -- reading the text does not look at the environment
  by_cases hread : (parse source).faults = []
  · have hagree := walkProgram_agree henv (isStatement_of_mem_parse source) .null
      (show Memo.Agree R [] [] from .nil)
    rw [run_eq_walkProgram hread, run_eq_walkProgram hread]
    exact ⟨hagree.value, hagree.requests⟩
  · rw [run_of_faults hread, run_of_faults hread]
    exact ⟨.error _, rfl⟩

end RasterAlgebra
