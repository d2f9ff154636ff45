import RasterAlgebra.Proofs.Evaluation.Remembering
import RasterAlgebra.Proofs.Evaluation.Typing

/-!
# What is remembered is not asked for again

A memo that holds what the source would give (`Memo.Consistent`) makes no difference to the value of an
expression: it has the one that it has by itself, with nothing remembered. It only asks for less, namely
not for what is remembered (`walk_recalls`). The same holds of the statements of a program
(`walkProgram_recalls`).
-/

namespace RasterAlgebra

/-- Every grid in the memo is the one that the source would give. -/
def Memo.Consistent (memo : Memo) (source : Source) : Prop := ∀ p ∈ memo, source p.1 = .ok p.2

/-- The outcome behind a memo has the value of the one with nothing remembered, and its requests for what
is not in the memo. -/
structure Outcome.Recalls (memo : Memo) (o alone : Outcome) : Prop where
  value : o.value = alone.value
  requests : o.requests = alone.requests.filter (· ∉ memo.bands)

variable {env : Environment} {source : Source} {memo : Memo} {o p : Outcome}

/-! ## Consistent memos -/

theorem Memo.consistent_nil (source : Source) : Consistent [] source := by
  intro p hp
  simp at hp

theorem Source.mem_served {p : String × Grid} {requests : List String} :
    p ∈ source.served requests ↔ p.1 ∈ requests ∧ source p.1 = .ok p.2 := by
  rw [served, List.mem_filterMap]
  constructor
  · rintro ⟨band, hband, h⟩
    split at h
    · rename_i g hg
      obtain rfl := Option.some.inj h
      exact ⟨hband, hg⟩
    · simp at h
  · rintro ⟨hband, hg⟩
    exact ⟨p.1, hband, by rw [hg]⟩

/-- The bands of what was given are those requests that could be met. -/
theorem Source.mem_bands_served {band : String} {requests : List String} :
    band ∈ (source.served requests).bands ↔ band ∈ requests ∧ ∃ g, source band = .ok g := by
  rw [Memo.bands, List.mem_map]
  constructor
  · rintro ⟨p, hp, rfl⟩
    exact ⟨(mem_served.mp hp).1, p.2, (mem_served.mp hp).2⟩
  · rintro ⟨hband, g, hg⟩
    exact ⟨(band, g), mem_served.mpr ⟨hband, hg⟩, rfl⟩

/-- A walk keeps a memo consistent. -/
theorem Outcome.Remembers.consistent (ho : o.Remembers source memo) (hmemo : memo.Consistent source) :
    o.memo.Consistent source := by
  rw [ho.memo_eq]
  intro p hp
  rcases List.mem_append.mp hp with hp | hp
  · exact hmemo p hp
  · exact (Source.mem_served.mp hp).2

theorem Memo.Consistent.of_lookup {name : String} {g : Grid} (hmemo : memo.Consistent source)
    (h : memo.lookup name = some g) : source name = .ok g ∧ name ∈ memo.bands := by
  obtain ⟨front, back, rfl, -⟩ := List.lookup_eq_some_iff.mp h
  have hmem : (name, g) ∈ front ++ (name, g) :: back := by simp
  exact ⟨hmemo (name, g) hmem, List.mem_map.mpr ⟨(name, g), hmem, rfl⟩⟩

/-! ## Outcomes -/

/-- One walk behind the other. The second one starts from what the first one has remembered, be it behind
the memo or alone. -/
theorem Outcome.Recalls.after {l l₀ r r₁ r₀ : Outcome} (hl : l.Recalls memo l₀)
    (hlmemo : l.Remembers source memo) (hl₀memo : l₀.Remembers source [])
    (hr : r.Recalls l.memo r₀) (hr₁ : r₁.Recalls l₀.memo r₀) :
    (r.after l.events).Recalls memo (r₁.after l₀.events) := by
  refine ⟨hr.value.trans hr₁.value.symm, ?_⟩
  -- behind the left walk, the memo holds what it held before and what that walk has alone
  have hbands (band : String) :
      band ∉ l.memo.bands ↔ band ∉ memo.bands ∧ band ∉ l₀.memo.bands := by
    rw [hlmemo.memo_eq, hl₀memo.memo_eq, List.nil_append, Memo.bands_append, List.mem_append,
      Source.mem_bands_served, Source.mem_bands_served, hl.requests, List.mem_filter]
    simp only [decide_eq_true_eq]
    tauto
  rw [Outcome.requests_after, Outcome.requests_after, ← Outcome.requests, ← Outcome.requests,
    List.filter_append, hr.requests, hr₁.requests, List.filter_filter, ← hl.requests]
  refine congrArg (l.requests ++ ·) (List.filter_congr fun band _ => ?_)
  simp only [hbands, Bool.decide_and]

/-! ## Expressions -/

theorem walk_band_recalls (name : String) (hmemo : memo.Consistent env.source) :
    ((Node.band name).walk env memo).Recalls memo ((Node.band name).walk env []) := by
  rw [Node.walk, Node.walk, Environment.resolve, Environment.resolve, List.lookup_nil]
  cases hlookup : memo.lookup name with
  | some g =>
    obtain ⟨hsource, hmem⟩ := hmemo.of_lookup hlookup
    rw [hsource]
    refine ⟨rfl, ?_⟩
    show [] = [name].filter _
    rw [List.filter_cons_of_neg (by simpa using hmem), List.filter_nil]
  | none =>
    have hnew : [name] = [name].filter (· ∉ memo.bands) := by
      rw [List.filter_cons_of_pos (by simpa using Memo.not_mem_bands hlookup), List.filter_nil]
    cases env.source name with
    | ok g => exact ⟨rfl, hnew⟩
    | error e => exact ⟨rfl, hnew⟩

/-- An expression behind a consistent memo. -/
theorem walk_recalls {n : Node} (hn : n.IsExpression) {memo : Memo}
    (hmemo : memo.Consistent env.source) : (n.walk env memo).Recalls memo (n.walk env []) := by
  induction hn generalizing memo with
  | number x =>
    rw [Node.walk, Node.walk]
    exact ⟨rfl, rfl⟩
  | boolean b =>
    rw [Node.walk, Node.walk]
    exact ⟨rfl, rfl⟩
  | band name => exact walk_band_recalls name hmemo
  | @unary op operand _ ih =>
    have ho := ih hmemo
    cases herror : (operand.walk env []).value.isError with
    | true =>
      rw [walk_unary_of_error (ho.value ▸ herror), walk_unary_of_error herror]
      exact ho
    | false =>
      rw [walk_unary_of_value (ho.value ▸ herror), walk_unary_of_value herror]
      exact ⟨congrArg (Value.unary op) ho.value, ho.requests⟩
  | @binary op left right _ _ ihl ihr =>
    have hl := ihl hmemo
    have hlmemo := walk_remembers env left memo
    have hl₀memo := walk_remembers env left []
    -- both walks enter the right operand with something remembered; each is compared with it alone
    have hr := ihr (hlmemo.consistent hmemo)
    have hr₁ := ihr (hl₀memo.consistent (Memo.consistent_nil _))
    cases hlerror : (left.walk env []).value.isError with
    | true =>
      rw [walk_binary_of_left_error (hl.value ▸ hlerror), walk_binary_of_left_error hlerror]
      exact hl
    | false =>
      have hboth := hl.after hlmemo hl₀memo hr hr₁
      cases hrerror : (right.walk env []).value.isError with
      | true =>
        rw [walk_binary_of_right_error (hl.value ▸ hlerror) (hr.value ▸ hrerror),
          walk_binary_of_right_error hlerror (hr₁.value ▸ hrerror)]
        exact hboth
      | false =>
        rw [walk_binary_of_values (hl.value ▸ hlerror) (hr.value ▸ hrerror),
          walk_binary_of_values hlerror (hr₁.value ▸ hrerror)]
        exact ⟨by simp only [hl.value, hr.value, hr₁.value], hboth.requests⟩

/-! ## Programs -/

/-- Statements behind a consistent memo, and behind any value. -/
theorem walkProgram_recalls {ss : List Node} (hss : ∀ s ∈ ss, s.IsStatement) (last : Value)
    {memo : Memo} (hmemo : memo.Consistent env.source) :
    (Node.walkProgram env ss last memo).Recalls memo (Node.walkProgram env ss last []) := by
  induction ss generalizing last memo with
  | nil =>
    rw [Node.walkProgram, Node.walkProgram]
    exact ⟨rfl, rfl⟩
  | cons s rest ih =>
    obtain ⟨hs, hrest⟩ := List.forall_mem_cons.mp hss
    have ho : (s.walk env memo).Recalls memo (s.walk env []) := by
      obtain ⟨hn⟩ := hs
      rw [Node.walk, Node.walk]
      exact walk_recalls hn hmemo
    have homemo := walk_remembers env s memo
    have ho₀memo := walk_remembers env s []
    rcases walkProgram_cons env hs rest last [] with ⟨f, hf, heq⟩ | ⟨herror, heq⟩
    · rw [walkProgram_of_error (ho.value.trans hf), heq]
      refine ⟨ho.value, ?_⟩
      rw [Outcome.requests_stopped, Outcome.requests_stopped]
      exact ho.requests
    · rw [heq, walkProgram_cons_of_value hs (ho.value ▸ herror), ho.value]
      exact ho.after homemo ho₀memo (ih hrest _ (homemo.consistent hmemo))
        (ih hrest _ (ho₀memo.consistent (Memo.consistent_nil _)))

end RasterAlgebra
