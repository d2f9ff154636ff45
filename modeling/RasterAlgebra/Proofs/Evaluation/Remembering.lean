import Mathlib.Data.List.Nodup
import RasterAlgebra.Proofs.Evaluation.Steps

/-!
# What evaluation remembers

Evaluation asks the source for bands and remembers what it was given. What it remembers is what the
source gave and nothing else (`walkWithin_remembers`): behind a node, the memo holds what it held before, and
behind that the grids that the source gave for the requests in between, each band once. This holds of any
tree and of any memo, also where the walk stops half way, and where there is no room to go on.
-/

namespace RasterAlgebra

/-- The bands in a memo, in the order in which they were asked for. -/
def Memo.bands (memo : Memo) : List String := memo.map (·.1)

/-- The grids that a source gives for requests. A request that it cannot meet leaves nothing. -/
def Source.served (source : Source) (requests : List String) : Memo :=
  requests.filterMap fun band =>
    match source band with
    | .ok g => some (band, g)
    | .error _ => none

/-- The memo `after` holds what was remembered `before` and what the source gave for the requests, and no
band twice unless one was there twice before. -/
structure Source.Remembered (source : Source) (before : Memo) (requests : List String)
    (after : Memo) : Prop where
  memo_eq : after = before ++ source.served requests
  nodup : before.bands.Nodup → after.bands.Nodup

/-- The outcome of a walk behind a memo remembers what the source gave. -/
def Outcome.Remembers (source : Source) (memo : Memo) (o : Outcome) : Prop :=
  source.Remembered memo o.requests o.memo

variable {env : Environment} {source : Source} {memo : Memo} {o p : Outcome}

/-! ## Bands and outcomes -/

theorem Source.served_append (source : Source) (requests requests' : List String) :
    source.served (requests ++ requests') = source.served requests ++ source.served requests' :=
  List.filterMap_append

theorem Source.served_of_ok {band : String} {g : Grid} (h : source band = .ok g) :
    source.served [band] = [(band, g)] := by
  rw [served, List.filterMap_cons, h]
  rfl

theorem Source.served_of_error {band : String} {e : SourceError} (h : source band = .error e) :
    source.served [band] = [] := by
  rw [served, List.filterMap_cons, h]
  rfl

theorem Memo.bands_append (memo memo' : Memo) : bands (memo ++ memo') = memo.bands ++ memo'.bands :=
  List.map_append

theorem Memo.not_mem_bands {name : String} (h : memo.lookup name = none) : name ∉ memo.bands := by
  rw [List.lookup_eq_none_iff] at h
  intro hmem
  obtain ⟨p, hp, rfl⟩ := List.mem_map.mp hmem
  simpa using h p hp

/-- Without requests nothing new is remembered. -/
theorem Source.Remembered.nil (source : Source) (memo : Memo) : source.Remembered memo [] memo :=
  ⟨(List.append_nil memo).symm, id⟩

/-- A band is asked for only if it is not remembered. -/
theorem Environment.resolve_remembered (env : Environment) (band : String) (memo : Memo) :
    env.source.Remembered memo ((env.resolve band memo).2.2.filterMap Event.request?)
      (env.resolve band memo).2.1 := by
  rw [resolve]
  cases hlookup : memo.lookup band with
  | some g => exact .nil _ _
  | none =>
    cases hsource : env.source band with
    | ok g =>
      refine ⟨congrArg (memo ++ ·) (Source.served_of_ok hsource).symm, fun hnodup => ?_⟩
      rw [Memo.bands_append]
      have hnew := hnodup.concat (Memo.not_mem_bands hlookup)
      rwa [List.concat_eq_append] at hnew
    | error e =>
      refine ⟨?_, id⟩
      exact (List.append_nil memo).symm.trans (congrArg (memo ++ ·) (Source.served_of_error hsource).symm)

/-- One walk behind the other. -/
theorem Source.Remembered.append {before between behind : Memo} {requests requests' : List String}
    (h : source.Remembered before requests between) (h' : source.Remembered between requests' behind) :
    source.Remembered before (requests ++ requests') behind where
  memo_eq := by rw [h'.memo_eq, h.memo_eq, Source.served_append, List.append_assoc]
  nodup hnodup := h'.nodup (h.nodup hnodup)

theorem Outcome.Remembers.after (ho : o.Remembers source memo) (hp : p.Remembers source o.memo) :
    (p.after o.events).Remembers source memo := by
  rw [Remembers, Outcome.requests_after]
  exact ho.append hp

/-! ## Trees -/

namespace Interruption

/-- What is remembered and what happened, whether there was room for all calls or not. -/
def trace : Except Interruption Outcome → Memo × List Event
  | .ok o => (o.memo, o.events)
  | .error i => (i.memo, i.events)

/-- An evaluation behind a memo remembers what the source gave. -/
def Remembers (source : Source) (memo : Memo) (r : Except Interruption Outcome) : Prop :=
  source.Remembered memo ((trace r).2.filterMap Event.request?) (trace r).1

variable {r : Except Interruption Outcome} {k : Outcome → Except Interruption Outcome}

/-- An evaluation that is interrupted has nothing behind it. -/
theorem Remembers.bind (h : Remembers source memo r)
    (hk : ∀ o : Outcome, o.Remembers source memo → Remembers source memo (k o)) :
    Remembers source memo (r >>= k) := by
  cases r with
  | ok o => exact hk o h
  | error i => exact h

theorem Remembers.after (ho : o.Remembers source memo) (h : Remembers source o.memo r) :
    Remembers source memo (after o.events r) := by
  cases r with
  | ok p => exact Outcome.Remembers.after ho h
  | error i =>
    show source.Remembered memo ((o.events ++ i.events).filterMap Event.request?) i.memo
    rw [List.filterMap_append]
    exact Source.Remembered.append ho h

end Interruption

open Interruption (Remembers)

theorem walkWithin_band_remembers (name : String) (room : ℕ) (memo : Memo) :
    Remembers env.source memo ((Node.band name).walkWithin env (room + 1) memo) := by
  have h := env.resolve_remembered name memo
  rw [Node.walkWithin]
  generalize env.resolve name memo = answer at h ⊢
  obtain ⟨result, memo', events⟩ := answer
  cases result <;> exact h

mutual

/-- Any node, behind any memo and with any room. -/
theorem walkWithin_remembers (env : Environment) : (n : Node) → (room : ℕ) → (memo : Memo) →
    Remembers env.source memo (n.walkWithin env room memo)
  | n, 0, memo => by
    rw [Node.walkWithin]
    exact .nil _ _
  | .number x, room + 1, memo => by
    rw [Node.walkWithin]
    exact .nil _ _
  | .boolean b, room + 1, memo => by
    rw [Node.walkWithin]
    exact .nil _ _
  | .value v, room + 1, memo => by
    rw [Node.walkWithin]
    exact .nil _ _
  | .band name, room + 1, memo => walkWithin_band_remembers name room memo
  | .unary op operand, room + 1, memo => by
    rw [Node.walkWithin]
    refine (walkWithin_remembers env operand room memo).bind fun o ho => ?_
    split <;> exact ho
  | .binary op left right, room + 1, memo => by
    rw [Node.walkWithin]
    refine (walkWithin_remembers env left room memo).bind fun l hl => ?_
    split
    · exact hl
    · refine Interruption.Remembers.bind (.after hl (walkWithin_remembers env right room l.memo))
        fun r hr => ?_
      split
      · exact hr
      · split <;> exact hr
  | .statement expression, room + 1, memo => by
    rw [Node.walkWithin]
    exact walkWithin_remembers env expression room memo
  | .block statements, 1, memo => by
    rw [Node.walkWithin]
    exact .nil _ _
  | .program statements, 1, memo => by
    rw [Node.walkWithin]
    exact .nil _ _
  | .block statements, room + 2, memo => by
    rw [Node.walkWithin]
    exact walkBlockWithin_remembers env statements .null room memo
  | .program statements, room + 2, memo => by
    rw [Node.walkWithin]
    exact walkProgramWithin_remembers env statements .null room memo

theorem walkBlockWithin_remembers (env : Environment) : (ss : List Node) → (last : Value) → (room : ℕ) →
    (memo : Memo) → Remembers env.source memo (Node.walkBlockWithin env ss last room memo)
  | [], last, room, memo => by
    rw [Node.walkBlockWithin]
    exact .nil _ _
  | s :: rest, last, room, memo => by
    rw [Node.walkBlockWithin]
    refine (walkWithin_remembers env s room memo).bind fun o ho => ?_
    split
    · exact ho
    · exact ho
    · exact .after ho (walkBlockWithin_remembers env rest _ room _)

theorem walkProgramWithin_remembers (env : Environment) : (ss : List Node) → (last : Value) →
    (room : ℕ) → (memo : Memo) →
    Remembers env.source memo (Node.walkProgramWithin env ss last room memo)
  | [], last, room, memo => by
    rw [Node.walkProgramWithin]
    exact .nil _ _
  | s :: rest, last, room, memo => by
    rw [Node.walkProgramWithin]
    refine (walkWithin_remembers env s room memo).bind fun o ho => ?_
    split
    · exact ho
    · show env.source.Remembered memo (Outcome.requests { o with events := o.events ++ _ }) o.memo
      rw [Outcome.requests_stopped]
      exact ho
    · exact .after ho (walkProgramWithin_remembers env rest _ room _)

end

/-- With room for all calls. -/
theorem walk_remembers (env : Environment) (n : Node) (memo : Memo) :
    (n.walk env memo).Remembers env.source memo := by
  have h := walkWithin_remembers env n n.height memo
  rwa [walkWithin_of_height_le (Nat.le_refl _)] at h

theorem walkProgram_remembers (env : Environment) (ss : List Node) (last : Value) (memo : Memo) :
    (Node.walkProgram env ss last memo).Remembers env.source memo := by
  have h := walkProgramWithin_remembers env ss last (Node.heightOfList ss) memo
  rwa [(walkProgramWithin_settles env ss last memo).eq_ok_of_bound_le (Nat.le_refl _)] at h

/-- Evaluating a node remembers what the source gave, also if there is no room for the node. -/
theorem evaluateWithin_remembers (env : Environment) (room : ℕ) (n : Node) :
    (env.evaluateWithin room n).Remembers env.source [] := by
  have h := walkWithin_remembers env n room []
  rw [Environment.evaluateWithin]
  generalize n.walkWithin env room [] = r at h ⊢
  cases r with
  | ok o => exact h
  | error i =>
    show env.source.Remembered [] ((i.events ++ [Event.outOfRoom]).filterMap Event.request?) i.memo
    rw [List.filterMap_append, List.filterMap_cons_none rfl, List.filterMap_nil, List.append_nil]
    exact h

end RasterAlgebra
