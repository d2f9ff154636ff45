import RasterAlgebra.Proofs.Evaluation.Remembering
import RasterAlgebra.Session

/-!
# The history of a session

A session is followed through any steps in any order. Its memo is what the source gave since the memo was
last cleared (`memo_after`), and evaluating a text or a node does not show what it holds: the answer and
the requests are those of a new session with the bands of that moment (`ask_of_evaluates`,
`environment_after`). A session that keeps its bands behaves as one whose shelf was never changed
(`after_filter`). Together these are `memo_invisible_between_walks`.
-/

namespace RasterAlgebra

namespace Session

section
variable [Host]

/-! ## Steps and their history -/

/-- The session behind some steps. -/
def after (s : Session) : List Step → Session
  | [] => s
  | step :: rest => (s.step step).2.2.after rest

/-- What a step answers, and the bands that it asks for. -/
def ask (s : Session) (step : Step) : Answer × List String := ((s.step step).1, (s.step step).2.1)

namespace Step

/-- Steps that read a text or are given a node, and evaluate it. -/
def evaluates : Step → Bool
  | run _ | runChecked _ | evaluate _ => true
  | _ => false

/-- Steps that change what is on the shelf. -/
def changesShelf : Step → Bool
  | put _ _ | remove _ => true
  | _ => false

/-- Steps that forget what was remembered before them. A text with a fault is not evaluated and does not. -/
def clears : Step → Bool
  | run source | runChecked source => (parse source).faults.isEmpty
  | evaluate _ | beginWalk => true
  | _ => false

/-- What is still remembered when a step sets out. -/
def keep (step : Step) (memo : Memo) : Memo := if step.clears then [] else memo

/-- The shelf behind a step. -/
def onShelf (shelf : Shelf) : Step → Shelf
  | put band entry => shelf.put band entry
  | remove band => shelf.remove band
  | _ => shelf

end Step

/-- What the source gave since the memo was last cleared: first what is `given` before the steps, then the
grids that were given for the requests of each step, by the source of that moment. -/
def servedSince (s : Session) (given : Memo) : List Step → Memo
  | [] => given
  | step :: rest =>
    (s.step step).2.2.servedSince
      (step.keep given ++ s.environment.source.served (s.step step).2.1) rest

/-! ## One step -/

/-- A step changes the memo and the shelf, and nothing else. -/
theorem step_eq (s : Session) (step : Step) :
    (s.step step).2.2 =
      { s with memo := (s.step step).2.2.memo, shelf := step.onShelf s.shelf } := by
  cases step <;> rfl

/-- A text without a fault is evaluated with nothing remembered, and one with a fault not at all. -/
theorem run_remembered (env : Environment) (source : String) (memo : Memo) :
    env.source.Remembered ((Step.run source).keep memo) (env.run source memo).requests
      (env.run source memo).memo := by
  by_cases hread : (parse source).faults = []
  · have hclears : (Step.run source).clears = true := List.isEmpty_iff.mpr hread
    rw [Step.keep, if_pos hclears, run_of_read hread]
    exact walk_remembers env _ []
  · have hclears : ¬ (Step.run source).clears = true := mt List.isEmpty_iff.mp hread
    rw [Step.keep, if_neg hclears, run_of_faults hread]
    exact .nil _ _

/-- The memo behind a step is the one before it, unless the step clears it, and what the source gave. -/
theorem step_remembered (s : Session) (step : Step) :
    s.environment.source.Remembered (step.keep s.memo) (s.step step).2.1 (s.step step).2.2.memo := by
  cases step with
  | run source => exact run_remembered s.environment source s.memo
  | runChecked source =>
    obtain ⟨hmemo, hevents⟩ := runChecked_memo_events s.environment source s.memo
    show s.environment.source.Remembered ((Step.run source).keep s.memo)
      ((s.environment.runChecked source s.memo).events.filterMap Event.request?)
      (s.environment.runChecked source s.memo).memo
    rw [hmemo, hevents]
    exact run_remembered s.environment source s.memo
  | evaluate node => exact evaluateWithin_remembers _ _ node
  | resolve band => exact s.environment.resolve_remembered band s.memo
  | beginWalk => exact .nil _ _
  | memoNames => exact .nil _ _
  | put band entry => exact .nil _ _
  | remove band => exact .nil _ _

/-- A text with a fault asks for nothing and leaves the session as it is. -/
theorem step_of_faults (s : Session) {source : String} (hfaults : (parse source).faults ≠ []) :
    ∀ step ∈ [Step.run source, .runChecked source], (s.step step).2 = ([], s) := by
  intro step hstep
  rcases List.mem_pair.mp hstep with rfl | rfl
  · show ((s.environment.run source s.memo).requests,
      { s with memo := (s.environment.run source s.memo).memo }) = ([], s)
    rw [run_of_faults hfaults]
    rfl
  · show ((s.environment.runChecked source s.memo).events.filterMap Event.request?,
      { s with memo := (s.environment.runChecked source s.memo).memo }) = ([], s)
    rw [runChecked_of_faults hfaults]
    rfl

/-- Evaluating does not show what is remembered. -/
theorem ask_of_evaluates {s t : Session} (henv : s.environment = t.environment) {step : Step}
    (hstep : step.evaluates) : s.ask step = t.ask step := by
  cases step with
  | run source =>
    show (Answer.value (s.environment.run source s.memo).value,
        (s.environment.run source s.memo).requests) =
      (.value (t.environment.run source t.memo).value, (t.environment.run source t.memo).requests)
    rw [henv]
    by_cases hread : (parse source).faults = []
    · rw [run_of_read hread, run_of_read hread]
    · rw [run_of_faults hread, run_of_faults hread]
      rfl
  | runChecked source =>
    show (Answer.checked (s.environment.runChecked source s.memo).result,
        (s.environment.runChecked source s.memo).events.filterMap Event.request?) =
      (.checked (t.environment.runChecked source t.memo).result,
        (t.environment.runChecked source t.memo).events.filterMap Event.request?)
    rw [henv]
    by_cases hread : (parse source).faults = []
    · rw [runChecked_of_read hread, runChecked_of_read hread]
    · rw [runChecked_of_faults hread, runChecked_of_faults hread]
  | evaluate node =>
    show (Answer.value (s.environment.evaluate node).value, (s.environment.evaluate node).requests) =
      (.value (t.environment.evaluate node).value, (t.environment.evaluate node).requests)
    rw [henv]
  | resolve | beginWalk | memoNames | put | remove => simp [Step.evaluates] at hstep

/-- Two sessions that serve and remember the same answer every step in the same way, and still remember
the same behind it. -/
theorem step_congr {s t : Session} (henv : s.environment = t.environment) (hmemo : s.memo = t.memo)
    (step : Step) : s.ask step = t.ask step ∧ (s.step step).2.2.memo = (t.step step).2.2.memo := by
  cases step <;> simp [ask, Session.step, henv, hmemo]

/-- A session that keeps its bands serves the same behind every step. -/
theorem step_environment_of_frozen {s : Session} (hfrozen : s.frozen.isSome) (step : Step) :
    (s.step step).2.2.environment = s.environment ∧ (s.step step).2.2.frozen.isSome := by
  rw [step_eq]
  obtain ⟨shelf, hshelf⟩ := Option.isSome_iff_exists.mp hfrozen
  simp [environment, hshelf]

/-- A step that leaves the shelf alone leaves the source alone. -/
theorem step_environment_of_not_changesShelf (s : Session) {step : Step}
    (hstep : step.changesShelf = false) : (s.step step).2.2.environment = s.environment := by
  rw [step_eq]
  cases step with
  | put | remove => simp [Step.changesShelf] at hstep
  | run | runChecked | evaluate | resolve | beginWalk | memoNames => rfl

/-! ## Any steps -/

/-- Behind any steps, the memo is what the source gave since it was last cleared, and has no band twice. -/
theorem memo_after {s : Session} (hnodup : s.memo.bands.Nodup) (steps : List Step) :
    (s.after steps).memo = s.servedSince s.memo steps ∧ (s.after steps).memo.bands.Nodup := by
  induction steps generalizing s with
  | nil => exact ⟨rfl, hnodup⟩
  | cons step rest ih =>
    have hstep := s.step_remembered step
    have hbefore : (step.keep s.memo).bands.Nodup := by
      unfold Step.keep
      split
      · exact List.nodup_nil
      · exact hnodup
    -- what is given to the other steps is the memo behind this one
    rw [after, servedSince, ← hstep.memo_eq]
    exact ih (hstep.nodup hbefore)

/-- Any steps change the memo and the shelf, and nothing else. -/
theorem after_eq (s : Session) (steps : List Step) :
    s.after steps =
      { s with memo := (s.after steps).memo, shelf := steps.foldl Step.onShelf s.shelf } := by
  induction steps generalizing s with
  | nil => rfl
  | cons step rest ih =>
    rw [after, ih, step_eq]
    rfl

/-- What is served behind any steps. -/
theorem environment_after (policy : DivisionPolicy) (shelf : Shelf) (keep : Bool)
    (steps : List Step) :
    ((start policy shelf keep).after steps).environment =
      ⟨policy, (if keep then shelf else steps.foldl Step.onShelf shelf).source⟩ := by
  rw [after_eq]
  cases keep <;> rfl

/-- Changes to the shelf of a session that keeps its bands could as well be left out. -/
theorem after_filter {s t : Session} (hfrozen : s.frozen.isSome)
    (henv : s.environment = t.environment) (hmemo : s.memo = t.memo) (steps : List Step) :
    (s.after steps).environment = (t.after (steps.filter (!·.changesShelf))).environment ∧
      (s.after steps).memo = (t.after (steps.filter (!·.changesShelf))).memo := by
  induction steps generalizing s t with
  | nil => exact ⟨henv, hmemo⟩
  | cons step rest ih =>
    obtain ⟨hsenv, hsfrozen⟩ := step_environment_of_frozen hfrozen step
    cases hstep : step.changesShelf with
    | true =>
      have hsmemo : (s.step step).2.2.memo = s.memo := by
        cases step with
        | put | remove => rfl
        | run | runChecked | evaluate | resolve | beginWalk | memoNames =>
          simp [Step.changesShelf] at hstep
      rw [List.filter_cons_of_neg (by simp [hstep])]
      exact ih hsfrozen (hsenv.trans henv) (hsmemo.trans hmemo)
    | false =>
      -- both sessions take the step, and go on with the same source and the same memo
      have htenv := t.step_environment_of_not_changesShelf hstep
      rw [List.filter_cons_of_pos (by simp [hstep])]
      exact ih hsfrozen (hsenv.trans (henv.trans htenv.symm)) (step_congr henv hmemo step).2

/-- A session behind any steps, with bands that are kept as they were at the beginning or not.

Whatever is evaluated next has the answer and the requests that it has in a new session with the bands
of that moment. The memo holds the bands that the source gave since it was last cleared, each with the
grid that was given and none twice. A text with a fault asks for nothing and leaves the session as it is.
If the bands are kept, every step is answered as if the shelf had never been changed. -/
theorem memo_invisible_between_walks (policy : DivisionPolicy) (shelf : Shelf) (keep : Bool)
    (steps : List Step) :
    (∀ step : Step, step.evaluates →
      ((start policy shelf keep).after steps).ask step =
        (start policy (if keep then shelf else steps.foldl Step.onShelf shelf) false).ask step) ∧
    ((start policy shelf keep).after steps).memo =
      (start policy shelf keep).servedSince [] steps ∧
    ((start policy shelf keep).after steps).memo.bands.Nodup ∧
    (∀ source, (parse source).faults ≠ [] → ∀ step ∈ [Step.run source, .runChecked source],
      (((start policy shelf keep).after steps).step step).2 =
        ([], (start policy shelf keep).after steps)) ∧
    (keep → ∀ step : Step, step.changesShelf = false →
      ((start policy shelf keep).after steps).ask step =
        ((start policy shelf false).after (steps.filter (!·.changesShelf))).ask step) := by
  obtain ⟨hmemo, hnodup⟩ := memo_after (s := start policy shelf keep) List.nodup_nil steps
  refine ⟨fun step hstep => ?_, hmemo, hnodup, fun source hfaults => step_of_faults _ hfaults, ?_⟩
  · exact ask_of_evaluates (environment_after policy shelf keep steps) hstep
  · rintro rfl step -
    obtain ⟨henv, hmemo⟩ := after_filter (s := start policy shelf true)
      (t := start policy shelf false) rfl rfl rfl steps
    exact (step_congr henv hmemo step).1

end

/-- A shelf with one band of one cell. -/
def oneBand (x : Sample) : Shelf :=
  [("a", .grid
    { cellType := .float32, width := 1, height := 1, noData := 0, cells := #[x]
      width_pos := Nat.one_pos
      height_pos := Nat.one_pos
      size_cells := rfl })]

/-- The band is had, taken away, asked for in vain, and evaluated together with one that is missing. -/
def removal : List Step := [.resolve "a", .remove "a", .resolve "a", .run "a + b", .beginWalk, .resolve "a"]

theorem memo_invisible_between_walks_removal :
    (Step.run "a * 2").evaluates = true ∧ (parse "a + ;").faults ≠ [] ∧
    (Step.resolve "a").changesShelf = false ∧
    ((start .ieee (oneBand 3) true).after removal).ask (.run "a * 2") =
      (start .ieee (oneBand 3) false).ask (.run "a * 2") ∧
    ((start .ieee (oneBand 3) true).after removal).memo =
      (start .ieee (oneBand 3) true).servedSince [] removal ∧
    (((start .ieee (oneBand 3) true).after removal).step (.run "a + ;")).2 =
      ([], (start .ieee (oneBand 3) true).after removal) ∧
    ((start .ieee (oneBand 3) true).after removal).ask (.resolve "a") =
      ((start .ieee (oneBand 3) false).after (removal.filter (!·.changesShelf))).ask
        (.resolve "a") := by
  have hfaults : (parse "a + ;").faults ≠ [] := by decide +kernel
  obtain ⟨hwalk, hmemo, -, hfault, hkeep⟩ :=
    memo_invisible_between_walks .ieee (oneBand 3) true removal
  exact ⟨rfl, hfaults, rfl, hwalk (.run "a * 2") rfl, hmemo,
    hfault "a + ;" hfaults (.run "a + ;") List.mem_cons_self, hkeep rfl (.resolve "a") rfl⟩

end Session

end RasterAlgebra
