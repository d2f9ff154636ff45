import RasterAlgebra.Evaluation.Run
/-!
# Sessions

A session runs several steps in one environment. Between them bands can be put on the shelf and taken
away, and the memo can be filled, cleared and looked at. A session may also hold on to the bands that
were there when it began.
-/

namespace RasterAlgebra

/-- An environment over time. -/
structure Session where
  policy : DivisionPolicy
  shelf : Shelf
  /-- The bands that are served, if changes to the shelf are not to be seen. -/
  frozen : Option Shelf
  memo : Memo

/-- What can be done in a session. -/
inductive Session.Step where
  | run (source : String)
  | runChecked (source : String)
  | evaluate (node : Node)
  | resolve (band : String)
  | beginWalk
  | memoNames
  | put (band : String) (entry : Shelf.Entry)
  | remove (band : String)

/-- What a step yields. -/
inductive Session.Answer where
  | value (v : Value)
  | checked (result : Except RunError Value)
  | grid (result : Except SourceError Grid)
  | names (names : List String)
  | done

namespace Session

/-- A session at its beginning. -/
def start (policy : DivisionPolicy) (shelf : Shelf) (keep : Bool) : Session :=
  { policy, shelf, frozen := if keep then some shelf else none, memo := [] }

/-- The environment in which the next step runs. -/
def environment (s : Session) : Environment := ⟨s.policy, (s.frozen.getD s.shelf).source⟩

/-- One step: its answer, the bands that were asked for, and the session behind it. -/
def step [Host] (s : Session) : Step → Answer × List String × Session
  | .run source =>
    let o := s.environment.run source s.memo
    (.value o.value, o.requests, { s with memo := o.memo })
  | .runChecked source =>
    let o := s.environment.runChecked source s.memo
    (.checked o.result, o.events.filterMap Event.request?, { s with memo := o.memo })
  | .evaluate node =>
    let o := s.environment.evaluate node
    (.value o.value, o.requests, { s with memo := o.memo })
  | .resolve band =>
    let (result, memo, events) := s.environment.resolve band s.memo
    (.grid result, events.filterMap Event.request?, { s with memo })
  | .beginWalk => (.done, [], { s with memo := [] })
  | .memoNames => (.names s.memo.names, [], s)
  | .put band entry => (.done, [], { s with shelf := s.shelf.put band entry })
  | .remove band => (.done, [], { s with shelf := s.shelf.remove band })

end Session

end RasterAlgebra
