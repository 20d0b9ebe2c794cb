import OperationTree.Selector
import OperationTree.Walk.Walker

namespace OperationTree

inductive Failure where
  | guard (trip : DepthExceeded)
  | raised (message : String)
  deriving DecidableEq, Repr, Inhabited

def Failure.message : Failure → String
  | .guard trip => trip.message
  | .raised message => message

namespace Script

inductive Rule where
  | descend
  | silent
  | prune
  /-- Enters the children without what the walker puts around its visits. -/
  | direct
  | around
  | skip (count : Nat)
  | take (count : Nat)
  | only (selector : Selector)
  | reverse
  | twice
  | swallow
  | fail (message : String)
  | failIf (payload : String)
  | failAfter (message : String)
  /-- Visits the children at depth one, under the limit in force. -/
  | rewind
  /-- Visits the children as roots of walks of their own. -/
  | rewalk
  | relimit (limit : UInt32)
  /-- Runs the children's hooks at the depth of their parent. -/
  | inline
  | absent
  | budget
  deriving DecidableEq, Repr, Inhabited

inductive Event where
  | recorded (kind : String) (depth : UInt32)
  | hooked (hook : String) (depth remaining : UInt32)
  | exited (depth remaining : UInt32)
  | caught (failure : Failure)
  deriving DecidableEq, Repr, Inhabited

/-- The latest event comes first. -/
structure Session where
  events : List Event := []
  budget : Nat := 0
  deriving Repr, Inhabited

abbrev Act : Type := Run Session Failure Unit

def record (e : Event) : Act := modify fun s => { s with events := e :: s.events }

def hookName (tag : KindTag) : String := "visit_" ++ tag.key

def catchEach (depth : Depth) (children : List (Child Session Failure)) : Act :=
  children.forM fun child => tryCatch (child.visit depth) fun e => record (.caught e)

def perform (limit : UInt32) (rule : Rule) : Hook Session Failure := fun t depth children =>
  match rule with
  | .descend | .silent | .budget => visitAll children depth
  | .prune | .absent => pure ()
  | .direct => children.forM fun child => child.enter depth
  | .around => do
    tryCatch (visitAll children depth) fun e => do
      record (.exited depth.current depth.remaining)
      throw e
    record (.exited depth.current depth.remaining)
  | .skip count => visitAll (children.drop count) depth
  | .take count => visitAll (children.take count) depth
  | .only selector => visitAll (children.filter fun child => selector.holds child.operation) depth
  | .reverse => visitAll children.reverse depth
  | .twice => visitAll (children ++ children) depth
  | .swallow => catchEach depth children
  | .fail message => throw (.raised message)
  | .failIf payload =>
    if t.kind.payload = some payload then throw (.raised payload) else visitAll children depth
  | .failAfter message => do
    visitAll children depth
    throw (.raised message)
  | .rewind => visitAll children (Depth.root depth.limit)
  | .rewalk => visitAll children (Depth.root limit)
  | .relimit other => visitAll children (Depth.root other)
  | .inline => children.forM fun child => child.dispatch depth

def follow (limit : UInt32) (rule : Rule) : Hook Session Failure := fun t depth children => do
  let hooked := record (.hooked (hookName t.kind.tag) depth.current depth.remaining)
  match rule with
  | .silent => perform limit rule t depth children
  | .budget =>
    if (← get).budget = 0 then return
    modify fun s => { s with budget := s.budget - 1 }
    hooked
    perform limit rule t depth children
  | _ =>
    hooked
    perform limit rule t depth children

end Script

/-- Rules by the name of a kind; a star stands for the kinds that are not named. -/
structure Script where
  rules : List (String × Script.Rule) := []
  deriving Repr, Inhabited

namespace Script

def rule (s : Script) (kind : String) : Rule :=
  ((s.rules.lookup kind).or (s.rules.lookup "*")).getD .descend

def walker (s : Script) (limit : UInt32) : Walker Session Failure where
  limit := limit
  ofGuard := .guard
  hook tag := follow limit (s.rule tag.name)

def recorder (limit : UInt32) : Walker Session Failure where
  limit := limit
  ofGuard := .guard
  hook tag _ depth children := do
    record (.recorded tag.name depth.current)
    visitAll children depth

def bare (limit : UInt32) : Walker Session Failure where
  limit := limit
  ofGuard := .guard

structure Report where
  outcome : Except Failure Unit
  events : List Event
  budget : Nat

/-- One walker walks the roots in turn. Each report holds the events of its own walk, and the
budget goes on from walk to walk. -/
def walks (w : Walker Session Failure) : (budget : Nat) → List (Option Operation) → List Report
  | _, [] => []
  | budget, root :: roots =>
    let (outcome, session) := w.run root { budget }
    ⟨outcome, session.events.reverse, session.budget⟩ :: walks w session.budget roots

end Script

end OperationTree
