import OperationTree.Text.Basic
import OperationTree.Walk.Script
import OperationTree.Walk.Threaded

namespace OperationTree

namespace ThreadedScript

inductive Rule where
  | descend
  | prune
  | hit (value : Int64)
  | arg
  | depth
  | parse
  | compare (payload : String)
  | first
  | last
  | direct
  /-- Adds up the children; one without a result ends it without a result. -/
  | sum
  | total
  | derive (offset : Int64)
  | skip (count : Nat)
  | after (value : Int64)
  | rewind
  | swallow
  | inline
  | fail (message : String)
  | rewalk
  deriving DecidableEq, Repr, Inhabited

inductive Event where
  | recorded (kind : String) (arg : Int64) (depth : UInt32)
  | hooked (hook : String) (arg : Int64) (depth : UInt32)
  | caught (failure : Failure)
  deriving DecidableEq, Repr, Inhabited

abbrev Session : Type := List Event

abbrev Ways : Type := ThreadedChild Int64 Int64 Session Failure

abbrev Act : Type := Run Session Failure (Option Int64)

def record (e : Event) : Run Session Failure Unit := modify (e :: ·)

def visitOne (child : Option Ways) (arg : Int64) (depth : Depth) : Act :=
  child.elim (pure none) fun child => child.visit arg depth

def sum (arg : Int64) (depth : Depth) (sofar : Int64) : List Ways → Act
  | [] => pure (some sofar)
  | child :: rest => do
    match ← child.visit arg depth with
    | none => return none
    | some n => sum arg depth (sofar + n) rest

def total (arg : Int64) (depth : Depth) (sofar : Int64) : List Ways → Act
  | [] => pure (some sofar)
  | child :: rest => do
    let n ← child.visit arg depth
    total arg depth (sofar + n.getD 0) rest

/-- The result of the last child that does not fail. -/
def lastCaught (arg : Int64) (depth : Depth) (sofar : Option Int64) : List Ways → Act
  | [] => pure sofar
  | child :: rest => do
    let next ← tryCatch (child.visit arg depth) fun e => do
      record (.caught e)
      return sofar
    lastCaught arg depth next rest

def lastInline (arg : Int64) (depth : Depth) (sofar : Option Int64) : List Ways → Act
  | [] => pure sofar
  | child :: rest => do
    let next ← child.dispatch arg depth
    lastInline arg depth next rest

def perform (limit : UInt32) (rule : Rule) : ThreadedHook Int64 Int64 Session Failure :=
  fun t arg depth children =>
    match rule with
    | .descend => ThreadedHook.descend t arg depth children
    | .prune => pure none
    | .hit value => pure (some value)
    | .arg => pure (some arg)
    | .depth => pure (some (Int64.ofNat depth.current.toNat))
    | .parse => pure (t.kind.payload.bind Text.integer64?)
    | .compare payload => pure (some (if t.kind.payload = some payload then 1 else 0))
    | .first => visitOne children.head? arg depth
    | .last => visitOne children.getLast? arg depth
    | .direct => children.head?.elim (pure none) fun child => child.enter arg depth
    | .sum => sum arg depth 0 children
    | .total => total arg depth 0 children
    | .derive offset => do
      visitAllWith children (arg + offset) depth
      return none
    | .skip count => do
      visitAllWith (children.drop count) arg depth
      return none
    | .after value => do
      visitAllWith children arg depth
      return some value
    | .rewind => do
      visitAllWith children arg (Depth.root depth.limit)
      return none
    | .swallow => lastCaught arg depth none children
    | .inline => lastInline arg depth none children
    | .fail message => throw (.raised message)
    | .rewalk => visitOne children.head? (arg + 1) (Depth.root limit)

def follow (limit : UInt32) (rule : Rule) : ThreadedHook Int64 Int64 Session Failure :=
  fun t arg depth children => do
    record (.hooked (Script.hookName t.kind.tag) arg depth.current)
    perform limit rule t arg depth children

end ThreadedScript

structure ThreadedScript where
  rules : List (String × ThreadedScript.Rule) := []
  deriving Repr, Inhabited

namespace ThreadedScript

def rule (s : ThreadedScript) (kind : String) : Rule :=
  ((s.rules.lookup kind).or (s.rules.lookup "*")).getD .descend

abbrev IntegerWalker : Type := ThreadedWalker Int64 Int64 Session Failure

def walker (s : ThreadedScript) (limit : UInt32) : IntegerWalker where
  limit := limit
  ofGuard := .guard
  hook tag := follow limit (s.rule tag.name)

def recorder (limit : UInt32) : IntegerWalker where
  limit := limit
  ofGuard := .guard
  hook tag t arg depth children := do
    record (.recorded tag.name arg depth.current)
    ThreadedHook.descend t arg depth children

def bare (limit : UInt32) : IntegerWalker where
  limit := limit
  ofGuard := .guard

structure Report where
  outcome : Except Failure (Option Int64)
  events : List Event

/-- Each root is walked afresh, with an argument one higher than the root before it. -/
def walks (w : IntegerWalker) : (arg : Int64) → List (Option Operation) → List Report
  | _, [] => []
  | arg, root :: roots =>
    let (outcome, events) := w.run root arg []
    ⟨outcome, events.reverse⟩ :: walks w (arg + 1) roots

end ThreadedScript

end OperationTree
