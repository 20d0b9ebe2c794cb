import OperationTree.Json.NumberScan
import OperationTree.Json.TextScan
import OperationTree.Reading.Draft

/-!
States of the reader. Nesting is held as data, so that a document may be nested to any depth:
a value that is being read knows what awaits it, and that in turn knows what awaits it.
-/

namespace OperationTree.Reading

open Json (Value TextScan NumberScan NumberSkim WordScan)

/-- What a value is read as. A skipped value is only checked to be one. -/
inductive Goal where
  | operation | children | span | bound | value | skipped
  deriving DecidableEq, Repr

abbrev Goal.Result : Goal → Type
  | .operation => Operation
  | .children => List Operation
  | .span => Span
  | .bound => UInt64
  | .value => Value
  | .skipped => Unit

/-- What is done with a value once it has been read. Lists hold their latest element first. -/
inductive Awaiting : Goal → Type where
  | document : Awaiting .operation
  | child (done : List Operation) (outer : Awaiting .children) : Awaiting .operation
  | children (draft : Draft) (outer : Awaiting .operation) : Awaiting .children
  | span (draft : Draft) (outer : Awaiting .operation) : Awaiting .span
  | tag (draft : Draft) (outer : Awaiting .operation) : Awaiting .value
  | payload (draft : Draft) (key : PayloadKey) (outer : Awaiting .operation) : Awaiting .value
  | bound (bounds : Bounds) (field : BoundField) (outer : Awaiting .span) : Awaiting .bound
  | foreign (bounds : Bounds) (outer : Awaiting .span) : Awaiting .skipped
  | firstBound (outer : Awaiting .span) : Awaiting .bound
  | secondBound (start : UInt64) (outer : Awaiting .span) : Awaiting .bound
  | item (done : List Value) (outer : Awaiting .value) : Awaiting .value
  | member (done : List (String × Value)) (key : String) (outer : Awaiting .value) :
      Awaiting .value
  | skippedItem (outer : Awaiting .skipped) : Awaiting .skipped
  | skippedMember (outer : Awaiting .skipped) : Awaiting .skipped

inductive Record where
  | operation (draft : Draft) (outer : Awaiting .operation)
  | span (bounds : Bounds) (outer : Awaiting .span)
  | object (done : List (String × Value)) (outer : Awaiting .value)
  | skipped (outer : Awaiting .skipped)

inductive Row where
  | children (done : List Operation) (outer : Awaiting .children)
  | noBound (outer : Awaiting .span)
  | oneBound (start : UInt64) (outer : Awaiting .span)
  | array (done : List Value) (outer : Awaiting .value)
  | skipped (outer : Awaiting .skipped)

inductive Phase where
  | opened | filled | separated
  deriving DecidableEq, Repr

inductive State where
  | value (goal : Goal) (k : Awaiting goal)
  | colon (goal : Goal) (k : Awaiting goal)
  | record (phase : Phase) (r : Record)
  | row (phase : Phase) (r : Row)
  | pair (span : Span) (outer : Awaiting .span)
  | surplus
  | key (r : Record) (scan : TextScan)
  | text (goal : Goal) (k : Awaiting goal) (scan : TextScan)
  | word (goal : Goal) (k : Awaiting goal) (scan : WordScan Value)
  | number (goal : Goal) (k : Awaiting goal) (scan : NumberScan)
  | skippedNumber (k : Awaiting .skipped) (skim : NumberSkim)
  /-- The object is at fault; the fault is reported after its brace if that comes next. -/
  | closing (fault : ContentFault)
  | complete (t : Operation)

def State.initial : State := .value .operation .document

def Awaiting.resume : {goal : Goal} → Awaiting goal → goal.Result → State
  | _, .document, t => .complete t
  | _, .child done outer, t => .row .filled (.children (t :: done) outer)
  | _, .children draft outer, ts =>
    .record .filled (.operation { draft with children := some ts } outer)
  | _, .span draft outer, s => .record .filled (.operation { draft with span := some s } outer)
  | _, .tag draft outer, v =>
    if draft.tag.isSome then .closing (.duplicateField "kind")
    else .record .filled (.operation { draft with tag := some v } outer)
  | _, .payload draft key outer, v =>
    if (draft.payload? key).isSome then .closing (.duplicateField key.text)
    else .record .filled (.operation { draft with payloads := (key, v) :: draft.payloads } outer)
  | _, .bound bounds field outer, n => .record .filled (.span (bounds.set n field) outer)
  | _, .foreign bounds outer, _ => .record .filled (.span bounds outer)
  | _, .firstBound outer, n => .row .filled (.oneBound n outer)
  | _, .secondBound start outer, n => .pair ⟨start, n⟩ outer
  | _, .item done outer, v => .row .filled (.array (v :: done) outer)
  | _, .member done key outer, v => .record .filled (.object ((key, v) :: done) outer)
  | _, .skippedItem outer, _ => .row .filled (.skipped outer)
  | _, .skippedMember outer, _ => .record .filled (.skipped outer)

end OperationTree.Reading
