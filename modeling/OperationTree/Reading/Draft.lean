import OperationTree.Kind.Decode
import OperationTree.Operation

namespace OperationTree.Reading

open Json (Value)

inductive Field where
  | kind
  | span
  | children
  | payload (key : PayloadKey)
  deriving DecidableEq, Repr

namespace Field

def all : List Field :=
  [.kind, .span, .children, .payload .name, .payload .value, .payload .field, .payload .op,
    .payload .method]

def text : Field → String
  | .kind => "kind"
  | .span => "span"
  | .children => "children"
  | .payload key => key.text

def ofText? (text : String) : Option Field := all.find? (·.text == text)

end Field

/-- The tag and the payload are kept as values until the object ends: they may stand in any
order, and the tag decides what the payload must be. -/
structure Draft where
  tag : Option Value := none
  payloads : List (PayloadKey × Value) := []
  span : Option Span := none
  children : Option (List Operation) := none

namespace Draft

def payload? (d : Draft) (key : PayloadKey) : Option Value :=
  (d.payloads.find? (·.1 == key)).map (·.2)

def stray? (d : Draft) (kind : Kind) : Option PayloadKey :=
  PayloadKey.all.find? fun key => (d.payload? key).isSome && kind.payloadKey != some key

def finish (d : Draft) : Except ContentFault Operation := do
  let kind ← Kind.decode d.tag d.payload?
  match d.stray? kind with
  | some key => .error (.strayField key.text kind.name)
  | none => return ⟨kind, d.span.getD {}, d.children.getD []⟩

end Draft

inductive BoundField where
  | start | stop
  deriving DecidableEq, Repr

namespace BoundField

def text : BoundField → String
  | .start => "start"
  | .stop => "end"

def ofText? (text : String) : Option BoundField :=
  [BoundField.start, .stop].find? (·.text == text)

end BoundField

structure Bounds where
  start : Option UInt64 := none
  stop : Option UInt64 := none
  deriving DecidableEq, Repr

namespace Bounds

def get (b : Bounds) : BoundField → Option UInt64
  | .start => b.start
  | .stop => b.stop

def set (b : Bounds) (n : UInt64) : BoundField → Bounds
  | .start => { b with start := some n }
  | .stop => { b with stop := some n }

def finish (b : Bounds) : Except ContentFault Span :=
  match b.start, b.stop with
  | none, _ => .error (.missingField "start")
  | some _, none => .error (.missingField "end")
  | some start, some stop => .ok ⟨start, stop⟩

end Bounds

end OperationTree.Reading
