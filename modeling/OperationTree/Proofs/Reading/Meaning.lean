import OperationTree.Json.Fault
import OperationTree.Reading.Draft

namespace OperationTree

open Json (Value Fault)

namespace Reading

def asData {α : Type} (result : Except ContentFault α) : Except Fault α :=
  result.mapError Fault.data

def boundOf : Value → Except ContentFault UInt64
  | .number (.natural n) => .ok n
  | .number (.negative n) => .error (.wrongValue (Value.number (.negative n)).describe "usize")
  | v => .error (.wrongType v.describe "usize")

def Bounds.absorb (b : Bounds) (member : String × Value) : Except ContentFault Bounds :=
  match BoundField.ofText? member.1 with
  | none => .ok b
  | some field =>
    if (b.get field).isSome then .error (.duplicateField field.text)
    else (boundOf member.2).map fun n => b.set n field

/-- A third element is a fault of the text. -/
def pairOf : List Value → Except Fault Span
  | [] => .error (.data (.wrongLength 0 "struct Span with 2 elements"))
  | [first] => do
    let _ ← asData (boundOf first)
    .error (.data (.wrongLength 1 "struct Span with 2 elements"))
  | first :: second :: more => do
    let start ← asData (boundOf first)
    let stop ← asData (boundOf second)
    if more.isEmpty then return ⟨start, stop⟩ else .error (.syntactic .trailingCharacters)

end Reading

open Reading

def Span.ofValue : Value → Except Fault Span
  | .object members => asData (members.foldlM Bounds.absorb {} >>= Bounds.finish)
  | .array items => pairOf items
  | v => .error (.data (.wrongType v.describe "struct Span"))

def Reading.Draft.absorb (draft : Draft) (key : String) (v : Value)
    (children : Except Fault (List Operation)) : Except Fault Draft :=
  match Field.ofText? key with
  | none => .error (.data (.unknownField key (Field.all.map Field.text)))
  | some .kind =>
    if draft.tag.isSome then .error (.data (.duplicateField "kind"))
    else .ok { draft with tag := some v }
  | some (.payload payload) =>
    if (draft.payload? payload).isSome then .error (.data (.duplicateField payload.text))
    else .ok { draft with payloads := (payload, v) :: draft.payloads }
  | some .span =>
    if draft.span.isSome then .error (.data (.duplicateField "span"))
    else (Span.ofValue v).map fun span => { draft with span := some span }
  | some .children =>
    if draft.children.isSome then .error (.data (.duplicateField "children"))
    else children.map fun ts => { draft with children := some ts }

namespace Operation

mutual
def ofValue : Value → Except Fault Operation
  | .object members => ofMembers {} members
  | v => .error (.data (.wrongType v.describe "an operation object"))
def ofMembers (draft : Draft) : List (String × Value) → Except Fault Operation
  | [] => asData draft.finish
  | (key, v) :: later => do
    let next ← draft.absorb key v (childrenOf v)
    ofMembers next later
def childrenOf : Value → Except Fault (List Operation)
  | .array items => ofItems items
  | v => .error (.data (.wrongType v.describe "a sequence"))
def ofItems : List Value → Except Fault (List Operation)
  | [] => .ok []
  | v :: later => do
    let t ← ofValue v
    let ts ← ofItems later
    return t :: ts
end

end Operation

end OperationTree
