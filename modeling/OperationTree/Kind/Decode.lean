import OperationTree.Json.Fault
import OperationTree.Json.Value
import OperationTree.Kind

namespace OperationTree

open Json (Value)

def Json.Value.asText : Value → Except ContentFault String
  | .text s => .ok s
  | v => .error (.wrongType v.describe "a string")

namespace OperatorValue

/-- An operator stands as its key, or as the only key of an object. Repeats of a key count as
one, and the last content is the one that counts. -/
def parts : Value → Except ContentFault (String × Value)
  | .text key => .ok (key, .null)
  | .object [] => .error (.wrongValue "map" "map with a single key")
  | .object ((key, content) :: more) =>
    if more.all (·.1 == key) then .ok (key, (more.getLast?.map (·.2)).getD content)
    else .error (.wrongValue "map" "map with a single key")
  | v => .error (.wrongType v.describe "string or map")

def checkContent : Value → Except ContentFault Unit
  | .null | .object [] => .ok ()
  | v => .error (.wrongType v.describe "unit")

def decode {α : Type} (ofKey? : String → Option α) (known : List String) (v : Value) :
    Except ContentFault α := do
  let (key, content) ← parts v
  match ofKey? key with
  | none => .error (.unknownVariant key known)
  | some op =>
    checkContent content
    return op

end OperatorValue

def UnaryOperator.decode : Value → Except ContentFault UnaryOperator :=
  OperatorValue.decode ofKey? (all.map key)

def BinaryOperator.decode : Value → Except ContentFault BinaryOperator :=
  OperatorValue.decode ofKey? (all.map key)

def KindTag.decode : Value → Except ContentFault KindTag
  | .text key =>
    match ofKey? key with
    | some tag => .ok tag
    | Option.none => .error (.unknownVariant key (all.map KindTag.key))
  | v => .error (.wrongType v.describe "variant identifier")

namespace Kind

def ofTag (payload : PayloadKey → Except ContentFault Value) : KindTag → Except ContentFault Kind
  | .none => .ok .none
  | .invalid => .ok .invalid
  | .block => .ok .block
  | .expressionStatement => .ok .expressionStatement
  | .variableDeclaration => do return .variableDeclaration (← (← payload .name).asText)
  | .literal => do return .literal (← (← payload .value).asText)
  | .localReference => do return .localReference (← (← payload .name).asText)
  | .fieldReference => do return .fieldReference (← (← payload .field).asText)
  | .parenthesized => .ok .parenthesized
  | .unary => do return .unary (← UnaryOperator.decode (← payload .op))
  | .binary => do return .binary (← BinaryOperator.decode (← payload .op))
  | .conditional => .ok .conditional
  | .invocation => do return .invocation (← (← payload .method).asText)
  | .argument => .ok .argument
  | .loop => .ok .loop
  | .returns => .ok .returns
  | .anonymousFunction => .ok .anonymousFunction
  | .conversion => .ok .conversion

/-- Keys that the tag does not call for are not looked at. -/
def decode (tag : Option Value) (payload : PayloadKey → Option Value) :
    Except ContentFault Kind := do
  match tag with
  | Option.none => .error (.missingField "kind")
  | some tag =>
    ofTag (fun key => (payload key).elim (.error (.missingField key.text)) .ok)
      (← KindTag.decode tag)

def elements : Nat → String
  | 1 => "1 element in sequence"
  | n => toString n ++ " elements in sequence"

def ofItems : List Value → Except ContentFault Kind
  | [] => .error (.missingField "kind")
  | tag :: rest => do
    let tag ← KindTag.decode tag
    let kind ← ofTag (fun _ => rest.head?.elim
      (.error (.wrongLength 0 ("struct variant OperationKind::" ++ tag.name ++ " with 1 element")))
      .ok) tag
    let used := if tag.payloadKey.isSome then 1 else 0
    if used < rest.length then .error (.wrongLength rest.length (elements used))
    else return kind

def ofValue : Value → Except ContentFault Kind
  | .object members =>
    decode (Json.member? "kind" members) fun key => Json.member? key.text members
  | .array items => ofItems items
  | v => .error (.wrongType v.describe "internally tagged enum OperationKind")

end Kind

end OperationTree
