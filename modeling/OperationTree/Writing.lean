import OperationTree.Json.Write
import OperationTree.Operation

namespace OperationTree

open Json (writeText writeMember writeObject writeArray)

def writeNatural (n : UInt64) : List Char := Nat.toDigits 10 n.toNat

def Kind.members (kind : Kind) : List (List Char) :=
  let tag := writeMember "kind" (writeText kind.tag.key)
  match kind.payloadKey, kind.written with
  | some key, some payload => [tag, writeMember key.text (writeText payload)]
  | _, _ => [tag]

def Span.members (span : Span) : List (List Char) :=
  if span.isEmpty then []
  else [writeMember "span" (writeObject
    [writeMember "start" (writeNatural span.start), writeMember "end" (writeNatural span.stop)])]

namespace Operation

def childMembers (children : List (List Char)) : List (List Char) :=
  if children.isEmpty then [] else [writeMember "children" (writeArray children)]

mutual
def write : Operation → List Char
  | ⟨kind, span, children⟩ =>
    writeObject (kind.members ++ span.members ++ childMembers (writeAll children))
def writeAll : List Operation → List (List Char)
  | [] => []
  | t :: ts => t.write :: writeAll ts
end

def toText (t : Operation) : String := String.ofList t.write

end Operation

def Kind.toText (kind : Kind) : String := String.ofList (writeObject kind.members)

end OperationTree
