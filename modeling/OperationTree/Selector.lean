import OperationTree.Operation

namespace OperationTree

inductive Selector where
  | always | never | leaf | placeholder
  | spanned
  | kindNamed (name : String)
  | payload (text : String)
  | minChildren (count : Nat)
  | covers (offset : UInt64)
  deriving DecidableEq, Repr, Inhabited

def Selector.holds : Selector → Operation → Bool
  | .always, _ => true
  | .never, _ => false
  | .leaf, t => t.isLeaf
  | .placeholder, t => t.kind.isPlaceholder
  | .spanned, t => !t.span.isEmpty
  | .kindNamed name, t => t.kind.name == name
  | .payload text, t => t.kind.payload == some text
  | .minChildren count, t => count ≤ t.children.length
  | .covers offset, t => t.span.covers offset

end OperationTree
