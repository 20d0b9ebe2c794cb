import OperationTree.Operation

namespace OperationTree.Assembly

inductive Step where
  | new (kind : Kind)
  | literal (value : String)
  | localReference (name : String)
  | nested (kind : Kind) (levels : Nat)
  /-- Takes the right operand from the top, then the left. -/
  | binary (op : BinaryOperator)
  | placeholder (count : Nat)
  | span (span : Span)
  | child
  | children (count : Nat)
  | wrap (kind : Kind) (levels : Nat)
  deriving Repr

/-- The top comes first. -/
abbrev Stack : Type := List Operation

/-- The top `count` operations in the order in which they were pushed, and the others. -/
def take? (count : Nat) (stack : Stack) : Option (List Operation × Stack) :=
  if count ≤ stack.length then some ((stack.take count).reverse, stack.drop count) else none

def perform? (step : Step) (stack : Stack) : Option Stack :=
  match step, stack with
  | .new kind, _ => some (.new kind :: stack)
  | .literal value, _ => some (.ofLiteral value :: stack)
  | .localReference name, _ => some (.ofLocal name :: stack)
  | .nested kind levels, _ => some (.nested kind levels :: stack)
  | .binary op, right :: left :: rest => some (.ofBinary op left right :: rest)
  | .placeholder count, _ => do
    let (children, rest) ← take? count stack
    return .placeholder children :: rest
  | .span span, top :: rest => some (top.withSpan span :: rest)
  | .child, child :: top :: rest => some (top.withChild child :: rest)
  | .children count, _ => do
    match ← take? count stack with
    | (children, top :: rest) => return top.withChildren children :: rest
    | (_, []) => none
  | .wrap kind levels, top :: rest => some (top.wrap kind levels :: rest)
  | _, _ => none

def tops? : Stack → List Step → Option (List Operation)
  | _, [] => some []
  | stack, step :: steps => do
    match ← perform? step stack with
    | [] => none
    | top :: rest => return top :: (← tops? (top :: rest) steps)

def result? (steps : List Step) : Option Operation := do
  (← steps.foldlM (fun stack step => perform? step stack) []).head?

end OperationTree.Assembly
