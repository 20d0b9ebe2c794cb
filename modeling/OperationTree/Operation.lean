import OperationTree.Kind
import OperationTree.Span

namespace OperationTree

structure Operation where
  kind : Kind
  span : Span := {}
  children : List Operation := []
  deriving Repr, Inhabited

namespace Operation

mutual
def decideEq : (s t : Operation) → Decidable (s = t)
  | ⟨k, p, cs⟩, ⟨l, q, ds⟩ =>
    if same : k = l ∧ p = q then
      match decideEqAll cs ds with
      | isTrue children => isTrue (by rw [same.1, same.2, children])
      | isFalse children => isFalse (by intro equal; cases equal; exact children rfl)
    else isFalse (by intro equal; cases equal; exact same ⟨rfl, rfl⟩)
def decideEqAll : (ss ts : List Operation) → Decidable (ss = ts)
  | [], [] => isTrue rfl
  | [], _ :: _ => isFalse (by simp)
  | _ :: _, [] => isFalse (by simp)
  | s :: ss, t :: ts =>
    match decideEq s t with
    | isFalse head => isFalse (by intro equal; cases equal; exact head rfl)
    | isTrue head =>
      match decideEqAll ss ts with
      | isTrue tail => isTrue (by rw [head, tail])
      | isFalse tail => isFalse (by intro equal; cases equal; exact tail rfl)
end

instance : DecidableEq Operation := decideEq

def new (kind : Kind) : Operation := { kind }

def withSpan (t : Operation) (span : Span) : Operation := { t with span }

def withChildren (t : Operation) (more : List Operation) : Operation :=
  { t with children := t.children ++ more }

def withChild (t : Operation) (child : Operation) : Operation := t.withChildren [child]

def ofLiteral (value : String) : Operation := new (.literal value)

def ofLocal (name : String) : Operation := new (.localReference name)

def ofBinary (op : BinaryOperator) (left right : Operation) : Operation :=
  (new (.binary op)).withChildren [left, right]

def placeholder (children : List Operation) : Operation := (new .none).withChildren children

def wrap (kind : Kind) : Nat → Operation → Operation
  | 0, t => t
  | levels + 1, t => wrap kind levels ((new kind).withChild t)

def nested (kind : Kind) (levels : Nat) : Operation := wrap kind (levels - 1) (new kind)

def isLeaf (t : Operation) : Bool := t.children.isEmpty

mutual
def size : Operation → Nat
  | ⟨_, _, children⟩ => 1 + sizeAll children
def sizeAll : List Operation → Nat
  | [] => 0
  | t :: ts => t.size + sizeAll ts
end

mutual
/-- The number of levels: a leaf has one. -/
def height : Operation → Nat
  | ⟨_, _, children⟩ => 1 + heightAll children
def heightAll : List Operation → Nat
  | [] => 0
  | t :: ts => max t.height (heightAll ts)
end

mutual
/-- Every operation before its children, and those in order, each with its level. -/
def preorder (level : Nat) : Operation → List (Operation × Nat)
  | ⟨kind, span, children⟩ =>
    (⟨kind, span, children⟩, level) :: preorderAll (level + 1) children
def preorderAll (level : Nat) : List Operation → List (Operation × Nat)
  | [] => []
  | t :: ts => preorder level t ++ preorderAll level ts
end

mutual
/-- Forgets empty spans, which is what writing and reading back loses. -/
def normal : Operation → Operation
  | ⟨kind, span, children⟩ =>
    ⟨kind, if span.isEmpty then .absent else span, normalAll children⟩
def normalAll : List Operation → List Operation
  | [] => []
  | t :: ts => t.normal :: normalAll ts
end

def at? (t : Operation) : List Nat → Option Operation
  | [] => some t
  | index :: path =>
    match t.children[index]? with
    | some child => child.at? path
    | none => none

/-- Takes pending operations from the end and puts their children there in their place, until
nothing is left. What was taken leads the result, stripped of its children. -/
def release : (fuel : Nat) → (pending : List Operation) → List Operation
  | 0, _ => []
  | fuel + 1, pending =>
    match pending.getLast? with
    | none => []
    | some t => { t with children := [] } :: release fuel (pending.dropLast ++ t.children)

def teardown (t : Operation) : List Operation := release t.size t.children

end Operation

end OperationTree
