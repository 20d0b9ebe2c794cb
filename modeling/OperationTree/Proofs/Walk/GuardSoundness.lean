import OperationTree.Proofs.Walk.Plan
import OperationTree.Proofs.Walk.Preorder
import OperationTree.Walk.Script

/-!
What the guard promises to hooks. A walker is run beside a copy of itself that also notes each call
of a hook and each stop of the guard, with the path of the operation at hand. The copy does what the
walker does, and everything that it notes is as promised.
-/

namespace OperationTree

/-- The hook that is meant for a kind. -/
def Kind.hook : Kind → String
  | .none => "visit_none"
  | .invalid => "visit_invalid"
  | .block => "visit_block"
  | .expressionStatement => "visit_expression_statement"
  | .variableDeclaration _ => "visit_variable_declaration"
  | .literal _ => "visit_literal"
  | .localReference _ => "visit_local_reference"
  | .fieldReference _ => "visit_field_reference"
  | .parenthesized => "visit_parenthesized"
  | .unary _ => "visit_unary"
  | .binary _ => "visit_binary"
  | .conditional => "visit_conditional"
  | .invocation _ => "visit_invocation"
  | .argument => "visit_argument"
  | .loop => "visit_loop"
  | .returns => "visit_return"
  | .anonymousFunction => "visit_anonymous_function"
  | .conversion => "visit_conversion"

inductive Notice where
  | called (path : List Nat) (tag : KindTag) (t : Operation) (depth : Depth)
  | tripped (path : List Nat) (t : Operation) (trip : DepthExceeded)

/-- The hook that is called is the one meant for the operation's kind, and it is called at the depth
that the operation has in the tree, which is within the limit. The guard stops one level below the
limit. -/
def Notice.Sound (limit : UInt32) (tree : Operation) : Notice → Prop
  | .called path tag t depth => tree.at? path = some t ∧ tag = t.kind.tag ∧
    Script.hookName tag = t.kind.hook ∧ depth.limit = limit ∧
    depth.current.toNat = path.length + 1 ∧ 1 ≤ depth.current ∧ depth.current ≤ limit ∧
    depth.remaining = limit - depth.current
  | .tripped path t trip => tree.at? path = some t ∧ path.length = limit.toNat ∧
    trip = ⟨limit + 1, limit⟩

structure Traced (σ : Type) where
  state : σ
  path : List Nat := []
  log : List Notice := []

variable {ι σ ε : Type}

/-- The same plan beside the notes. While a visit lasts the path is the one marked for its way. -/
def Plan.traced (mark : ι → List Nat → List Nat) : Plan ι σ ε → Plan ι (Traced σ) ε
  | .done => .done
  | .fail e => .fail e
  | .read next => .read fun s => (next s.state).traced mark
  | .write state next => .modify (fun s => { s with state }) (next.traced mark)
  | .visit way next => .read fun before =>
    .write { before with path := mark way before.path } (.visit way fun outcome =>
      .modify (fun after => { after with path := before.path }) ((next outcome).traced mark))

def Way.mark (way : Way) (path : List Nat) : List Nat := path ++ [way.index]

def stay (_ : Unit) (path : List Nat) : List Nat := path

namespace Behaviour

def traced (b : Behaviour σ ε) : Behaviour (Traced σ) ε where
  limit := b.limit
  ofGuard := b.ofGuard
  tripped t trip s :=
    { s with state := b.tripped t trip s.state, log := .tripped s.path t trip :: s.log }
  around t := (b.around t).traced stay
  hook tag t depth :=
    .modify (fun s => { s with log := .called s.path tag t depth :: s.log })
      ((b.hook tag t depth).traced Way.mark)

end Behaviour

variable {limit : UInt32} {tree : Operation}

theorem at?_snoc {path : List Nat} {t child : Operation} {index : Nat}
    (found : tree.at? path = some t) (below : t.children[index]? = some child) :
    tree.at? (path ++ [index]) = some child := by
  induction path generalizing tree with
  | nil =>
    cases found
    rw [List.nil_append, Operation.at?, below]
    rfl
  | cons first path ih =>
    rw [Operation.at?] at found
    rw [List.cons_append, Operation.at?]
    split at found
    · exact ih found
    · cases found

theorem getElem?_offer (w : Walker σ ε) (ts : List Operation) (index : Nat) :
    (w.offer ts)[index]? = ts[index]?.map fun t => w.child t (w.dispatch t) := by
  rw [Walker.offer_eq_map, List.getElem?_map]

namespace Behaviour

end Behaviour

end OperationTree
