import OperationTree.Depth
import OperationTree.Operation

/-!
Guarded walks in pre-order. A hook is chosen by the kind of the operation at hand; it sees the
operation, the depth it was entered at, and the ways into its children.
-/

namespace OperationTree

/-- Steps of a walk: they change a state that outlives a failure. -/
abbrev Run (σ ε α : Type) : Type := ExceptT ε (StateM σ) α

/-- The ways into a child from its parent's hook, each from the parent's depth. -/
structure Child (σ ε : Type) where
  operation : Operation
  /-- Runs the child's hook at the parent's own depth. -/
  dispatch : Depth → Run σ ε Unit
  /-- Enters a level and then runs the child's hook. -/
  enter : Depth → Run σ ε Unit
  /-- Enters a level the walker's own way. -/
  visit : Depth → Run σ ε Unit

abbrev Hook (σ ε : Type) : Type := Operation → Depth → List (Child σ ε) → Run σ ε Unit

variable {σ ε : Type}

def visitAll (children : List (Child σ ε)) (depth : Depth) : Run σ ε Unit :=
  children.forM fun child => child.visit depth

def Hook.descend : Hook σ ε := fun _ depth children => visitAll children depth

structure Walker (σ ε : Type) where
  limit : UInt32 := Depth.defaultLimit
  ofGuard : DepthExceeded → ε
  tripped : Operation → DepthExceeded → σ → σ := fun _ _ state => state
  around : Operation → Run σ ε Unit → Run σ ε Unit := fun _ run => run
  hook : KindTag → Hook σ ε := fun _ => Hook.descend

namespace Walker

/-- Enters one level for `t`, or fails without running anything. -/
def guarded (w : Walker σ ε) (t : Operation) (depth : Depth) (run : Depth → Run σ ε Unit) :
    Run σ ε Unit :=
  match depth.enter with
  | .ok entered => run entered
  | .error e => do
    modify (w.tripped t e)
    throw (w.ofGuard e)

def child (w : Walker σ ε) (t : Operation) (dispatch : Depth → Run σ ε Unit) : Child σ ε where
  operation := t
  dispatch := dispatch
  enter depth := w.guarded t depth dispatch
  visit depth := w.around t (w.guarded t depth dispatch)

mutual
def dispatch (w : Walker σ ε) : Operation → Depth → Run σ ε Unit
  | ⟨kind, span, children⟩, depth =>
    w.hook kind.tag ⟨kind, span, children⟩ depth (w.offer children)
def offer (w : Walker σ ε) : List Operation → List (Child σ ε)
  | [] => []
  | t :: ts => w.child t (fun depth => w.dispatch t depth) :: w.offer ts
end

def visit (w : Walker σ ε) (t : Operation) (depth : Depth) : Run σ ε Unit :=
  (w.child t (w.dispatch t)).visit depth

def walk (w : Walker σ ε) : Option Operation → Run σ ε Unit
  | none => pure ()
  | some t => w.visit t (Depth.root w.limit)

def run (w : Walker σ ε) (root : Option Operation) (state : σ) : Except ε Unit × σ :=
  (w.walk root).run.run state

end Walker

theorem Walker.offer_eq_map (w : Walker σ ε) (ts : List Operation) :
    w.offer ts = ts.map fun t => w.child t (w.dispatch t) := by
  induction ts with
  | nil => rfl
  | cons t ts ih => simp [Walker.offer, ih]

end OperationTree
