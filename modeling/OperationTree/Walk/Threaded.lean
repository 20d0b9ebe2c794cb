import OperationTree.Walk.Walker

/-!
Walks that hand an argument down and a result up. A result is optional: an absent operation has
none, and neither has one whose hook merely descends.
-/

namespace OperationTree

/-- The ways into a child, each with the argument that it is to receive. -/
structure ThreadedChild (α ω σ ε : Type) where
  operation : Operation
  dispatch : α → Depth → Run σ ε (Option ω)
  enter : α → Depth → Run σ ε (Option ω)
  visit : α → Depth → Run σ ε (Option ω)

abbrev ThreadedHook (α ω σ ε : Type) : Type :=
  Operation → α → Depth → List (ThreadedChild α ω σ ε) → Run σ ε (Option ω)

variable {α ω σ ε : Type}

/-- Visits in order with one argument; the results are dropped. -/
def visitAllWith (children : List (ThreadedChild α ω σ ε)) (arg : α) (depth : Depth) :
    Run σ ε Unit :=
  children.forM fun child => do
    let _ ← child.visit arg depth

def ThreadedHook.descend : ThreadedHook α ω σ ε := fun _ arg depth children => do
  visitAllWith children arg depth
  return none

structure ThreadedWalker (α ω σ ε : Type) where
  limit : UInt32 := Depth.defaultLimit
  ofGuard : DepthExceeded → ε
  hook : KindTag → ThreadedHook α ω σ ε := fun _ => ThreadedHook.descend

namespace ThreadedWalker

def guarded (w : ThreadedWalker α ω σ ε) (arg : α) (depth : Depth)
    (run : α → Depth → Run σ ε (Option ω)) : Run σ ε (Option ω) :=
  match depth.enter with
  | .ok entered => run arg entered
  | .error e => throw (w.ofGuard e)

def child (w : ThreadedWalker α ω σ ε) (t : Operation)
    (dispatch : α → Depth → Run σ ε (Option ω)) : ThreadedChild α ω σ ε where
  operation := t
  dispatch := dispatch
  enter arg depth := w.guarded arg depth dispatch
  visit arg depth := w.guarded arg depth dispatch

mutual
def dispatch (w : ThreadedWalker α ω σ ε) : Operation → α → Depth → Run σ ε (Option ω)
  | ⟨kind, span, children⟩, arg, depth =>
    w.hook kind.tag ⟨kind, span, children⟩ arg depth (w.offer children)
def offer (w : ThreadedWalker α ω σ ε) : List Operation → List (ThreadedChild α ω σ ε)
  | [] => []
  | t :: ts => w.child t (fun arg depth => w.dispatch t arg depth) :: w.offer ts
end

def visit (w : ThreadedWalker α ω σ ε) (t : Operation) (arg : α) (depth : Depth) :
    Run σ ε (Option ω) :=
  (w.child t (w.dispatch t)).visit arg depth

def walk (w : ThreadedWalker α ω σ ε) (arg : α) : Option Operation → Run σ ε (Option ω)
  | none => pure none
  | some t => w.visit t arg (Depth.root w.limit)

def run (w : ThreadedWalker α ω σ ε) (root : Option Operation) (arg : α) (state : σ) :
    Except ε (Option ω) × σ :=
  (w.walk arg root).run.run state

end ThreadedWalker

theorem ThreadedWalker.offer_eq_map (w : ThreadedWalker α ω σ ε) (ts : List Operation) :
    w.offer ts = ts.map fun t => w.child t (w.dispatch t) := by
  induction ts with
  | nil => rfl
  | cons t ts ih => simp [ThreadedWalker.offer, ih]

end OperationTree
