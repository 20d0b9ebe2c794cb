import OperationTree.Proofs.Walk.Levels
import OperationTree.Walk.Threaded

namespace OperationTree

variable {α ω σ ε : Type}

theorem visitAllWith_cons (child : ThreadedChild α ω σ ε) (later : List (ThreadedChild α ω σ ε))
    (arg : α) (depth : Depth) : visitAllWith (child :: later) arg depth =
      child.visit arg depth >>= fun _ => visitAllWith later arg depth := by
  rw [visitAllWith, List.forM_eq_forM, List.forM_cons, bind_assoc]
  rfl

namespace ThreadedWalker

theorem dispatch_eq (w : ThreadedWalker α ω σ ε) (t : Operation) (arg : α) (depth : Depth) :
    w.dispatch t arg depth = w.hook t.kind.tag t arg depth (w.offer t.children) := by
  rcases t with ⟨kind, span, children⟩
  rw [dispatch]

theorem visit_of_reaches (w : ThreadedWalker α ω σ ε) {n : Nat}
    (reached : Depth.Reaches w.limit (n + 1)) (t : Operation) (arg : α) :
    w.visit t arg (.level w.limit n) = w.dispatch t arg (.level w.limit (n + 1)) := by
  show w.guarded arg (.level w.limit n) (w.dispatch t) = _
  rw [guarded, Depth.enter_level, if_pos reached]

theorem visit_of_full (w : ThreadedWalker α ω σ ε) (limited : w.limit.toNat < Depth.top)
    (t : Operation) (arg : α) : w.visit t arg (.level w.limit w.limit.toNat) =
      throw (w.ofGuard ⟨w.limit + 1, w.limit⟩) := by
  have held : ¬ Depth.Reaches w.limit (w.limit.toNat + 1) := by
    rw [Depth.reaches_iff limited]
    omega
  show w.guarded arg (.level w.limit w.limit.toNat) (w.dispatch t) = _
  rw [guarded, Depth.enter_level, if_neg held, Depth.current_above limited]

end ThreadedWalker

end OperationTree
