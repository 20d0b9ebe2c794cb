import Mathlib.Data.List.Forall2
import OperationTree.Proofs.Walk.Plan

namespace OperationTree

variable {σ τ ε α β : Type} {view : τ → σ}

/-- Both runs end alike, and the state that one of them leaves shows the state of the other. -/
def Shows (view : τ → σ) (shadow : Run τ ε α) (run : Run σ ε α) : Prop :=
  ∀ s, run.run.run (view s) = ((shadow.run.run s).1, view (shadow.run.run s).2)

theorem shows_pure (a : α) : Shows view (pure a : Run τ ε α) (pure a) := fun _ => rfl

theorem shows_modify {g : τ → τ} {f : σ → σ} (same : ∀ s, view (g s) = f (view s)) :
    Shows view (modify g : Run τ ε Unit) (modify f) :=
  fun s => Prod.ext rfl (same s).symm

theorem shows_bind {shadow : Run τ ε α} {run : Run σ ε α} {shadowLater : α → Run τ ε β}
    {later : α → Run σ ε β} (first : Shows view shadow run)
    (each : ∀ a, Shows view (shadowLater a) (later a)) :
    Shows view (shadow >>= shadowLater) (run >>= later) := by
  intro s
  rw [run_bind, run_bind, first s]
  rcases shadow.run.run s with ⟨_ | a, next⟩
  · rfl
  · exact each a next

structure Child.Shows (view : τ → σ) (shadow : Child τ ε) (child : Child σ ε) : Prop where
  operation : shadow.operation = child.operation
  dispatch : ∀ depth, OperationTree.Shows view (shadow.dispatch depth) (child.dispatch depth)
  enter : ∀ depth, OperationTree.Shows view (shadow.enter depth) (child.enter depth)
  visit : ∀ depth, OperationTree.Shows view (shadow.visit depth) (child.visit depth)

theorem shows_visitAll {shadows : List (Child τ ε)} {children : List (Child σ ε)}
    (same : List.Forall₂ (Child.Shows view) shadows children) (depth : Depth) :
    Shows view (visitAll shadows depth) (visitAll children depth) := by
  induction same with
  | nil => exact shows_pure ()
  | cons head _ ih =>
    rw [visitAll, visitAll, List.forM_eq_forM, List.forM_eq_forM] at ih ⊢
    rw [List.forM_cons, List.forM_cons]
    exact shows_bind (head.visit depth) fun _ => ih

namespace Walker

structure Shadows (view : τ → σ) (shadow : Walker τ ε) (w : Walker σ ε) : Prop where
  limit : shadow.limit = w.limit
  ofGuard : shadow.ofGuard = w.ofGuard
  tripped : ∀ t trip s, view (shadow.tripped t trip s) = w.tripped t trip (view s)
  around : ∀ t inner run, Shows view inner run → Shows view (shadow.around t inner) (w.around t run)
  hook : ∀ tag t depth shadows children, List.Forall₂ (Child.Shows view) shadows children →
    Shows view (shadow.hook tag t depth shadows) (w.hook tag t depth children)

variable {shadow : Walker τ ε} {w : Walker σ ε}

theorem Shadows.guarded (shadows : Shadows view shadow w) {t : Operation}
    {inner : Depth → Run τ ε Unit} {run : Depth → Run σ ε Unit}
    (same : ∀ depth, Shows view (inner depth) (run depth)) (depth : Depth) :
    Shows view (shadow.guarded t depth inner) (w.guarded t depth run) := by
  unfold Walker.guarded
  cases depth.enter with
  | ok entered => exact same entered
  | error trip =>
    apply shows_bind (shows_modify (shadows.tripped t trip))
    intro _ s
    rw [shadows.ofGuard]
    rfl

theorem Shadows.child (shadows : Shadows view shadow w) (t : Operation)
    {inner : Depth → Run τ ε Unit} {run : Depth → Run σ ε Unit}
    (same : ∀ depth, Shows view (inner depth) (run depth)) :
    Child.Shows view (shadow.child t inner) (w.child t run) where
  operation := rfl
  dispatch := same
  enter := shadows.guarded same
  visit depth := shadows.around t _ _ (shadows.guarded same depth)

mutual
theorem Shadows.dispatch (shadows : Shadows view shadow w) : (t : Operation) → (depth : Depth) →
    Shows view (shadow.dispatch t depth) (w.dispatch t depth)
  | ⟨kind, span, children⟩, depth => by
    rw [Walker.dispatch, Walker.dispatch]
    exact shadows.hook kind.tag _ depth _ _ (shadows.offer children)
theorem Shadows.offer (shadows : Shadows view shadow w) : (ts : List Operation) →
    List.Forall₂ (Child.Shows view) (shadow.offer ts) (w.offer ts)
  | [] => .nil
  | t :: ts => by
    rw [Walker.offer, Walker.offer]
    exact .cons (shadows.child t (shadows.dispatch t)) (shadows.offer ts)
end

theorem Shadows.run (shadows : Shadows view shadow w) (t : Operation) (s : τ) :
    w.run (some t) (view s) =
      ((shadow.run (some t) s).1, view (shadow.run (some t) s).2) := by
  have same := (shadows.child t (shadows.dispatch t)).visit (Depth.root shadow.limit) s
  rw [shadows.limit] at same
  rw [Walker.run, Walker.run, Walker.walk, Walker.walk, shadows.limit]
  exact same

end Walker

end OperationTree
