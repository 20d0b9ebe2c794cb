import OperationTree.Proofs.Walk.Plan
import OperationTree.Proofs.Walk.Preorder

namespace OperationTree

variable {σ ε α β : Type}

theorem run_adapt (f : ε → ε) (run : Run σ ε α) (s : σ) :
    (ExceptT.adapt f run).run.run s = ((run.run.run s).1.mapError f, (run.run.run s).2) := rfl

theorem adapt_bind (f : ε → ε) (run : Run σ ε α) (later : α → Run σ ε β) :
    ExceptT.adapt f (run >>= later) =
      ExceptT.adapt f run >>= fun a => ExceptT.adapt f (later a) := by
  apply run_ext
  intro s
  rw [run_adapt, run_bind, run_bind, run_adapt]
  rcases run.run.run s with ⟨_ | _, next⟩ <;> rfl

namespace Walker

structure Labels (w : Walker σ ε) (label : Operation → ε → ε) (f : Operation → Depth → σ → σ) :
    Prop where
  around : ∀ t run, w.around t run = ExceptT.adapt (label t) run
  innermost : ∀ t u e, label t (label u e) = label u e
  hook : ∀ t depth children, w.hook t.kind.tag t depth children = do
    modify (f t depth)
    visitAll children depth

variable {w : Walker σ ε} {label : Operation → ε → ε} {f : Operation → Depth → σ → σ}

theorem Labels.layers (labels : w.Labels label f) :
    w.Layers fun t depth => modify (f t depth) where
  done t := labels.around t _
  seq t first later := by simp only [labels.around, adapt_bind]
  innermost t u run := by
    apply run_ext
    intro s
    rw [labels.around, labels.around, run_adapt, run_adapt]
    rcases run.run.run s with ⟨_ | _, next⟩
    · show (Except.error (label t (label u _)), next) = (Except.error (label u _), next)
      rw [labels.innermost]
    · rfl
  hook := labels.hook

/-- Labels a failure with the operation that was held back, if one was. -/
def relabel (label : Operation → ε → ε) (held : Option (Operation × Nat))
    (ended : Except ε Unit × σ) : Except ε Unit × σ :=
  match held with
  | none => ended
  | some p => (ended.1.mapError (label p.1), ended.2)

theorem run_forM_enterInside (labels : w.Labels label f) (ps : List (Operation × Nat)) (s : σ) :
    (ps.forM (w.enterInside fun t depth => modify (f t depth))).run.run s =
      relabel label (ps.find? fun p => ¬ Depth.Reaches w.limit p.2) (w.sweep f ps s) := by
  rw [← run_forM_enterAt]
  induction ps generalizing s with
  | nil => rfl
  | cons p ps ih =>
    rw [List.forM_eq_forM] at ih ⊢
    rw [List.forM_cons, List.forM_cons, enterInside, labels.around, enterAt]
    by_cases reached : Depth.Reaches w.limit p.2
    · rw [if_pos reached, List.find?_cons_of_neg (by simpa using reached)]
      exact ih (f p.1 (.level w.limit p.2) s)
    · rw [if_neg reached, List.find?_cons_of_pos (by simpa using reached)]
      rfl

theorem run_labels (labels : w.Labels label f) (t : Operation) (s : σ) :
    w.run (some t) s =
      relabel label ((t.preorder 1).find? fun p => ¬ Depth.Reaches w.limit p.2)
        (w.sweep f (t.preorder 1) s) := by
  rw [← run_forM_enterInside labels, ← visit_eq_forM labels.layers 0]
  rfl

theorem run_labels_of_reaches (labels : w.Labels label f) {t : Operation}
    (reached : ∀ p ∈ t.preorder 1, Depth.Reaches w.limit p.2) (s : σ) :
    w.run (some t) s =
      (.ok (), (t.preorder 1).foldl (fun s p => f p.1 (.level w.limit p.2) s) s) := by
  rw [run_labels labels, sweep_of_reaches reached]
  unfold relabel
  split <;> rfl

theorem run_labels_of_too_deep (labels : w.Labels label f) (limited : w.limit.toNat < Depth.top)
    {t : Operation} (deep : ∃ p ∈ t.preorder 1, w.limit.toNat < p.2) (s : σ) :
    ∃ held, (t.preorder 1).find? (fun p => w.limit.toNat < p.2) = some held ∧
      (w.run (some t) s).1 = .error (label held.1 (w.ofGuard ⟨w.limit + 1, w.limit⟩)) := by
  obtain ⟨held, found, _, swept⟩ := sweep_of_too_deep limited deep f s
  have stopped : (t.preorder 1).find? (fun p => ¬ Depth.Reaches w.limit p.2) = some held := by
    simpa only [Depth.reaches_iff limited, Nat.not_le] using found
  refine ⟨held, found, ?_⟩
  rw [run_labels labels, stopped, swept]
  rfl

end Walker

end OperationTree
