import Mathlib.Data.List.Forall2
import OperationTree.Proofs.Walk.Table

/-!
The two sorts of walkers agree. From one table they call the same hooks at the same places, with
the same depths, and end alike. Threaded walkers have results besides, which are forgotten here.
-/

namespace OperationTree

variable {α ω σ ε β γ : Type}

theorem forget_run (run : Run σ ε β) (s : σ) :
    (forget run).run.run s = ((run.run.run s).1.map fun _ => (), (run.run.run s).2) := by
  rw [forget, run_bind]
  rcases run.run.run s with ⟨_ | _, next⟩ <;> rfl

theorem forget_bind (run : Run σ ε β) (later : β → Run σ ε γ) :
    forget (run >>= later) = run >>= fun b => forget (later b) := bind_assoc _ _ _

theorem forget_inside (index : Nat) (run : Run (Journal σ) ε β) :
    forget (Journal.inside index run) = Journal.inside index (forget run) := by
  apply run_ext
  intro s
  rw [forget_run, Journal.run_inside, Journal.run_inside, forget_run]

structure ThreadedChild.Matches (arg : α) (threaded : ThreadedChild α ω σ ε) (plain : Child σ ε) :
    Prop where
  visit : ∀ depth, forget (threaded.visit arg depth) = plain.visit depth
  enter : ∀ depth, forget (threaded.enter arg depth) = plain.enter depth

variable {arg : α}

theorem ThreadedChild.Matches.numbered {threaded : ThreadedChild α ω (Journal σ) ε}
    {plain : Child (Journal σ) ε} (same : threaded.Matches arg plain) (index : Nat) :
    (threaded.numbered index).Matches arg (plain.numbered index) where
  visit depth := by
    rw [ThreadedChild.numbered, Child.numbered, forget_inside, same.visit]
  enter depth := by
    rw [ThreadedChild.numbered, Child.numbered, forget_inside, same.enter]

theorem visitAllWith_eq {threaded : List (ThreadedChild α ω σ ε)} {plain : List (Child σ ε)}
    (same : List.Forall₂ (·.Matches arg ·) threaded plain) (depth : Depth) :
    visitAllWith threaded arg depth = visitAll plain depth := by
  induction same with
  | nil => rfl
  | cons head tail ih =>
    rw [visitAllWith, visitAll, List.forM_eq_forM, List.forM_eq_forM] at ih ⊢
    rw [List.forM_cons, List.forM_cons, ih, ← head.visit]
    rfl

theorem forall₂_mapIdx {δ ζ : Type} {R : β → γ → Prop} {S : δ → ζ → Prop} {f : Nat → β → δ}
    {g : Nat → γ → ζ} (each : ∀ index b c, R b c → S (f index b) (g index c)) {bs : List β}
    {cs : List γ} (same : List.Forall₂ R bs cs) : List.Forall₂ S (bs.mapIdx f) (cs.mapIdx g) := by
  induction same generalizing f g with
  | nil => exact .nil
  | cons head tail ih =>
    rw [List.mapIdx_cons, List.mapIdx_cons]
    exact .cons (each 0 _ _ head) (ih fun index => each (index + 1))

theorem forall₂_getElem? {R : β → γ → Prop} {bs : List β} {cs : List γ}
    (same : List.Forall₂ R bs cs) (index : Nat) : Option.Rel R bs[index]? cs[index]? := by
  induction same generalizing index with
  | nil => exact .none
  | cons head tail ih =>
    cases index with
    | zero => exact .some head
    | succ index => exact ih index

theorem forall₂_picked {R : β → γ → Prop} {bs : List β} {cs : List γ}
    (same : List.Forall₂ R bs cs) (indices : List Nat) :
    List.Forall₂ R (indices.filterMap fun index => bs[index]?)
      (indices.filterMap fun index => cs[index]?) := by
  apply List.rel_filterMap (R := Eq) _ (List.forall₂_refl indices)
  rintro index _ rfl
  exact forall₂_getElem? same index

theorem elim_eq_of_rel {R : β → γ → Prop} {b : Option β} {c : Option γ} (same : Option.Rel R b c)
    {δ : Type} {f : β → δ} {g : γ → δ} (each : ∀ b c, R b c → f b = g c) (absent : δ) :
    b.elim absent f = c.elim absent g := by
  cases same with
  | none => rfl
  | some related => exact each _ _ related

theorem Demand.answerWith_eq {threaded : List (ThreadedChild α ω σ ε)} {plain : List (Child σ ε)}
    (same : List.Forall₂ (·.Matches arg ·) threaded plain) (t : Operation) (depth : Depth)
    (demand : Demand) :
    demand.answerWith t arg depth threaded = demand.answer t depth plain := by
  cases demand with
  | visit index =>
    exact elim_eq_of_rel (forall₂_getElem? same index) (fun _ _ same => same.visit depth) _
  | enter index =>
    exact elim_eq_of_rel (forall₂_getElem? same index) (fun _ _ same => same.enter depth) _
  | each indices => exact visitAllWith_eq (forall₂_picked same indices) depth
  | descend =>
    rw [answerWith, ThreadedHook.descend, forget_bind, visitAllWith_eq same depth]
    exact bind_pure_unit

variable {result : KindTag → Operation → α → σ → Option ω}

theorem Table.forget_guarded (table : Table σ ε) (t : Operation) (depth : Depth)
    {threaded : α → Depth → Run (Journal σ) ε (Option ω)} {plain : Depth → Run (Journal σ) ε Unit}
    (same : ∀ depth, forget (threaded arg depth) = plain depth) :
    forget ((table.threaded result).guarded arg depth threaded) =
      table.walker.guarded t depth plain := by
  unfold ThreadedWalker.guarded Walker.guarded
  cases depth.enter with
  | ok entered => exact same entered
  | error e => rfl

theorem Table.matches_child (table : Table σ ε) {t : Operation}
    (same : ∀ depth, forget ((table.threaded result).dispatch t arg depth) =
      table.walker.dispatch t depth) :
    ((table.threaded result).child t ((table.threaded result).dispatch t)).Matches arg
      (table.walker.child t (table.walker.dispatch t)) where
  visit depth := table.forget_guarded t depth same
  enter depth := table.forget_guarded t depth same

theorem Table.forget_hook (table : Table σ ε) (tag : KindTag) (t : Operation) (depth : Depth)
    {threaded : List (ThreadedChild α ω (Journal σ) ε)} {plain : List (Child (Journal σ) ε)}
    (same : List.Forall₂ (·.Matches arg ·) threaded plain) :
    forget ((table.threaded result).hook tag t arg depth threaded) =
      table.walker.hook tag t depth plain := by
  have numbered := forall₂_mapIdx (fun index _ _ same => same.numbered index) same
  have answers := funext (Demand.answerWith_eq numbered t depth)
  simp only [Table.threaded, walker, forget_bind]
  congr
  funext s
  congr
  funext _
  cases table.hook tag with
  | none => exact congrFun answers .descend
  | some plan =>
    simp only [forget_bind, answers]
    exact bind_pure_unit

mutual
theorem Table.forget_dispatch (table : Table σ ε) : (t : Operation) → (depth : Depth) →
    forget ((table.threaded result).dispatch t arg depth) = table.walker.dispatch t depth
  | ⟨kind, span, children⟩, depth => by
    rw [ThreadedWalker.dispatch, Walker.dispatch]
    exact table.forget_hook kind.tag _ depth (table.matches_offer children)
theorem Table.matches_offer (table : Table σ ε) : (ts : List Operation) →
    List.Forall₂ (·.Matches arg ·) ((table.threaded result).offer ts) (table.walker.offer ts)
  | [] => .nil
  | t :: ts => by
    rw [ThreadedWalker.offer, Walker.offer]
    exact .cons (table.matches_child (table.forget_dispatch t)) (table.matches_offer ts)
end

/-- From one table both walkers call the same hooks at the same places, with the same depths and in
the same order, and both succeed or both fail alike, whatever argument is threaded. -/
theorem Table.engines_agree (table : Table σ ε) (result : KindTag → Operation → α → σ → Option ω)
    (root : Option Operation) (arg : α) (s : σ) :
    let plain := table.walker.run root { state := s }
    let threaded := (table.threaded result).run root arg { state := s }
    threaded.2.calls = plain.2.calls ∧ threaded.2.visits = plain.2.visits ∧
      threaded.2.state = plain.2.state ∧ threaded.1.map (fun _ => ()) = plain.1 := by
  have same : forget ((table.threaded result).walk arg root) = table.walker.walk root := by
    cases root with
    | none => rfl
    | some t =>
      exact (table.matches_child (table.forget_dispatch t)).visit (Depth.root table.limit)
  have ended := forget_run ((table.threaded result).walk arg root) { state := s }
  rw [same] at ended
  intro plain threaded
  have alike : plain = (threaded.1.map fun _ => (), threaded.2) := ended
  rw [alike]
  exact ⟨rfl, rfl, rfl, rfl⟩

end OperationTree
