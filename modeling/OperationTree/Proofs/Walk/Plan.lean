import OperationTree.Walk.Walker

/-!
Hooks as data. A plan changes the state, fails, and starts the visits it has a way to; it is told
how each of them ended, and what it does next may depend on that and on the state.
-/

namespace OperationTree

inductive Plan (ι σ ε : Type) where
  | done
  | fail (e : ε)
  | read (next : σ → Plan ι σ ε)
  | write (s : σ) (next : Plan ι σ ε)
  /-- A failure of the visit is handed to what comes next. -/
  | visit (way : ι) (next : Except ε Unit → Plan ι σ ε)

variable {ι σ ε : Type}

theorem run_bind {α β : Type} (run : Run σ ε α) (f : α → Run σ ε β) (s : σ) :
    (run >>= f).run.run s = match run.run.run s with
      | (.ok a, next) => (f a).run.run next
      | (.error e, next) => (.error e, next) := by
  rcases ended : run.run.run s with ⟨outcome, next⟩
  rw [ExceptT.run_bind, StateT.run_bind, ended]
  cases outcome with
  | ok a => rfl
  | error e => rfl

theorem run_ext {α : Type} {first second : Run σ ε α}
    (same : ∀ s, first.run.run s = second.run.run s) : first = second := funext same

def attempt (run : Run σ ε Unit) : Run σ ε (Except ε Unit) := ExceptT.mk (.ok <$> run.run)

namespace Plan

def run (ways : ι → Run σ ε Unit) : Plan ι σ ε → Run σ ε Unit
  | .done => pure ()
  | .fail e => throw e
  | .read next => do
    let s ← get
    (next s).run ways
  | .write s next => do
    set s
    next.run ways
  | .visit way next => do
    let outcome ← attempt (ways way)
    (next outcome).run ways

def propagate : Except ε Unit → Plan ι σ ε
  | .ok () => .done
  | .error e => .fail e

def visitArray (next : Except ε Unit → Plan ι σ ε) : List ι → Plan ι σ ε
  | [] => next (.ok ())
  | way :: later => .visit way fun
    | .ok () => visitArray next later
    | .error e => next (.error e)

def modify (f : σ → σ) (next : Plan ι σ ε) : Plan ι σ ε := .read fun s => .write (f s) next

variable (ways : ι → Run σ ε Unit) (s : σ)

theorem run_read (next : σ → Plan ι σ ε) :
    ((read next).run ways).run.run s = ((next s).run ways).run.run s := rfl

theorem run_visit (way : ι) (next : Except ε Unit → Plan ι σ ε) :
    ((visit way next).run ways).run.run s =
      ((next ((ways way).run.run s).1).run ways).run.run ((ways way).run.run s).2 := rfl

theorem run_visitArray (each : List ι) : (visitArray propagate each).run ways = each.forM ways := by
  induction each with
  | nil => rfl
  | cons way later ih =>
    rw [List.forM_eq_forM] at ih ⊢
    rw [List.forM_cons, ← ih]
    apply run_ext
    intro s
    rw [visitArray, run_visit, run_bind]
    rcases ended : (ways way).run.run s with ⟨_ | _, next⟩ <;> rfl

end Plan

/-- A way into a child, by the child's number: through the walker's own visit, or past it. -/
inductive Way where
  | own (index : Nat)
  | free (index : Nat)
  deriving DecidableEq, Repr

namespace Way

def index : Way → Nat
  | .own index | .free index => index

def follow (children : List (Child σ ε)) (depth : Depth) : Way → Run σ ε Unit
  | .own index => children[index]?.elim (pure ()) fun child => child.visit depth
  | .free index => children[index]?.elim (pure ()) fun child => child.enter depth

end Way

def Plan.descend (t : Operation) : Plan Way σ ε :=
  visitArray propagate ((List.range t.children.length).map Way.own)

/-- A walker whose hooks, and whose way of visiting, are plans. The plan of a visit has one way:
past the guard to the hook. -/
structure Behaviour (σ ε : Type) where
  limit : UInt32 := Depth.defaultLimit
  ofGuard : DepthExceeded → ε
  tripped : Operation → DepthExceeded → σ → σ := fun _ _ state => state
  around : Operation → Plan Unit σ ε := fun _ => .visit () .propagate
  hook : KindTag → Operation → Depth → Plan Way σ ε := fun _ t _ => .descend t

def Behaviour.walker (b : Behaviour σ ε) : Walker σ ε where
  limit := b.limit
  ofGuard := b.ofGuard
  tripped := b.tripped
  around t run := (b.around t).run fun _ => run
  hook tag t depth children := (b.hook tag t depth).run (Way.follow children depth)

/-- Descending by plan is descending. -/
theorem run_descend (t : Operation) (depth : Depth) (children : List (Child σ ε))
    (all : children.length = t.children.length) :
    (Plan.descend t).run (Way.follow children depth) = visitAll children depth := by
  have same : (List.range t.children.length).map
      (fun index => Way.follow children depth (.own index)) =
      children.map fun child => child.visit depth := by
    apply List.ext_getElem
    · simp [all]
    · intro index within _
      simp only [List.length_map, List.length_range] at within
      simp [Way.follow, all, within]
  have visits := congrArg (List.forM · id) same
  rw [Plan.descend, Plan.run_visitArray, visitAll]
  simp only [List.forM_eq_forM, List.forM_map] at visits ⊢
  exact visits

end OperationTree
