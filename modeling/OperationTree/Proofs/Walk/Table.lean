import OperationTree.Proofs.Walk.Plan
import OperationTree.Walk.Threaded

/-!
Walkers of both sorts from one table of hooks. What they do is kept in a journal: where visits were
made, and which hooks were called there.
-/

namespace OperationTree

inductive Demand where
  | visit (index : Nat)
  | enter (index : Nat)
  | each (indices : List Nat)
  | descend
  deriving DecidableEq, Repr

structure Call where
  path : List Nat
  hook : KindTag
  operation : Operation
  current : UInt32
  remaining : UInt32
  deriving DecidableEq, Repr

/-- A state, the path of the operation at hand, and what was visited and called, latest first. -/
structure Journal (σ : Type) where
  state : σ
  path : List Nat := []
  visits : List (List Nat) := []
  calls : List Call := []

variable {ι α ω σ ε β : Type}

namespace Journal

def step (index : Nat) (s : Journal σ) : Journal σ :=
  { s with path := s.path ++ [index], visits := (s.path ++ [index]) :: s.visits }

/-- Runs at a child. The path is put back at the end, failed or not. -/
def inside (index : Nat) (run : Run (Journal σ) ε β) : Run (Journal σ) ε β :=
  ExceptT.mk fun s =>
    let ended := run.run.run (s.step index)
    (ended.1, { ended.2 with path := s.path })

def note (tag : KindTag) (t : Operation) (depth : Depth) (s : Journal σ) : Journal σ :=
  { s with calls := ⟨s.path, tag, t, depth.current, depth.remaining⟩ :: s.calls }

theorem run_inside (index : Nat) (run : Run (Journal σ) ε β) (s : Journal σ) :
    (inside index run).run.run s = ((run.run.run (s.step index)).1,
      { (run.run.run (s.step index)).2 with path := s.path }) := rfl

end Journal

def Plan.onState : Plan ι σ ε → Plan ι (Journal σ) ε
  | .done => .done
  | .fail e => .fail e
  | .read next => .read fun s => (next s.state).onState
  | .write state next => .modify (fun s => { s with state }) next.onState
  | .visit way next => .visit way fun outcome => (next outcome).onState

theorem Plan.run_onState_visit (ways : ι → Run (Journal σ) ε Unit) (way : ι) :
    (Plan.visit way .propagate : Plan ι σ ε).onState.run ways = ways way := by
  apply run_ext
  intro s
  rw [Plan.onState, Plan.run_visit]
  rcases ended : (ways way).run.run s with ⟨_ | _, next⟩ <;> rfl

/-- For every kind the hook, if there is one. A hook knows where in the tree it is called. -/
structure Table (σ ε : Type) where
  limit : UInt32 := Depth.defaultLimit
  ofGuard : DepthExceeded → ε
  hook : KindTag → Option (List Nat → Operation → Depth → Plan Demand σ ε) := fun _ => none

def Child.numbered (index : Nat) (child : Child (Journal σ) ε) : Child (Journal σ) ε where
  operation := child.operation
  dispatch depth := Journal.inside index (child.dispatch depth)
  enter depth := Journal.inside index (child.enter depth)
  visit depth := Journal.inside index (child.visit depth)

def Demand.answer (t : Operation) (depth : Depth) (children : List (Child σ ε)) :
    Demand → Run σ ε Unit
  | .visit index => children[index]?.elim (pure ()) fun child => child.visit depth
  | .enter index => children[index]?.elim (pure ()) fun child => child.enter depth
  | .each indices => visitAll (indices.filterMap fun index => children[index]?) depth
  | .descend => Hook.descend t depth children

def Table.walker (table : Table σ ε) : Walker (Journal σ) ε where
  limit := table.limit
  ofGuard := table.ofGuard
  hook tag t depth children := do
    let s ← get
    set (s.note tag t depth)
    match table.hook tag with
    | none => Hook.descend t depth (children.mapIdx Child.numbered)
    | some plan =>
      (plan s.path t depth).onState.run (Demand.answer t depth (children.mapIdx Child.numbered))

def forget (run : Run σ ε β) : Run σ ε Unit := do
  let _ ← run

def ThreadedChild.numbered (index : Nat) (child : ThreadedChild α ω (Journal σ) ε) :
    ThreadedChild α ω (Journal σ) ε where
  operation := child.operation
  dispatch arg depth := Journal.inside index (child.dispatch arg depth)
  enter arg depth := Journal.inside index (child.enter arg depth)
  visit arg depth := Journal.inside index (child.visit arg depth)

def Demand.answerWith (t : Operation) (arg : α) (depth : Depth)
    (children : List (ThreadedChild α ω σ ε)) : Demand → Run σ ε Unit
  | .visit index => children[index]?.elim (pure ()) fun child => forget (child.visit arg depth)
  | .enter index => children[index]?.elim (pure ()) fun child => forget (child.enter arg depth)
  | .each indices => visitAllWith (indices.filterMap fun index => children[index]?) arg depth
  | .descend => forget (ThreadedHook.descend t arg depth children)

def Table.threaded (table : Table σ ε) (result : KindTag → Operation → α → σ → Option ω) :
    ThreadedWalker α ω (Journal σ) ε where
  limit := table.limit
  ofGuard := table.ofGuard
  hook tag t arg depth children := do
    let s ← get
    set (s.note tag t depth)
    match table.hook tag with
    | none => ThreadedHook.descend t arg depth (children.mapIdx ThreadedChild.numbered)
    | some plan =>
      (plan s.path t depth).onState.run
        (Demand.answerWith t arg depth (children.mapIdx ThreadedChild.numbered))
      return result tag t arg (← get).state

end OperationTree
