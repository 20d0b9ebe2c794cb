import OperationTree.Walk.Walker

/-!
Questions about a whole tree, each answered by one guarded walk. An answer comes with the
operations that the question was put to, in order.
-/

namespace OperationTree

/-- What a search holds while it walks; the operation examined last comes first. -/
structure Search (α : Type) where
  result : α
  examined : List Operation := []

def Search.examine {α : Type} (t : Operation) (s : Search α) : Search α :=
  { s with examined := t :: s.examined }

structure Finding (α : Type) where
  answer : Except DepthExceeded α
  examined : List Operation

namespace Query

def walker {α : Type} (limit : UInt32) (hook : Hook (Search α) DepthExceeded) :
    Walker (Search α) DepthExceeded where
  limit := limit
  ofGuard := id
  hook _ := hook

def ask {α : Type} (limit : UInt32) (hook : Hook (Search α) DepthExceeded) (start : α)
    (root : Operation) : Finding α :=
  let (outcome, search) := (walker limit hook).run (some root) { result := start }
  ⟨outcome.map fun _ => search.result, search.examined.reverse⟩

abbrev Callback (α β : Type) : Type := Operation → Run (Search α) DepthExceeded β

/-- Every call of `f` leaves its operation among those examined. -/
def calling {α β : Type} (f : Operation → β) : Callback α β := fun t => do
  modify (Search.examine t)
  return f t

def detect (p : Callback Bool Bool) : Hook (Search Bool) DepthExceeded := fun t depth children => do
  if (← get).result then return
  if ← p t then modify fun s => { s with result := true }
  else visitAll children depth

def contains (limit : UInt32) (p : Operation → Bool) (root : Operation) : Finding Bool :=
  ask limit (detect (calling p)) false root

/-- The child numbers from the root to the operation at hand, innermost first, and those to the
match, outermost first. -/
structure Trail where
  path : List Nat := []
  found : Option (List Nat) := none

def Trail.down (index : Nat) (trail : Trail) : Trail := { trail with path := index :: trail.path }

def Trail.up (trail : Trail) : Trail := { trail with path := trail.path.tail }

def Trail.mark (trail : Trail) : Trail := { trail with found := some trail.path.reverse }

def onTrail (f : Trail → Trail) (s : Search Trail) : Search Trail :=
  { s with result := f s.result }

/-- A child that fails leaves the trail where it is. -/
def follow (depth : Depth) : Nat → List (Child (Search Trail) DepthExceeded) →
    Run (Search Trail) DepthExceeded Unit
  | _, [] => pure ()
  | index, child :: rest => do
    modify (onTrail (Trail.down index))
    child.visit depth
    modify (onTrail Trail.up)
    if (← get).result.found.isSome then return
    follow depth (index + 1) rest

def pursue (p : Callback Trail Bool) : Hook (Search Trail) DepthExceeded :=
  fun t depth children => do
    if (← get).result.found.isSome then return
    if ← p t then modify (onTrail Trail.mark) else follow depth 0 children

def findPath (limit : UInt32) (p : Operation → Bool) (root : Operation) :
    Finding (Option (List Nat)) :=
  let finding := ask limit (pursue (calling p)) {} root
  ⟨finding.answer.map Trail.found, finding.examined⟩

def findFirst (limit : UInt32) (p : Operation → Bool) (root : Operation) :
    Finding (Option Operation) :=
  let finding := findPath limit p root
  ⟨finding.answer.map fun path => path.bind root.at?, finding.examined⟩

def tally (p : Callback Nat Bool) : Hook (Search Nat) DepthExceeded := fun t depth children => do
  if ← p t then modify fun s => { s with result := s.result + 1 }
  visitAll children depth

def count (limit : UInt32) (p : Operation → Bool) (root : Operation) : Finding Nat :=
  ask limit (tally (calling p)) 0 root

def gather {β : Type} (f : Callback (List β) (Option β)) : Hook (Search (List β)) DepthExceeded :=
  fun t depth children => do
    if let some item ← f t then modify fun s => { s with result := item :: s.result }
    visitAll children depth

def collect {β : Type} (limit : UInt32) (f : Operation → Option β) (root : Operation) :
    Finding (List β) :=
  let finding := ask limit (gather (calling f)) [] root
  ⟨finding.answer.map List.reverse, finding.examined⟩

def preorderKinds (limit : UInt32) (root : Operation) : Except DepthExceeded (List String) :=
  (collect limit (fun t => some t.kind.name) root).answer

end Query

end OperationTree
