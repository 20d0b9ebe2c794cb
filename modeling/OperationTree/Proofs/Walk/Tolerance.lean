import OperationTree.Proofs.Walk.Height
import OperationTree.Proofs.Walk.Plan

/-!
Walks that go on after a child that fails. Of a tree that is too high they lose what is too deep and
nothing else.
-/

namespace OperationTree

structure Tolerance (ε : Type) where
  seen : List (String × UInt32) := []
  caught : List ε := []

variable {ε : Type}

namespace Tolerance

def see (t : Operation) (depth : Depth) (s : Tolerance ε) : Tolerance ε :=
  { s with seen := s.seen ++ [(t.kind.name, depth.current)] }

def pass (e : ε) (s : Tolerance ε) : Tolerance ε := { s with caught := s.caught ++ [e] }

def forgive (run : Run (Tolerance ε) ε Unit) : Run (Tolerance ε) ε Unit :=
  tryCatch run fun e => modify (pass e)

def walker (limit : UInt32) (ofGuard : DepthExceeded → ε) : Walker (Tolerance ε) ε where
  limit := limit
  ofGuard := ofGuard
  hook _ t depth children := do
    modify (see t depth)
    children.forM fun child => forgive (child.visit depth)

variable {limit : UInt32} {ofGuard : DepthExceeded → ε}

theorem run_forgive (run : Run (Tolerance ε) ε Unit) (s : Tolerance ε) :
    (forgive run).run.run s = match run.run.run s with
      | (.ok (), next) => (.ok (), next)
      | (.error e, next) => (.ok (), next.pass e) := by
  rw [forgive, ExceptT.run_tryCatch, StateT.run_bind]
  rcases run.run.run s with ⟨_ | ⟨⟩, next⟩ <;> rfl

/-- An operation in reach is seen, and one that is a level too deep makes a failure. Operations
still deeper are not come by. -/
def meet (limit : UInt32) (ofGuard : DepthExceeded → ε) (s : Tolerance ε)
    (p : Operation × Nat) : Tolerance ε :=
  if p.2 ≤ limit.toNat then s.see p.1 (.level limit p.2)
  else if p.2 = limit.toNat + 1 then s.pass (ofGuard ⟨limit + 1, limit⟩)
  else s

theorem foldl_meet_of_deep {ps : List (Operation × Nat)}
    (deep : ∀ p ∈ ps, limit.toNat + 1 < p.2) (s : Tolerance ε) :
    ps.foldl (meet limit ofGuard) s = s := by
  induction ps with
  | nil => rfl
  | cons p ps ih =>
    rw [List.forall_mem_cons] at deep
    have unmet : meet limit ofGuard s p = s := by
      rw [meet, if_neg (by omega), if_neg (by omega)]
    rw [List.foldl_cons, unmet, ih deep.2]

theorem foldl_meet (limited : limit.toNat < Depth.top) (ps : List (Operation × Nat))
    (s : Tolerance ε) : ps.foldl (meet limit ofGuard) s =
      { seen := s.seen ++ (ps.filter fun p => p.2 ≤ limit.toNat).map fun p =>
          (p.1.kind.name, UInt32.ofNat p.2)
        caught := s.caught ++ List.replicate (ps.countP fun p => p.2 = limit.toNat + 1)
          (ofGuard ⟨limit + 1, limit⟩) } := by
  induction ps generalizing s with
  | nil => simp
  | cons p ps ih =>
    rw [List.foldl_cons, ih]
    by_cases within : p.2 ≤ limit.toNat
    · have level : (Depth.level limit p.2).current = UInt32.ofNat p.2 := by
        rw [Depth.level, min_eq_left (within.trans limited.le)]
      rw [meet, if_pos within, List.filter_cons_of_pos (by simpa using within),
        List.countP_cons_of_neg (by simp; omega), see, level, List.map_cons, List.append_assoc,
        List.singleton_append]
    · rw [meet, if_neg within, List.filter_cons_of_neg (by simpa using within)]
      by_cases below : p.2 = limit.toNat + 1
      · rw [if_pos below, List.countP_cons_of_pos (by simpa using below), pass,
          List.replicate_succ, List.append_assoc, List.singleton_append]
      · rw [if_neg below, List.countP_cons_of_neg (by simpa using below)]

theorem visit_bare (t : Operation) (depth : Depth) : (walker limit ofGuard).visit t depth =
    (walker limit ofGuard).guarded t depth ((walker limit ofGuard).dispatch t) := rfl

theorem run_visit_of_full (limited : limit.toNat < Depth.top) (t : Operation) (s : Tolerance ε) :
    ((walker limit ofGuard).visit t (.level limit limit.toNat)).run.run s =
      (.error (ofGuard ⟨limit + 1, limit⟩), s) := by
  have held := Walker.run_guarded_of_full (walker limit ofGuard) limited t
    ((walker limit ofGuard).dispatch t) s
  rw [visit_bare]
  exact held

theorem run_forgive_of_full (limited : limit.toNat < Depth.top) (t : Operation)
    (s : Tolerance ε) :
    (forgive ((walker limit ofGuard).visit t (.level limit limit.toNat))).run.run s =
      (.ok (), (t.preorder (limit.toNat + 1)).foldl (meet limit ofGuard) s) := by
  rcases t with ⟨kind, span, children⟩
  have met : meet limit ofGuard s (⟨kind, span, children⟩, limit.toNat + 1) =
      s.pass (ofGuard ⟨limit + 1, limit⟩) := by
    rw [meet, if_neg (by simp), if_pos rfl]
  have deep : ∀ p ∈ Operation.preorderAll (limit.toNat + 1 + 1) children,
      limit.toNat + 1 < p.2 := fun p among => Operation.le_of_mem_preorderAll children among
  rw [run_forgive, run_visit_of_full limited, Operation.preorder, List.foldl_cons, met,
    foldl_meet_of_deep deep]

theorem run_visit_of_reaches {n : Nat} (reached : Depth.Reaches limit (n + 1)) (t : Operation)
    (s : Tolerance ε) :
    ((walker limit ofGuard).visit t (.level limit n)).run.run s =
      (t.children.forM fun u =>
        forgive ((walker limit ofGuard).visit u (.level limit (n + 1)))).run.run
          (s.see t (.level limit (n + 1))) := by
  have entered : (walker limit ofGuard).guarded t (.level limit n)
      ((walker limit ofGuard).dispatch t) =
        (walker limit ofGuard).dispatch t (.level limit (n + 1)) :=
    Walker.guarded_of_reaches (walker limit ofGuard) reached t _
  have children : ((walker limit ofGuard).offer t.children).forM
      (fun child => forgive (child.visit (.level limit (n + 1)))) =
        t.children.forM fun u =>
          forgive ((walker limit ofGuard).visit u (.level limit (n + 1))) := by
    rw [Walker.offer_eq_map, List.forM_eq_forM, List.forM_map]
    rfl
  rw [visit_bare, entered, Walker.dispatch_eq, ← children]
  rfl

mutual
theorem run_visit (limited : limit.toNat < Depth.top) {n : Nat} (within : n < limit.toNat) :
    (t : Operation) → (s : Tolerance ε) →
    ((walker limit ofGuard).visit t (.level limit n)).run.run s =
      (.ok (), (t.preorder (n + 1)).foldl (meet limit ofGuard) s)
  | ⟨kind, span, children⟩, s => by
    have reached : Depth.Reaches limit (n + 1) := (Depth.reaches_iff limited _).mpr within
    have met : meet limit ofGuard s (⟨kind, span, children⟩, n + 1) =
        s.see ⟨kind, span, children⟩ (.level limit (n + 1)) := if_pos within
    rw [run_visit_of_reaches reached, run_children limited within children, Operation.preorder,
      List.foldl_cons, met]
theorem run_children (limited : limit.toNat < Depth.top) {n : Nat}
    (within : n + 1 ≤ limit.toNat) : (ts : List Operation) → (s : Tolerance ε) →
    (ts.forM fun t => forgive ((walker limit ofGuard).visit t (.level limit (n + 1)))).run.run s =
      (.ok (), (Operation.preorderAll (n + 1 + 1) ts).foldl (meet limit ofGuard) s)
  | [], _ => rfl
  | t :: ts, s => by
    have first : (forgive ((walker limit ofGuard).visit t (.level limit (n + 1)))).run.run s =
        (.ok (), (t.preorder (n + 1 + 1)).foldl (meet limit ofGuard) s) := by
      rcases Nat.lt_or_eq_of_le within with room | full
      · rw [run_forgive, run_visit limited room t]
      · rw [full]
        exact run_forgive_of_full limited t s
    have later := run_children limited within ts
      ((t.preorder (n + 1 + 1)).foldl (meet limit ofGuard) s)
    rw [List.forM_eq_forM] at later ⊢
    rw [List.forM_cons, run_bind, first, Operation.preorderAll, List.foldl_append]
    exact later
end

/-- A walker that goes on after children that fail sees the operations within the limit, in
pre-order and at their depths, and passes over one failure for each operation that is a level too
deep. Only a root that may not be entered makes it fail. -/
theorem tolerant_walk (limited : limit.toNat < 2 ^ 32 - 1) (ofGuard : DepthExceeded → ε)
    (t : Operation) (s : Tolerance ε) :
    (1 ≤ limit.toNat → (walker limit ofGuard).run (some t) s = (.ok (),
      { seen := s.seen ++ ((t.preorder 1).filter fun p => p.2 ≤ limit.toNat).map fun p =>
          (p.1.kind.name, UInt32.ofNat p.2)
        caught := s.caught ++ List.replicate ((t.preorder 1).countP fun p => p.2 = limit.toNat + 1)
          (ofGuard ⟨limit + 1, limit⟩) })) ∧
    (limit = 0 → (walker limit ofGuard).run (some t) s = (.error (ofGuard ⟨1, 0⟩), s)) := by
  constructor
  · intro positive
    rw [← foldl_meet limited]
    exact run_visit limited (n := 0) positive t s
  · rintro rfl
    exact run_visit_of_full limited t s

/-- The operation beside the one that is too deep is seen, at its own depth. -/
theorem tolerant_walk_beside :
    let loop : Operation := ⟨.loop, {}, [⟨.none, {}, []⟩, ⟨.argument, {}, []⟩]⟩
    let deep : Operation := ⟨.parenthesized, {}, [loop]⟩
    let tree : Operation := ⟨.block, {}, [deep, ⟨.literal "after", {}, []⟩]⟩
    (walker 2 id).run (some tree) {} = (.ok (),
        { seen := [("Block", 1), ("Parenthesized", 2), ("Literal", 2)]
          caught := [⟨3, 2⟩] }) ∧
      (walker 3 id).run (some tree) {} = (.ok (),
        { seen := [("Block", 1), ("Parenthesized", 2), ("Loop", 3), ("Literal", 2)]
          caught := [⟨4, 3⟩, ⟨4, 3⟩] }) ∧
      (walker 0 id).run (some tree) {} = (.error ⟨1, 0⟩, {}) := by
  intro loop deep tree
  exact ⟨(tolerant_walk (by decide) id tree {}).1 (by decide),
    (tolerant_walk (by decide) id tree {}).1 (by decide),
    (tolerant_walk (by decide) id tree {}).2 rfl⟩

end Tolerance

end OperationTree
