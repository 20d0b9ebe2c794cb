import OperationTree.Proofs.Walk.Height
import OperationTree.Proofs.Walk.Plan
import OperationTree.Walk.Script

namespace OperationTree

variable {ε : Type}

/-- Notes the operation, and fails if the rule has an error for it. Operations are told apart by
their number in the order of the calls, because equal ones may stand in many places. -/
def judge (rule : Nat → Operation → Option ε) (t : Operation) (depth : Depth) :
    Run (List (Operation × Depth)) ε Unit := do
  let before ← get
  set (before ++ [(t, depth)])
  match rule before.length t with
  | some e => throw e
  | none => pure ()

theorem run_judge (rule : Nat → Operation → Option ε) (t : Operation) (depth : Depth)
    (s : List (Operation × Depth)) :
    (judge rule t depth).run.run s =
      (match rule s.length t with
        | some e => .error e
        | none => .ok (), s ++ [(t, depth)]) := by
  show (match rule s.length t with
    | some e => throw e
    | none => pure () : Run (List (Operation × Depth)) ε Unit).run.run (s ++ [(t, depth)]) = _
  cases rule s.length t <;> rfl

namespace Walker

def judging (limit : UInt32) (ofGuard : DepthExceeded → ε) (rule : Nat → Operation → Option ε) :
    Walker (List (Operation × Depth)) ε where
  limit := limit
  ofGuard := ofGuard
  hook _ t depth children := do
    judge rule t depth
    visitAll children depth

def Passes (limit : UInt32) (rule : Nat → Operation → Option ε) (number : Nat)
    (p : Operation × Nat) : Prop :=
  p.2 ≠ limit.toNat + 1 ∧ rule number p.1 = none

def called (limit : UInt32) (ps : List (Operation × Nat)) : List (Operation × Depth) :=
  ps.map fun p => (p.1, .level limit p.2)

variable {limit : UInt32} {ofGuard : DepthExceeded → ε} {rule : Nat → Operation → Option ε}

theorem shallow_of_passes {ps : List (Operation × Nat)}
    (passes : ∀ k p, ps[k]? = some p → Passes limit rule k p) :
    ∀ p ∈ ps, p.2 ≠ limit.toNat + 1 := by
  intro p among
  obtain ⟨k, found⟩ := List.getElem?_of_mem among
  exact (passes k p found).1

theorem judging_descends : (judging limit ofGuard rule).Descends (judge rule) where
  bare _ _ := rfl
  hook _ _ _ := rfl

theorem run_enterAt_of_reaches {p : Operation × Nat} (reached : Depth.Reaches limit p.2)
    (s : List (Operation × Depth)) :
    ((judging limit ofGuard rule).enterAt (judge rule) p).run.run s =
      (match rule s.length p.1 with
        | some e => .error e
        | none => .ok (), s ++ called limit [p]) := by
  have entered : (judging limit ofGuard rule).enterAt (judge rule) p =
      judge rule p.1 (.level limit p.2) := if_pos reached
  rw [entered, run_judge]
  rfl

theorem run_enterAt_of_deep (limited : limit.toNat < Depth.top) {p : Operation × Nat}
    (deep : p.2 = limit.toNat + 1) (s : List (Operation × Depth)) :
    ((judging limit ofGuard rule).enterAt (judge rule) p).run.run s =
      (.error (ofGuard ⟨limit + 1, limit⟩), s) := by
  have held : ¬ Depth.Reaches limit p.2 := by
    rw [Depth.reaches_iff limited, deep]
    omega
  have refused : (judging limit ofGuard rule).enterAt (judge rule) p =
      (judging limit ofGuard rule).refuse p.1 p.2 := if_neg held
  rw [refused, deep, ← Depth.current_above limited]
  rfl

theorem run_of_passes (limited : limit.toNat < Depth.top) {ps : List (Operation × Nat)}
    {s : List (Operation × Depth)} (within : ∀ p ∈ ps, p.2 ≤ limit.toNat)
    (quiet : ∀ k p, ps[k]? = some p → rule (s.length + k) p.1 = none) :
    (ps.forM ((judging limit ofGuard rule).enterAt (judge rule))).run.run s =
      (.ok (), s ++ called limit ps) := by
  induction ps generalizing s with
  | nil =>
    rw [called, List.map_nil, List.append_nil]
    rfl
  | cons p ps ih =>
    have reached := (Depth.reaches_iff limited p.2).mpr (within p List.mem_cons_self)
    have first : rule s.length p.1 = none := quiet 0 p rfl
    have later (k : Nat) (q : Operation × Nat) (found : ps[k]? = some q) :
        rule ((s ++ called limit [p]).length + k) q.1 = none := by
      have shifted := quiet (k + 1) q found
      rw [List.length_append, called, List.length_map, List.length_singleton]
      rwa [Nat.add_assoc, Nat.add_comm 1 k]
    have onward := ih (fun q among => within q (List.mem_cons_of_mem p among)) later
    rw [List.forM_eq_forM] at onward ⊢
    rw [List.forM_cons, run_bind, run_enterAt_of_reaches reached, first]
    refine onward.trans ?_
    rw [List.append_assoc]
    rfl

theorem run_judging_of_split (limited : limit.toNat < Depth.top) {t : Operation}
    {before after : List (Operation × Nat)} (split : t.preorder 1 = before ++ after)
    (passes : ∀ k p, before[k]? = some p → Passes limit rule k p) :
    (judging limit ofGuard rule).run (some t) [] =
      (after.forM ((judging limit ofGuard rule).enterAt (judge rule))).run.run
        (called limit before) := by
  have quiet (k : Nat) (p : Operation × Nat) (found : before[k]? = some p) :
      rule (([] : List (Operation × Depth)).length + k) p.1 = none := by
    rw [List.length_nil, Nat.zero_add]
    exact (passes k p found).2
  have within := Operation.within_of_prefix split (shallow_of_passes passes)
  have walked : (before.forM ((judging limit ofGuard rule).enterAt (judge rule))).run.run [] =
      (.ok (), [] ++ called limit before) := run_of_passes limited within quiet
  rw [run, walk_eq_forM judging_descends, split]
  rw [List.forM_eq_forM] at walked ⊢
  rw [List.forM_append, run_bind, walked]
  rfl

/-- The first operation in pre-order that is one level too deep, or that the rule has an error for,
decides how the walk ends; the guard comes before the rule. What stands before that operation was
called, and so was the operation itself if the guard let it through; nothing else was. -/
theorem first_failure (limited : limit.toNat < 2 ^ 32 - 1) (ofGuard : DepthExceeded → ε)
    (rule : Nat → Operation → Option ε) (t : Operation) :
    ((∀ k p, (t.preorder 1)[k]? = some p → Passes limit rule k p) →
      (judging limit ofGuard rule).run (some t) [] = (.ok (), called limit (t.preorder 1))) ∧
    ∀ before x after, t.preorder 1 = before ++ x :: after →
      (∀ k p, before[k]? = some p → Passes limit rule k p) →
      (x.2 = limit.toNat + 1 → (judging limit ofGuard rule).run (some t) [] =
        (.error (ofGuard ⟨limit + 1, limit⟩), called limit before)) ∧
      (x.2 ≠ limit.toNat + 1 → ∀ e, rule before.length x.1 = some e →
        (judging limit ofGuard rule).run (some t) [] =
          (.error e, called limit (before ++ [x]))) := by
  constructor
  · intro passes
    rw [run_judging_of_split limited (List.append_nil _).symm passes]
    rfl
  · intro before x after split passes
    rw [run_judging_of_split limited split passes, List.forM_eq_forM, List.forM_cons, run_bind]
    constructor
    · intro deep
      rw [run_enterAt_of_deep limited deep]
    · intro shallow e against
      have upTo : t.preorder 1 = (before ++ [x]) ++ after := by
        rw [split, List.append_assoc, List.singleton_append]
      have none : ∀ p ∈ before ++ [x], p.2 ≠ limit.toNat + 1 := by
        rw [List.forall_mem_append, List.forall_mem_singleton]
        exact ⟨fun p among => shallow_of_passes passes p among, shallow⟩
      have within := Operation.within_of_prefix upTo none x (by simp)
      have number : (called limit before).length = before.length := List.length_map _
      rw [run_enterAt_of_reaches ((Depth.reaches_iff limited x.2).mpr within), number, against,
        called, called, called, List.map_append]

/-- The second of two equal leaves fails, before the walk comes to the leaf that is too deep. -/
theorem first_failure_twins :
    let leaf : Operation := ⟨.literal "x", {}, []⟩
    let tree : Operation := ⟨.block, {}, [leaf, leaf, ⟨.loop, {}, [leaf]⟩]⟩
    let rule : Nat → Operation → Option Failure := fun number _ =>
      if number = 2 then some (.raised "second") else none
    (2 : UInt32).toNat < 2 ^ 32 - 1 ∧
      (judging 2 .guard rule).run (some tree) [] =
        (.error (.raised "second"), called 2 [(tree, 1), (leaf, 2), (leaf, 2)]) := by
  intro leaf tree rule
  have passes (k : Nat) (p : Operation × Nat) (found : [(tree, 1), (leaf, 2)][k]? = some p) :
      Passes 2 rule k p := by
    match k with
    | 0 =>
      cases found
      exact ⟨by decide, rfl⟩
    | 1 =>
      cases found
      exact ⟨by decide, rfl⟩
    | k + 2 => cases found
  have fails := (first_failure (by decide) .guard rule tree).2 [(tree, 1), (leaf, 2)] (leaf, 2)
    [(⟨.loop, {}, [leaf]⟩, 2), (leaf, 3)] rfl passes
  exact ⟨by decide, fails.2 (by decide) _ rfl⟩

end Walker

end OperationTree
