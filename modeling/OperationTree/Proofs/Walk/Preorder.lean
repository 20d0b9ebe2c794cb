import Mathlib.Algebra.Ring.Nat
import Mathlib.Data.List.TakeWhile
import OperationTree.Proofs.Walk.Levels
import OperationTree.Walk.Walker

/-!
Walks that descend everywhere. Whatever their hooks do before they descend, such a walk is one
pass over the operations in pre-order, each behind the guard of its own level.
-/

namespace OperationTree

namespace Operation

theorem preorderAll_eq_flatMap (level : Nat) (ts : List Operation) :
    preorderAll level ts = ts.flatMap (preorder level) := by
  induction ts with
  | nil => rfl
  | cons t ts ih => rw [preorderAll, List.flatMap_cons, ih]

theorem preorder_eq (level : Nat) (t : Operation) :
    t.preorder level = (t, level) :: t.children.flatMap (preorder (level + 1)) := by
  rcases t with ⟨kind, span, children⟩
  rw [preorder, preorderAll_eq_flatMap]

theorem sizeOf_lt_of_mem {t child : Operation} (among : child ∈ t.children) :
    sizeOf child < sizeOf t := by
  have inside := List.sizeOf_lt_of_mem among
  rcases t with ⟨kind, span, children⟩
  simp at inside ⊢
  omega

theorem sizeAll_eq_sum (ts : List Operation) : sizeAll ts = (ts.map size).sum := by
  induction ts with
  | nil => rfl
  | cons t ts ih => rw [sizeAll, List.map_cons, List.sum_cons, ih]

theorem size_eq (t : Operation) : t.size = 1 + (t.children.map size).sum := by
  rcases t with ⟨kind, span, children⟩
  rw [size, sizeAll_eq_sum]

mutual
theorem length_preorder (level : Nat) : (t : Operation) → (t.preorder level).length = t.size
  | ⟨kind, span, children⟩ => by
    rw [preorder, size, List.length_cons, length_preorderAll (level + 1) children]
    omega
theorem length_preorderAll (level : Nat) :
    (ts : List Operation) → (preorderAll level ts).length = sizeAll ts
  | [] => rfl
  | t :: ts => by
    rw [preorderAll, sizeAll, List.length_append, length_preorder level t,
      length_preorderAll level ts]
end

def push (level : Nat) (ts : List Operation) (stack : List (Operation × Nat)) :
    List (Operation × Nat) :=
  ts.reverse.foldl (fun stack t => (t, level) :: stack) stack

theorem push_eq (level : Nat) (ts : List Operation) (stack : List (Operation × Nat)) :
    push level ts stack = ts.map (·, level) ++ stack := by
  unfold push
  rw [List.foldl_reverse]
  induction ts with
  | nil => rfl
  | cons t ts ih => rw [List.foldr_cons, ih, List.map_cons, List.cons_append]

/-- Takes the topmost operation off the stack and puts its children there, until the stack is
empty. -/
def popAll (stack : List (Operation × Nat)) : List (Operation × Nat) :=
  match stack with
  | [] => []
  | (t, level) :: rest => (t, level) :: popAll (push (level + 1) t.children rest)
termination_by (stack.map fun p => p.1.size).sum
decreasing_by
  rw [push_eq]
  simp only [List.map_append, List.map_map, List.sum_append, List.map_cons, List.sum_cons,
    size_eq t]
  have same : (fun p : Operation × Nat => p.1.size) ∘ (·, level + 1) = size := rfl
  rw [same]
  omega

theorem popAll_eq (stack : List (Operation × Nat)) :
    popAll stack = stack.flatMap fun p => p.1.preorder p.2 := by
  -- a stack stands for the pre-orders of what is on it, the topmost first
  fun_induction popAll stack with
  | case1 => rfl
  | case2 t level rest ih =>
    rw [ih, push_eq, List.flatMap_append, List.flatMap_cons, preorder_eq, List.flatMap_map]
    rfl

theorem popAll_root (t : Operation) : popAll [(t, 1)] = t.preorder 1 := by
  rw [popAll_eq, List.flatMap_singleton]

mutual
/-- The first operation that is too deep is one level too deep: its parent was not. -/
theorem first_too_deep {limit level : Nat} (start : level ≤ limit + 1) {p : Operation × Nat} :
    (t : Operation) → (t.preorder level).find? (fun p => limit < p.2) = some p → p.2 = limit + 1
  | ⟨kind, span, children⟩, found => by
    rw [preorder] at found
    -- either `t` is the first that is too deep, or its children start within `limit + 1`
    by_cases deep : limit < level
    · rw [List.find?_cons_of_pos (by simpa using deep)] at found
      cases found
      show level = limit + 1
      omega
    · rw [List.find?_cons_of_neg (by simpa using deep)] at found
      have within : level + 1 ≤ limit + 1 := by omega
      exact first_too_deep_all within children found
theorem first_too_deep_all {limit level : Nat} (start : level ≤ limit + 1) {p : Operation × Nat} :
    (ts : List Operation) → (preorderAll level ts).find? (fun p => limit < p.2) = some p →
      p.2 = limit + 1
  | [], found => by cases found
  | t :: ts, found => by
    rw [preorderAll, List.find?_append, Option.or_eq_some_iff] at found
    rcases found with first | ⟨_, later⟩
    · exact first_too_deep start t first
    · exact first_too_deep_all start ts later
end

mutual
theorem le_of_mem_preorder {level : Nat} {p : Operation × Nat} :
    (t : Operation) → p ∈ t.preorder level → level ≤ p.2
  | ⟨kind, span, children⟩, among => by
    rw [preorder, List.mem_cons] at among
    rcases among with rfl | below
    · exact Nat.le_refl level
    · exact Nat.le_of_succ_le (le_of_mem_preorderAll children below)
theorem le_of_mem_preorderAll {level : Nat} {p : Operation × Nat} :
    (ts : List Operation) → p ∈ preorderAll level ts → level ≤ p.2
  | t :: ts, among => by
    rw [preorderAll, List.mem_append] at among
    rcases among with first | later
    · exact le_of_mem_preorder t first
    · exact le_of_mem_preorderAll ts later
end

end Operation

variable {σ ε : Type}

namespace Walker

def refuse (w : Walker σ ε) (t : Operation) (n : Nat) : Run σ ε Unit := do
  modify (w.tripped t ⟨(Depth.level w.limit n).current, w.limit⟩)
  throw (w.ofGuard ⟨(Depth.level w.limit n).current, w.limit⟩)

theorem refuse_bind (w : Walker σ ε) (t : Operation) (n : Nat) (later : Unit → Run σ ε Unit) :
    (w.refuse t n >>= later) = w.refuse t n := rfl

theorem guarded_level (w : Walker σ ε) (t : Operation) (n : Nat) (run : Depth → Run σ ε Unit) :
    w.guarded t (.level w.limit n) run =
      if Depth.Reaches w.limit (n + 1) then run (.level w.limit (n + 1))
      else w.refuse t (n + 1) := by
  unfold guarded
  rw [Depth.enter_level]
  by_cases reached : Depth.Reaches w.limit (n + 1)
  · simp only [if_pos reached]
  · simp only [if_neg reached]
    rfl

theorem guarded_of_reaches (w : Walker σ ε) {n : Nat} (reached : Depth.Reaches w.limit (n + 1))
    (t : Operation) (run : Depth → Run σ ε Unit) :
    w.guarded t (.level w.limit n) run = run (.level w.limit (n + 1)) :=
  (w.guarded_level t n run).trans (if_pos reached)

theorem run_guarded_of_full (w : Walker σ ε) (limited : w.limit.toNat < Depth.top) (t : Operation)
    (run : Depth → Run σ ε Unit) (s : σ) :
    (w.guarded t (.level w.limit w.limit.toNat) run).run.run s =
      (.error (w.ofGuard ⟨w.limit + 1, w.limit⟩), w.tripped t ⟨w.limit + 1, w.limit⟩ s) := by
  have held : ¬ Depth.Reaches w.limit (w.limit.toNat + 1) := by
    rw [Depth.reaches_iff limited]
    omega
  rw [guarded_level, if_neg held, refuse, Depth.current_above limited]
  rfl

theorem visit_eq (w : Walker σ ε) (t : Operation) (depth : Depth) :
    w.visit t depth = w.around t (w.guarded t depth (w.dispatch t)) := rfl

theorem dispatch_eq (w : Walker σ ε) (t : Operation) (depth : Depth) :
    w.dispatch t depth = w.hook t.kind.tag t depth (w.offer t.children) := by
  rcases t with ⟨kind, span, children⟩
  rw [dispatch]

theorem visitAll_offer (w : Walker σ ε) (ts : List Operation) (depth : Depth) :
    visitAll (w.offer ts) depth = ts.forM fun t => w.visit t depth := by
  rw [visitAll, offer_eq_map, List.forM_eq_forM, List.forM_map]
  rfl

/-- Every hook does something of its own and then visits all children in order. -/
structure Descends (w : Walker σ ε) (act : Operation → Depth → Run σ ε Unit) : Prop where
  bare : ∀ t run, w.around t run = run
  hook : ∀ t depth children, w.hook t.kind.tag t depth children = do
    act t depth
    visitAll children depth

/-- The same with something put around visits: around a sequence it goes around the parts, and only
the innermost of it counts. -/
structure Layers (w : Walker σ ε) (act : Operation → Depth → Run σ ε Unit) : Prop where
  done : ∀ t, w.around t (pure ()) = pure ()
  seq : ∀ t first later,
    w.around t (first >>= fun _ => later) = w.around t first >>= fun _ => w.around t later
  innermost : ∀ t u run, w.around t (w.around u run) = w.around u run
  hook : ∀ t depth children, w.hook t.kind.tag t depth children = do
    act t depth
    visitAll children depth

theorem Descends.layers {w : Walker σ ε} {act : Operation → Depth → Run σ ε Unit}
    (descends : w.Descends act) : w.Layers act where
  done t := descends.bare t _
  seq t first later := by simp only [descends.bare]
  innermost t u run := descends.bare t _
  hook := descends.hook

def enterAt (w : Walker σ ε) (act : Operation → Depth → Run σ ε Unit) (p : Operation × Nat) :
    Run σ ε Unit :=
  if Depth.Reaches w.limit p.2 then act p.1 (.level w.limit p.2) else w.refuse p.1 p.2

def enterInside (w : Walker σ ε) (act : Operation → Depth → Run σ ε Unit) (p : Operation × Nat) :
    Run σ ε Unit :=
  w.around p.1 (w.enterAt act p)

theorem around_forM {w : Walker σ ε} {act : Operation → Depth → Run σ ε Unit}
    (layers : w.Layers act) (t : Operation) (ps : List (Operation × Nat)) :
    w.around t (ps.forM (w.enterInside act)) = ps.forM (w.enterInside act) := by
  induction ps with
  | nil => exact layers.done t
  | cons p ps ih =>
    rw [List.forM_eq_forM] at ih ⊢
    rw [List.forM_cons, layers.seq, ih, enterInside, layers.innermost]

mutual
/-- A walk that descends everywhere passes over the operations in pre-order. -/
theorem visit_eq_forM {w : Walker σ ε} {act : Operation → Depth → Run σ ε Unit}
    (layers : w.Layers act) (n : Nat) : (t : Operation) →
    w.visit t (.level w.limit n) = (t.preorder (n + 1)).forM (w.enterInside act)
  | ⟨kind, span, children⟩ => by
    have below := visitEach_eq_forM layers (n + 1) children
    -- let through: the hook's own part, then the children; held back: nothing that follows runs
    have entered : w.guarded ⟨kind, span, children⟩ (.level w.limit n)
        (w.dispatch ⟨kind, span, children⟩) =
          w.enterAt act (⟨kind, span, children⟩, n + 1) >>= fun _ =>
            (Operation.preorderAll (n + 1 + 1) children).forM (w.enterInside act) := by
      rw [guarded_level, dispatch_eq, layers.hook, visitAll_offer, below, enterAt]
      split
      · rfl
      · rw [refuse_bind]
    rw [visit_eq, entered, layers.seq, around_forM layers, Operation.preorder, List.forM_eq_forM,
      List.forM_cons, enterInside]
theorem visitEach_eq_forM {w : Walker σ ε} {act : Operation → Depth → Run σ ε Unit}
    (layers : w.Layers act) (n : Nat) : (ts : List Operation) →
    (ts.forM fun t => w.visit t (.level w.limit n)) =
      (Operation.preorderAll (n + 1) ts).forM (w.enterInside act)
  | [] => rfl
  | t :: ts => by
    have first := visit_eq_forM layers n t
    have later := visitEach_eq_forM layers n ts
    simp only [List.forM_eq_forM] at first later ⊢
    rw [List.forM_cons, first, later, Operation.preorderAll, List.forM_append]
end

theorem walk_eq_forM {w : Walker σ ε} {act : Operation → Depth → Run σ ε Unit}
    (descends : w.Descends act) (t : Operation) :
    w.walk (some t) = (t.preorder 1).forM (w.enterAt act) := by
  have plain : w.enterInside act = w.enterAt act := funext fun p => descends.bare p.1 _
  rw [← plain]
  exact visit_eq_forM descends.layers 0 t

/-- One pass over operations on their levels, up to the first that the guard holds back. -/
def sweep (w : Walker σ ε) (f : Operation → Depth → σ → σ) (ps : List (Operation × Nat))
    (s : σ) : Except ε Unit × σ :=
  let reached := (ps.takeWhile fun p => Depth.Reaches w.limit p.2).foldl
    (fun s p => f p.1 (.level w.limit p.2) s) s
  match ps.find? fun p => ¬ Depth.Reaches w.limit p.2 with
  | none => (.ok (), reached)
  | some p =>
    let trip := ⟨(Depth.level w.limit p.2).current, w.limit⟩
    (.error (w.ofGuard trip), w.tripped p.1 trip reached)

theorem run_forM_enterAt (w : Walker σ ε) (f : Operation → Depth → σ → σ)
    (ps : List (Operation × Nat)) (s : σ) :
    (ps.forM (w.enterAt fun t depth => modify (f t depth))).run.run s = w.sweep f ps s := by
  induction ps generalizing s with
  | nil => rfl
  | cons p ps ih =>
    rw [List.forM_eq_forM] at ih ⊢
    rw [List.forM_cons, enterAt]
    by_cases reached : Depth.Reaches w.limit p.2
    · have first := ih (f p.1 (.level w.limit p.2) s)
      rw [if_pos reached]
      unfold sweep at first ⊢
      rw [List.takeWhile_cons_of_pos (by simpa using reached),
        List.find?_cons_of_neg (by simpa using reached), List.foldl_cons, ← first]
      rfl
    · rw [if_neg reached]
      unfold sweep
      rw [List.takeWhile_cons_of_neg (by simpa using reached),
        List.find?_cons_of_pos (by simpa using reached)]
      rfl

theorem run_eq_sweep {w : Walker σ ε} {f : Operation → Depth → σ → σ}
    (descends : w.Descends fun t depth => modify (f t depth)) (t : Operation) (s : σ) :
    w.run (some t) s = w.sweep f (t.preorder 1) s := by
  rw [run, walk_eq_forM descends, run_forM_enterAt]

theorem sweep_of_reaches {w : Walker σ ε} {ps : List (Operation × Nat)}
    (reached : ∀ p ∈ ps, Depth.Reaches w.limit p.2) (f : Operation → Depth → σ → σ) (s : σ) :
    w.sweep f ps s = (.ok (), ps.foldl (fun s p => f p.1 (.level w.limit p.2) s) s) := by
  have noneHeld : ps.find? (fun p => ¬ Depth.Reaches w.limit p.2) = none := by
    rw [List.find?_eq_none]
    intro p among
    simpa using reached p among
  have all : ps.takeWhile (fun p => Depth.Reaches w.limit p.2) = ps := by
    rw [List.takeWhile_eq_self_iff]
    intro p among
    simpa using reached p among
  unfold sweep
  rw [noneHeld, all]

theorem sweep_of_too_deep {w : Walker σ ε} (limited : w.limit.toNat < Depth.top) {t : Operation}
    (deep : ∃ p ∈ t.preorder 1, w.limit.toNat < p.2) (f : Operation → Depth → σ → σ) (s : σ) :
    ∃ held, (t.preorder 1).find? (fun p => w.limit.toNat < p.2) = some held ∧
      held.2 = w.limit.toNat + 1 ∧
      w.sweep f (t.preorder 1) s = (.error (w.ofGuard ⟨w.limit + 1, w.limit⟩),
        w.tripped held.1 ⟨w.limit + 1, w.limit⟩
          (((t.preorder 1).takeWhile fun p => p.2 ≤ w.limit.toNat).foldl
            (fun s p => f p.1 (.level w.limit p.2) s) s)) := by
  rcases deep with ⟨p, among, below⟩
  have someHeld : ((t.preorder 1).find? fun p => w.limit.toNat < p.2).isSome = true := by
    rw [List.find?_isSome]
    exact ⟨p, among, by simpa using below⟩
  obtain ⟨held, found⟩ := Option.isSome_iff_exists.mp someHeld
  have oneBelow := Operation.first_too_deep (by omega) t found
  refine ⟨held, found, oneBelow, ?_⟩
  have stopped : (t.preorder 1).find? (fun p => ¬ Depth.Reaches w.limit p.2) = some held := by
    simpa only [Depth.reaches_iff limited, Nat.not_le] using found
  unfold sweep
  rw [stopped]
  simp only [oneBelow, Depth.current_above limited, Depth.reaches_iff limited]

end Walker

end OperationTree
