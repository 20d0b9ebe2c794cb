import Mathlib.Algebra.Ring.Int.Defs
import OperationTree.Proofs.Walk.Plan
import OperationTree.Proofs.Walk.Threads

/-!
Walks that bring results up. Hooks of chosen kinds put the results of their children together; the
others drop them. Such a walk returns the fold of the tree, or the guard's failure and nothing else.
-/

namespace OperationTree

/-- The kinds with a hook of their own, and what such a hook makes of the children's results. -/
structure Folding (α ω : Type) where
  chosen : KindTag → Bool
  combine : Operation → α → List (Option ω) → Option ω

namespace Folding

variable {α ω σ ε : Type}

def results (children : List (ThreadedChild α ω σ ε)) (arg : α) (depth : Depth) :
    Run σ ε (List (Option ω)) :=
  children.mapM fun child => child.visit arg depth

def walker (f : Folding α ω) (limit : UInt32) (ofGuard : DepthExceeded → ε) :
    ThreadedWalker α ω σ ε where
  limit := limit
  ofGuard := ofGuard
  hook tag t arg depth children :=
    if f.chosen tag then do
      return f.combine t arg (← results children arg depth)
    else ThreadedHook.descend t arg depth children

mutual
/-- What the tree comes to. Nothing comes of a kind that is not chosen, whatever is below it. -/
def fold (f : Folding α ω) (arg : α) : Operation → Option ω
  | ⟨kind, span, children⟩ =>
    if f.chosen kind.tag then f.combine ⟨kind, span, children⟩ arg (f.foldAll arg children)
    else none
def foldAll (f : Folding α ω) (arg : α) : List Operation → List (Option ω)
  | [] => []
  | t :: ts => f.fold arg t :: f.foldAll arg ts
end

theorem visitAllWith_eq_results (children : List (ThreadedChild α ω σ ε)) (arg : α)
    (depth : Depth) :
    visitAllWith children arg depth = results children arg depth >>= fun _ => pure () := by
  induction children with
  | nil => rfl
  | cons child later ih =>
    rw [visitAllWith_cons, ih]
    simp only [results, List.mapM_cons, bind_assoc, pure_bind]

theorem results_offer_cons (w : ThreadedWalker α ω σ ε) (t : Operation) (ts : List Operation)
    (arg : α) (depth : Depth) : results (w.offer (t :: ts)) arg depth = do
      let first ← w.visit t arg depth
      let later ← results (w.offer ts) arg depth
      return first :: later := by
  rw [ThreadedWalker.offer, results, List.mapM_cons]
  rfl

/-- A walk that needs `levels` levels below the level `n` ends well if they are in reach, and else
with the guard's failure. The state stays as it is. -/
def Ends {β : Type} (limit : UInt32) (ofGuard : DepthExceeded → ε) (n levels : Nat) (b : β)
    (run : Run σ ε β) : Prop :=
  ∀ s, run.run.run s =
    (if n + levels ≤ limit.toNat then .ok b else .error (ofGuard ⟨limit + 1, limit⟩), s)

variable {f : Folding α ω} {limit : UInt32} {ofGuard : DepthExceeded → ε}

theorem Ends.bind {β γ : Type} {n first later : Nat} {b : β} {c : γ} {run : Run σ ε β}
    {next : β → Run σ ε γ} (ends : Ends limit ofGuard n first b run)
    (onward : Ends limit ofGuard n later c (next b)) :
    Ends limit ofGuard n (max first later) c (run >>= next) := by
  intro s
  rw [run_bind, ends s]
  by_cases within : n + first ≤ limit.toNat
  · rw [if_pos within]
    refine (onward s).trans ?_
    have same : n + later ≤ limit.toNat ↔ n + max first later ≤ limit.toNat := by omega
    simp only [same]
  · have above : ¬ n + max first later ≤ limit.toNat := by omega
    rw [if_neg within, if_neg above]

theorem Ends.map {β γ : Type} {n levels : Nat} {b : β} {run : Run σ ε β}
    (ends : Ends limit ofGuard n levels b run) (g : β → γ) :
    Ends limit ofGuard n levels (g b) (run >>= fun b => pure (g b)) := by
  intro s
  rw [run_bind, ends s]
  by_cases within : n + levels ≤ limit.toNat
  · rw [if_pos within, if_pos within]
    rfl
  · rw [if_neg within, if_neg within]

theorem Ends.enter {β : Type} {n levels : Nat} {b : β} {run : Run σ ε β}
    (ends : Ends limit ofGuard (n + 1) levels b run) : Ends limit ofGuard n (1 + levels) b run := by
  intro s
  rw [ends s, Nat.add_assoc]

theorem fold_eq (t : Operation) (arg : α) : f.fold arg t =
    if f.chosen t.kind.tag then f.combine t arg (f.foldAll arg t.children) else none := by
  rcases t with ⟨kind, span, children⟩
  rw [fold]

theorem ends_dispatch {n levels : Nat} {t : Operation} {arg : α}
    (ends : Ends limit ofGuard n levels (f.foldAll arg t.children)
      (results ((f.walker limit ofGuard : ThreadedWalker α ω σ ε).offer t.children) arg
        (.level limit n))) :
    Ends limit ofGuard n levels (f.fold arg t)
      ((f.walker limit ofGuard : ThreadedWalker α ω σ ε).dispatch t arg (.level limit n)) := by
  rw [ThreadedWalker.dispatch_eq, fold_eq]
  simp only [walker]
  cases f.chosen t.kind.tag with
  | true => exact ends.map _
  | false =>
    show Ends limit ofGuard n levels none (visitAllWith _ arg _ >>= fun _ => pure none)
    rw [visitAllWith_eq_results, bind_assoc]
    exact ends.map _

mutual
theorem ends_visit (limited : limit.toNat < Depth.top) {n : Nat} (start : n ≤ limit.toNat)
    (arg : α) : (t : Operation) → Ends limit ofGuard n t.height (f.fold arg t)
      ((f.walker limit ofGuard : ThreadedWalker α ω σ ε).visit t arg (.level limit n))
  | ⟨kind, span, children⟩ => by
    rw [Operation.height]
    rcases Nat.lt_or_eq_of_le start with room | rfl
    · have reached : Depth.Reaches limit (n + 1) := (Depth.reaches_iff limited _).mpr room
      have entered : (f.walker limit ofGuard : ThreadedWalker α ω σ ε).visit
          ⟨kind, span, children⟩ arg (.level limit n) =
            (f.walker limit ofGuard).dispatch ⟨kind, span, children⟩ arg (.level limit (n + 1)) :=
        ThreadedWalker.visit_of_reaches _ reached _ _
      have below := ends_visits limited room arg children
      rw [entered]
      exact (ends_dispatch (t := ⟨kind, span, children⟩) below).enter
    · have held : (f.walker limit ofGuard : ThreadedWalker α ω σ ε).visit
          ⟨kind, span, children⟩ arg (.level limit limit.toNat) =
            throw (ofGuard ⟨limit + 1, limit⟩) :=
        ThreadedWalker.visit_of_full _ limited _ _
      intro s
      rw [held, if_neg (by omega)]
      rfl
theorem ends_visits (limited : limit.toNat < Depth.top) {n : Nat} (start : n ≤ limit.toNat)
    (arg : α) : (ts : List Operation) →
    Ends limit ofGuard n (Operation.heightAll ts) (f.foldAll arg ts)
      (results ((f.walker limit ofGuard : ThreadedWalker α ω σ ε).offer ts) arg (.level limit n))
  | [] => fun s => by
    rw [Operation.heightAll, if_pos (by omega)]
    rfl
  | t :: ts => by
    have first := ends_visit limited start arg t
    have later := ends_visits limited start arg ts
    rw [results_offer_cons, Operation.heightAll, foldAll]
    exact first.bind (later.map _)
end

def adding (chosen : KindTag → Bool) (value : Operation → α → Int64) : Folding α Int64 where
  chosen := chosen
  combine t arg results := some (value t arg + (results.map fun result => result.getD 0).sum)

mutual
/-- The operations that count: those of a chosen kind with nothing but chosen kinds above them. -/
def counted (chosen : KindTag → Bool) : Operation → List Operation
  | ⟨kind, span, children⟩ =>
    if chosen kind.tag then ⟨kind, span, children⟩ :: countedAll chosen children else []
def countedAll (chosen : KindTag → Bool) : List Operation → List Operation
  | [] => []
  | t :: ts => counted chosen t ++ countedAll chosen ts
end

variable {chosen : KindTag → Bool} {value : Operation → α → Int64}

theorem counted_eq (t : Operation) : counted chosen t =
    if chosen t.kind.tag then t :: countedAll chosen t.children else [] := by
  rcases t with ⟨kind, span, children⟩
  rw [counted]

theorem adding_eq (t : Operation) (arg : α) : (adding chosen value).fold arg t =
    if chosen t.kind.tag then some (value t arg +
      (((adding chosen value).foldAll arg t.children).map fun result => result.getD 0).sum)
    else none :=
  fold_eq t arg

theorem getD_adding {t : Operation} {arg : α} {n : Int}
    (adds : (adding chosen value).fold arg t =
      if chosen t.kind.tag then some (Int64.ofInt n) else none)
    (alone : chosen t.kind.tag = false → n = 0) :
    ((adding chosen value).fold arg t).getD 0 = Int64.ofInt n := by
  rw [adds]
  cases picked : chosen t.kind.tag with
  | true => rfl
  | false =>
    rw [alone picked]
    rfl

mutual
theorem fold_adding (arg : α) : (t : Operation) → (adding chosen value).fold arg t =
    if chosen t.kind.tag then
      some (Int64.ofInt ((counted chosen t).map fun u => (value u arg).toInt).sum)
    else none
  | ⟨kind, span, children⟩ => by
    rw [adding_eq, counted_eq, sum_foldAll arg children]
    cases chosen kind.tag with
    | true =>
      simp only [if_true, List.map_cons, List.sum_cons, Int64.ofInt_add, Int64.ofInt_toInt]
    | false => rfl
theorem sum_foldAll (arg : α) : (ts : List Operation) →
    (((adding chosen value).foldAll arg ts).map fun result => result.getD 0).sum =
      Int64.ofInt ((countedAll chosen ts).map fun u => (value u arg).toInt).sum
  | [] => by
    rw [foldAll, countedAll]
    rfl
  | t :: ts => by
    have first := getD_adding (fold_adding arg t) fun unpicked => by
      rw [counted_eq, unpicked]
      rfl
    rw [foldAll, countedAll, List.map_cons, List.sum_cons, first, sum_foldAll arg ts,
      List.map_append, List.sum_append, Int64.ofInt_add]
end

/-- Where the guard lets all of the tree through, a walk returns its fold, whatever the hooks make
of results; where it does not, the walk fails with the guard's failure and no result. Sums in 64
bits come to the sum over the operations that count, wrapped around. -/
theorem folded_walk (f : Folding α ω) {limit : UInt32} (limited : limit.toNat < 2 ^ 32 - 1)
    (ofGuard : DepthExceeded → ε) (t : Operation) (arg : α) (s : σ) :
    (t.height ≤ limit.toNat →
      (f.walker limit ofGuard).run (some t) arg s = (.ok (f.fold arg t), s)) ∧
    (limit.toNat < t.height →
      (f.walker limit ofGuard).run (some t) arg s = (.error (ofGuard ⟨limit + 1, limit⟩), s)) ∧
    ∀ (chosen : KindTag → Bool) (value : Operation → α → Int64), t.height ≤ limit.toNat →
      ((adding chosen value).walker limit ofGuard).run (some t) arg s =
        (.ok (if chosen t.kind.tag then
          some (Int64.ofInt ((counted chosen t).map fun u => (value u arg).toInt).sum)
        else none), s) := by
  have ends {ω : Type} (f : Folding α ω) : (f.walker limit ofGuard).run (some t) arg s =
      (if 0 + t.height ≤ limit.toNat then .ok (f.fold arg t)
        else .error (ofGuard ⟨limit + 1, limit⟩), s) :=
    ends_visit limited (Nat.zero_le _) arg t s
  simp only [Nat.zero_add] at ends
  refine ⟨fun shallow => ?_, fun deep => ?_, fun chosen value shallow => ?_⟩
  · rw [ends, if_pos shallow]
  · rw [ends, if_neg (by omega)]
  · rw [ends, if_pos shallow, fold_adding]

/-- Twice the largest number wraps around, and what stands below a kind without a hook does not
count. -/
theorem folded_walk_wrapped :
    let literal : Operation := ⟨.literal "x", {}, []⟩
    let hidden : Operation := ⟨.block, {}, [literal]⟩
    let tree : Operation := ⟨.binary .add, {}, [literal, ⟨.parenthesized, {}, [literal]⟩, hidden]⟩
    let chosen (tag : KindTag) : Bool := tag ≠ .block
    let value (t : Operation) (_ : Unit) : Int64 := if t.kind.tag = .literal then .maxValue else 0
    ((adding chosen value).walker 3 id).run (some tree) () () = (.ok (some (-2)), ()) ∧
      ((adding chosen value).walker 3 id).run (some hidden) () () = (.ok none, ()) ∧
      ((adding chosen value).walker 2 id).run (some tree) () () = (.error ⟨3, 2⟩, ()) := by
  intro literal hidden tree chosen value
  have three : (3 : UInt32).toNat < 2 ^ 32 - 1 := by decide
  have wrapped : Int64.ofInt ((counted chosen tree).map fun u => (value u ()).toInt).sum = -2 := by
    decide
  have sum := (folded_walk (adding chosen value) three id tree () ()).2.2 chosen value (by decide)
  rw [wrapped] at sum
  refine ⟨sum, ?_, ?_⟩
  · exact (folded_walk (adding chosen value) three id hidden () ()).1 (by decide)
  · exact (folded_walk (adding chosen value) (by decide) id tree () ()).2.1 (by decide)

end Folding

end OperationTree
