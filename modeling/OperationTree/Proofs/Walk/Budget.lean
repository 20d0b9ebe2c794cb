import OperationTree.Proofs.Walk.Height
import OperationTree.Proofs.Walk.Plan

/-!
Walks on a budget. Every operation that is entered costs one, and where nothing is left the walk no
longer descends. It still enters what it comes by on the way out, so that the guard may stop it; it
does so exactly if the first operation that is too deep comes while the budget lasts, or right then.
-/

namespace OperationTree

variable {σ ε : Type}

namespace Walker

structure Spends (w : Walker σ ε) (left : σ → Nat) (spend : Operation → Depth → σ → σ) :
    Prop where
  bare : ∀ t run, w.around t run = run
  unnoted : ∀ t e s, w.tripped t e s = s
  less : ∀ t depth s, left (spend t depth s) = left s - 1
  hook : ∀ t depth children, w.hook t.kind.tag t depth children = do
    if left (← get) = 0 then return
    modify (spend t depth)
    visitAll children depth

/-- What a budget comes to over a list of operations with their levels. Nothing that follows the
operation at which it is spent has a part in it. -/
def consume (w : Walker σ ε) (left : σ → Nat) (spend : Operation → Depth → σ → σ) :
    List (Operation × Nat) → σ → Except ε Unit × σ
  | [], s => (.ok (), s)
  | p :: ps, s =>
    if w.limit.toNat < p.2 then (.error (w.ofGuard ⟨w.limit + 1, w.limit⟩), s)
    else if left s = 0 then (.ok (), s)
    else consume w left spend ps (spend p.1 (.level w.limit p.2) s)

def spendAll (w : Walker σ ε) (spend : Operation → Depth → σ → σ) (ps : List (Operation × Nat))
    (s : σ) : σ :=
  ps.foldl (fun s p => spend p.1 (.level w.limit p.2) s) s

variable {w : Walker σ ε} {left : σ → Nat} {spend : Operation → Depth → σ → σ}

theorem consume_of_deep {p : Operation × Nat} (deep : w.limit.toNat < p.2)
    (ps : List (Operation × Nat)) (s : σ) : w.consume left spend (p :: ps) s =
      (.error (w.ofGuard ⟨w.limit + 1, w.limit⟩), s) := by
  rw [consume, if_pos deep]

theorem consume_of_spent {p : Operation × Nat} (within : p.2 ≤ w.limit.toNat) {s : σ}
    (spent : left s = 0) (ps : List (Operation × Nat)) :
    w.consume left spend (p :: ps) s = (.ok (), s) := by
  rw [consume, if_neg (Nat.not_lt.mpr within), if_pos spent]

theorem consume_of_rich {p : Operation × Nat} (within : p.2 ≤ w.limit.toNat) {s : σ}
    (rich : left s ≠ 0) (ps : List (Operation × Nat)) : w.consume left spend (p :: ps) s =
      w.consume left spend ps (spend p.1 (.level w.limit p.2) s) := by
  rw [consume, if_neg (Nat.not_lt.mpr within), if_neg rich]

/-- A budget that is spent over the first of two lists passes the guard at the head of the second,
and has no other part in it. -/
theorem consume_append (ps : List (Operation × Nat)) {qs : List (Operation × Nat)}
    (within : ∀ q ∈ qs.head?, q.2 ≤ w.limit.toNat) (s : σ) :
    w.consume left spend (ps ++ qs) s = match w.consume left spend ps s with
      | (.ok (), next) => w.consume left spend qs next
      | (.error e, next) => (.error e, next) := by
  induction ps generalizing s with
  | nil => rfl
  | cons p ps ih =>
    rw [List.cons_append]
    by_cases deep : w.limit.toNat < p.2
    · rw [consume_of_deep deep, consume_of_deep deep]
    · rw [Nat.not_lt] at deep
      by_cases spent : left s = 0
      · rw [consume_of_spent deep spent, consume_of_spent deep spent]
        cases qs with
        | nil => rfl
        | cons q qs => exact (consume_of_spent (within q rfl) spent qs).symm
      · rw [consume_of_rich deep spent, consume_of_rich deep spent, ih]

theorem consume_of_le (spends : w.Spends left spend) {before : List (Operation × Nat)}
    (within : ∀ p ∈ before, p.2 ≤ w.limit.toNat) (rest : List (Operation × Nat)) {s : σ}
    (enough : before.length ≤ left s) : w.consume left spend (before ++ rest) s =
      w.consume left spend rest (w.spendAll spend before s) := by
  induction before generalizing s with
  | nil => rfl
  | cons p before ih =>
    rw [List.forall_mem_cons] at within
    rw [List.length_cons] at enough
    have onward : before.length ≤ left (spend p.1 (.level w.limit p.2) s) := by
      rw [spends.less]
      omega
    rw [List.cons_append, consume_of_rich within.1 (by omega), ih within.2 onward]
    rfl

theorem consume_of_lt (spends : w.Spends left spend) {before : List (Operation × Nat)}
    (within : ∀ p ∈ before, p.2 ≤ w.limit.toNat) (rest : List (Operation × Nat)) {s : σ}
    (short : left s < before.length) : w.consume left spend (before ++ rest) s =
      (.ok (), w.spendAll spend (before.take (left s)) s) := by
  induction before generalizing s with
  | nil => cases short
  | cons p before ih =>
    rw [List.forall_mem_cons] at within
    rw [List.length_cons] at short
    rw [List.cons_append]
    by_cases spent : left s = 0
    · rw [consume_of_spent within.1 spent, spent]
      rfl
    · have onward : left (spend p.1 (.level w.limit p.2) s) < before.length := by
        rw [spends.less]
        omega
      have taken : left s = left s - 1 + 1 := by omega
      rw [consume_of_rich within.1 spent, ih within.2 onward, spends.less, taken,
        List.take_succ_cons]
      rfl

theorem run_visit_of_deep (spends : w.Spends left spend) (limited : w.limit.toNat < Depth.top)
    (t : Operation) (s : σ) : (w.visit t (.level w.limit w.limit.toNat)).run.run s =
      (.error (w.ofGuard ⟨w.limit + 1, w.limit⟩), s) := by
  rw [visit_eq, spends.bare, run_guarded_of_full w limited, spends.unnoted]

theorem run_dispatch_of_spends (spends : w.Spends left spend) (t : Operation) (n : Nat) (s : σ) :
    (w.dispatch t (.level w.limit n)).run.run s =
      if left s = 0 then (.ok (), s)
      else (t.children.forM fun u => w.visit u (.level w.limit n)).run.run
        (spend t (.level w.limit n) s) := by
  rw [dispatch_eq, spends.hook, visitAll_offer]
  show (if left s = 0 then pure () else _ : Run σ ε Unit).run.run s = _
  split <;> rfl

theorem run_visit_of_spends (spends : w.Spends left spend) {n : Nat}
    (reached : Depth.Reaches w.limit (n + 1)) (t : Operation) (s : σ) :
    (w.visit t (.level w.limit n)).run.run s =
      if left s = 0 then (.ok (), s)
      else (t.children.forM fun u => w.visit u (.level w.limit (n + 1))).run.run
        (spend t (.level w.limit (n + 1)) s) := by
  rw [visit_eq, spends.bare, guarded_of_reaches w reached, run_dispatch_of_spends spends]

theorem head_preorderAll {level limit : Nat} (within : level ≤ limit) (ts : List Operation) :
    ∀ q ∈ (Operation.preorderAll level ts).head?, q.2 ≤ limit := by
  rcases ts with _ | ⟨⟨kind, span, children⟩, ts⟩
  · nofun
  · rintro q ⟨⟩
    exact within

mutual
theorem run_visit_eq_consume (spends : w.Spends left spend) (limited : w.limit.toNat < Depth.top)
    {n : Nat} (within : n ≤ w.limit.toNat) : (t : Operation) → (s : σ) →
    (w.visit t (.level w.limit n)).run.run s = w.consume left spend (t.preorder (n + 1)) s
  | ⟨kind, span, children⟩, s => by
    rw [Operation.preorder]
    rcases Nat.lt_or_eq_of_le within with room | full
    · have room : n + 1 ≤ w.limit.toNat := room
      have reached : Depth.Reaches w.limit (n + 1) := (Depth.reaches_iff limited _).mpr room
      rw [run_visit_of_spends spends reached, run_visits_eq_consume spends limited room children]
      by_cases spent : left s = 0
      · rw [if_pos spent, consume_of_spent room spent]
      · rw [if_neg spent, consume_of_rich room spent]
    · rw [full, run_visit_of_deep spends limited, consume_of_deep (Nat.lt_succ_self _)]
theorem run_visits_eq_consume (spends : w.Spends left spend) (limited : w.limit.toNat < Depth.top)
    {n : Nat} (within : n ≤ w.limit.toNat) : (ts : List Operation) → (s : σ) →
    (ts.forM fun t => w.visit t (.level w.limit n)).run.run s =
      w.consume left spend (Operation.preorderAll (n + 1) ts) s
  | [], _ => rfl
  | t :: ts, s => by
    have first := run_visit_eq_consume spends limited within t s
    have later := run_visits_eq_consume spends limited within ts
    rw [List.forM_eq_forM] at later ⊢
    rw [List.forM_cons, run_bind, first, Operation.preorderAll]
    -- siblings at the limit are refused at once; elsewhere the guard lets the next of them through
    rcases Nat.lt_or_eq_of_le within with room | full
    · rw [consume_append _ (head_preorderAll room ts)]
      simp only [later]
      rcases w.consume left spend (t.preorder (n + 1)) s with ⟨_ | ⟨⟩, next⟩ <;> rfl
    · rcases t with ⟨kind, span, children⟩
      have deep : w.limit.toNat < n + 1 := by omega
      rw [Operation.preorder, List.cons_append, consume_of_deep deep, consume_of_deep deep]
end

theorem run_eq_consume (spends : w.Spends left spend) (limited : w.limit.toNat < Depth.top)
    (t : Operation) (s : σ) : w.run (some t) s = w.consume left spend (t.preorder 1) s :=
  run_visit_eq_consume spends limited (Nat.zero_le _) t s

theorem split_of_findIdx? {limit i : Nat} {t : Operation}
    (found : (t.preorder 1).findIdx? (fun p => p.2 = limit + 1) = some i) :
    ∃ before p after, t.preorder 1 = before ++ p :: after ∧ before.length = i ∧
      limit < p.2 ∧ ∀ q ∈ before, q.2 ≤ limit := by
  obtain ⟨bound, below, first⟩ := List.findIdx?_eq_some_iff_getElem.mp found
  have split : t.preorder 1 =
      (t.preorder 1).take i ++ (t.preorder 1)[i] :: (t.preorder 1).drop (i + 1) := by
    rw [← List.drop_eq_getElem_cons bound, List.take_append_drop]
  refine ⟨_, _, _, split, List.length_take_of_le bound.le, ?_, ?_⟩
  · have level := of_decide_eq_true below
    omega
  · refine Operation.within_of_prefix split fun q taken => ?_
    obtain ⟨j, earlier, rfl⟩ := List.mem_take_iff_getElem.mp taken
    have unlike := first j (by omega)
    simpa using unlike

theorem within_of_findIdx?_none {limit : Nat} {t : Operation}
    (none : (t.preorder 1).findIdx? (fun p => p.2 = limit + 1) = none) :
    ∀ q ∈ t.preorder 1, q.2 ≤ limit := by
  refine Operation.within_of_prefix (List.append_nil _).symm fun q among => ?_
  have unlike := List.findIdx?_eq_none_iff.mp none q among
  simpa using unlike

theorem run_of_spends_of_le (spends : w.Spends left spend)
    (limited : w.limit.toNat < Depth.top) {t : Operation} {i : Nat}
    (found : (t.preorder 1).findIdx? (fun p => p.2 = w.limit.toNat + 1) = some i) {s : σ}
    (enough : i ≤ left s) : w.run (some t) s =
      (.error (w.ofGuard ⟨w.limit + 1, w.limit⟩), w.spendAll spend ((t.preorder 1).take i) s) := by
  obtain ⟨before, p, after, split, rfl, deep, within⟩ := split_of_findIdx? found
  rw [run_eq_consume spends limited, split, consume_of_le spends within _ enough,
    consume_of_deep deep, List.take_left']
  rfl

theorem run_of_spends_of_lt (spends : w.Spends left spend)
    (limited : w.limit.toNat < Depth.top) {t : Operation} {s : σ}
    (early : ∀ i, (t.preorder 1).findIdx? (fun p => p.2 = w.limit.toNat + 1) = some i →
      left s < i) :
    w.run (some t) s = (.ok (), w.spendAll spend ((t.preorder 1).take (left s)) s) := by
  rw [run_eq_consume spends limited]
  cases found : (t.preorder 1).findIdx? (fun p => p.2 = w.limit.toNat + 1) with
  | none =>
    have within := within_of_findIdx?_none found
    rw [← List.append_nil (t.preorder 1)]
    rcases Nat.lt_or_ge (left s) (t.preorder 1).length with short | enough
    · rw [consume_of_lt spends within _ short, List.append_nil]
    · rw [consume_of_le spends within _ enough, List.append_nil, List.take_of_length_le enough]
      rfl
  | some i =>
    obtain ⟨before, p, after, split, rfl, deep, within⟩ := split_of_findIdx? found
    have short := early _ found
    rw [split, consume_of_lt spends within _ short, List.take_append_of_le_length short.le]

end Walker

/-- How many operations may still be entered, and those that were, in order. -/
structure Budget where
  left : Nat
  seen : List Operation := []
  deriving Repr

namespace Budget

def spend (t : Operation) (_ : Depth) (s : Budget) : Budget :=
  { left := s.left - 1, seen := s.seen ++ [t] }

def walker (limit : UInt32) (ofGuard : DepthExceeded → ε) : Walker Budget ε where
  limit := limit
  ofGuard := ofGuard
  hook _ t depth children := do
    if (← get).left = 0 then return
    modify (spend t depth)
    visitAll children depth

variable {limit : UInt32} {ofGuard : DepthExceeded → ε}

theorem walker_spends : (walker limit ofGuard).Spends left spend where
  bare _ _ := rfl
  unnoted _ _ _ := rfl
  less _ _ _ := rfl
  hook _ _ _ := rfl

theorem spendAll_eq (ps : List (Operation × Nat)) (s : Budget) :
    (walker limit ofGuard).spendAll spend ps s =
      { left := s.left - ps.length, seen := s.seen ++ ps.map Prod.fst } := by
  induction ps generalizing s with
  | nil => simp [Walker.spendAll]
  | cons p ps ih =>
    have later := ih (spend p.1 (.level limit p.2) s)
    rw [Walker.spendAll] at later ⊢
    rw [List.foldl_cons, List.length_cons, List.map_cons, Nat.add_comm, ← Nat.sub_sub,
      List.append_cons]
    exact later

/-- A walker with a budget enters operations in pre-order until the budget is spent. The guard stops
it if the first operation that is one level too deep comes before that, or as the next one; where
that operation comes later still, or there is none, the walk ends well. -/
theorem budgeted_walk (limited : limit.toNat < 2 ^ 32 - 1) (ofGuard : DepthExceeded → ε)
    (t : Operation) (s : Budget) :
    let tooDeep := (t.preorder 1).findIdx? fun p => p.2 = limit.toNat + 1
    (∀ i, tooDeep = some i → i ≤ s.left →
      (walker limit ofGuard).run (some t) s = (.error (ofGuard ⟨limit + 1, limit⟩),
        { left := s.left - i, seen := s.seen ++ t.inOrder.take i })) ∧
    ((∀ i, tooDeep = some i → s.left < i) →
      (walker limit ofGuard).run (some t) s = (.ok (),
        { left := s.left - t.size, seen := s.seen ++ t.inOrder.take (min s.left t.size) })) := by
  intro tooDeep
  constructor
  · intro i found enough
    have bound := (List.findIdx?_eq_some_iff_getElem.mp found).1
    rw [Walker.run_of_spends_of_le walker_spends limited found enough, spendAll_eq,
      List.length_take_of_le bound.le, List.map_take]
    rfl
  · intro early
    have size : t.inOrder.length = t.size := by
      rw [Operation.inOrder, List.length_map, Operation.length_preorder]
    have paid : s.left - min s.left t.size = s.left - t.size := by omega
    rw [Walker.run_of_spends_of_lt walker_spends limited early, spendAll_eq, List.length_take,
      Operation.length_preorder, paid, List.map_take, ← size, ← List.take_eq_take_min]
    rfl

/-- The first operation that is too deep is the fourth of six. A budget of three lasts up to it. -/
theorem budgeted_walk_boundary :
    let deep : Operation := ⟨.argument, {}, []⟩
    let loop : Operation := ⟨.loop, {}, [deep, deep]⟩
    let tree : Operation := ⟨.block, {}, [⟨.literal "first", {}, []⟩, loop, ⟨.none, {}, []⟩]⟩
    let met : List Operation := [tree, ⟨.literal "first", {}, []⟩, loop]
    (walker 2 id).run (some tree) ⟨2, []⟩ = (.ok (), ⟨0, met.take 2⟩) ∧
      (walker 2 id).run (some tree) ⟨3, []⟩ = (.error ⟨3, 2⟩, ⟨0, met⟩) ∧
      (walker 2 id).run (some tree) ⟨9, []⟩ = (.error ⟨3, 2⟩, ⟨6, met⟩) ∧
      (walker 3 id).run (some tree) ⟨9, []⟩ =
        (.ok (), ⟨3, met ++ [deep, deep, ⟨.none, {}, []⟩]⟩) := by
  intro deep loop tree met
  have two : (2 : UInt32).toNat < 2 ^ 32 - 1 := by decide
  have three : (3 : UInt32).toNat < 2 ^ 32 - 1 := by decide
  refine ⟨(budgeted_walk two id tree ⟨2, []⟩).2 ?_, (budgeted_walk two id tree ⟨3, []⟩).1 3 rfl ?_,
    (budgeted_walk two id tree ⟨9, []⟩).1 3 rfl ?_, (budgeted_walk three id tree ⟨9, []⟩).2 ?_⟩
  · rintro i ⟨⟩
    decide
  · decide
  · decide
  · nofun

end Budget

end OperationTree
