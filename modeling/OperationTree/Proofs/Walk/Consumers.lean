import OperationTree.Outline
import OperationTree.Proofs.Walk.Height
import OperationTree.Proofs.Walk.Labels
import OperationTree.Proofs.Walk.Recorder
import OperationTree.Query
import OperationTree.Stats

/-!
What is asked of whole trees. All questions are answered in pre-order, by looking at the operations
that are in reach of the limit and at no others, and the guard stops all of them at the same trees.
-/

namespace OperationTree

variable {α β : Type}

namespace Query

def look (g : Operation → α → α) (t : Operation) (s : Search α) : Search α :=
  { result := g t s.result, examined := t :: s.examined }

def Scans (hook : Hook (Search α) DepthExceeded) (g : Operation → α → α) : Prop :=
  ∀ t depth children, hook t depth children = do
    modify (look g t)
    visitAll children depth

theorem Scans.descends {hook : Hook (Search α) DepthExceeded} {g : Operation → α → α}
    (scans : Scans hook g) (limit : UInt32) :
    (walker limit hook).Descends fun t _ => modify (look g t) where
  bare _ _ := rfl
  hook t depth children := scans t depth children

theorem foldl_look (g : Operation → α → α) (ps : List (Operation × Nat)) (s : Search α) :
    ps.foldl (fun s p => look g p.1 s) s =
      { result := (ps.map Prod.fst).foldl (fun r t => g t r) s.result,
        examined := (ps.map Prod.fst).reverse ++ s.examined } := by
  induction ps generalizing s with
  | nil => rfl
  | cons p ps ih =>
    rw [List.foldl_cons, ih, List.map_cons, List.reverse_cons, List.append_assoc]
    rfl

variable {limit : UInt32} {hook : Hook (Search α) DepthExceeded} {g : Operation → α → α}

theorem ask_of_scans (limited : limit.toNat < Depth.top) (scans : Scans hook g) (start : α)
    (t : Operation) : ask limit hook start t =
      ⟨if t.height ≤ limit.toNat then .ok (t.inOrder.foldl (fun r u => g u r) start)
        else .error ⟨limit + 1, limit⟩, t.inReach limit.toNat⟩ := by
  unfold ask
  rw [Walker.run_eq_sweep (scans.descends limit)]
  by_cases shallow : t.height ≤ limit.toNat
  · have reached := Operation.reaches_of_height_le limited shallow
    rw [Walker.sweep_of_reaches (w := walker limit hook) reached, if_pos shallow,
      Operation.inReach_of_height_le shallow]
    simp only [foldl_look, List.append_nil, List.reverse_reverse]
    rfl
  · have deep := Operation.deep_of_lt_height (Nat.lt_of_not_le shallow)
    obtain ⟨held, _, _, swept⟩ := Walker.sweep_of_too_deep (w := walker limit hook) limited deep
      (fun t _ => look g t) { result := start }
    rw [swept, if_neg shallow, Operation.inReach_eq]
    simp only [foldl_look, walker, List.append_nil, List.reverse_reverse]
    rfl

theorem scans_tally (p : Operation → Bool) :
    Scans (tally (calling p)) fun t n => if p t then n + 1 else n := by
  intro t depth children
  apply run_ext
  intro s
  show (tally (calling p) t depth children).run.run s = (visitAll children depth).run.run
    ⟨if p t then s.result + 1 else s.result, t :: s.examined⟩
  unfold tally calling
  cases p t <;> rfl

theorem foldl_tally (p : Operation → Bool) (ts : List Operation) (n : Nat) :
    ts.foldl (fun n t => if p t then n + 1 else n) n = n + ts.countP p := by
  induction ts generalizing n with
  | nil => rfl
  | cons t ts ih =>
    rw [List.foldl_cons, ih, List.countP_cons]
    split <;> omega

theorem scans_gather (f : Operation → Option β) :
    Scans (gather (calling f)) fun t items => (f t).elim items (· :: items) := by
  intro t depth children
  apply run_ext
  intro s
  show (gather (calling f) t depth children).run.run s = (visitAll children depth).run.run
    ⟨(f t).elim s.result (· :: s.result), t :: s.examined⟩
  unfold gather calling
  cases f t <;> rfl

theorem foldl_gather (f : Operation → Option β) (ts : List Operation) (items : List β) :
    (ts.foldl (fun items t => (f t).elim items (· :: items)) items).reverse =
      items.reverse ++ ts.filterMap f := by
  induction ts generalizing items with
  | nil => simp
  | cons t ts ih =>
    rw [List.foldl_cons, ih, List.filterMap_cons]
    cases f t <;> simp

theorem count_eq (limited : limit.toNat < Depth.top) (p : Operation → Bool) (t : Operation) :
    count limit p t = ⟨if t.height ≤ limit.toNat then .ok (t.inOrder.countP p)
      else .error ⟨limit + 1, limit⟩, t.inReach limit.toNat⟩ := by
  rw [count, ask_of_scans limited (scans_tally p), foldl_tally, Nat.zero_add]

theorem collect_eq (limited : limit.toNat < Depth.top) (f : Operation → Option β) (t : Operation) :
    collect limit f t = ⟨if t.height ≤ limit.toNat then .ok (t.inOrder.filterMap f)
      else .error ⟨limit + 1, limit⟩, t.inReach limit.toNat⟩ := by
  have folded := foldl_gather f t.inOrder []
  rw [List.reverse_nil, List.nil_append] at folded
  rw [collect, ask_of_scans limited (scans_gather f), ← folded]
  split <;> rfl

end Query

namespace Stats

/-- No number is above the bound. -/
structure Within (bound : Nat) (s : Stats) : Prop where
  nodes : s.nodes ≤ bound
  placeholders : s.placeholders ≤ bound
  kinds : ∀ entry ∈ s.kinds, entry.2 ≤ bound

theorem Within.mono {bound higher : Nat} {s : Stats} (within : s.Within bound)
    (below : bound ≤ higher) : s.Within higher where
  nodes := within.nodes.trans below
  placeholders := within.placeholders.trans below
  kinds entry among := (within.kinds entry among).trans below

theorem increment_within {bound : Nat} {name : String} {kinds : List (String × Nat)}
    (within : ∀ entry ∈ kinds, entry.2 ≤ bound) :
    ∀ entry ∈ increment name kinds, entry.2 ≤ bound + 1 := by
  fun_induction increment name kinds with
  | case1 => simp
  | case2 count rest =>
    rw [List.forall_mem_cons] at within ⊢
    exact ⟨Nat.succ_le_succ within.1,
      fun entry among => (within.2 entry among).trans (Nat.le_succ bound)⟩
  | case3 other count rest differs smaller =>
    rw [List.forall_mem_cons]
    exact ⟨Nat.succ_le_succ (Nat.zero_le bound),
      fun entry among => (within entry among).trans (Nat.le_succ bound)⟩
  | case4 other count rest differs larger ih =>
    rw [List.forall_mem_cons] at within ⊢
    exact ⟨within.1.trans (Nat.le_succ bound), ih within.2⟩

theorem add_within {bound : Nat} {s : Stats} (within : s.Within bound) (t : Operation)
    (depth : Depth) : (s.add t depth).Within (bound + 1) where
  nodes := Nat.succ_le_succ within.nodes
  placeholders := by
    have before := within.placeholders
    show (if t.kind.isPlaceholder then s.placeholders + 1 else s.placeholders) ≤ bound + 1
    split <;> omega
  kinds := increment_within within.kinds

def addAll (limit : UInt32) (ps : List (Operation × Nat)) (s : Stats) : Stats :=
  ps.foldl (fun s p => s.add p.1 (.level limit p.2)) s

theorem addAll_within (limit : UInt32) {bound : Nat} {s : Stats} (within : s.Within bound)
    (ps : List (Operation × Nat)) : (addAll limit ps s).Within (bound + ps.length) := by
  induction ps generalizing bound s with
  | nil => exact within
  | cons p ps ih =>
    have added := ih (add_within within p.1 (.level limit p.2))
    rwa [Nat.add_assoc, Nat.add_comm 1] at added

theorem walker_descends (limit : UInt32) :
    (walker limit).Descends fun t depth =>
      modify fun s => { s with stats := s.stats.add t depth } where
  bare _ _ := rfl
  hook _ _ _ := rfl

variable {limit : UInt32}

theorem gather_of_reaches {t : Operation} (reached : ∀ p ∈ t.preorder 1, Depth.Reaches limit p.2) :
    gather limit t = .ok (addAll limit (t.preorder 1) {}) := by
  unfold gather survey
  rw [Walker.run_eq_sweep (walker_descends limit),
    Walker.sweep_of_reaches (w := walker limit) reached]
  exact congrArg Except.ok (List.foldl_hom Survey.stats fun _ _ => rfl).symm

theorem gather_of_height_le (limited : limit.toNat < Depth.top) {t : Operation}
    (shallow : t.height ≤ limit.toNat) : gather limit t = .ok (addAll limit (t.preorder 1) {}) :=
  gather_of_reaches (Operation.reaches_of_height_le limited shallow)

theorem gather_of_lt_height (limited : limit.toNat < Depth.top) {t : Operation}
    (high : limit.toNat < t.height) : gather limit t = .error ⟨limit + 1, limit⟩ := by
  unfold gather survey
  rw [Walker.run_eq_sweep (walker_descends limit)]
  obtain ⟨_, _, _, swept⟩ := Walker.sweep_of_too_deep (w := walker limit) limited
    (Operation.deep_of_lt_height high) (fun t depth s => { s with stats := s.stats.add t depth }) {}
  rw [swept]
  rfl

theorem addAll_within_size (limit : UInt32) (t : Operation) :
    (addAll limit (t.preorder 1) {}).Within t.size := by
  have none : ({} : Stats).Within 0 := ⟨le_rfl, le_rfl, by simp⟩
  have all := addAll_within limit none (t.preorder 1)
  rwa [Operation.length_preorder, Nat.zero_add] at all

end Stats

namespace Outline

def write (style : OutlineStyle) (t : Operation) (depth : Depth) (page : Page) : Page where
  text := page.text ++ line style t depth.current.toNat
  log := Log.dispatched t depth :: page.log

theorem walker_labels (style : OutlineStyle) (limit : UInt32) :
    (walker style limit).Labels (fun t e => e.withSpan t.span) (write style) where
  around _ _ := rfl
  innermost t u e := by
    unfold WalkError.withSpan
    rcases e with ⟨trip, _ | span⟩ | _ | _ <;> rfl
  hook _ _ _ := rfl

variable {limit : UInt32}

theorem foldl_write (style : OutlineStyle) (limit : UInt32) (ps : List (Operation × Nat))
    (page : Page) :
    (ps.foldl (fun page p => write style p.1 (.level limit p.2) page) page).text =
      page.text ++ String.join (ps.map fun p => line style p.1 (min p.2 Depth.top)) := by
  induction ps generalizing page with
  | nil => simp
  | cons p ps ih =>
    rw [List.foldl_cons, ih, List.map_cons, String.join_cons, ← String.append_assoc,
      ← Depth.current_level limit]
    rfl

theorem print_of_reaches (style : OutlineStyle) {t : Operation}
    (reached : ∀ p ∈ t.preorder 1, Depth.Reaches limit p.2) : (print style limit t).1 =
      .ok (String.join ((t.preorder 1).map fun p => line style p.1 (min p.2 Depth.top))) := by
  unfold print
  rw [Walker.run_labels_of_reaches (walker_labels style limit) reached]
  have written := foldl_write style limit (t.preorder 1) {}
  rw [String.empty_append] at written
  exact congrArg Except.ok written

def rendering (style : OutlineStyle) (t : Operation) : String :=
  String.join ((t.preorder 1).map fun p => line style p.1 p.2)

theorem print_of_height_le (limited : limit.toNat < Depth.top) (style : OutlineStyle)
    {t : Operation} (shallow : t.height ≤ limit.toNat) :
    (print style limit t).1 = .ok (rendering style t) := by
  have within := (Operation.height_le_iff _ t).mp shallow
  have level : ∀ p ∈ t.preorder 1, line style p.1 (min p.2 Depth.top) = line style p.1 p.2 := by
    intro p among
    rw [min_eq_left ((within p among).trans limited.le)]
  rw [print_of_reaches style (Operation.reaches_of_height_le limited shallow), rendering,
    List.map_congr_left level]

theorem print_of_lt_height (limited : limit.toNat < Depth.top) (style : OutlineStyle)
    {t : Operation} (high : limit.toNat < t.height) :
    ∃ held ∈ t.inOrder,
      (print style limit t).1 = .error (.tooDeep ⟨limit + 1, limit⟩ (some held.span)) := by
  obtain ⟨held, found, failed⟩ := Walker.run_labels_of_too_deep (walker_labels style limit) limited
    (Operation.deep_of_lt_height high) {}
  refine ⟨held.1, List.mem_map_of_mem (List.mem_of_find?_eq_some found), ?_⟩
  show ((walker style limit).run (some t) {}).1.map _ = _
  rw [failed]
  rfl

end Outline

namespace Operation

/-- All questions are answered, and the answers are those that the pre-order gives. -/
structure Answered (limit : UInt32) (p : Operation → Bool) (f : Operation → Option β)
    (t : Operation) : Prop where
  count : (Query.count limit p t).answer = .ok (t.inOrder.countP p)
  countable : t.inOrder.countP p ≤ 2 ^ 64 - 1
  collect : (Query.collect limit f t).answer = .ok (t.inOrder.filterMap f)
  kinds : Query.preorderKinds limit t = .ok (t.inOrder.map fun u => u.kind.name)
  stats : ∃ stats, Stats.gather limit t = .ok stats ∧ stats.Within (2 ^ 64 - 1)
  trace : ∃ text, t.trace limit = .ok text
  outline : ∃ text, t.outline limit = .ok text

/-- The guard refuses all questions, for one and the same reason. -/
structure Refused (limit : UInt32) (p : Operation → Bool) (f : Operation → Option β)
    (t : Operation) : Prop where
  count : (Query.count limit p t).answer = .error ⟨limit + 1, limit⟩
  collect : (Query.collect limit f t).answer = .error ⟨limit + 1, limit⟩
  kinds : Query.preorderKinds limit t = .error ⟨limit + 1, limit⟩
  stats : Stats.gather limit t = .error ⟨limit + 1, limit⟩
  trace : ∃ span, t.trace limit = .error (.tooDeep ⟨limit + 1, limit⟩ span)
  outline : ∃ span, t.outline limit = .error (.tooDeep ⟨limit + 1, limit⟩ span)

variable {limit : UInt32} {t : Operation}

theorem length_inOrder (t : Operation) : t.inOrder.length = t.size := by
  rw [inOrder, List.length_map, length_preorder]

theorem answered_of_height_le (limited : limit.toNat < Depth.top) (small : t.size < 2 ^ 64)
    (shallow : t.height ≤ limit.toNat) (p : Operation → Bool) (f : Operation → Option β) :
    Answered limit p f t where
  count := by rw [Query.count_eq limited, if_pos shallow]
  countable := by
    have matching := List.countP_le_length (p := p) (l := t.inOrder)
    rw [length_inOrder] at matching
    omega
  collect := by rw [Query.collect_eq limited, if_pos shallow]
  kinds := by
    rw [Query.preorderKinds, Query.collect_eq limited, if_pos shallow, List.filterMap_eq_map']
  stats := ⟨_, Stats.gather_of_height_le limited shallow,
    (Stats.addAll_within_size limit t).mono (Nat.le_pred_of_lt small)⟩
  trace := ⟨_, Outline.print_of_height_le limited .trace shallow⟩
  outline := ⟨_, Outline.print_of_height_le limited .outline shallow⟩

theorem refused_of_lt_height (limited : limit.toNat < Depth.top) (high : limit.toNat < t.height)
    (p : Operation → Bool) (f : Operation → Option β) : Refused limit p f t where
  count := by rw [Query.count_eq limited, if_neg (Nat.not_le.mpr high)]
  collect := by rw [Query.collect_eq limited, if_neg (Nat.not_le.mpr high)]
  kinds := by
    rw [Query.preorderKinds, Query.collect_eq limited, if_neg (Nat.not_le.mpr high)]
  stats := Stats.gather_of_lt_height limited high
  trace := by
    obtain ⟨held, _, failed⟩ := Outline.print_of_lt_height limited .trace high
    exact ⟨_, failed⟩
  outline := by
    obtain ⟨held, _, failed⟩ := Outline.print_of_lt_height limited .outline high
    exact ⟨_, failed⟩

/-- All consumers of whole trees look at the operations before the first one that is too deep, once
each and in pre-order, and they all fail or none does: they fail if the tree is higher than the
limit. What is counted is what would be collected. -/
theorem consumers_agree (limited : limit.toNat < 2 ^ 32 - 1) (small : t.size < 2 ^ 64)
    (p : Operation → Bool) (f : Operation → Option β) :
    (Query.count limit p t).examined = t.inReach limit.toNat ∧
    (Query.collect limit f t).examined = t.inReach limit.toNat ∧
    (Query.count limit p t).answer =
      (Query.collect limit (Option.guard p) t).answer.map List.length ∧
    (t.height ≤ limit.toNat → t.inReach limit.toNat = t.inOrder ∧ Answered limit p f t) ∧
    (limit.toNat < t.height → Refused limit p f t) := by
  have counted := Query.count_eq limited p t
  have collected := Query.collect_eq limited f t
  have kept := Query.collect_eq limited (Option.guard p) t
  refine ⟨by rw [counted], by rw [collected], ?_, ?_, ?_⟩
  · rw [counted, kept, List.filterMap_eq_filter, List.countP_eq_length_filter]
    split
    · rfl
    · rfl
  · intro shallow
    exact ⟨inReach_of_height_le shallow, answered_of_height_le limited small shallow p f⟩
  · intro high
    exact refused_of_lt_height limited high p f

/-- A tree of three levels, at a limit that is too low for it and at one that is not. -/
theorem consumers_agree_levels :
    let leaf : Operation := ⟨.literal "x", {}, []⟩
    let loop : Operation := ⟨.loop, {}, [leaf]⟩
    let tree : Operation := ⟨.block, {}, [leaf, loop, leaf]⟩
    let p (t : Operation) : Bool := t.isLeaf
    let f (t : Operation) : Option String := if t.isLeaf then none else some t.kind.name
    Refused 2 p f tree ∧ (Query.count 2 p tree).examined = [tree, leaf, loop] ∧
      Answered 3 p f tree ∧ (Query.collect 3 f tree).answer = .ok ["Block", "Loop"] := by
  intro leaf loop tree p f
  have two : (2 : UInt32).toNat < 2 ^ 32 - 1 := by decide
  have three : (3 : UInt32).toNat < 2 ^ 32 - 1 := by decide
  have small : tree.size < 2 ^ 64 := by decide
  obtain ⟨examined, _, _, _, refused⟩ := consumers_agree two small p f
  obtain ⟨_, _, _, answered, _⟩ := consumers_agree three small p f
  have whole := (answered (by decide)).2
  exact ⟨refused (by decide), examined, whole, whole.collect⟩

end Operation

end OperationTree
