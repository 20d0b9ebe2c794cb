import Mathlib.Algebra.BigOperators.Group.List.Lemmas
import Mathlib.Data.List.FinRange
import OperationTree.Proofs.Text.Lines
import OperationTree.Proofs.Walk.Consumers
import OperationTree.Proofs.Walk.Selection

namespace OperationTree

namespace Operation

def profile (level : Nat) (t : Operation) : List (Kind × Nat) :=
  (t.preorder level).map fun q => (q.1.kind, q.2)

def kinds (t : Operation) : List Kind := t.inOrder.map kind

theorem profile_eq (level : Nat) (t : Operation) :
    t.profile level = (t.kind, level) :: t.children.flatMap (profile (level + 1)) := by
  rw [profile, preorder_eq, List.map_cons, List.map_flatMap]
  rfl

theorem map_profile (t : Operation) : (t.profile 1).map Prod.fst = t.kinds := by
  rw [profile, kinds, inOrder, List.map_map, List.map_map]
  rfl

theorem length_kinds (t : Operation) : t.kinds.length = t.size := by
  rw [kinds, List.length_map, length_inOrder]

theorem height_le_iff_profile (limit : Nat) (t : Operation) :
    t.height ≤ limit ↔ ∀ q ∈ t.profile 1, q.2 ≤ limit := by
  rw [height_le_iff, profile, List.forall_mem_map]

theorem height_eq_of_perm {t u : Operation} (alike : (t.profile 1).Perm (u.profile 1)) :
    t.height = u.height := by
  apply eq_of_forall_ge_iff
  intro limit
  rw [height_le_iff_profile, height_le_iff_profile]
  exact ⟨fun all q among => all q (alike.mem_iff.mpr among),
    fun all q among => all q (alike.mem_iff.mp among)⟩

/-- At every place all children are chosen, once each. -/
def Shuffles (chosen : Selection) : Prop :=
  ∀ path (t : Operation), (chosen path t).Perm (List.finRange t.children.length)

theorem profile_select {chosen : Selection} (shuffles : Shuffles chosen) (path : List Nat)
    (level : Nat) (t : Operation) :
    ((t.select chosen path).profile level).Perm (t.profile level) := by
  rw [profile_eq, profile_eq level t, kind_select, children_select, List.flatMap_map]
  apply List.Perm.cons
  have below : ∀ index ∈ List.finRange t.children.length,
      (profile (level + 1) ((t.children.get index).select chosen (path ++ [index.val]))).Perm
        (profile (level + 1) (t.children.get index)) :=
    fun index _ => profile_select shuffles (path ++ [index.val]) (level + 1) (t.children.get index)
  have ordered := (shuffles path t).flatMap_right fun index =>
    profile (level + 1) ((t.children.get index).select chosen (path ++ [index.val]))
  have inPlace : t.children.flatMap (profile (level + 1)) =
      (List.finRange t.children.length).flatMap fun index =>
        profile (level + 1) (t.children.get index) := by
    rw [← List.flatMap_map t.children.get, List.map_get_finRange]
  rw [inPlace]
  exact ordered.trans (List.Perm.flatMap_left _ below)
termination_by sizeOf t
decreasing_by exact t.sizeOf_child index

end Operation

namespace Stats

def Ascending (entries : List (String × Nat)) : Prop := entries.Pairwise fun a b => a.1 < b.1

theorem forall_increment {p : String → Prop} {name : String} {entries : List (String × Nat)}
    (new : p name) (all : ∀ entry ∈ entries, p entry.1) :
    ∀ entry ∈ increment name entries, p entry.1 := by
  fun_induction increment name entries with
  | case1 => simpa using new
  | case2 count rest => exact List.forall_mem_cons.mpr ⟨new, (List.forall_mem_cons.mp all).2⟩
  | case3 other count rest differs smaller => exact List.forall_mem_cons.mpr ⟨new, all⟩
  | case4 other count rest differs larger ih =>
    rw [List.forall_mem_cons] at all ⊢
    exact ⟨all.1, ih all.2⟩

theorem increment_ascending {name : String} {entries : List (String × Nat)}
    (ascending : Ascending entries) : Ascending (increment name entries) := by
  fun_induction increment name entries with
  | case1 => exact List.pairwise_singleton _ _
  | case2 count rest => exact List.pairwise_cons.mpr (List.pairwise_cons.mp ascending)
  | case3 other count rest differs smaller =>
    obtain ⟨first, _⟩ := List.pairwise_cons.mp ascending
    refine List.pairwise_cons.mpr ⟨List.forall_mem_cons.mpr ⟨smaller, ?_⟩, ascending⟩
    exact fun entry among => smaller.trans (first entry among)
  | case4 other count rest differs larger ih =>
    obtain ⟨first, later⟩ := List.pairwise_cons.mp ascending
    have below : other < name := lt_of_le_of_ne (not_lt.mp larger) (Ne.symm differs)
    exact List.pairwise_cons.mpr ⟨forall_increment (p := (other < ·)) below first, ih later⟩

theorem lookup_entry (name other : String) (count : Nat) (rest : List (String × Nat)) :
    ((name, count) :: rest).lookup other =
      if other = name then some count else rest.lookup other := by
  rw [List.lookup_cons]
  by_cases same : other = name
  · rw [if_pos same, beq_iff_eq.mpr same]
  · rw [if_neg same, beq_eq_false_iff_ne.mpr same]

theorem lookup_of_lt {name : String} {entries : List (String × Nat)}
    (larger : ∀ entry ∈ entries, name < entry.1) : entries.lookup name = none := by
  apply List.lookup_eq_none_iff.mpr
  intro entry among
  simpa using (larger entry among).ne

theorem lookup_increment {name : String} {entries : List (String × Nat)}
    (ascending : Ascending entries) (other : String) : (increment name entries).lookup other =
      if other = name then some ((entries.lookup name).getD 0 + 1) else entries.lookup other := by
  fun_induction increment name entries with
  | case1 => exact lookup_entry name other 1 []
  | case2 count rest =>
    rw [lookup_entry, lookup_entry, lookup_entry, if_pos rfl]
    by_cases same : other = name
    · rw [if_pos same, if_pos same, Option.getD_some]
    · rw [if_neg same, if_neg same, if_neg same]
  | case3 key count rest differs smaller =>
    obtain ⟨first, _⟩ := List.pairwise_cons.mp ascending
    have fresh : ((key, count) :: rest).lookup name = none :=
      lookup_of_lt (List.forall_mem_cons.mpr
        ⟨smaller, fun entry among => smaller.trans (first entry among)⟩)
    rw [lookup_entry, fresh, Option.getD_none]
  | case4 key count rest differs larger ih =>
    rw [lookup_entry, ih (List.pairwise_cons.mp ascending).2, lookup_entry, lookup_entry,
      if_neg differs]
    by_cases same : other = name
    · rw [if_pos same, if_neg (same ▸ differs), if_pos same]
    · rw [if_neg same, if_neg same]

theorem mem_iff_lookup {entries : List (String × Nat)} (ascending : Ascending entries)
    (name : String) (count : Nat) :
    (name, count) ∈ entries ↔ entries.lookup name = some count := by
  induction entries with
  | nil => simp
  | cons entry rest ih =>
    rcases entry with ⟨key, held⟩
    obtain ⟨first, later⟩ := List.pairwise_cons.mp ascending
    rw [List.mem_cons, lookup_entry, ih later]
    by_cases same : name = key
    · have fresh := lookup_of_lt first
      rw [if_pos same, same, fresh]
      simp [eq_comm]
    · simp [same]

theorem Ascending.nodup {entries : List (String × Nat)} (ascending : Ascending entries) :
    (entries.map Prod.fst).Nodup :=
  List.pairwise_map.mpr (ascending.imp fun smaller => smaller.ne)

theorem Ascending.ext {xs ys : List (String × Nat)} (first : Ascending xs) (second : Ascending ys)
    (same : ∀ name, xs.lookup name = ys.lookup name) : xs = ys := by
  have alike : xs.Perm ys := by
    rw [List.perm_ext_iff_of_nodup first.nodup.of_map second.nodup.of_map]
    intro ⟨name, count⟩
    rw [mem_iff_lookup first, mem_iff_lookup second, same]
  exact alike.eq_of_pairwise (fun a b _ _ smaller larger => absurd larger smaller.not_gt)
    first second

/-- The numbers count the kinds seen, and an entry stands for every name among them and for no
other. -/
structure Counts (seen : List Kind) (s : Stats) : Prop where
  nodes : s.nodes = seen.length
  placeholders : s.placeholders = seen.countP fun kind => kind = .none ∨ kind = .invalid
  ascending : Ascending s.kinds
  kinds : ∀ name, s.kinds.lookup name =
    if name ∈ seen.map Kind.name then some ((seen.map Kind.name).count name) else none

variable {seen : List Kind} {s : Stats}

theorem counts_nil : ({} : Stats).Counts [] where
  nodes := rfl
  placeholders := rfl
  ascending := List.Pairwise.nil
  kinds _ := rfl

theorem Counts.perm {others : List Kind} (counts : s.Counts seen) (alike : seen.Perm others) :
    s.Counts others where
  nodes := counts.nodes.trans alike.length_eq
  placeholders := counts.placeholders.trans (alike.countP_eq _)
  ascending := counts.ascending
  kinds name := by
    have named := alike.map Kind.name
    simp only [counts.kinds, named.count_eq, named.mem_iff]

theorem Counts.getD_lookup (counts : s.Counts seen) (name : String) :
    (s.kinds.lookup name).getD 0 = (seen.map Kind.name).count name := by
  rw [counts.kinds]
  split
  · rfl
  · next absent => exact (List.count_eq_zero.mpr absent).symm

theorem isPlaceholder_iff (kind : Kind) :
    kind.isPlaceholder = true ↔ kind = .none ∨ kind = .invalid := by
  cases kind <;> simp [Kind.isPlaceholder, Kind.tag, KindTag.isPlaceholder]

theorem Counts.add (counts : s.Counts seen) (t : Operation) (depth : Depth) :
    (s.add t depth).Counts (seen ++ [t.kind]) where
  nodes := by
    rw [List.length_append, ← counts.nodes]
    rfl
  placeholders := by
    rw [List.countP_append, ← counts.placeholders, List.countP_singleton]
    simp only [Stats.add, isPlaceholder_iff, decide_eq_true_eq]
    split <;> rfl
  ascending := increment_ascending counts.ascending
  kinds name := by
    show (increment t.kind.name s.kinds).lookup name = _
    rw [lookup_increment counts.ascending, counts.getD_lookup, counts.kinds]
    by_cases same : name = t.kind.name
    · simp [same]
    · simp [same, Ne.symm same]

theorem Counts.addAll (counts : s.Counts seen) (limit : UInt32) (ps : List (Operation × Nat)) :
    (addAll limit ps s).Counts (seen ++ ps.map fun p => p.1.kind) := by
  induction ps generalizing seen s with
  | nil => exact (List.append_nil seen).symm ▸ counts
  | cons p ps ih =>
    have later := ih (counts.add p.1 (.level limit p.2))
    rwa [List.append_assoc] at later

theorem Counts.mem_iff (counts : s.Counts seen) (name : String) (count : Nat) :
    (name, count) ∈ s.kinds ↔
      name ∈ seen.map Kind.name ∧ (seen.map Kind.name).count name = count := by
  rw [mem_iff_lookup counts.ascending, counts.kinds]
  simp

theorem Counts.sum_kinds (counts : s.Counts seen) : (s.kinds.map Prod.snd).sum = s.nodes := by
  have keys : (s.kinds.map Prod.fst).Perm (seen.map Kind.name).dedup := by
    rw [List.perm_ext_iff_of_nodup counts.ascending.nodup (List.nodup_dedup _)]
    simp [counts.mem_iff]
  have values : s.kinds.map Prod.snd =
      (s.kinds.map Prod.fst).map fun name => (seen.map Kind.name).count name := by
    rw [List.map_map]
    apply List.map_congr_left
    exact fun entry among => ((counts.mem_iff entry.1 entry.2).mp among).2.symm
  calc
    _ = ((seen.map Kind.name).dedup.map fun name => (seen.map Kind.name).count name).sum := by
      rw [values, (keys.map _).sum_eq]
    _ = (seen.map Kind.name).length := List.sum_map_count_dedup_eq_length _
    _ = s.nodes := by rw [List.length_map, counts.nodes]

theorem Counts.sum_placeholders (counts : s.Counts seen) : s.placeholders =
    (s.kinds.lookup "None").getD 0 + (s.kinds.lookup "Invalid").getD 0 := by
  rw [counts.placeholders, counts.getD_lookup, counts.getD_lookup]
  have none (kind : Kind) : kind.name = "None" ↔ kind = .none := by
    cases kind <;> simp [Kind.name, Kind.tag, KindTag.name]
  have invalid (kind : Kind) : kind.name = "Invalid" ↔ kind = .invalid := by
    cases kind <;> simp [Kind.name, Kind.tag, KindTag.name]
  clear counts
  induction seen with
  | nil => rfl
  | cons kind seen ih =>
    rw [List.countP_cons, ih, List.map_cons, List.count_cons, List.count_cons]
    by_cases isNone : kind = .none
    · subst isNone
      simp [none, invalid]
      omega
    · simp [none, invalid, isNone]
      omega

theorem maxDepth_addAll_le_iff (limit : UInt32) (ps : List (Operation × Nat)) (s : Stats)
    (bound : Nat) : (addAll limit ps s).maxDepth.toNat ≤ bound ↔
      s.maxDepth.toNat ≤ bound ∧ ∀ p ∈ ps, min p.2 Depth.top ≤ bound := by
  induction ps generalizing s with
  | nil => simp [addAll]
  | cons p ps ih =>
    have later := ih (s.add p.1 (.level limit p.2))
    have deeper : (s.add p.1 (.level limit p.2)).maxDepth.toNat =
        max s.maxDepth.toNat (min p.2 Depth.top) := by
      rw [← Depth.current_level limit]
      exact UInt32.toNat_max s.maxDepth (Depth.level limit p.2).current
    rw [deeper, max_le_iff] at later
    rw [List.forall_mem_cons, ← and_assoc]
    exact later

/-- The numbers count the operations of the tree, and the deepest level is its height. -/
structure Exact (t : Operation) (s : Stats) : Prop extends s.Counts t.kinds where
  maxDepth : s.maxDepth.toNat = t.height

theorem Exact.eq {t : Operation} {s other : Stats} (exact : s.Exact t) (same : other.Exact t) :
    s = other := by
  have kinds : s.kinds = other.kinds := exact.ascending.ext same.ascending fun name => by
    rw [exact.kinds, same.kinds]
  have depth := UInt32.toNat_inj.mp (exact.maxDepth.trans same.maxDepth.symm)
  have nodes := exact.nodes.trans same.nodes.symm
  have placeholders := exact.placeholders.trans same.placeholders.symm
  rcases s with ⟨_, _, _, _⟩
  rcases other with ⟨_, _, _, _⟩
  simp only at kinds depth nodes placeholders
  rw [kinds, depth, nodes, placeholders]

theorem Exact.perm {t u : Operation} {s : Stats} (exact : s.Exact t)
    (alike : (t.profile 1).Perm (u.profile 1)) : s.Exact u where
  toCounts := by
    have kinds := alike.map Prod.fst
    rw [Operation.map_profile, Operation.map_profile] at kinds
    exact exact.toCounts.perm kinds
  maxDepth := exact.maxDepth.trans (Operation.height_eq_of_perm alike)

theorem exact_addAll {limit : UInt32} {t : Operation} (shallow : t.height ≤ limit.toNat) :
    (addAll limit (t.preorder 1) {}).Exact t where
  toCounts := by
    have counts := counts_nil.addAll limit (t.preorder 1)
    rw [List.nil_append] at counts
    rwa [Operation.kinds, Operation.inOrder, List.map_map]
  maxDepth := by
    apply eq_of_forall_ge_iff
    intro bound
    rw [maxDepth_addAll_le_iff, Operation.height_le_iff]
    have within := (Operation.height_le_iff _ t).mp shallow
    have capped := Depth.limit_le_top limit
    constructor
    · rintro ⟨_, all⟩ p among
      have below := all p among
      have low := within p among
      omega
    · intro all
      exact ⟨Nat.zero_le bound, fun p among => (Nat.min_le_left _ _).trans (all p among)⟩

def lines (s : Stats) : List String :=
  ["nodes: " ++ toString s.nodes, "max depth: " ++ toString s.maxDepth.toNat,
    "placeholders: " ++ toString s.placeholders, "kinds:"] ++
  s.kinds.map fun entry => "  " ++ entry.1 ++ ": " ++ toString entry.2

theorem toText_eq (s : Stats) : s.toText = String.join (s.lines.map (· ++ "\n")) := by
  apply String.toList_injective
  delta toText
  simp [lines, String.toList_join, List.flatMap_map]

theorem Counts.unbroken {seen : List Kind} {s : Stats} (counts : s.Counts seen) :
    ∀ line ∈ s.lines, '\n' ∉ line.toList := by
  intro line among
  rcases List.mem_append.mp among with header | entry
  · simp only [List.mem_cons, List.not_mem_nil, or_false] at header
    rcases header with rfl | rfl | rfl | rfl <;> simp [newline_not_mem_digits]
  · obtain ⟨⟨name, count⟩, held, rfl⟩ := List.mem_map.mp entry
    obtain ⟨kind, _, rfl⟩ := List.mem_map.mp ((counts.mem_iff name count).mp held).1
    simp [newline_not_mem_digits, newline_not_mem_name, Kind.name]

theorem Counts.splitOn_toText {seen : List Kind} {s : Stats} (counts : s.Counts seen) :
    s.toText.toList.splitOn '\n' = s.lines.map String.toList ++ [[]] := by
  rw [toText_eq, splitOn_join counts.unbroken]

variable {limit : UInt32} {t : Operation}

theorem gather_select (limited : limit.toNat < Depth.top) {chosen : Selection}
    (shuffles : Operation.Shuffles chosen) (t : Operation) :
    gather limit (t.select chosen []) = gather limit t := by
  have alike := Operation.profile_select shuffles [] 1 t
  have height := Operation.height_eq_of_perm alike
  by_cases shallow : t.height ≤ limit.toNat
  · have rearranged : (t.select chosen []).height ≤ limit.toNat := height ▸ shallow
    have same := ((exact_addAll rearranged).perm alike).eq (exact_addAll shallow)
    rw [gather_of_height_le limited shallow, gather_of_height_le limited rearranged, same]
  · have high := Nat.lt_of_not_le shallow
    rw [gather_of_lt_height limited high, gather_of_lt_height limited (height ▸ high)]

/-- At a limit that a tree does not exceed the statistics are exact. -/
theorem gather_exact (limited : limit.toNat < 2 ^ 32 - 1) (small : t.size < 2 ^ 64)
    (shallow : t.height ≤ limit.toNat) :
    ∃ s, gather limit t = .ok s ∧ s.Exact t ∧ s.nodes = t.size ∧ s.Within (2 ^ 64 - 1) ∧
      s.maxDepth ≤ limit ∧ (s.kinds.map Prod.snd).sum = s.nodes ∧
      s.placeholders =
        (s.kinds.lookup "None").getD 0 + (s.kinds.lookup "Invalid").getD 0 ∧
      s.toText.toList.splitOn '\n' = s.lines.map String.toList ++ [[]] ∧
      ∀ chosen, Operation.Shuffles chosen → gather limit (t.select chosen []) = .ok s := by
  have gathered := gather_of_height_le limited shallow
  have exact := exact_addAll shallow
  refine ⟨addAll limit (t.preorder 1) {}, gathered, exact, ?_, ?_, ?_, exact.sum_kinds,
    exact.sum_placeholders, exact.splitOn_toText, ?_⟩
  · rw [exact.nodes, Operation.length_kinds]
  · exact (addAll_within_size limit t).mono (Nat.le_pred_of_lt small)
  · rw [UInt32.le_iff_toNat_le, exact.maxDepth]
    exact shallow
  · intro chosen shuffles
    rw [gather_select limited shuffles, gathered]

/-- A tree of three levels and the same tree with all children in reverse. -/
theorem gather_exact_reversed :
    let a : Operation := ⟨.localReference "a", {}, []⟩
    let b : Operation := ⟨.localReference "b", {}, []⟩
    let gap : Operation := ⟨.none, {}, [b]⟩
    let s : Stats := ⟨4, 3, 1, [("Block", 1), ("LocalReference", 2), ("None", 1)]⟩
    s.Exact ⟨.block, {}, [a, gap]⟩ ∧ gather 3 ⟨.block, {}, [a, gap]⟩ = .ok s ∧
      gather 3 ⟨.block, {}, [gap, a]⟩ = .ok s := by
  intro a b gap s
  let reverse : Selection := fun _ t => (List.finRange t.children.length).reverse
  have limited : (3 : UInt32).toNat < 2 ^ 32 - 1 := by decide
  obtain ⟨found, gathered, exact, _, _, _, _, _, _, shuffled⟩ := gather_exact
    (t := ⟨.block, {}, [a, gap]⟩) limited (by decide) (by decide)
  have known : gather 3 ⟨.block, {}, [a, gap]⟩ = .ok s := by decide
  have same : found = s := Except.ok.inj (gathered.symm.trans known)
  have reversed : Operation.select reverse [] ⟨.block, {}, [a, gap]⟩ = ⟨.block, {}, [gap, a]⟩ := by
    decide +kernel
  have again := shuffled reverse fun _ _ => List.reverse_perm _
  rw [reversed, same] at again
  exact ⟨same ▸ exact, known, again⟩

end Stats

end OperationTree
