import OperationTree.Proofs.Walk.Preorder

namespace OperationTree.Operation

mutual
theorem preorder_within_iff (limit level : Nat) : (t : Operation) →
    ((∀ p ∈ t.preorder level, p.2 ≤ limit) ↔ level + t.height ≤ limit + 1)
  | ⟨kind, span, children⟩ => by
    rw [preorder, height, List.forall_mem_cons]
    by_cases within : level ≤ limit
    · have below := preorderAll_within_iff (Nat.succ_le_succ within) children
      constructor
      · rintro ⟨_, rest⟩
        have deepest := below.mp rest
        omega
      · intro deepest
        exact ⟨within, below.mpr (by omega)⟩
    · constructor
      · exact fun all => absurd all.1 within
      · intro deepest
        omega
theorem preorderAll_within_iff {limit level : Nat} (start : level ≤ limit + 1) :
    (ts : List Operation) →
    ((∀ p ∈ preorderAll level ts, p.2 ≤ limit) ↔ level + heightAll ts ≤ limit + 1)
  | [] => by simpa [preorderAll, heightAll] using start
  | t :: ts => by
    have first := preorder_within_iff limit level t
    have later := preorderAll_within_iff start ts
    rw [preorderAll, heightAll, List.forall_mem_append, first, later]
    omega
end

theorem height_le_iff (limit : Nat) (t : Operation) :
    t.height ≤ limit ↔ ∀ p ∈ t.preorder 1, p.2 ≤ limit := by
  rw [preorder_within_iff]
  omega

theorem within_of_prefix {limit : Nat} {t : Operation} {before after : List (Operation × Nat)}
    (split : t.preorder 1 = before ++ after) (none : ∀ p ∈ before, p.2 ≠ limit + 1) :
    ∀ p ∈ before, p.2 ≤ limit := by
  by_contra deep
  have someDeep : (before.find? fun p => limit < p.2).isSome = true := by
    rw [List.find?_isSome]
    simpa using deep
  obtain ⟨first, found⟩ := Option.isSome_iff_exists.mp someDeep
  have early : (t.preorder 1).find? (fun p => limit < p.2) = some first := by
    rw [split, List.find?_append, found]
    rfl
  have oneBelow := first_too_deep (Nat.succ_le_succ (Nat.zero_le limit)) t early
  exact none first (List.mem_of_find?_eq_some found) oneBelow

theorem height_le_iff_none_below (limit : Nat) (t : Operation) :
    t.height ≤ limit ↔ ∀ q ∈ t.preorder 1, q.2 ≠ limit + 1 := by
  constructor
  · intro shallow q among
    have within := (height_le_iff limit t).mp shallow q among
    omega
  · intro none
    apply (height_le_iff limit t).mpr
    exact within_of_prefix (List.append_nil _).symm none

theorem lt_height_iff_one_below (limit : Nat) (t : Operation) :
    limit < t.height ↔ ∃ q ∈ t.preorder 1, q.2 = limit + 1 := by
  have shallow := not_congr (height_le_iff_none_below limit t)
  simpa using shallow

def inOrder (t : Operation) : List Operation := (t.preorder 1).map Prod.fst

/-- The operations before the first one that is one level too deep, in pre-order. -/
def inReach (limit : Nat) (t : Operation) : List Operation :=
  ((t.preorder 1).takeWhile fun p => p.2 ≠ limit + 1).map Prod.fst

theorem takeWhile_within {limit : Nat} {ps : List (Operation × Nat)}
    (oneBelow : ∀ p, ps.find? (fun p => limit < p.2) = some p → p.2 = limit + 1) :
    (ps.takeWhile fun p => p.2 ≤ limit) = ps.takeWhile fun p => p.2 ≠ limit + 1 := by
  induction ps with
  | nil => rfl
  | cons p ps ih =>
    by_cases within : p.2 ≤ limit
    · rw [List.takeWhile_cons_of_pos (by simpa using within),
        List.takeWhile_cons_of_pos (by simp; omega), ih]
      intro q found
      apply oneBelow q
      rw [List.find?_cons_of_neg (by simpa using within), found]
    · have first := oneBelow p (List.find?_cons_of_pos (by simpa using within))
      rw [List.takeWhile_cons_of_neg (by simpa using within),
        List.takeWhile_cons_of_neg (by simpa using first)]

theorem inReach_eq (limit : Nat) (t : Operation) :
    t.inReach limit = ((t.preorder 1).takeWhile fun p => p.2 ≤ limit).map Prod.fst := by
  rw [inReach, takeWhile_within]
  intro p found
  exact first_too_deep (Nat.succ_le_succ (Nat.zero_le limit)) t found

theorem inReach_of_height_le {limit : Nat} {t : Operation} (shallow : t.height ≤ limit) :
    t.inReach limit = t.inOrder := by
  have within := (height_le_iff limit t).mp shallow
  rw [inReach_eq, inOrder, List.takeWhile_eq_self_iff.mpr (by simpa using within)]

theorem deep_of_lt_height {limit : Nat} {t : Operation} (high : limit < t.height) :
    ∃ p ∈ t.preorder 1, limit < p.2 := by
  by_contra shallow
  have within := (height_le_iff limit t).mpr (by simpa using shallow)
  omega

theorem reaches_of_height_le {limit : UInt32} (limited : limit.toNat < Depth.top) {t : Operation}
    (shallow : t.height ≤ limit.toNat) : ∀ p ∈ t.preorder 1, Depth.Reaches limit p.2 :=
  fun p among => (Depth.reaches_iff limited p.2).mpr ((height_le_iff _ t).mp shallow p among)

end OperationTree.Operation
