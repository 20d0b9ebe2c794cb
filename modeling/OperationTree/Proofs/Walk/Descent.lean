import Mathlib.Algebra.Ring.Nat
import OperationTree.Proofs.Walk.Levels

/-!
Runs of the depth guard on its own: level after level is entered until one is held back. The count
of levels is a machine word that stops at its largest value, so a run comes to an end exactly if the
limit is smaller than that value, and no count wraps around.
-/

namespace OperationTree.Depth

/-- The depths that `n` attempts to enter a level reach, in order, and the fault of the attempt that
fails. After that one no further is made. -/
def course : Nat → Depth → List Depth × Option DepthExceeded
  | 0, _ => ([], none)
  | n + 1, d =>
    match d.enter with
    | .ok next => (next :: (course n next).1, (course n next).2)
    | .error e => ([], some e)

theorem descend_eq (n : Nat) (d : Depth) :
    descend n d = ((course n d).1.getLast?.getD d, (course n d).2) := by
  induction n generalizing d with
  | zero => rfl
  | succ n ih =>
    rw [descend, course]
    cases d.enter with
    | ok next => simp [ih, List.getLast?_cons]
    | error e => rfl

theorem root_eq_level (limit : UInt32) : root limit = level limit 0 := rfl

theorem toNat_add_one {limit : UInt32} (limited : limit.toNat < top) :
    (limit + 1).toNat = limit.toNat + 1 := by
  rw [← current_above limited, current_level]
  omega

theorem course_of_limited {limit : UInt32} (limited : limit.toNat < top) (n : Nat) {k : Nat}
    (within : k ≤ limit.toNat) : course n (level limit k) =
      ((List.range' (k + 1) (min n (limit.toNat - k))).map (level limit),
        if k + n ≤ limit.toNat then none else some ⟨limit + 1, limit⟩) := by
  induction n generalizing k with
  | zero => simp [course, within]
  | succ n ih =>
    rw [course, enter_level]
    simp only [reaches_iff limited]
    by_cases reached : k + 1 ≤ limit.toNat
    · have shorter : min (n + 1) (limit.toNat - k) = min n (limit.toNat - (k + 1)) + 1 := by omega
      have same : k + 1 + n = k + (n + 1) := by omega
      simp only [if_pos reached, ih reached]
      rw [shorter, List.range'_succ, List.map_cons, same]
    · -- the level above is the limit itself
      have last : limit.toNat = k := by omega
      have beyond : ¬ k + (n + 1) ≤ limit.toNat := by omega
      have nothing : min (n + 1) (limit.toNat - k) = 0 := by omega
      simp only [if_neg reached, if_neg beyond, nothing]
      rw [← last, current_above limited]
      rfl

theorem course_root {limit : UInt32} (limited : limit.toNat < top) (n : Nat) :
    course n (root limit) = ((List.range' 1 (min n limit.toNat)).map (level limit),
      if n ≤ limit.toNat then none else some ⟨limit + 1, limit⟩) := by
  have known := course_of_limited limited n (Nat.zero_le _)
  rwa [← root_eq_level, Nat.sub_zero, Nat.zero_add, Nat.zero_add] at known

theorem course_of_top {limit : UInt32} (unlimited : limit.toNat = top) (n k : Nat) :
    course n (level limit k) = ((List.range' (k + 1) n).map (level limit), none) := by
  induction n generalizing k with
  | zero => rfl
  | succ n ih =>
    rw [course, enter_level, if_pos (reaches_of_top unlimited (k + 1))]
    simp only [ih]
    rw [List.range'_succ, List.map_cons]

theorem mem_course (limit : UInt32) (n : Nat) {d : Depth}
    (among : d ∈ root limit :: (course n (root limit)).1) :
    ∃ k, Reaches limit k ∧ d = level limit k := by
  rcases List.mem_cons.mp among with rfl | entered
  · exact ⟨0, Nat.zero_le _, root_eq_level limit⟩
  by_cases limited : limit.toNat < top
  · rw [course_root limited] at entered
    obtain ⟨k, inRange, rfl⟩ := List.mem_map.mp entered
    rw [List.mem_range'_1] at inRange
    refine ⟨k, (reaches_iff limited k).mpr ?_, rfl⟩
    omega
  · have unlimited : limit.toNat = top := by
      have bound := limit_le_top limit
      omega
    rw [root_eq_level, course_of_top unlimited] at entered
    obtain ⟨k, _, rfl⟩ := List.mem_map.mp entered
    exact ⟨k, reaches_of_top unlimited k, rfl⟩

/-- The depth is within the limit, the levels entered and those that remain make up the limit, and
the next count is one more or the largest there is. -/
structure Sound (limit : UInt32) (d : Depth) : Prop where
  ofLimit : d.limit = limit
  within : d.current ≤ limit
  balance : d.current.toNat + d.remaining.toNat = limit.toNat
  passes : d.check = .ok ()
  next : d.below.current.toNat = min (d.current.toNat + 1) (2 ^ 32 - 1)

theorem sound_level {limit : UInt32} {k : Nat} (reached : Reaches limit k) :
    Sound limit (level limit k) := by
  have current := current_level limit k
  have within : (level limit k).current ≤ limit := by
    rw [UInt32.le_iff_toNat_le, current]
    exact reached
  refine ⟨rfl, within, ?_, if_pos within, ?_⟩
  · have room : (level limit k).current ≤ (level limit k).limit := within
    rw [remaining, if_pos room, UInt32.toNat_sub_of_le _ _ room, limit_level, current]
    unfold Reaches at reached
    omega
  · rw [below_level, current_level, current, top]
    omega

theorem remaining_level {limit : UInt32} {k : Nat} (limited : limit.toNat < top)
    (within : k ≤ limit.toNat) :
    ((level limit k).current.toNat, (level limit k).remaining.toNat) = (k, limit.toNat - k) := by
  have balance := (sound_level ((reaches_iff limited k).mpr within)).balance
  have current : (level limit k).current.toNat = k := by
    rw [current_level]
    omega
  rw [current] at balance ⊢
  rw [Prod.mk.injEq]
  exact ⟨rfl, by omega⟩

/-- A run below the largest limit enters that many levels and no more; with the largest limit there
is nothing that stops it. -/
theorem course_outcome (limit : UInt32) (n : Nat) :
    descend n (root limit) =
      ((course n (root limit)).1.getLast?.getD (root limit), (course n (root limit)).2) ∧
    (limit.toNat < 2 ^ 32 - 1 →
      ((course n (root limit)).2 = none ↔ n ≤ limit.toNat) ∧
      ((course n (root limit)).1.map fun d => (d.current.toNat, d.remaining.toNat)) =
        ((List.range' 1 (min n limit.toNat)).map fun k => (k, limit.toNat - k)) ∧
      ∀ e, (course n (root limit)).2 = some e →
        (course n (root limit)).1.length = limit.toNat ∧
          e.depth.toNat = limit.toNat + 1 ∧ e.limit = limit) ∧
    (limit.toNat = 2 ^ 32 - 1 →
      (course n (root limit)).2 = none ∧ (course n (root limit)).1.length = n ∧
        (descend n (root limit)).1.current.toNat = min n (2 ^ 32 - 1)) ∧
    ∀ d ∈ root limit :: (course n (root limit)).1, Sound limit d := by
  refine ⟨descend_eq n (root limit), fun limited => ?_, fun unlimited => ?_, fun d among => ?_⟩
  · rw [course_root limited]
    refine ⟨?_, ?_, fun e stopped => ?_⟩
    · by_cases few : n ≤ limit.toNat <;> simp [few]
    · rw [List.map_map]
      apply List.map_congr_left
      intro k inRange
      rw [List.mem_range'_1] at inRange
      exact remaining_level limited (by omega)
    · by_cases few : n ≤ limit.toNat
      · rw [if_pos few] at stopped
        cases stopped
      · rw [if_neg few] at stopped
        cases stopped
        refine ⟨?_, toNat_add_one limited, rfl⟩
        rw [List.length_map, List.length_range']
        omega
  · have known := course_of_top unlimited n 0
    rw [← root_eq_level] at known
    rw [descend_eq, known]
    refine ⟨rfl, by simp, ?_⟩
    cases n with
    | zero => rfl
    | succ n => simp [List.getLast?_range', current_level, top]
  · obtain ⟨k, reached, rfl⟩ := mem_course limit n among
    exact sound_level reached

end OperationTree.Depth
