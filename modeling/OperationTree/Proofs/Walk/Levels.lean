import Mathlib.Algebra.Ring.Nat
import OperationTree.Depth

namespace OperationTree.Depth

def top : Nat := 2 ^ 32 - 1

def level (limit : UInt32) (n : Nat) : Depth := ⟨UInt32.ofNat (min n top), limit⟩

/-- The guard lets operations on the level through. -/
def Reaches (limit : UInt32) (n : Nat) : Prop := min n top ≤ limit.toNat

instance (limit : UInt32) (n : Nat) : Decidable (Reaches limit n) :=
  inferInstanceAs (Decidable (min n top ≤ limit.toNat))

theorem limit_le_top (limit : UInt32) : limit.toNat ≤ top := by
  have below := limit.toNat_lt
  simp only [top]
  omega

theorem current_level (limit : UInt32) (n : Nat) :
    (level limit n).current.toNat = min n top := by
  have below : min n top < 2 ^ 32 := by
    simp only [top]
    omega
  exact UInt32.toNat_ofNat_of_lt' below

theorem limit_level (limit : UInt32) (n : Nat) : (level limit n).limit = limit := rfl

theorem ext_toNat {d e : Depth} (current : d.current.toNat = e.current.toNat)
    (limit : d.limit = e.limit) : d = e := by
  rcases d with ⟨_, _⟩
  rcases e with ⟨_, _⟩
  simp only [UInt32.toNat_inj] at current
  simp only at limit
  rw [current, limit]

theorem below_level (limit : UInt32) (n : Nat) : (level limit n).below = level limit (n + 1) := by
  apply ext_toNat
  · have current := current_level limit n
    rw [current_level]
    unfold below
    split
    · next full =>
      rw [full] at current
      have largest : (0xFFFFFFFF : UInt32).toNat = top := rfl
      rw [largest] at current
      show (level limit n).current.toNat = _
      rw [full, largest]
      omega
    · next room =>
      have smaller : (level limit n).current.toNat ≠ top := by
        intro same
        exact room (UInt32.toNat_inj.mp same)
      have one : (1 : UInt32).toNat = 1 := rfl
      show ((level limit n).current + 1).toNat = _
      rw [UInt32.toNat_add, one, current]
      rw [current] at smaller
      simp only [top] at smaller ⊢
      omega
  · rfl

theorem enter_level (limit : UInt32) (n : Nat) : (level limit n).enter =
    if Reaches limit (n + 1) then .ok (level limit (n + 1))
    else .error ⟨(level limit (n + 1)).current, limit⟩ := by
  have reaches : (level limit (n + 1)).current ≤ limit ↔ Reaches limit (n + 1) := by
    rw [UInt32.le_iff_toNat_le, current_level]
    rfl
  unfold enter check
  rw [below_level, limit_level]
  simp only [reaches]
  split <;> rfl

theorem reaches_iff {limit : UInt32} (limited : limit.toNat < top) (n : Nat) :
    Reaches limit n ↔ n ≤ limit.toNat := by
  unfold Reaches
  omega

theorem reaches_of_top {limit : UInt32} (unlimited : limit.toNat = top) (n : Nat) :
    Reaches limit n := by
  unfold Reaches
  omega

/-- The only depth that the guard can stop at, on the way down from levels it let through. -/
theorem current_above {limit : UInt32} (limited : limit.toNat < top) :
    (level limit (limit.toNat + 1)).current = limit + 1 := by
  have one : (1 : UInt32).toNat = 1 := rfl
  rw [← UInt32.toNat_inj, current_level, UInt32.toNat_add, one]
  simp only [top] at limited ⊢
  omega

end OperationTree.Depth
