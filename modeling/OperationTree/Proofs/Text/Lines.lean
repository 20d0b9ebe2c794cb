import Mathlib.Algebra.Ring.Nat
import Mathlib.Data.String.Basic
import OperationTree.Kind

namespace OperationTree

theorem splitOn_join {lines : List String} (unbroken : ∀ line ∈ lines, '\n' ∉ line.toList) :
    (String.join (lines.map (· ++ "\n"))).toList.splitOn '\n' =
      lines.map String.toList ++ [[]] := by
  rw [String.toList_join, List.flatMap_map]
  induction lines with
  | nil => rfl
  | cons line lines ih =>
    rw [List.forall_mem_cons] at unbroken
    have ended : (line ++ "\n").toList = line.toList ++ ['\n'] := String.toList_append
    rw [List.flatMap_cons, ended, List.append_assoc, List.singleton_append,
      List.splitOn_append_cons_self_of_not_mem unbroken.1, ih unbroken.2, List.map_cons,
      List.cons_append]

theorem length_splitOn {α : Type} [BEq α] (a : α) (xs : List α) :
    (xs.splitOn a).length = xs.count a + 1 := by
  induction xs with
  | nil => rfl
  | cons x xs ih =>
    rw [List.splitOn_cons_eq_if_modifyHead, List.count_cons]
    split
    · rw [List.length_cons, ih]
    · rw [List.length_modifyHead, ih]

theorem count_join (lines : List String) :
    (String.join (lines.map (· ++ "\n"))).toList.count '\n' =
      lines.length + (lines.map fun line => line.toList.count '\n').sum := by
  have ending : "\n".toList.count '\n' = 1 := rfl
  rw [String.toList_join, List.flatMap_map]
  induction lines with
  | nil => rfl
  | cons line lines ih =>
    rw [List.flatMap_cons, List.count_append, ih, String.toList_append, List.count_append, ending,
      List.length_cons, List.map_cons, List.sum_cons]
    omega

theorem append_cons_inj {a : Char} {x y u v : List Char} (left : a ∉ x) (right : a ∉ y)
    (same : x ++ a :: u = y ++ a :: v) : x = y ∧ u = v := by
  induction x generalizing y with
  | nil =>
    cases y with
    | nil => exact ⟨rfl, (List.cons.inj same).2⟩
    | cons c y => exact absurd (List.mem_cons.mpr (.inl (List.cons.inj same).1)) right
  | cons b x ih =>
    cases y with
    | nil => exact absurd (List.mem_cons.mpr (.inl (List.cons.inj same).1.symm)) left
    | cons c y =>
      obtain ⟨rfl, rest⟩ := List.cons.inj same
      have tails := ih (fun among => left (.tail _ among)) (fun among => right (.tail _ among)) rest
      exact ⟨congrArg _ tails.1, tails.2⟩

theorem not_mem_toDigits {c : Char} (other : c.isDigit = false) (n : Nat) :
    c ∉ Nat.toDigits 10 n := by
  intro among
  rw [Nat.isDigit_of_mem_toDigits (by decide) (by decide) among] at other
  cases other

theorem toDigits_injective {m n : Nat} (same : Nat.toDigits 10 m = Nat.toDigits 10 n) : m = n := by
  have values := congrArg (Nat.ofDigitChars 10 · 0) same
  simpa only [Nat.ofDigitChars_toDigits (by decide : 1 < 10) (by decide)] using values

theorem newline_not_mem_digits (n : Nat) : '\n' ∉ Nat.toDigits 10 n :=
  not_mem_toDigits rfl n

theorem newline_not_mem_name (tag : KindTag) : '\n' ∉ tag.name.toList := by
  cases tag <;> decide

end OperationTree
