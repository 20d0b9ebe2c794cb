import Mathlib.Data.List.Basic
import OperationTree.Proofs.Walk.Places
import OperationTree.Proofs.Walk.Preorder

/-!
Taking a tree apart by a loop over a list of pending operations. What is pending shrinks and grows,
but the operations in all that is pending become one fewer in each round: this ends the loop, and it
sets every operation below the root free exactly once, whatever the height of the tree.
-/

namespace OperationTree.Operation

def stripped (t : Operation) : Operation := { t with children := [] }

def numbered (path : List Nat) (index : Nat) : List Operation → List Place
  | [] => []
  | t :: ts => (path ++ [index], t) :: numbered path (index + 1) ts

def within (path : List Nat) (t : Operation) : List Place := numbered path 0 t.children

theorem map_numbered (path : List Nat) (index : Nat) (ts : List Operation) :
    (numbered path index ts).map Prod.snd = ts := by
  induction ts generalizing index with
  | nil => rfl
  | cons t ts ih => rw [numbered, List.map_cons, ih]

theorem map_within (path : List Nat) (t : Operation) :
    (t.within path).map Prod.snd = t.children :=
  map_numbered path 0 t.children

theorem flatMap_numbered (path : List Nat) (index : Nat) (ts : List Operation) :
    (numbered path index ts).flatMap (fun q => q.2.places q.1) = placesAll path index ts := by
  induction ts generalizing index with
  | nil => rfl
  | cons t ts ih => rw [numbered, List.flatMap_cons, ih, placesAll]

theorem places_eq_within (q : Place) :
    q.2.places q.1 = q :: (q.2.within q.1).flatMap fun r => r.2.places r.1 := by
  rw [places_eq, within, flatMap_numbered]

theorem nodup_places (t : Operation) : ((t.places []).map Prod.fst).Nodup := by
  rw [List.Nodup, List.pairwise_map]
  apply (pairwise_places [] t).imp
  intro q r before same
  rw [same] at before
  exact List.lt_irrefl _ before

/-- The loop, from what is pending: as long as there is a last operation, it is taken and its
children are put at the end. It takes the operations `taken`, in this order, and then it stops. -/
inductive Empties : (pending taken : List Place) → Prop
  | stop : Empties [] []
  | round {pending taken : List Place} (q : Place)
      (later : Empties (pending ++ q.2.within q.1) taken) : Empties (pending ++ [q]) (q :: taken)

def weight (pending : List Place) : Nat := (pending.map fun q => q.2.size).sum

theorem weight_append (first later : List Place) :
    weight (first ++ later) = weight first + weight later := by
  rw [weight, List.map_append, List.sum_append, weight, weight]

theorem weight_within (path : List Nat) (t : Operation) : weight (t.within path) = t.size - 1 := by
  have inner : weight (t.within path) = (t.children.map size).sum := by
    rw [weight, ← map_within path t, List.map_map]
    rfl
  rw [inner, size_eq, Nat.add_sub_cancel_left]

theorem weight_round (pending : List Place) (q : Place) :
    weight (pending ++ [q]) = weight (pending ++ q.2.within q.1) + 1 := by
  have own : weight [q] = q.2.size := by simp [weight]
  have positive := size_eq q.2
  rw [weight_append, weight_append, weight_within, own]
  omega

theorem exists_empties (pending : List Place) : ∃ taken, Empties pending taken := by
  induction rounds : weight pending generalizing pending with
  | zero =>
    rcases List.eq_nil_or_concat' pending with rfl | ⟨rest, q, rfl⟩
    · exact ⟨[], .stop⟩
    · rw [weight_round] at rounds
      cases rounds
  | succ n ih =>
    rcases List.eq_nil_or_concat' pending with rfl | ⟨rest, q, rfl⟩
    · cases rounds
    · rw [weight_round] at rounds
      obtain ⟨taken, later⟩ := ih (rest ++ q.2.within q.1) (Nat.succ.inj rounds)
      exact ⟨q :: taken, .round q later⟩

theorem Empties.length_eq {pending taken : List Place} (ends : Empties pending taken) :
    taken.length = weight pending := by
  induction ends with
  | stop => rfl
  | @round pending taken q later ih => rw [List.length_cons, ih, weight_round]

theorem Empties.unique {pending taken other : List Place} (ends : Empties pending taken)
    (also : Empties pending other) : other = taken := by
  induction ends generalizing other with
  | stop =>
    generalize none : ([] : List Place) = start at also
    cases also with
    | stop => rfl
    | round q later => simp at none
  | @round pending taken q later ih =>
    generalize some : pending ++ [q] = start at also
    cases also with
    | stop => simp at some
    | @round rest others r onward =>
      obtain ⟨rfl, last⟩ := List.append_inj' some rfl
      cases last
      rw [ih onward]

theorem Empties.perm {pending taken : List Place} (ends : Empties pending taken) :
    taken.Perm (pending.flatMap fun q => q.2.places q.1) := by
  induction ends with
  | stop => exact .nil
  | @round pending taken q later ih =>
    rw [List.flatMap_append, List.flatMap_singleton, places_eq_within]
    rw [List.flatMap_append] at ih
    exact (ih.cons q).trans List.perm_middle.symm

/-- With enough fuel for its rounds, releasing follows the loop. -/
theorem Empties.release_eq {pending taken : List Place} (ends : Empties pending taken) (fuel : Nat)
    (enough : taken.length ≤ fuel) :
    release fuel (pending.map Prod.snd) = taken.map fun q => q.2.stripped := by
  induction ends generalizing fuel with
  | stop => cases fuel <;> rfl
  | @round pending taken q later ih =>
    cases fuel with
    | zero => simp at enough
    | succ fuel =>
      have onward := ih fuel (Nat.le_of_succ_le_succ enough)
      rw [List.map_append, map_within] at onward
      simp [release, onward, stripped]

mutual
/-- Letting go of the operation at a place runs the loop for its children. The log has, for this
call and for all calls that it makes, the path to the operation and the rounds of its loop. -/
inductive Drops : Place → List (List Nat × Nat) → Prop
  | call {q : Place} {rounds : Nat} {log : List (List Nat × Nat)}
      (loop : Loops (q.2.within q.1) rounds log) : Drops q ((q.1, rounds) :: log)
inductive Loops : List Place → Nat → List (List Nat × Nat) → Prop
  | stop : Loops [] 0 []
  | round {pending : List Place} {rounds : Nat} {own log : List (List Nat × Nat)} (q : Place)
      (alone : Drops (q.1, q.2.stripped) own)
      (later : Loops (pending ++ q.2.within q.1) rounds log) :
      Loops (pending ++ [q]) (rounds + 1) (own ++ log)
end

theorem drops_stripped (q : Place) : Drops (q.1, q.2.stripped) [(q.1, 0)] := .call .stop

mutual
theorem Drops.log_eq {q : Place} {log : List (List Nat × Nat)} :
    Drops q log → ∃ taken, Empties (q.2.within q.1) taken ∧
      log = (q.1, taken.length) :: taken.map fun r => (r.1, 0)
  | .call loop => by
    obtain ⟨taken, ends, rfl, rfl⟩ := loop.empties
    exact ⟨taken, ends, rfl⟩
theorem Loops.empties {pending : List Place} {rounds : Nat} {log : List (List Nat × Nat)} :
    Loops pending rounds log → ∃ taken, Empties pending taken ∧ rounds = taken.length ∧
      log = taken.map fun r => (r.1, 0)
  | .stop => ⟨[], .stop, rfl, rfl⟩
  | .round q alone later => by
    -- what is let go in this round has no children any more
    obtain ⟨inner, nothing, rfl⟩ := alone.log_eq
    have none : inner = [] := Empties.unique .stop nothing
    obtain ⟨taken, ends, rfl, rfl⟩ := later.empties
    subst none
    exact ⟨q :: taken, .round q ends, rfl, rfl⟩
end

theorem Empties.loops {pending taken : List Place} (ends : Empties pending taken) :
    Loops pending taken.length (taken.map fun q => (q.1, 0)) := by
  induction ends with
  | stop => exact .stop
  | round q _ ih => exact .round q (drops_stripped q) ih

theorem Empties.drops_iff {q : Place} {taken : List Place} (ends : Empties (q.2.within q.1) taken)
    {log : List (List Nat × Nat)} :
    Drops q log ↔ log = (q.1, taken.length) :: taken.map fun r => (r.1, 0) := by
  constructor
  · intro drops
    obtain ⟨same, also, rfl⟩ := drops.log_eq
    rw [ends.unique also]
  · rintro rfl
    exact .call ends.loops

section Root

variable {t : Operation} {taken : List Place}

theorem Empties.perm_places (ends : Empties (t.within []) taken) :
    (([], t) :: taken).Perm (t.places []) := by
  rw [places_eq_within ([], t)]
  exact ends.perm.cons ([], t)

theorem Empties.nodup (ends : Empties (t.within []) taken) :
    ([] :: taken.map Prod.fst).Nodup :=
  (ends.perm_places.map Prod.fst).nodup_iff.mpr (nodup_places t)

theorem Empties.mem_iff (ends : Empties (t.within []) taken) {q : Place} :
    q ∈ taken ↔ q.1 ≠ [] ∧ t.at? q.1 = some q.2 := by
  rw [← mem_places_root, ← ends.perm_places.mem_iff, List.mem_cons]
  constructor
  · intro below
    have rootless := (List.nodup_cons.mp ends.nodup).1
    have apart : q.1 ≠ [] := fun root => rootless (List.mem_map.mpr ⟨q, below, root⟩)
    exact ⟨apart, .inr below⟩
  · rintro ⟨apart, rfl | below⟩
    · exact absurd rfl apart
    · exact below

theorem Empties.rounds_eq (ends : Empties (t.within []) taken) : taken.length = t.size - 1 := by
  rw [ends.length_eq, weight_within]

theorem Empties.release_children (ends : Empties (t.within []) taken) {fuel : Nat}
    (enough : t.size - 1 ≤ fuel) : release fuel t.children = taken.map fun q => q.2.stripped := by
  rw [← map_within [] t]
  apply ends.release_eq
  rw [ends.rounds_eq]
  exact enough

theorem Empties.teardown_eq (ends : Empties (t.within []) taken) :
    t.teardown = taken.map fun q => q.2.stripped :=
  ends.release_children (Nat.sub_le _ _)

end Root

/-- The loop, started with the children of the root, takes every operation below the root once and
then stops. Each of them is let go after its children are taken out of it, so that its own loop has
no round, and the operations are let go one by one, whatever the height of the tree. -/
theorem teardown_once (t : Operation) : ∃ taken : List Place,
    Empties (t.within []) taken ∧
    (∀ other, Empties (t.within []) other → other = taken) ∧
    taken.length = t.size - 1 ∧
    (taken.map Prod.fst).Nodup ∧
    (∀ q, q ∈ taken ↔ q.1 ≠ [] ∧ t.at? q.1 = some q.2) ∧
    t.teardown = taken.map (fun q => q.2.stripped) ∧
    (∀ fuel, t.size - 1 ≤ fuel → release fuel t.children = t.teardown) ∧
    (∀ s ∈ t.teardown, s.children = [] ∧ s.teardown = []) ∧
    ∀ log, Drops ([], t) log ↔ log = ([], t.size - 1) :: taken.map fun q => (q.1, 0) := by
  obtain ⟨taken, ends⟩ := exists_empties (t.within [])
  refine ⟨taken, ends, fun other also => ends.unique also, ends.rounds_eq,
    (List.nodup_cons.mp ends.nodup).2, fun q => ends.mem_iff, ends.teardown_eq,
    fun fuel enough => ?_, fun s among => ?_, fun log => ?_⟩
  · rw [ends.release_children enough, ends.teardown_eq]
  · rw [ends.teardown_eq] at among
    obtain ⟨q, _, rfl⟩ := List.mem_map.mp among
    exact ⟨rfl, Empties.stop.release_eq _ (Nat.zero_le _)⟩
  · rw [← ends.rounds_eq]
    exact Empties.drops_iff (q := ([], t)) ends

end OperationTree.Operation
