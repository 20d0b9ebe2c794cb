import OperationTree.Proofs.Walk.Preorder
import OperationTree.Walk.Script

namespace OperationTree

def Operation.listing (t : Operation) : List (String × Nat) :=
  (popAll [(t, 1)]).map fun p => (p.1.kind.name, p.2)

namespace Operation

theorem listing_eq (t : Operation) :
    t.listing = (t.preorder 1).map fun p => (p.1.kind.name, p.2) := by
  rw [listing, popAll_root]

end Operation

def Walker.runAll {σ ε : Type} (w : Walker σ ε) :
    List (Option Operation) → σ → List (Except ε Unit) × σ
  | [], s => ([], s)
  | root :: roots, s =>
    let (outcome, next) := w.run root s
    let (outcomes, last) := w.runAll roots next
    (outcome :: outcomes, last)

namespace Script

def Session.append (s : Session) (later : List Event) : Session :=
  { s with events := later.reverse ++ s.events }

theorem append_nil (s : Session) : s.append [] = s := rfl

theorem append_append (s : Session) (first second : List Event) :
    (s.append first).append second = s.append (first ++ second) := by
  simp [Session.append]

theorem events_append (later : List Event) :
    (({} : Session).append later).events.reverse = later := by
  simp [Session.append]

def entry (p : String × Nat) : Event := .recorded p.1 (UInt32.ofNat p.2)

def entryAt (p : Operation × Nat) : Event := entry (p.1.kind.name, min p.2 Depth.top)

def recordAt (t : Operation) (depth : Depth) (s : Session) : Session :=
  { s with events := .recorded t.kind.name depth.current :: s.events }

theorem foldl_recordAt (limit : UInt32) (ps : List (Operation × Nat)) (s : Session) :
    ps.foldl (fun s p => recordAt p.1 (.level limit p.2) s) s = s.append (ps.map entryAt) := by
  induction ps generalizing s with
  | nil => rfl
  | cons p ps ih =>
    rw [List.foldl_cons, ih, List.map_cons]
    exact append_append s [entryAt p] (ps.map entryAt)

theorem recorder_descends (limit : UInt32) :
    (recorder limit).Descends fun t depth => modify (recordAt t depth) where
  bare _ _ := rfl
  hook _ _ _ := rfl

theorem recorder_run (limit : UInt32) (t : Operation) : ∃ outcome, ∀ s,
    (recorder limit).run (some t) s = (outcome,
      s.append (((t.preorder 1).takeWhile fun p => Depth.Reaches limit p.2).map entryAt)) := by
  refine ⟨((recorder limit).sweep recordAt (t.preorder 1) {}).1, fun s => ?_⟩
  rw [Walker.run_eq_sweep (recorder_descends limit), ← foldl_recordAt limit]
  unfold Walker.sweep
  cases (t.preorder 1).find? fun p => ¬ Depth.Reaches (recorder limit).limit p.2 with
  | none => rfl
  | some p => rfl

theorem recorder_fresh (limit : UInt32) (root : Option Operation) (s : Session) :
    (recorder limit).run root s = (((recorder limit).run root {}).1,
      s.append ((recorder limit).run root {}).2.events.reverse) := by
  cases root with
  | none => rfl
  | some t =>
    rcases recorder_run limit t with ⟨outcome, runs⟩
    rw [runs s, runs {}, events_append]

theorem recorder_runAll (limit : UInt32) (roots : List (Option Operation)) (s : Session) :
    (recorder limit).runAll roots s =
      (roots.map fun root => ((recorder limit).run root {}).1,
        s.append (roots.flatMap fun root => ((recorder limit).run root {}).2.events.reverse)) := by
  induction roots generalizing s with
  | nil => rfl
  | cons root roots ih =>
    rw [Walker.runAll, recorder_fresh limit root s]
    simp only
    rw [ih, append_append, List.map_cons, List.flatMap_cons]

theorem map_entryAt (ps : List (Operation × Nat)) : ps.map entryAt =
    (ps.map fun p => (p.1.kind.name, p.2)).map fun p => entry (p.1, min p.2 Depth.top) := by
  rw [List.map_map]
  rfl

theorem map_entryAt_of_le {ps : List (Operation × Nat)} (small : ∀ p ∈ ps, p.2 ≤ Depth.top) :
    ps.map entryAt = (ps.map fun p => (p.1.kind.name, p.2)).map entry := by
  rw [List.map_map]
  apply List.map_congr_left
  intro p among
  rw [entryAt, Nat.min_eq_left (small p among)]
  rfl

theorem recorder_of_reaches {limit : UInt32} {t : Operation}
    (reached : ∀ p ∈ t.preorder 1, Depth.Reaches limit p.2) (s : Session) :
    (recorder limit).run (some t) s = (.ok (), s.append ((t.preorder 1).map entryAt)) := by
  rw [Walker.run_eq_sweep (recorder_descends limit), Walker.sweep_of_reaches reached,
    ← foldl_recordAt limit]
  rfl

theorem recorder_of_too_deep {limit : UInt32} (limited : limit.toNat < Depth.top) {t : Operation}
    (deep : ∃ p ∈ t.preorder 1, limit.toNat < p.2) (s : Session) :
    (recorder limit).run (some t) s = (.error (.guard ⟨limit + 1, limit⟩),
      s.append (((t.preorder 1).takeWhile fun p => p.2 ≤ limit.toNat).map entryAt)) := by
  obtain ⟨held, _, _, swept⟩ :=
    Walker.sweep_of_too_deep (w := recorder limit) limited deep recordAt s
  rw [Walker.run_eq_sweep (recorder_descends limit), swept, ← foldl_recordAt limit]
  rfl

/-- A recorder keeps the order of the loop over a stack up to the first operation that is too
deep, and what it kept before does not matter to it. -/
theorem recorder_walk (limit : UInt32) (t : Operation) (s : Session) :
    t.listing.length = t.size ∧
    (limit.toNat < 2 ^ 32 - 1 → (∀ p ∈ t.listing, p.2 ≤ limit.toNat) →
      (recorder limit).run (some t) s = (.ok (), s.append (t.listing.map entry))) ∧
    (limit.toNat < 2 ^ 32 - 1 → (∃ p ∈ t.listing, limit.toNat < p.2) →
      (recorder limit).run (some t) s = (.error (.guard ⟨limit + 1, limit⟩),
        s.append ((t.listing.takeWhile fun p => p.2 ≤ limit.toNat).map entry))) ∧
    (limit.toNat = 2 ^ 32 - 1 → (recorder limit).run (some t) s = (.ok (),
      s.append (t.listing.map fun p => entry (p.1, min p.2 (2 ^ 32 - 1))))) ∧
    (recorder limit).run none s = (.ok (), s) ∧
    ∀ roots, (recorder limit).runAll roots s =
      (roots.map fun root => ((recorder limit).run root {}).1,
        s.append (roots.flatMap fun root => ((recorder limit).run root {}).2.events.reverse)) := by
  rw [Operation.listing_eq]
  refine ⟨?_, fun limited within => ?_, fun limited deep => ?_, fun unlimited => ?_, rfl,
    fun roots => recorder_runAll limit roots s⟩
  · rw [List.length_map, Operation.length_preorder]
  · have small : ∀ p ∈ t.preorder 1, p.2 ≤ limit.toNat := fun p among =>
      within _ (List.mem_map_of_mem among)
    rw [recorder_of_reaches fun p among => (Depth.reaches_iff limited p.2).mpr (small p among),
      map_entryAt_of_le fun p among => (small p among).trans (Depth.limit_le_top limit)]
  · rcases deep with ⟨p, listed, below⟩
    obtain ⟨q, among, rfl⟩ := List.mem_map.mp listed
    rw [recorder_of_too_deep limited ⟨q, among, below⟩, map_entryAt_of_le, List.takeWhile_map]
    · rfl
    · intro p taken
      have small := List.mem_takeWhile_imp taken
      have within := Depth.limit_le_top limit
      simp only [decide_eq_true_eq] at small
      omega
  · rw [recorder_of_reaches fun p _ => Depth.reaches_of_top unlimited p.2, map_entryAt]
    rfl

end Script

end OperationTree
