import Mathlib.Data.List.Basic
import OperationTree.Span

/-!
Spans that cover others. One span lies inside another by the order of their ends, and the cover of
several spans is the least one that all of them lie inside. It therefore does not matter in which
order the spans are taken, how they are grouped, or whether one is taken twice.
-/

namespace OperationTree.Span

theorem toNat_length (s : Span) : s.length.toNat = s.stop.toNat - s.start.toNat := by
  unfold length
  split
  · next forward => exact UInt64.toNat_sub_of_le _ _ forward
  · next backward =>
    rw [UInt64.le_iff_toNat_le] at backward
    simp only [UInt64.toNat_zero]
    omega

theorem isEmpty_iff (span : Span) : span.isEmpty = true ↔ span.stop ≤ span.start := by
  rw [isEmpty, beq_iff_eq, ← UInt64.toNat_inj, toNat_length, UInt64.toNat_zero,
    UInt64.le_iff_toNat_le]
  exact Nat.sub_eq_zero_iff_le

/-- Both ends of `s` are within those of `t`, whether or not anything lies between them. -/
def Inside (s t : Span) : Prop := t.start ≤ s.start ∧ s.stop ≤ t.stop

theorem inside_iff {s t : Span} :
    s.Inside t ↔ t.start.toNat ≤ s.start.toNat ∧ s.stop.toNat ≤ t.stop.toNat := by
  rw [Inside, UInt64.le_iff_toNat_le, UInt64.le_iff_toNat_le]

theorem Inside.refl (s : Span) : s.Inside s :=
  inside_iff.mpr ⟨Nat.le_refl _, Nat.le_refl _⟩

theorem Inside.antisymm {s t : Span} (below : s.Inside t) (above : t.Inside s) : s = t := by
  rw [inside_iff] at below above
  have start : s.start = t.start := UInt64.toNat_inj.mp (by omega)
  have stop : s.stop = t.stop := UInt64.toNat_inj.mp (by omega)
  rcases s with ⟨_, _⟩
  rcases t with ⟨_, _⟩
  simp only at start stop
  rw [start, stop]

theorem covers_iff {s : Span} {offset : UInt64} :
    s.covers offset = true ↔ s.start.toNat ≤ offset.toNat ∧ offset.toNat < s.stop.toNat := by
  simp [covers, UInt64.le_iff_toNat_le, UInt64.lt_iff_toNat_lt]

theorem Inside.covers {s t : Span} (inside : s.Inside t) {offset : UInt64}
    (covered : s.covers offset = true) : t.covers offset = true := by
  rw [inside_iff] at inside
  rw [covers_iff] at covered ⊢
  omega

theorem inside_of_covers {s t : Span} (filled : s.isEmpty = false)
    (covered : ∀ offset, s.covers offset = true → t.covers offset = true) : s.Inside t := by
  have forward : s.start.toNat < s.stop.toNat := by
    rw [← Bool.not_eq_true, isEmpty_iff, UInt64.le_iff_toNat_le] at filled
    omega
  have bound : s.stop.toNat < UInt64.size := s.stop.toNat_lt
  have last : (UInt64.ofNat (s.stop.toNat - 1)).toNat = s.stop.toNat - 1 :=
    UInt64.toNat_ofNat_of_lt' (by omega)
  have atStart := covered s.start (by rw [covers_iff]; omega)
  have atLast := covered (UInt64.ofNat (s.stop.toNat - 1)) (by rw [covers_iff, last]; omega)
  rw [covers_iff] at atStart atLast
  rw [inside_iff]
  omega

theorem Inside.length_le {s t : Span} (inside : s.Inside t) : s.length ≤ t.length := by
  rw [inside_iff] at inside
  rw [UInt64.le_iff_toNat_le, toNat_length, toNat_length]
  omega

theorem toNat_start_cover (s t : Span) :
    (s.cover t).start.toNat = min s.start.toNat t.start.toNat :=
  UInt64.toNat_min s.start t.start

theorem toNat_stop_cover (s t : Span) :
    (s.cover t).stop.toNat = max s.stop.toNat t.stop.toNat :=
  UInt64.toNat_max s.stop t.stop

/-- The cover is the least span that both lie inside. -/
theorem cover_inside_iff {s t c : Span} : (s.cover t).Inside c ↔ s.Inside c ∧ t.Inside c := by
  simp only [inside_iff, toNat_start_cover, toNat_stop_cover]
  omega

/-- A way to combine spans, two at a time. -/
inductive Grouping where
  | single (s : Span)
  | both (left right : Grouping)

namespace Grouping

def members : Grouping → List Span
  | single s => [s]
  | both left right => left.members ++ right.members

def span : Grouping → Span
  | single s => s
  | both left right => left.span.cover right.span

def ofList (first : Span) : List Span → Grouping
  | [] => single first
  | s :: rest => both (single first) (ofList s rest)

theorem members_ofList (first : Span) (rest : List Span) :
    (ofList first rest).members = first :: rest := by
  induction rest generalizing first with
  | nil => rfl
  | cons s rest ih => rw [ofList, members, ih, members, List.singleton_append]

theorem span_inside_iff (g : Grouping) {c : Span} :
    g.span.Inside c ↔ ∀ s ∈ g.members, s.Inside c := by
  induction g with
  | single s => simp [span, members]
  | both left right onLeft onRight =>
    rw [span, cover_inside_iff, onLeft, onRight, members]
    exact List.forall_mem_append.symm

theorem inside_span {g : Grouping} {s : Span} (among : s ∈ g.members) : s.Inside g.span :=
  g.span_inside_iff.mp (.refl _) s among

theorem span_eq_of_members {g h : Grouping} (same : ∀ s, s ∈ g.members ↔ s ∈ h.members) :
    g.span = h.span := by
  apply Inside.antisymm
  · exact g.span_inside_iff.mpr fun s among => inside_span ((same s).mp among)
  · exact h.span_inside_iff.mpr fun s among => inside_span ((same s).mpr among)

end Grouping

/-- Spans have one cover, however they are combined. It is the least span around all of them, and
if none of them is empty, the least that has all of their offsets. -/
theorem cover_least {spans : List Span} (present : spans ≠ []) :
    ∃ c : Span,
      (∃ g : Grouping, g.members = spans) ∧
      (∀ g : Grouping, (∀ s, s ∈ g.members ↔ s ∈ spans) → g.span = c) ∧
      (∀ s ∈ spans, c.start ≤ s.start ∧ s.stop ≤ c.stop ∧ s.length ≤ c.length ∧
        ∀ offset, s.covers offset = true → c.covers offset = true) ∧
      ((∀ s ∈ spans, s.isEmpty = false) → c.start.toNat + c.length.toNat = c.stop.toNat ∧
        ∀ e : Span, (∀ s ∈ spans, ∀ offset, s.covers offset = true → e.covers offset = true) →
          e.start ≤ c.start ∧ c.stop ≤ e.stop) := by
  obtain ⟨first, rest, rfl⟩ := List.exists_cons_of_ne_nil present
  have arranged := Grouping.members_ofList first rest
  refine ⟨(Grouping.ofList first rest).span, ⟨_, arranged⟩, fun g same => ?_, fun s among => ?_,
    fun filled => ⟨?_, fun e covered => ?_⟩⟩
  · apply Grouping.span_eq_of_members
    rw [arranged]
    exact same
  · rw [← arranged] at among
    have inside := Grouping.inside_span among
    exact ⟨inside.1, inside.2, inside.length_le, fun offset covered => inside.covers covered⟩
  · -- already the first span keeps the ends of the cover in order
    have among : first ∈ (Grouping.ofList first rest).members := by
      rw [arranged]
      exact List.mem_cons_self
    have inside := inside_iff.mp (Grouping.inside_span among)
    have forward := filled first List.mem_cons_self
    rw [← Bool.not_eq_true, isEmpty_iff, UInt64.le_iff_toNat_le] at forward
    rw [toNat_length]
    omega
  · rw [← arranged] at filled covered
    exact (Grouping.span_inside_iff _).mpr fun s among =>
      inside_of_covers (filled s among) (covered s among)

/-- Two ways to combine three spans; in the second, one of them is taken twice. -/
theorem cover_least_of_three :
    let spans : List Span := [⟨4, 9⟩, ⟨2, 6⟩, ⟨20, 30⟩]
    let inOrder : Grouping := .both (.single ⟨4, 9⟩) (.both (.single ⟨2, 6⟩) (.single ⟨20, 30⟩))
    let apart : Grouping :=
      .both (.both (.single ⟨20, 30⟩) (.single ⟨4, 9⟩)) (.both (.single ⟨2, 6⟩) (.single ⟨4, 9⟩))
    spans ≠ [] ∧ inOrder.span = ⟨2, 30⟩ ∧ apart.span = inOrder.span ∧
      ∀ e : Span, (∀ s ∈ spans, ∀ offset, s.covers offset = true → e.covers offset = true) →
        e.start ≤ 2 ∧ 30 ≤ e.stop := by
  intro spans inOrder apart
  have present : spans ≠ [] := List.cons_ne_nil _ _
  obtain ⟨c, _, same, _, least⟩ := cover_least present
  have first : inOrder.span = c := by
    apply same
    simp [inOrder, spans, Grouping.members]
  have second : apart.span = c := by
    apply same
    intro s
    simp only [apart, spans, Grouping.members]
    grind
  have value : inOrder.span = ⟨2, 30⟩ := by decide
  have filled : ∀ s ∈ spans, s.isEmpty = false := by decide
  rw [← first, value] at least
  exact ⟨present, value, second.trans first.symm, (least filled).2⟩

end OperationTree.Span
