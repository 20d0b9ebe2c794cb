import OperationTree.Proofs.Reading.Format

namespace OperationTree.Reading

open Json (Value Fault)

inductive BoundReports : Value → ContentFault → Prop where
  | negative (n : Int64) :
      BoundReports (.number (.negative n))
        (.wrongValue (Value.number (.negative n)).describe "usize")
  | other {v : Value} (notNatural : ∀ n, v ≠ .number (.natural n))
      (notNegative : ∀ n, v ≠ .number (.negative n)) :
      BoundReports v (.wrongType v.describe "usize")

theorem boundOf_eq_error {v : Value} {fault : ContentFault} :
    boundOf v = .error fault ↔ BoundReports v fault := by
  constructor
  · intro refused
    unfold boundOf at refused
    split at refused
    · cases refused
    · next n =>
      cases refused
      exact .negative n
    · next notNatural notNegative =>
      cases refused
      exact .other notNatural notNegative
  · intro reports
    cases reports with
    | negative n => rfl
    | other notNatural notNegative =>
      unfold boundOf
      split
      · next n => exact absurd rfl (notNatural n)
      · next n => exact absurd rfl (notNegative n)
      · rfl

inductive SpanReports : Value → Fault → Prop where
  | other {v : Value} (notArray : ∀ items, v ≠ .array items)
      (notObject : ∀ members, v ≠ .object members) :
      SpanReports v (.data (.wrongType v.describe "struct Span"))
  | repeated {before after : List (String × Value)} {field : BoundField} {u v : Value}
      (sound : SoundBounds before) (again : (field.text, u) ∈ before) :
      SpanReports (.object (before ++ (field.text, v) :: after))
        (.data (.duplicateField field.text))
  | bound {before after : List (String × Value)} {field : BoundField} {v : Value}
      {fault : ContentFault} (sound : SoundBounds before) (fresh : ∀ u, (field.text, u) ∉ before)
      (bad : BoundReports v fault) :
      SpanReports (.object (before ++ (field.text, v) :: after)) (.data fault)
  | noStart {members : List (String × Value)} (sound : SoundBounds members)
      (missing : ∀ v, ("start", v) ∉ members) :
      SpanReports (.object members) (.data (.missingField "start"))
  | noEnd {members : List (String × Value)} {v : Value} (sound : SoundBounds members)
      (start : ("start", v) ∈ members) (missing : ∀ v, ("end", v) ∉ members) :
      SpanReports (.object members) (.data (.missingField "end"))
  | noElement : SpanReports (.array []) (.data (.wrongLength 0 "struct Span with 2 elements"))
  | first {v : Value} {more : List Value} {fault : ContentFault} (bad : BoundReports v fault) :
      SpanReports (.array (v :: more)) (.data fault)
  | oneElement {v : Value} (fine : IsBound v) :
      SpanReports (.array [v]) (.data (.wrongLength 1 "struct Span with 2 elements"))
  | second {u v : Value} {more : List Value} {fault : ContentFault} (fine : IsBound u)
      (bad : BoundReports v fault) : SpanReports (.array (u :: v :: more)) (.data fault)
  | third {u v w : Value} {more : List Value} (start : IsBound u) (stop : IsBound v) :
      SpanReports (.array (u :: v :: w :: more)) (.syntactic .trailingCharacters)

theorem hold_get {done : List (String × Value)} {b : Bounds} (holds : b.Hold done)
    (field : BoundField) : (b.get field).isSome = true ↔ ∃ v, (field.text, v) ∈ done := by
  have read (v : Value) : (field.text, v) ∈ done ↔ (field.text, v) ∈
      ((b.get field).map fun n => (field.text, Value.number (.natural n))).toList := by
    rw [← holds field]
    simp
  simp only [read]
  cases b.get field <;> simp

theorem absorb_bound_eq_error {done : List (String × Value)} {b : Bounds} {m : String × Value}
    {fault : ContentFault} (holds : b.Hold done) : b.absorb m = .error fault ↔
      ∃ field : BoundField, m.1 = field.text ∧
        ((∃ u, (field.text, u) ∈ done) ∧ fault = .duplicateField field.text ∨
          (∀ u, (field.text, u) ∉ done) ∧ BoundReports m.2 fault) := by
  rcases m with ⟨key, v⟩
  cases found : BoundField.ofText? key with
  | none =>
    simp only [Bounds.absorb, found]
    constructor
    · intro refused
      cases refused
    · intro reports
      rcases reports with ⟨field, rfl, _⟩
      rw [boundField_ofText_text] at found
      cases found
  | some field =>
    obtain rfl := boundField_text found
    have own {other : BoundField} (same : field.text = other.text) : other = field :=
      (boundField_text_injective same).symm
    simp only [Bounds.absorb, found]
    by_cases again : (b.get field).isSome = true
    · rw [if_pos again]
      rw [hold_get holds] at again
      constructor
      · intro refused
        cases refused
        exact ⟨field, rfl, .inl ⟨again, rfl⟩⟩
      · intro reports
        rcases reports with ⟨other, same, ⟨_, rfl⟩ | ⟨fresh, _⟩⟩
        · rw [same]
        · rw [own same] at fresh
          rcases again with ⟨u, among⟩
          exact absurd among (fresh u)
    · rw [if_neg again, map_eq_error, boundOf_eq_error]
      rw [hold_get holds] at again
      constructor
      · intro bad
        exact ⟨field, rfl, .inr ⟨fun u among => again ⟨u, among⟩, bad⟩⟩
      · intro reports
        rcases reports with ⟨other, same, ⟨repeated, _⟩ | ⟨_, bad⟩⟩
        · rw [own same] at repeated
          exact absurd repeated again
        · exact bad

theorem finish_bounds_eq_error {done : List (String × Value)} {b : Bounds} {fault : ContentFault}
    (holds : b.Hold done) : b.finish = .error fault ↔
      (∀ v, ("start", v) ∉ done) ∧ fault = .missingField "start" ∨
        (∃ v, ("start", v) ∈ done) ∧ (∀ v, ("end", v) ∉ done) ∧ fault = .missingField "end" := by
  have start := hold_get holds .start
  have stop := hold_get holds .stop
  simp only [BoundField.text, Bounds.get] at start stop
  rw [← start, ← not_exists, ← not_exists, ← start, ← stop]
  rcases b with ⟨_ | _, _ | _⟩ <;> simp [Bounds.finish, eq_comm]

theorem reports_of_bounds {members done : List (String × Value)} {b : Bounds}
    {fault : ContentFault} (holds : b.Hold done)
    (refused : members.foldlM Bounds.absorb b >>= Bounds.finish = .error fault) :
    SpanReports (.object (done ++ members)) (.data fault) := by
  induction members generalizing b done with
  | nil =>
    rw [List.append_nil]
    rcases (finish_bounds_eq_error holds).mp refused with ⟨missing, rfl⟩ |
      ⟨⟨v, start⟩, missing, rfl⟩
    · exact .noStart (sound_of_hold holds) missing
    · exact .noEnd (sound_of_hold holds) start missing
  | cons m members ih =>
    rw [List.foldlM_cons, bind_assoc] at refused
    rcases bind_eq_error.mp refused with bad | ⟨next, absorbed, refused⟩
    · rcases m with ⟨key, v⟩
      obtain ⟨field, named, reports⟩ := (absorb_bound_eq_error holds).mp bad
      simp only at named
      subst named
      rcases reports with ⟨⟨u, again⟩, rfl⟩ | ⟨fresh, bad⟩
      · exact .repeated (sound_of_hold holds) again
      · exact .bound (sound_of_hold holds) fresh bad
    · have reports := ih (hold_absorb holds absorbed) refused
      rwa [List.append_assoc, List.singleton_append] at reports

theorem foldlM_sound {before : List (String × Value)} (sound : SoundBounds before)
    (after : List (String × Value)) : ∃ b : Bounds, b.Hold before ∧
      (before ++ after).foldlM Bounds.absorb {} = after.foldlM Bounds.absorb b := by
  obtain ⟨b, absorbed⟩ := foldlM_bounds hold_nil (by simpa using sound)
  refine ⟨b, hold_foldlM hold_nil absorbed, ?_⟩
  rw [List.foldlM_append, absorbed]
  rfl

theorem span_of_member {before after : List (String × Value)} {m : String × Value}
    {fault : ContentFault} (sound : SoundBounds before)
    (bad : ∀ b : Bounds, b.Hold before → b.absorb m = .error fault) :
    Span.ofValue (.object (before ++ m :: after)) = .error (.data fault) := by
  obtain ⟨b, holds, folded⟩ := foldlM_sound sound (m :: after)
  rw [Span.ofValue, folded, List.foldlM_cons, bad b holds]
  rfl

theorem span_of_members {members : List (String × Value)} {fault : ContentFault}
    (sound : SoundBounds members) (bad : ∀ b : Bounds, b.Hold members → b.finish = .error fault) :
    Span.ofValue (.object members) = .error (.data fault) := by
  obtain ⟨b, holds, folded⟩ := foldlM_sound sound []
  rw [List.append_nil] at folded
  rw [Span.ofValue, folded]
  show asData b.finish = _
  rw [bad b holds]
  rfl

theorem pairOf_eq_error {items : List Value} {fault : Fault} :
    pairOf items = .error fault ↔ SpanReports (.array items) fault := by
  constructor
  · intro refused
    unfold pairOf at refused
    split at refused
    · cases refused
      exact .noElement
    · next first =>
      rcases bind_eq_error.mp refused with bad | ⟨n, fine, short⟩
      · obtain ⟨content, own, rfl⟩ := asData_eq_error.mp bad
        exact .first (boundOf_eq_error.mp own)
      · cases short
        exact .oneElement ⟨n, boundOf_eq_ok.mp (asData_eq_ok.mp fine)⟩
    · next first second more =>
      rcases bind_eq_error.mp refused with bad | ⟨n, start, refused⟩
      · obtain ⟨content, own, rfl⟩ := asData_eq_error.mp bad
        exact .first (boundOf_eq_error.mp own)
      have start : IsBound first := ⟨n, boundOf_eq_ok.mp (asData_eq_ok.mp start)⟩
      rcases bind_eq_error.mp refused with bad | ⟨m, stop, refused⟩
      · obtain ⟨content, own, rfl⟩ := asData_eq_error.mp bad
        exact .second start (boundOf_eq_error.mp own)
      have stop : IsBound second := ⟨m, boundOf_eq_ok.mp (asData_eq_ok.mp stop)⟩
      cases more with
      | nil => cases refused
      | cons third more =>
        cases refused
        exact .third start stop
  · intro reports
    have refuses {v : Value} {fault : ContentFault} (bad : BoundReports v fault) :
        asData (boundOf v) = .error (.data fault) := by
      rw [boundOf_eq_error.mpr bad]
      rfl
    cases reports with
    | other notArray _ => exact absurd rfl (notArray items)
    | noElement => rfl
    | @first v more fault bad => cases more <;> rw [pairOf, refuses bad] <;> rfl
    | oneElement fine =>
      rcases fine with ⟨n, rfl⟩
      rfl
    | second fine bad =>
      rcases fine with ⟨n, rfl⟩
      rw [pairOf, refuses bad]
      rfl
    | third start stop =>
      rcases start with ⟨n, rfl⟩
      rcases stop with ⟨m, rfl⟩
      rfl

theorem span_ofValue_eq_error {v : Value} {fault : Fault} :
    Span.ofValue v = .error fault ↔ SpanReports v fault := by
  constructor
  · intro refused
    unfold Span.ofValue at refused
    split at refused
    · obtain ⟨content, own, rfl⟩ := asData_eq_error.mp refused
      exact reports_of_bounds hold_nil own
    · exact pairOf_eq_error.mp refused
    · next notObject notArray =>
      cases refused
      exact .other notArray notObject
  · intro reports
    cases reports with
    | other notArray notObject =>
      cases v with
      | array items => exact absurd rfl (notArray items)
      | object members => exact absurd rfl (notObject members)
      | _ => rfl
    | @repeated _ _ field _ _ sound again =>
      refine span_of_member sound fun b holds => (absorb_bound_eq_error holds).mpr ?_
      exact ⟨field, rfl, .inl ⟨⟨_, again⟩, rfl⟩⟩
    | @bound _ _ field _ _ sound fresh bad =>
      refine span_of_member sound fun b holds => (absorb_bound_eq_error holds).mpr ?_
      exact ⟨field, rfl, .inr ⟨fresh, bad⟩⟩
    | noStart sound missing =>
      refine span_of_members sound fun b holds => (finish_bounds_eq_error holds).mpr ?_
      exact .inl ⟨missing, rfl⟩
    | noEnd sound start missing =>
      refine span_of_members sound fun b holds => (finish_bounds_eq_error holds).mpr ?_
      exact .inr ⟨⟨_, start⟩, missing, rfl⟩
    | noElement => exact pairOf_eq_error.mpr .noElement
    | first bad => exact pairOf_eq_error.mpr (.first bad)
    | oneElement fine => exact pairOf_eq_error.mpr (.oneElement fine)
    | second fine bad => exact pairOf_eq_error.mpr (.second fine bad)
    | third start stop => exact pairOf_eq_error.mpr (.third start stop)

end OperationTree.Reading
