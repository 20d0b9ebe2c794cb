import OperationTree.Proofs.Outcomes
import OperationTree.Proofs.Reading.Meaning

namespace OperationTree.Reading

open Json (Value Fault)

def operationKeys : List String :=
  ["kind", "span", "children", "name", "value", "field", "op", "method"]

/-- A number without sign, fraction and exponent that fits 64 bits. -/
def IsBound (v : Value) : Prop := ∃ n, v = .number (.natural n)

/-- Both bounds once and any other keys, or an array of the two bounds. -/
def IsSpan : Value → Prop
  | .object members => ∀ field : BoundField, ∃ v,
    members.filter (·.1 == field.text) = [(field.text, v)] ∧ IsBound v
  | .array items => ∃ start stop, items = [start, stop] ∧ IsBound start ∧ IsBound stop
  | _ => False

/-- An operator's key, or an object that holds nothing under that key alone. -/
def IsOperator (keys : List String) : Value → Prop
  | .text key => key ∈ keys
  | .object members => ∃ key content, key ∈ keys ∧ (∀ m ∈ members, m.1 = key) ∧
    members.getLast? = some (key, content) ∧ (content = .null ∨ content = .object [])
  | _ => False

def IsPayload : KindTag → Value → Prop
  | .unary, v => IsOperator (UnaryOperator.all.map UnaryOperator.key) v
  | .binary, v => IsOperator (BinaryOperator.all.map BinaryOperator.key) v
  | _, v => ∃ s, v = .text s

/-- The value describes an operation, with all operations under it. -/
inductive IsOperation : Value → Prop where
  | object {members : List (String × Value)} (tag : KindTag)
      (known : ∀ m ∈ members, m.1 ∈ operationKeys)
      (once : (members.map Prod.fst).Nodup)
      (kind : ("kind", .text tag.key) ∈ members)
      (payloads : ∀ key : PayloadKey, (∃ v, (key.text, v) ∈ members) ↔ tag.payloadKey = some key)
      (fits : ∀ key v, tag.payloadKey = some key → (key.text, v) ∈ members → IsPayload tag v)
      (span : ∀ v, ("span", v) ∈ members → IsSpan v)
      (list : ∀ v, ("children", v) ∈ members → ∃ items, v = .array items)
      (children : ∀ items, ("children", .array items) ∈ members → ∀ v ∈ items, IsOperation v) :
      IsOperation (.object members)

theorem asData_eq_ok {α : Type} {x : Except ContentFault α} {a : α} :
    asData x = .ok a ↔ x = .ok a :=
  mapError_eq_ok

theorem asData_eq_error {α : Type} {x : Except ContentFault α} {fault : Fault} :
    asData x = .error fault ↔ ∃ content, x = .error content ∧ fault = .data content := by
  rw [asData, mapError_eq_error]
  simp only [eq_comm]

theorem boundOf_eq_ok {v : Value} {n : UInt64} :
    boundOf v = .ok n ↔ v = .number (.natural n) := by
  cases v with
  | number number => cases number <;> simp [boundOf]
  | _ => simp [boundOf]

theorem boundField_text_injective {f g : BoundField} (same : f.text = g.text) : f = g := by
  cases f <;> cases g <;> first | rfl | simp [BoundField.text] at same

theorem boundField_ofText_text (f : BoundField) : BoundField.ofText? f.text = some f := by
  cases f <;> rfl

theorem boundField_text {key : String} {f : BoundField} (found : BoundField.ofText? key = some f) :
    key = f.text := by
  have named := List.find?_some found
  simpa using (beq_iff_eq.mp named).symm

def Bounds.Hold (done : List (String × Value)) (b : Bounds) : Prop :=
  ∀ field : BoundField, done.filter (·.1 == field.text) =
    ((b.get field).map fun n => (field.text, Value.number (.natural n))).toList

theorem get_set (b : Bounds) (n : UInt64) (f g : BoundField) :
    (b.set n f).get g = if f = g then some n else b.get g := by
  cases f <;> cases g <;> rfl

theorem hold_absorb {done : List (String × Value)} {b next : Bounds} {m : String × Value}
    (holds : b.Hold done) (absorbed : b.absorb m = .ok next) : next.Hold (done ++ [m]) := by
  rcases m with ⟨key, v⟩
  intro field
  have before := holds field
  rw [List.filter_append, before]
  unfold Bounds.absorb at absorbed
  split at absorbed
  · next foreign =>
    cases absorbed
    have other : key ≠ field.text := by
      intro same
      subst same
      rw [boundField_ofText_text] at foreign
      cases foreign
    simp [other]
  · next own found =>
    obtain rfl := boundField_text found
    split at absorbed
    · cases absorbed
    · next fresh =>
      obtain ⟨n, bound, rfl⟩ := map_eq_ok.mp absorbed
      cases boundOf_eq_ok.mp bound
      rw [get_set]
      by_cases same : own = field
      · subst same
        simp at fresh
        simp [fresh]
      · have other : own.text ≠ field.text := fun text => same (boundField_text_injective text)
        simp [same, other]

theorem hold_foldlM {members done : List (String × Value)} {b last : Bounds}
    (holds : b.Hold done) (absorbed : members.foldlM Bounds.absorb b = .ok last) :
    last.Hold (done ++ members) := by
  induction members generalizing b done with
  | nil =>
    cases absorbed
    simpa using holds
  | cons m members ih =>
    rw [List.foldlM_cons] at absorbed
    obtain ⟨next, first, later⟩ := bind_eq_ok.mp absorbed
    have held := ih (hold_absorb holds first) later
    rwa [List.append_assoc, List.singleton_append] at held

def SoundBounds (members : List (String × Value)) : Prop :=
  ∀ field : BoundField, members.filter (·.1 == field.text) = [] ∨
    ∃ v, members.filter (·.1 == field.text) = [(field.text, v)] ∧ IsBound v

theorem sound_of_hold {done : List (String × Value)} {b : Bounds} (holds : b.Hold done) :
    SoundBounds done := by
  intro field
  rw [holds field]
  cases b.get field with
  | none => exact .inl rfl
  | some n => exact .inr ⟨_, rfl, n, rfl⟩

theorem absorb_bound {done later : List (String × Value)} {b : Bounds} {m : String × Value}
    (holds : b.Hold done) (sound : SoundBounds (done ++ m :: later)) :
    ∃ next, b.absorb m = .ok next := by
  rcases m with ⟨key, v⟩
  unfold Bounds.absorb
  split
  · exact ⟨b, rfl⟩
  · next field found =>
    obtain rfl := boundField_text found
    rcases sound field with nothing | ⟨bound, single, n, rfl⟩
    · simp at nothing
    · -- had the bound been read before, it would stand twice among the members
      rw [List.filter_append, holds field] at single
      cases held : b.get field with
      | some n => simp [held] at single
      | none =>
        simp [held] at single
        rcases single with ⟨⟨_, rfl⟩, _⟩
        simp [boundOf, Except.map]

theorem foldlM_bounds {members done : List (String × Value)} {b : Bounds} (holds : b.Hold done)
    (sound : SoundBounds (done ++ members)) :
    ∃ last, members.foldlM Bounds.absorb b = .ok last := by
  induction members generalizing b done with
  | nil => exact ⟨b, rfl⟩
  | cons m members ih =>
    obtain ⟨next, first⟩ := absorb_bound holds sound
    rw [List.foldlM_cons, first]
    apply ih (hold_absorb holds first)
    rwa [List.append_assoc, List.singleton_append]

theorem finish_bounds_eq_ok {b : Bounds} {s : Span} :
    b.finish = .ok s ↔ b.start = some s.start ∧ b.stop = some s.stop := by
  rcases b with ⟨start, stop⟩
  rcases s with ⟨s, t⟩
  cases start <;> cases stop <;> simp [Bounds.finish]

theorem hold_nil : ({} : Bounds).Hold [] := by
  intro field
  cases field <;> rfl

theorem bounds_ok_iff {members : List (String × Value)} :
    (∃ s, members.foldlM Bounds.absorb {} >>= Bounds.finish = Except.ok s) ↔
      IsSpan (.object members) := by
  constructor
  · intro read
    rcases read with ⟨s, read⟩
    rcases bind_eq_ok.mp read with ⟨last, absorbed, finished⟩
    rcases finish_bounds_eq_ok.mp finished with ⟨start, stop⟩
    have held := hold_foldlM hold_nil absorbed
    intro field
    cases field with
    | start => exact ⟨_, by simpa [Bounds.get, start] using held .start, s.start, rfl⟩
    | stop => exact ⟨_, by simpa [Bounds.get, stop] using held .stop, s.stop, rfl⟩
  · intro bounds
    obtain ⟨last, absorbed⟩ := foldlM_bounds hold_nil fun field => .inr (bounds field)
    have held := hold_foldlM hold_nil absorbed
    have present (field : BoundField) : ∃ n, last.get field = some n := by
      rcases bounds field with ⟨v, single, _⟩
      have same := held field
      rw [List.nil_append, single] at same
      cases got : last.get field with
      | none => simp [got] at same
      | some n => exact ⟨n, rfl⟩
    obtain ⟨start, gotStart⟩ := present .start
    obtain ⟨stop, gotStop⟩ := present .stop
    have finished : last.finish = .ok ⟨start, stop⟩ :=
      finish_bounds_eq_ok.mpr ⟨gotStart, gotStop⟩
    exact ⟨⟨start, stop⟩, bind_eq_ok.mpr ⟨last, absorbed, finished⟩⟩

theorem pairOf_ok_iff {items : List Value} :
    (∃ s, pairOf items = .ok s) ↔ IsSpan (.array items) := by
  constructor
  · intro read
    rcases read with ⟨s, read⟩
    unfold pairOf at read
    split at read
    · cases read
    · rcases bind_eq_ok.mp read with ⟨_, _, refused⟩
      cases refused
    · next first second more =>
      rcases bind_eq_ok.mp read with ⟨start, gotStart, read⟩
      rcases bind_eq_ok.mp read with ⟨stop, gotStop, read⟩
      have isStart : IsBound first := ⟨start, boundOf_eq_ok.mp (asData_eq_ok.mp gotStart)⟩
      have isStop : IsBound second := ⟨stop, boundOf_eq_ok.mp (asData_eq_ok.mp gotStop)⟩
      split at read
      · next nothing =>
        cases List.isEmpty_iff.mp nothing
        exact ⟨first, second, rfl, isStart, isStop⟩
      · cases read
  · intro isSpan
    rcases isSpan with ⟨_, _, rfl, ⟨start, rfl⟩, ⟨stop, rfl⟩⟩
    exact ⟨⟨start, stop⟩, rfl⟩

theorem span_ofValue_iff {v : Value} : (∃ s, Span.ofValue v = .ok s) ↔ IsSpan v := by
  cases v with
  | object members =>
    simp only [Span.ofValue, asData_eq_ok]
    exact bounds_ok_iff
  | array items => exact pairOf_ok_iff
  | _ => simp [Span.ofValue, IsSpan]

end OperationTree.Reading
