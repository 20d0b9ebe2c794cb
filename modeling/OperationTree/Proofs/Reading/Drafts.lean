import OperationTree.Proofs.Reading.Meaning

namespace OperationTree.Reading

open Json (Value Fault)

theorem field_ofText_text (field : Field) : Field.ofText? field.text = some field := by
  cases field with
  | payload key => cases key <;> rfl
  | _ => rfl

theorem field_text {key : String} {field : Field} (found : Field.ofText? key = some field) :
    key = field.text := by
  have named := List.find?_some found
  exact (beq_iff_eq.mp named).symm

theorem field_text_injective {f g : Field} (same : f.text = g.text) : f = g := by
  have found := field_ofText_text g
  rw [← same, field_ofText_text] at found
  exact Option.some.inj found

def Draft.Has (d : Draft) : Field → Prop
  | .kind => d.tag.isSome = true
  | .span => d.span.isSome = true
  | .children => d.children.isSome = true
  | .payload key => (d.payload? key).isSome = true

def Draft.put (d : Draft) (v : Value) (children : Except Fault (List Operation)) :
    Field → Except Fault Draft
  | .kind => .ok { d with tag := some v }
  | .payload key => .ok { d with payloads := (key, v) :: d.payloads }
  | .span => (Span.ofValue v).map fun span => { d with span := some span }
  | .children => children.map fun ts => { d with children := some ts }

theorem absorb_repeated {d : Draft} {field : Field} (held : d.Has field) (v : Value)
    (children : Except Fault (List Operation)) :
    d.absorb field.text v children = .error (.data (.duplicateField field.text)) := by
  unfold Draft.absorb
  rw [field_ofText_text]
  cases field <;> exact if_pos held

theorem absorb_fresh {d : Draft} {field : Field} (fresh : ¬ d.Has field) (v : Value)
    (children : Except Fault (List Operation)) :
    d.absorb field.text v children = d.put v children field := by
  unfold Draft.absorb
  rw [field_ofText_text]
  cases field <;> exact if_neg fresh

theorem absorb_unknown {key : String} (unknown : Field.ofText? key = none) (d : Draft) (v : Value)
    (children : Except Fault (List Operation)) : d.absorb key v children =
      .error (.data (.unknownField key (Field.all.map Field.text))) := by
  unfold Draft.absorb
  rw [unknown]

theorem payload_put (d : Draft) (own key : PayloadKey) (v : Value) :
    Draft.payload? { d with payloads := (own, v) :: d.payloads } key =
      if own = key then some v else d.payload? key := by
  by_cases same : own = key
  · simp [Draft.payload?, same]
  · simp [Draft.payload?, same, List.find?_cons_of_neg]

end OperationTree.Reading
