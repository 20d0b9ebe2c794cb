import OperationTree.Proofs.Reading.Format

namespace OperationTree.Reading

open Json (Value)

theorem kindTag_ofKey_key (tag : KindTag) : KindTag.ofKey? tag.key = some tag := by
  cases tag <;> rfl

theorem kindTag_key {key : String} {tag : KindTag} (found : KindTag.ofKey? key = some tag) :
    key = tag.key := by
  have named := List.find?_some found
  exact (beq_iff_eq.mp named).symm

theorem kindTag_decode_eq_ok {v : Value} {tag : KindTag} :
    KindTag.decode v = .ok tag ↔ v = .text tag.key := by
  constructor
  · intro decoded
    unfold KindTag.decode at decoded
    split at decoded
    · split at decoded
      · next found =>
        cases decoded
        rw [kindTag_key found]
      · cases decoded
    · cases decoded
  · intro same
    subst same
    simp [KindTag.decode, kindTag_ofKey_key]

theorem asText_ok_iff {v : Value} : (∃ s, v.asText = .ok s) ↔ ∃ s, v = .text s := by
  cases v <;> simp [Json.Value.asText]

theorem parts_object {members : List (String × Value)} {key : String} {content : Value} :
    OperatorValue.parts (.object members) = .ok (key, content) ↔
      (∀ m ∈ members, m.1 = key) ∧ members.getLast? = some (key, content) := by
  cases members with
  | nil => simp [OperatorValue.parts]
  | cons first more =>
    rcases first with ⟨name, opening⟩
    rw [List.getLast?_cons]
    simp only [OperatorValue.parts, List.mem_cons, forall_eq_or_imp]
    by_cases same : more.all (·.1 == name) = true
    · rw [if_pos same]
      simp only [List.all_eq_true, beq_iff_eq] at same
      have last : more.getLast?.getD (name, opening) =
          (name, (more.getLast?.map (·.2)).getD opening) := by
        cases ends : more.getLast? with
        | none => rfl
        | some m => exact Prod.ext (same m (List.mem_of_getLast? ends)) rfl
      rw [last]
      constructor
      · intro read
        cases read
        exact ⟨⟨rfl, same⟩, rfl⟩
      · intro named
        rcases named with ⟨_, found⟩
        cases found
        rfl
    · rw [if_neg same]
      constructor
      · intro refused
        cases refused
      · intro named
        rcases named with ⟨⟨rfl, alike⟩, _⟩
        exact absurd (by simpa using alike) same

theorem checkContent_ok_iff {v : Value} :
    (∃ u, OperatorValue.checkContent v = .ok u) ↔ v = .null ∨ v = .object [] := by
  unfold OperatorValue.checkContent
  split <;> simp_all

theorem operator_decode_ok_iff {α : Type} {ofKey? : String → Option α} {keys known : List String}
    (keyed : ∀ key, (ofKey? key).isSome = true ↔ key ∈ keys) {v : Value} :
    (∃ op, OperatorValue.decode ofKey? known v = .ok op) ↔ IsOperator keys v := by
  have named {key : String} {content : Value} (split : OperatorValue.parts v = .ok (key, content)) :
      (∃ op, OperatorValue.decode ofKey? known v = .ok op) ↔
        key ∈ keys ∧ (content = .null ∨ content = .object []) := by
    rw [← keyed, ← checkContent_ok_iff]
    unfold OperatorValue.decode
    cases found : ofKey? key with
    | none => simp [split, found, bind, Except.bind]
    | some op => simp [split, found, bind_eq_ok, pure, Except.pure]
  have decoded : (∃ op, OperatorValue.decode ofKey? known v = .ok op) ↔
      ∃ key content, OperatorValue.parts v = .ok (key, content) ∧
        key ∈ keys ∧ (content = .null ∨ content = .object []) := by
    constructor
    · intro decoded
      rcases decoded with ⟨op, read⟩
      rcases bind_eq_ok.mp read with ⟨⟨key, content⟩, split, _⟩
      exact ⟨key, content, split, (named split).mp ⟨op, read⟩⟩
    · intro divided
      rcases divided with ⟨key, content, split, fits⟩
      exact (named split).mpr fits
  rw [decoded]
  cases v with
  | text key =>
    simp only [OperatorValue.parts, IsOperator]
    constructor
    · intro divided
      rcases divided with ⟨_, _, read, among, _⟩
      cases read
      exact among
    · intro among
      exact ⟨key, .null, rfl, among, .inl rfl⟩
  | object members =>
    simp only [parts_object, IsOperator]
    constructor
    · intro divided
      rcases divided with ⟨key, content, ⟨alike, last⟩, among, empty⟩
      exact ⟨key, content, among, alike, last, empty⟩
    · intro known
      rcases known with ⟨key, content, among, alike, last, empty⟩
      exact ⟨key, content, ⟨alike, last⟩, among, empty⟩
  | _ => simp [OperatorValue.parts, IsOperator]

theorem unary_decode_ok_iff {v : Value} : (∃ op, UnaryOperator.decode v = .ok op) ↔
    IsOperator (UnaryOperator.all.map UnaryOperator.key) v :=
  operator_decode_ok_iff fun key => by simp [UnaryOperator.ofKey?]

theorem binary_decode_ok_iff {v : Value} : (∃ op, BinaryOperator.decode v = .ok op) ↔
    IsOperator (BinaryOperator.all.map BinaryOperator.key) v :=
  operator_decode_ok_iff fun key => by simp [BinaryOperator.ofKey?]

theorem ofTag_tag {payload : PayloadKey → Except ContentFault Value} {tag : KindTag} {kind : Kind}
    (decoded : Kind.ofTag payload tag = .ok kind) : kind.tag = tag := by
  cases tag <;> simp only [Kind.ofTag, bind_eq_ok, pure, Except.pure, Except.ok.injEq] at decoded
  all_goals
    first
    | (subst decoded; rfl)
    | (obtain ⟨_, _, _, _, rfl⟩ := decoded; rfl)

theorem taken_ok_iff {α β : Type} {payload : Except ContentFault Value}
    {decode : Value → Except ContentFault α} {make : α → β} :
    (∃ b, (do return make (← decode (← payload))) = Except.ok b) ↔
      ∃ v, payload = .ok v ∧ ∃ a, decode v = .ok a := by
  constructor
  · intro taken
    rcases taken with ⟨b, read⟩
    rcases bind_eq_ok.mp read with ⟨v, present, read⟩
    rcases bind_eq_ok.mp read with ⟨a, decoded, _⟩
    exact ⟨v, present, a, decoded⟩
  · intro payload
    rcases payload with ⟨v, present, a, decoded⟩
    exact ⟨make a, bind_eq_ok.mpr ⟨v, present, bind_eq_ok.mpr ⟨a, decoded, rfl⟩⟩⟩

theorem ofTag_ok_iff {payload : PayloadKey → Except ContentFault Value} {tag : KindTag} :
    (∃ kind, Kind.ofTag payload tag = .ok kind) ↔
      ∀ key, tag.payloadKey = some key → ∃ v, payload key = .ok v ∧ IsPayload tag v := by
  have texts {make : String → Kind} {key : PayloadKey} :
      (∃ kind, (do return make (← (← payload key).asText)) = Except.ok kind) ↔
        ∃ v, payload key = .ok v ∧ ∃ s, v = .text s := by
    rw [taken_ok_iff]
    simp only [asText_ok_iff]
  cases tag with
  | variableDeclaration | literal | localReference | fieldReference | invocation =>
    simpa [Kind.ofTag, KindTag.payloadKey, IsPayload] using texts
  | unary =>
    simp only [Kind.ofTag, taken_ok_iff, unary_decode_ok_iff]
    simp [KindTag.payloadKey, IsPayload]
  | binary =>
    simp only [Kind.ofTag, taken_ok_iff, binary_decode_ok_iff]
    simp [KindTag.payloadKey, IsPayload]
  | _ => simp [Kind.ofTag, KindTag.payloadKey]

theorem stray_eq_none {d : Draft} {kind : Kind} : d.stray? kind = none ↔
    ∀ key, (d.payload? key).isSome = true → kind.payloadKey = some key := by
  have among (key : PayloadKey) : key ∈ PayloadKey.all := by cases key <;> decide
  simp [Draft.stray?, List.find?_eq_none, among]

theorem finish_eq_ok {d : Draft} {t : Operation} : d.finish = .ok t ↔
    ∃ kind, Kind.decode d.tag d.payload? = .ok kind ∧ d.stray? kind = none ∧
      t = ⟨kind, d.span.getD {}, d.children.getD []⟩ := by
  unfold Draft.finish
  rw [bind_eq_ok]
  constructor
  · intro finished
    rcases finished with ⟨kind, decoded, finished⟩
    split at finished
    · cases finished
    · next alone =>
      cases finished
      exact ⟨kind, decoded, alone, rfl⟩
  · intro decoded
    rcases decoded with ⟨kind, decoded, alone, rfl⟩
    refine ⟨kind, decoded, ?_⟩
    rw [alone]
    rfl

theorem decode_eq_ok {held : Option Value} {payload : PayloadKey → Option Value} {kind : Kind} :
    Kind.decode held payload = .ok kind ↔ ∃ tag : KindTag, held = some (.text tag.key) ∧
      Kind.ofTag (fun key => (payload key).elim (.error (.missingField key.text)) .ok) tag =
        .ok kind := by
  cases held with
  | none => simp [Kind.decode]
  | some v =>
    simp only [Kind.decode, bind_eq_ok, kindTag_decode_eq_ok, Option.some.injEq]

theorem finish_ok_iff {d : Draft} : (∃ t, d.finish = .ok t) ↔ ∃ tag : KindTag,
    d.tag = some (.text tag.key) ∧
    (∀ key, tag.payloadKey = some key → ∃ v, d.payload? key = some v ∧ IsPayload tag v) ∧
    ∀ key, (d.payload? key).isSome = true → tag.payloadKey = some key := by
  have asked (key : PayloadKey) (v : Value) :
      (d.payload? key).elim (.error (ContentFault.missingField key.text)) Except.ok = .ok v ↔
        d.payload? key = some v := by
    cases d.payload? key <;> simp
  constructor
  · intro finished
    rcases finished with ⟨t, finished⟩
    obtain ⟨kind, decoded, alone, _⟩ := finish_eq_ok.mp finished
    rcases decode_eq_ok.mp decoded with ⟨tag, held, taken⟩
    have fits := ofTag_ok_iff.mp ⟨kind, taken⟩
    simp only [asked] at fits
    rw [stray_eq_none, Kind.payloadKey, ofTag_tag taken] at alone
    exact ⟨tag, held, fits, alone⟩
  · intro described
    rcases described with ⟨tag, held, fits, alone⟩
    simp only [← asked] at fits
    obtain ⟨kind, taken⟩ := ofTag_ok_iff.mpr fits
    have decoded := decode_eq_ok.mpr ⟨tag, held, taken⟩
    rw [← ofTag_tag taken] at alone
    exact ⟨_, finish_eq_ok.mpr ⟨kind, decoded, stray_eq_none.mpr alone, rfl⟩⟩

end OperationTree.Reading
