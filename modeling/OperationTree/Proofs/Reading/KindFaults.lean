import OperationTree.Proofs.Reading.Acceptance

namespace OperationTree.Reading

open Json (Value)

inductive OperatorReports (keys : List String) : Value → ContentFault → Prop where
  | other {v : Value} (notText : ∀ s, v ≠ .text s) (notObject : ∀ members, v ≠ .object members) :
      OperatorReports keys v (.wrongType v.describe "string or map")
  | unknownText {key : String} (unknown : key ∉ keys) :
      OperatorReports keys (.text key) (.unknownVariant key keys)
  | notSingle {members : List (String × Value)}
      (mixed : ¬ ∃ key content, (key, content) ∈ members ∧ ∀ m ∈ members, m.1 = key) :
      OperatorReports keys (.object members) (.wrongValue "map" "map with a single key")
  | unknownKey {members : List (String × Value)} {key : String} {content : Value}
      (among : (key, content) ∈ members) (alike : ∀ m ∈ members, m.1 = key)
      (unknown : key ∉ keys) : OperatorReports keys (.object members) (.unknownVariant key keys)
  | content {members : List (String × Value)} {key : String} {v : Value}
      (alike : ∀ m ∈ members, m.1 = key) (last : members.getLast? = some (key, v))
      (known : key ∈ keys) (notNull : v ≠ .null) (notEmpty : v ≠ .object []) :
      OperatorReports keys (.object members) (.wrongType v.describe "unit")

theorem checkContent_eq_error {v : Value} {fault : ContentFault} :
    OperatorValue.checkContent v = .error fault ↔
      v ≠ .null ∧ v ≠ .object [] ∧ fault = .wrongType v.describe "unit" := by
  unfold OperatorValue.checkContent
  split
  · simp
  · simp
  · next notNull notEmpty =>
    constructor
    · intro refused
      cases refused
      exact ⟨notNull, notEmpty, rfl⟩
    · intro bad
      rw [bad.2.2]

theorem parts_object_eq_error {members : List (String × Value)} {fault : ContentFault} :
    OperatorValue.parts (.object members) = .error fault ↔
      (¬ ∃ key content, (key, content) ∈ members ∧ ∀ m ∈ members, m.1 = key) ∧
        fault = .wrongValue "map" "map with a single key" := by
  cases members with
  | nil => simp [OperatorValue.parts, eq_comm]
  | cons first more =>
    rcases first with ⟨key, content⟩
    simp only [OperatorValue.parts]
    by_cases same : more.all (·.1 == key) = true
    · have alike : ∀ m ∈ more, m.1 = key := by simpa using same
      rw [if_pos same]
      constructor
      · intro refused
        cases refused
      · intro mixed
        refine absurd ⟨key, content, List.mem_cons_self, ?_⟩ mixed.1
        simpa using alike
    · rw [if_neg same]
      constructor
      · intro refused
        cases refused
        refine ⟨fun single => same ?_, rfl⟩
        rcases single with ⟨name, _, _, alike⟩
        obtain rfl := alike _ List.mem_cons_self
        simpa using fun name v later => alike (name, v) (List.mem_cons_of_mem _ later)
      · intro mixed
        rw [mixed.2]

section
variable {α : Type} {ofKey? : String → Option α} {keys : List String}
  (keyed : ∀ key, (ofKey? key).isSome = true ↔ key ∈ keys)
include keyed

theorem decode_parts_eq_error {v content : Value} {key : String} {fault : ContentFault}
    (parted : OperatorValue.parts v = .ok (key, content)) :
    OperatorValue.decode ofKey? keys v = .error fault ↔
      key ∉ keys ∧ fault = .unknownVariant key keys ∨
        key ∈ keys ∧ content ≠ .null ∧ content ≠ .object [] ∧
          fault = .wrongType content.describe "unit" := by
  rw [← keyed, ← checkContent_eq_error]
  unfold OperatorValue.decode
  cases found : ofKey? key with
  | none => simp [parted, found, bind, Except.bind, eq_comm]
  | some op => simp [parted, found, bind_eq_error, pure, Except.pure]

theorem operator_decode_eq_error {v : Value} {fault : ContentFault} :
    OperatorValue.decode ofKey? keys v = .error fault ↔ OperatorReports keys v fault := by
  constructor
  · intro refused
    cases parted : OperatorValue.parts v with
    | error other =>
      have same : other = fault := by
        rw [OperatorValue.decode, parted] at refused
        exact Except.error.inj refused
      subst same
      cases v with
      | text key => cases parted
      | object members =>
        obtain ⟨mixed, rfl⟩ := parts_object_eq_error.mp parted
        exact .notSingle mixed
      | _ =>
        cases parted
        exact .other (by simp) (by simp)
    | ok part =>
      rcases part with ⟨key, content⟩
      have bad := (decode_parts_eq_error keyed parted).mp refused
      cases v with
      | text name =>
        cases parted
        rcases bad with ⟨unknown, rfl⟩ | ⟨_, notNull, _⟩
        · exact .unknownText unknown
        · exact absurd rfl notNull
      | object members =>
        obtain ⟨alike, last⟩ := parts_object.mp parted
        rcases bad with ⟨unknown, rfl⟩ | ⟨known, notNull, notEmpty, rfl⟩
        · exact .unknownKey (List.mem_of_getLast? last) alike unknown
        · exact .content alike last known notNull notEmpty
      | _ => cases parted
  · intro reports
    cases reports with
    | other notText notObject =>
      cases v with
      | text s => exact absurd rfl (notText s)
      | object members => exact absurd rfl (notObject members)
      | _ => rfl
    | @unknownText key unknown =>
      have parted : OperatorValue.parts (.text key) = .ok (key, .null) := rfl
      exact (decode_parts_eq_error keyed parted).mpr (.inl ⟨unknown, rfl⟩)
    | notSingle mixed =>
      rw [OperatorValue.decode, parts_object_eq_error.mpr ⟨mixed, rfl⟩]
      rfl
    | @unknownKey members key content among alike unknown =>
      -- the content that counts is the last, which may be another one
      obtain ⟨m, last⟩ := Option.isSome_iff_exists.mp
        (List.getLast?_isSome.mpr (List.ne_nil_of_mem among))
      obtain rfl := alike m (List.mem_of_getLast? last)
      have parted := parts_object.mpr ⟨alike, last⟩
      exact (decode_parts_eq_error keyed parted).mpr (.inl ⟨unknown, rfl⟩)
    | content alike last known notNull notEmpty =>
      have parted := parts_object.mpr ⟨alike, last⟩
      exact (decode_parts_eq_error keyed parted).mpr (.inr ⟨known, notNull, notEmpty, rfl⟩)

end

theorem unary_decode_eq_error {v : Value} {fault : ContentFault} :
    UnaryOperator.decode v = .error fault ↔
      OperatorReports (UnaryOperator.all.map UnaryOperator.key) v fault :=
  operator_decode_eq_error fun key => by simp [UnaryOperator.ofKey?]

theorem binary_decode_eq_error {v : Value} {fault : ContentFault} :
    BinaryOperator.decode v = .error fault ↔
      OperatorReports (BinaryOperator.all.map BinaryOperator.key) v fault :=
  operator_decode_eq_error fun key => by simp [BinaryOperator.ofKey?]

theorem asText_eq_error {v : Value} {fault : ContentFault} : v.asText = .error fault ↔
    (∀ s, v ≠ .text s) ∧ fault = .wrongType v.describe "a string" := by
  cases v <;> simp [Json.Value.asText, eq_comm]

def PayloadReports : KindTag → Value → ContentFault → Prop
  | .unary, v, fault => OperatorReports (UnaryOperator.all.map UnaryOperator.key) v fault
  | .binary, v, fault => OperatorReports (BinaryOperator.all.map BinaryOperator.key) v fault
  | _, v, fault => (∀ s, v ≠ .text s) ∧ fault = .wrongType v.describe "a string"

theorem taken_eq_error {α β : Type} {payload : Except ContentFault Value}
    {decode : Value → Except ContentFault α} {make : α → β} {fault : ContentFault} :
    (do return make (← decode (← payload))) = Except.error fault ↔
      payload = .error fault ∨ ∃ v, payload = .ok v ∧ decode v = .error fault := by
  simp only [bind_eq_error, pure, Except.pure]
  simp

theorem ofTag_eq_error {payload : PayloadKey → Except ContentFault Value} {tag : KindTag}
    {fault : ContentFault} : Kind.ofTag payload tag = .error fault ↔
      ∃ key, tag.payloadKey = some key ∧
        (payload key = .error fault ∨ ∃ v, payload key = .ok v ∧ PayloadReports tag v fault) := by
  have texts {make : String → Kind} {key : PayloadKey} :
      (do return make (← (← payload key).asText)) = Except.error fault ↔
        payload key = .error fault ∨ ∃ v, payload key = .ok v ∧
          (∀ s, v ≠ .text s) ∧ fault = .wrongType v.describe "a string" := by
    rw [taken_eq_error]
    simp only [asText_eq_error]
  cases tag with
  | variableDeclaration | literal | localReference | fieldReference | invocation =>
    simpa [Kind.ofTag, KindTag.payloadKey, PayloadReports] using texts
  | unary =>
    simp only [Kind.ofTag, taken_eq_error, unary_decode_eq_error]
    simp [KindTag.payloadKey, PayloadReports]
  | binary =>
    simp only [Kind.ofTag, taken_eq_error, binary_decode_eq_error]
    simp [KindTag.payloadKey, PayloadReports]
  | _ => simp [Kind.ofTag, KindTag.payloadKey]

inductive TagReports : Value → ContentFault → Prop where
  | other {v : Value} (notText : ∀ s, v ≠ .text s) :
      TagReports v (.wrongType v.describe "variant identifier")
  | unknown {s : String} (foreign : ∀ tag : KindTag, s ≠ tag.key) :
      TagReports (.text s) (.unknownVariant s (KindTag.all.map KindTag.key))

theorem kindTag_decode_eq_error {v : Value} {fault : ContentFault} :
    KindTag.decode v = .error fault ↔ TagReports v fault := by
  constructor
  · intro refused
    unfold KindTag.decode at refused
    split at refused
    · next key =>
      split at refused
      · cases refused
      · next missing =>
        cases refused
        refine .unknown fun tag same => ?_
        rw [same, kindTag_ofKey_key] at missing
        cases missing
    · next notText =>
      cases refused
      exact .other notText
  · intro reports
    cases reports with
    | other notText =>
      cases v with
      | text s => exact absurd rfl (notText s)
      | _ => rfl
    | @unknown s foreign =>
      cases found : KindTag.ofKey? s with
      | none => simp [KindTag.decode, found]
      | some tag => exact absurd (kindTag_key found) (foreign tag)

theorem payloadKeys_ascending : PayloadKey.all.Pairwise fun a b => a.text < b.text := by decide

theorem mem_payloadKeys (key : PayloadKey) : key ∈ PayloadKey.all := by cases key <;> decide

theorem stray_eq_some {d : Draft} {kind : Kind} {key : PayloadKey} :
    d.stray? kind = some key ↔ (d.payload? key).isSome = true ∧ kind.payloadKey ≠ some key ∧
      ∀ other, (d.payload? other).isSome = true → kind.payloadKey ≠ some other →
        ¬ other.text < key.text := by
  rw [Draft.stray?, List.find?_eq_some_iff_append]
  constructor
  · intro found
    rcases found with ⟨own, before, after, split, passed⟩
    have own : (d.payload? key).isSome = true ∧ kind.payloadKey ≠ some key := by simpa using own
    refine ⟨own.1, own.2, fun other present unused less => ?_⟩
    have listed := mem_payloadKeys other
    have ascending := payloadKeys_ascending
    rw [split] at listed ascending
    rcases List.mem_append.mp listed with earlier | later
    · have skipped := passed other earlier
      simp [present, unused] at skipped
    · rcases List.mem_cons.mp later with rfl | later
      · exact String.lt_irrefl _ less
      · have above := (List.pairwise_cons.mp (List.pairwise_append.mp ascending).2.1).1 other later
        exact String.lt_asymm above less
  · intro least
    rcases least with ⟨present, unused, least⟩
    obtain ⟨before, after, split⟩ := List.append_of_mem (mem_payloadKeys key)
    refine ⟨by simp [present, unused], before, after, split, fun other earlier => ?_⟩
    have ascending := payloadKeys_ascending
    rw [split] at ascending
    have less := (List.pairwise_append.mp ascending).2.2 other earlier key List.mem_cons_self
    by_contra stands
    simp only [Bool.not_eq_true', Bool.not_eq_false, Bool.and_eq_true, bne_iff_ne] at stands
    exact least other stands.1 stands.2 less

/-- What sound members are at fault for when their object ends. -/
inductive ContentReports (members : List (String × Value)) : ContentFault → Prop where
  | noKind (missing : ∀ v, ("kind", v) ∉ members) :
      ContentReports members (.missingField "kind")
  | tag {v : Value} {fault : ContentFault} (held : ("kind", v) ∈ members)
      (bad : TagReports v fault) : ContentReports members fault
  | noPayload {tag : KindTag} {key : PayloadKey} (held : ("kind", .text tag.key) ∈ members)
      (asked : tag.payloadKey = some key) (missing : ∀ v, (key.text, v) ∉ members) :
      ContentReports members (.missingField key.text)
  | payload {tag : KindTag} {key : PayloadKey} {v : Value} {fault : ContentFault}
      (held : ("kind", .text tag.key) ∈ members) (asked : tag.payloadKey = some key)
      (given : (key.text, v) ∈ members) (bad : PayloadReports tag v fault) :
      ContentReports members fault
  | stray {tag : KindTag} {key : PayloadKey} {v : Value}
      (held : ("kind", .text tag.key) ∈ members)
      (fits : ∀ own, tag.payloadKey = some own → ∃ u, (own.text, u) ∈ members ∧ IsPayload tag u)
      (given : (key.text, v) ∈ members) (unused : tag.payloadKey ≠ some key)
      (least : ∀ (other : PayloadKey) u, (other.text, u) ∈ members →
        tag.payloadKey ≠ some other → ¬ other.text < key.text) :
      ContentReports members (.strayField key.text tag.name)

theorem decode_eq_error {held : Option Value} {payload : PayloadKey → Option Value}
    {fault : ContentFault} : Kind.decode held payload = .error fault ↔
      held = none ∧ fault = .missingField "kind" ∨
      (∃ v, held = some v ∧ TagReports v fault) ∨
      ∃ (tag : KindTag) (key : PayloadKey), held = some (.text tag.key) ∧
        tag.payloadKey = some key ∧ (payload key = none ∧ fault = .missingField key.text ∨
          ∃ v, payload key = some v ∧ PayloadReports tag v fault) := by
  have missing (key : PayloadKey) :
      (payload key).elim (.error (ContentFault.missingField key.text)) Except.ok = .error fault ↔
        payload key = none ∧ fault = .missingField key.text := by
    cases payload key <;> simp [eq_comm]
  have given (key : PayloadKey) (v : Value) :
      (payload key).elim (.error (ContentFault.missingField key.text)) Except.ok = .ok v ↔
        payload key = some v := by
    cases payload key <;> simp
  cases held with
  | none => simp [Kind.decode, eq_comm]
  | some v =>
    simp only [Kind.decode, bind_eq_error, kindTag_decode_eq_error, kindTag_decode_eq_ok,
      ofTag_eq_error, missing, given, Option.some.injEq, reduceCtorEq, false_and, false_or,
      exists_eq_left']
    constructor
    · intro refused
      rcases refused with bad | ⟨tag, rfl, key, asked, bad⟩
      · exact .inl bad
      · exact .inr ⟨tag, key, rfl, asked, bad⟩
    · intro reports
      rcases reports with bad | ⟨tag, key, rfl, asked, bad⟩
      · exact .inl bad
      · exact .inr ⟨tag, rfl, key, asked, bad⟩

theorem finish_eq_error {d : Draft} {fault : ContentFault} : d.finish = .error fault ↔
    Kind.decode d.tag d.payload? = .error fault ∨ ∃ kind key,
      Kind.decode d.tag d.payload? = .ok kind ∧ d.stray? kind = some key ∧
        fault = .strayField key.text kind.name := by
  unfold Draft.finish
  rw [bind_eq_error]
  refine or_congr_right (exists_congr fun kind => ?_)
  cases d.stray? kind <;> simp [pure, Except.pure, eq_comm]

theorem content_of_decode {members : List (String × Value)} {d : Draft} (holds : d.Holds members)
    {fault : ContentFault} (refused : Kind.decode d.tag d.payload? = .error fault) :
    ContentReports members fault := by
  rcases decode_eq_error.mp refused with ⟨empty, rfl⟩ | ⟨v, held, bad⟩ |
    ⟨tag, key, held, asked, bad⟩
  · refine .noKind fun v among => ?_
    rw [← holds_tag holds, empty] at among
    cases among
  · exact .tag ((holds_tag holds v).mp held) bad
  · have held := (holds_tag holds _).mp held
    rcases bad with ⟨empty, rfl⟩ | ⟨v, given, bad⟩
    · refine .noPayload held asked fun v among => ?_
      rw [← holds_payload holds, empty] at among
      cases among
    · exact .payload held asked ((holds_payload holds key v).mp given) bad

theorem content_of_stray {members : List (String × Value)} {d : Draft} (holds : d.Holds members)
    {kind : Kind} {key : PayloadKey} (decoded : Kind.decode d.tag d.payload? = .ok kind)
    (stray : d.stray? kind = some key) :
    ContentReports members (.strayField key.text kind.name) := by
  obtain ⟨tag, held, taken⟩ := decode_eq_ok.mp decoded
  obtain rfl := ofTag_tag taken
  obtain ⟨present, unused, least⟩ := stray_eq_some.mp stray
  obtain ⟨v, given⟩ := Option.isSome_iff_exists.mp present
  refine .stray ((holds_tag holds _).mp held) (fun own asked => ?_)
    ((holds_payload holds key v).mp given) unused (fun other u among => ?_)
  · obtain ⟨u, given, fits⟩ := ofTag_ok_iff.mp ⟨kind, taken⟩ own asked
    refine ⟨u, (holds_payload holds own u).mp ?_, fits⟩
    cases payload : d.payload? own with
    | none => simp [payload] at given
    | some w => simpa [payload] using given
  · rw [← holds_payload holds] at among
    exact least other (Option.isSome_iff_exists.mpr ⟨u, among⟩)

theorem decode_of_content {members : List (String × Value)} {d : Draft} (holds : d.Holds members)
    {tag : KindTag} (held : ("kind", .text tag.key) ∈ members)
    (fits : ∀ own, tag.payloadKey = some own →
      ∃ u, (own.text, u) ∈ members ∧ IsPayload tag u) :
    ∃ kind, kind.tag = tag ∧ Kind.decode d.tag d.payload? = .ok kind := by
  have taken : ∃ kind, Kind.ofTag
      (fun key => (d.payload? key).elim (.error (.missingField key.text)) .ok) tag = .ok kind := by
    refine ofTag_ok_iff.mpr fun own asked => ?_
    obtain ⟨u, given, fits⟩ := fits own asked
    refine ⟨u, ?_, fits⟩
    rw [(holds_payload holds own u).mpr given]
    rfl
  obtain ⟨kind, taken⟩ := taken
  exact ⟨kind, ofTag_tag taken, decode_eq_ok.mpr ⟨tag, (holds_tag holds _).mpr held, taken⟩⟩

theorem finish_reports {members : List (String × Value)} {d : Draft} (holds : d.Holds members)
    {fault : ContentFault} : d.finish = .error fault ↔ ContentReports members fault := by
  have absent (field : Field) (missing : ∀ v, (field.text, v) ∉ members) : ¬ d.Has field := by
    rw [holds.has]
    exact fun given => given.elim missing
  rw [finish_eq_error]
  constructor
  · intro refused
    rcases refused with refused | ⟨kind, key, decoded, stray, rfl⟩
    · exact content_of_decode holds refused
    · exact content_of_stray holds decoded stray
  · intro reports
    cases reports with
    | noKind missing =>
      have empty : d.tag = none := by simpa [Draft.Has] using absent .kind missing
      exact .inl (decode_eq_error.mpr (.inl ⟨empty, rfl⟩))
    | tag held bad =>
      exact .inl (decode_eq_error.mpr (.inr (.inl ⟨_, (holds_tag holds _).mpr held, bad⟩)))
    | @noPayload tag key held asked missing =>
      have empty : d.payload? key = none := by
        simpa [Draft.Has] using absent (.payload key) missing
      exact .inl (decode_eq_error.mpr (.inr (.inr
        ⟨tag, key, (holds_tag holds _).mpr held, asked, .inl ⟨empty, rfl⟩⟩)))
    | @payload tag key v _ held asked given bad =>
      exact .inl (decode_eq_error.mpr (.inr (.inr ⟨tag, key, (holds_tag holds _).mpr held, asked,
        .inr ⟨v, (holds_payload holds key v).mpr given, bad⟩⟩)))
    | @stray tag key v held fits given unused least =>
      obtain ⟨kind, rfl, decoded⟩ := decode_of_content holds held fits
      have present : (d.payload? key).isSome = true := (holds.has (.payload key)).mpr ⟨v, given⟩
      have stray : d.stray? kind = some key := by
        refine stray_eq_some.mpr ⟨present, unused, fun other held => ?_⟩
        obtain ⟨u, among⟩ := (holds.has (.payload other)).mp held
        exact least other u among
      exact .inr ⟨kind, key, decoded, stray, rfl⟩

end OperationTree.Reading
