import Mathlib.Algebra.Ring.Nat
import Mathlib.Data.List.Nodup
import OperationTree.Proofs.Json.Compact
import OperationTree.Proofs.Reading.Documents
import OperationTree.Proofs.Reading.Drafts
import OperationTree.Proofs.Reading.Payloads

/-!
The reader accepts exactly its format. A draft is followed over the members of an object: it takes
a member when the key is known and new and the value fits, and it ends as an operation when the tag
names a kind whose payload, and no other, is among the members.
-/

namespace OperationTree.Reading

open Json (Value Fault)
open Operation (ofMembers childrenOf ofItems)

theorem operationKeys_eq : operationKeys = Field.all.map Field.text := rfl

theorem mem_operationKeys {key : String} :
    key ∈ operationKeys ↔ ∃ field : Field, key = field.text := by
  rw [operationKeys_eq, List.mem_map]
  constructor
  · intro listed
    rcases listed with ⟨field, _, rfl⟩
    exact ⟨field, rfl⟩
  · intro named
    rcases named with ⟨field, rfl⟩
    have found := List.mem_of_find?_eq_some (field_ofText_text field)
    exact ⟨field, found, rfl⟩

/-- Of the values only spans and lists are looked at before the object ends. -/
def Fits (v : Value) : Field → Prop
  | .span => IsSpan v
  | .children => ∃ ts, childrenOf v = .ok ts
  | _ => True

structure Draft.Takes (d : Draft) (field : Field) (v : Value) (next : Draft) : Prop where
  fresh : ¬ d.Has field
  fits : Fits v field
  has : ∀ other, next.Has other ↔ other = field ∨ d.Has other
  tag : ∀ u, next.tag = some u → field = .kind ∧ u = v ∨ d.tag = some u
  payload : ∀ key u, next.payload? key = some u →
    field = .payload key ∧ u = v ∨ d.payload? key = some u

theorem put_takes {d next : Draft} {field : Field} {v : Value} (fresh : ¬ d.Has field)
    (put : d.put v (childrenOf v) field = .ok next) : d.Takes field v next := by
  cases field with
  | kind =>
    cases put
    refine ⟨fresh, trivial, fun other => ?_, fun u held => ?_, fun _ _ => .inr⟩
    · cases other <;> simp [Draft.Has, Draft.payload?]
    · exact .inl ⟨rfl, (Option.some.inj held).symm⟩
  | span =>
    rcases map_eq_ok.mp put with ⟨span, read, rfl⟩
    refine ⟨fresh, span_ofValue_iff.mp ⟨span, read⟩, fun other => ?_, fun _ => .inr,
      fun _ _ => .inr⟩
    cases other <;> simp [Draft.Has, Draft.payload?]
  | children =>
    rcases map_eq_ok.mp put with ⟨ts, read, rfl⟩
    refine ⟨fresh, ⟨ts, read⟩, fun other => ?_, fun _ => .inr, fun _ _ => .inr⟩
    cases other <;> simp [Draft.Has, Draft.payload?]
  | payload own =>
    cases put
    refine ⟨fresh, trivial, fun other => ?_, fun _ => .inr, fun key u held => ?_⟩
    · cases other with
      | payload key =>
        simp only [Draft.Has, payload_put, Field.payload.injEq]
        by_cases same : own = key
        · simp [same]
        · simp [same, Ne.symm same]
      | _ => simp [Draft.Has]
    · rw [payload_put] at held
      split at held
      · next same => exact .inl ⟨by rw [same], (Option.some.inj held).symm⟩
      · exact .inr held

theorem absorb_takes {d next : Draft} {key : String} {v : Value}
    (absorbed : d.absorb key v (childrenOf v) = .ok next) :
    ∃ field : Field, key = field.text ∧ d.Takes field v next := by
  cases found : Field.ofText? key with
  | none =>
    rw [absorb_unknown found] at absorbed
    cases absorbed
  | some field =>
    have named := field_text found
    subst named
    refine ⟨field, rfl, ?_⟩
    by_cases held : d.Has field
    · rw [absorb_repeated held] at absorbed
      cases absorbed
    · rw [absorb_fresh held] at absorbed
      exact put_takes held absorbed

theorem absorb_ok {d : Draft} {field : Field} {v : Value} (fresh : ¬ d.Has field)
    (fits : Fits v field) : ∃ next, d.absorb field.text v (childrenOf v) = .ok next := by
  rw [absorb_fresh fresh]
  cases field with
  | kind | payload key => exact ⟨_, rfl⟩
  | span =>
    obtain ⟨span, read⟩ := span_ofValue_iff.mpr fits
    exact ⟨_, map_eq_ok.mpr ⟨span, read, rfl⟩⟩
  | children =>
    obtain ⟨ts, read⟩ := fits
    exact ⟨_, map_eq_ok.mpr ⟨ts, read, rfl⟩⟩

/-- Known keys, none of them repeated, over values that fit. -/
structure Regular (members : List (String × Value)) : Prop where
  once : (members.map Prod.fst).Nodup
  fits : ∀ m ∈ members, ∃ field : Field, m.1 = field.text ∧ Fits m.2 field

theorem Regular.known {members : List (String × Value)} (regular : Regular members)
    {m : String × Value} (among : m ∈ members) : m.1 ∈ operationKeys := by
  rcases regular.fits m among with ⟨field, named, _⟩
  exact mem_operationKeys.mpr ⟨field, named⟩

theorem Regular.under {members : List (String × Value)} (regular : Regular members) (field : Field)
    {v : Value} (among : (field.text, v) ∈ members) : Fits v field := by
  rcases regular.fits _ among with ⟨other, named, fits⟩
  rwa [field_text_injective named]

structure Draft.Holds (done : List (String × Value)) (d : Draft) : Prop where
  regular : Regular done
  has : ∀ field, d.Has field ↔ ∃ v, (field.text, v) ∈ done
  tag : ∀ v, d.tag = some v → ("kind", v) ∈ done
  payload : ∀ key v, d.payload? key = some v → (key.text, v) ∈ done

theorem holds_empty : ({} : Draft).Holds [] := by
  constructor
  · exact ⟨List.nodup_nil, by simp⟩
  · intro field
    cases field <;> simp [Draft.Has, Draft.payload?]
  · intro v held
    cases held
  · intro key v held
    cases held

theorem nodup_snoc {members : List (String × Value)} {key : String} {v : Value} :
    ((members ++ [(key, v)]).map Prod.fst).Nodup ↔
      (members.map Prod.fst).Nodup ∧ ∀ u, (key, u) ∉ members := by
  rw [List.map_append, List.nodup_append]
  constructor
  · intro once
    rcases once with ⟨once, _, apart⟩
    refine ⟨once, fun u before => ?_⟩
    exact apart key (List.mem_map_of_mem before) key (by simp) rfl
  · intro fresh
    rcases fresh with ⟨once, new⟩
    refine ⟨once, by simp, fun name before last same => ?_⟩
    obtain ⟨m, held, named⟩ := List.mem_map.mp before
    rw [List.map_singleton, List.mem_singleton] at same
    subst same
    intro again
    apply new m.2
    rwa [← again, ← named]

theorem holds_absorb_member {done : List (String × Value)} {d next : Draft} {m : String × Value}
    (holds : d.Holds done) (absorbed : d.absorb m.1 m.2 (childrenOf m.2) = .ok next) :
    next.Holds (done ++ [m]) := by
  rcases m with ⟨key, v⟩
  obtain ⟨field, named, takes⟩ := absorb_takes absorbed
  simp only at named
  subst named
  constructor
  · constructor
    · rw [nodup_snoc]
      refine ⟨holds.regular.once, fun u repeated => takes.fresh ?_⟩
      exact (holds.has field).mpr ⟨u, repeated⟩
    · intro m among
      rcases List.mem_append.mp among with before | last
      · exact holds.regular.fits m before
      · obtain rfl := List.mem_singleton.mp last
        exact ⟨field, rfl, takes.fits⟩
  · intro other
    rw [takes.has, holds.has]
    simp only [List.mem_append, List.mem_singleton, Prod.mk.injEq, exists_or]
    constructor
    · intro held
      rcases held with rfl | before
      · exact .inr ⟨v, rfl, rfl⟩
      · exact .inl before
    · intro among
      rcases among with before | ⟨_, same, _⟩
      · exact .inr before
      · exact .inl (field_text_injective same)
  · intro u held
    rcases takes.tag u held with ⟨rfl, rfl⟩ | before
    · simp [Field.text]
    · exact List.mem_append_left _ (holds.tag u before)
  · intro key u held
    rcases takes.payload key u held with ⟨rfl, rfl⟩ | before
    · simp [Field.text]
    · exact List.mem_append_left _ (holds.payload key u before)

theorem absorb_regular {done later : List (String × Value)} {d : Draft} {m : String × Value}
    (holds : d.Holds done) (regular : Regular (done ++ m :: later)) :
    ∃ next, d.absorb m.1 m.2 (childrenOf m.2) = .ok next := by
  rcases regular.fits m (by simp) with ⟨field, named, fits⟩
  rw [named]
  refine absorb_ok (fun held => ?_) fits
  rcases (holds.has field).mp held with ⟨u, before⟩
  have once := regular.once
  rw [List.map_append, List.nodup_append] at once
  exact once.2.2 _ (List.mem_map_of_mem before) m.1 (by simp) named.symm

def Draft.absorbAll (d : Draft) (members : List (String × Value)) : Except Fault Draft :=
  members.foldlM (fun d m => d.absorb m.1 m.2 (childrenOf m.2)) d

theorem ofMembers_eq (d : Draft) (members : List (String × Value)) :
    ofMembers d members = d.absorbAll members >>= fun last => asData last.finish := by
  induction members generalizing d with
  | nil =>
    rw [ofMembers, Draft.absorbAll]
    rfl
  | cons m later ih =>
    rw [ofMembers, Draft.absorbAll, List.foldlM_cons, bind_assoc]
    congr 1
    funext next
    exact ih next

theorem holds_absorbAll {members done : List (String × Value)} {d last : Draft}
    (holds : d.Holds done) (absorbed : d.absorbAll members = .ok last) :
    last.Holds (done ++ members) := by
  induction members generalizing d done with
  | nil =>
    cases absorbed
    simpa using holds
  | cons m members ih =>
    rw [Draft.absorbAll, List.foldlM_cons] at absorbed
    obtain ⟨next, first, later⟩ := bind_eq_ok.mp absorbed
    have held := ih (holds_absorb_member holds first) later
    rwa [List.append_assoc, List.singleton_append] at held

theorem absorbAll_regular {members done : List (String × Value)} {d : Draft}
    (holds : d.Holds done) (regular : Regular (done ++ members)) :
    ∃ last, d.absorbAll members = .ok last := by
  induction members generalizing d done with
  | nil => exact ⟨d, rfl⟩
  | cons m members ih =>
    obtain ⟨next, first⟩ := absorb_regular holds regular
    rw [Draft.absorbAll, List.foldlM_cons, first]
    apply ih (holds_absorb_member holds first)
    rwa [List.append_assoc, List.singleton_append]

theorem unique {members : List (String × Value)} (once : (members.map Prod.fst).Nodup)
    {key : String} {u v : Value} (first : (key, u) ∈ members) (second : (key, v) ∈ members) :
    u = v :=
  congrArg Prod.snd (List.inj_on_of_nodup_map once first second rfl)

theorem holds_tag {members : List (String × Value)} {d : Draft} (holds : d.Holds members)
    (v : Value) : d.tag = some v ↔ ("kind", v) ∈ members := by
  refine ⟨holds.tag v, fun among => ?_⟩
  obtain ⟨u, held⟩ := Option.isSome_iff_exists.mp ((holds.has .kind).mpr ⟨v, among⟩)
  rw [held, unique holds.regular.once (holds.tag u held) among]

theorem holds_payload {members : List (String × Value)} {d : Draft} (holds : d.Holds members)
    (key : PayloadKey) (v : Value) : d.payload? key = some v ↔ (key.text, v) ∈ members := by
  refine ⟨holds.payload key v, fun among => ?_⟩
  obtain ⟨u, held⟩ := Option.isSome_iff_exists.mp ((holds.has (.payload key)).mpr ⟨v, among⟩)
  rw [held, unique holds.regular.once (holds.payload key u held) among]

def Describes (tag : KindTag) (members : List (String × Value)) : Prop :=
  ("kind", .text tag.key) ∈ members ∧
    (∀ key : PayloadKey, (∃ v, (key.text, v) ∈ members) ↔ tag.payloadKey = some key) ∧
    ∀ key v, tag.payloadKey = some key → (key.text, v) ∈ members → IsPayload tag v

theorem finish_describes {members : List (String × Value)} {d : Draft} (holds : d.Holds members) :
    (∃ t, d.finish = .ok t) ↔ ∃ tag, Describes tag members := by
  simp only [finish_ok_iff, Option.isSome_iff_exists, holds_tag holds, holds_payload holds]
  constructor
  · intro finished
    rcases finished with ⟨tag, kind, fits, alone⟩
    refine ⟨tag, kind, fun key => ⟨alone key, fun asked => ?_⟩, fun key v asked among => ?_⟩
    · obtain ⟨v, among, _⟩ := fits key asked
      exact ⟨v, among⟩
    · obtain ⟨u, first, fit⟩ := fits key asked
      rwa [unique holds.regular.once among first]
  · intro described
    rcases described with ⟨tag, kind, payloads, fits⟩
    refine ⟨tag, kind, fun key asked => ?_, fun key => (payloads key).mp⟩
    rcases (payloads key).mpr asked with ⟨v, among⟩
    exact ⟨v, among, fits key v asked among⟩

theorem ofValue_object_ok_iff {members : List (String × Value)} :
    (∃ t, Operation.ofValue (.object members) = .ok t) ↔
      Regular members ∧ ∃ tag, Describes tag members := by
  rw [Operation.ofValue, ofMembers_eq]
  simp only [bind_eq_ok, asData_eq_ok]
  constructor
  · intro read
    rcases read with ⟨t, last, absorbed, finished⟩
    have holds : last.Holds members := holds_absorbAll holds_empty absorbed
    exact ⟨holds.regular, (finish_describes holds).mp ⟨t, finished⟩⟩
  · intro accepted
    rcases accepted with ⟨regular, described⟩
    obtain ⟨last, absorbed⟩ := absorbAll_regular holds_empty regular
    have holds : last.Holds members := holds_absorbAll holds_empty absorbed
    obtain ⟨t, finished⟩ := (finish_describes holds).mpr described
    exact ⟨t, last, absorbed, finished⟩

theorem ofItems_ok_iff {items : List Value} : (∃ ts, ofItems items = .ok ts) ↔
    ∀ v ∈ items, ∃ t, Operation.ofValue v = .ok t := by
  induction items with
  | nil => simp [ofItems]
  | cons v later ih =>
    rw [List.forall_mem_cons, ← ih, ofItems]
    simp only [bind_eq_ok]
    constructor
    · intro read
      rcases read with ⟨_, t, first, ts, rest, _⟩
      exact ⟨⟨t, first⟩, ts, rest⟩
    · intro each
      rcases each with ⟨⟨t, first⟩, ts, rest⟩
      exact ⟨_, t, first, ts, rest, rfl⟩

theorem childrenOf_ok_iff {v : Value} : (∃ ts, childrenOf v = .ok ts) ↔
    ∃ items, v = .array items ∧ ∀ item ∈ items, ∃ t, Operation.ofValue item = .ok t := by
  cases v with
  | array items => simpa [childrenOf] using ofItems_ok_iff
  | _ => simp [childrenOf]

theorem ofValue_of_isOperation {v : Value} (described : IsOperation v) :
    ∃ t, Operation.ofValue v = .ok t := by
  induction described with
  | @object members tag known once kind payloads fits span list children ih =>
    rw [ofValue_object_ok_iff]
    refine ⟨⟨once, fun m among => ?_⟩, tag, kind, payloads, fits⟩
    rcases mem_operationKeys.mp (known m among) with ⟨field, named⟩
    rcases m with ⟨_, v⟩
    simp only at named
    subst named
    refine ⟨field, rfl, ?_⟩
    cases field with
    | span => exact span v among
    | children =>
      rcases list v among with ⟨items, rfl⟩
      exact childrenOf_ok_iff.mpr ⟨items, rfl, ih items among⟩
    | _ => trivial

theorem isOperation_of_ofValue (v : Value) (read : ∃ t, Operation.ofValue v = .ok t) :
    IsOperation v := by
  match v, read with
  | .object members, read =>
    rcases ofValue_object_ok_iff.mp read with ⟨regular, tag, kind, payloads, fits⟩
    refine .object tag (fun m => regular.known) regular.once kind payloads fits
      (fun v => regular.under .span) (fun v among => ?_) (fun items among item inside => ?_)
    · rcases childrenOf_ok_iff.mp (regular.under .children among) with ⟨items, same, _⟩
      exact ⟨items, same⟩
    · rcases childrenOf_ok_iff.mp (regular.under .children among) with ⟨_, same, all⟩
      cases same
      -- an element of the list under `children` is smaller than the whole object
      have outer := List.sizeOf_lt_of_mem among
      have inner := List.sizeOf_lt_of_mem inside
      have smaller : sizeOf item < sizeOf (Value.object members) := by
        simp at outer ⊢
        omega
      exact isOperation_of_ofValue item (all item inside)
  | .null, read | .bool _, read | .number _, read | .text _, read | .array _, read =>
    simp [Operation.ofValue] at read
termination_by sizeOf v
decreasing_by exact smaller

theorem ofValue_ok_iff {v : Value} : (∃ t, Operation.ofValue v = .ok t) ↔ IsOperation v :=
  ⟨isOperation_of_ofValue v, ofValue_of_isOperation⟩

end OperationTree.Reading

namespace OperationTree.Operation

open Json (Value Writes WritesMember IsDocument)
open Reading (IsBound IsOperation ofValue_ok_iff)

/-- The reader accepts a document exactly if its value is of the format. A bound of the format is
written by its digits, without sign, fraction or exponent. -/
theorem ofText_ok_iff {v : Value} {text : List Char} (document : IsDocument v text) :
    ((∃ t, ofText (String.ofList text) = .ok t) ↔ IsOperation v) ∧
      ∀ (b : Value) (w : List Char), Writes b w →
        (IsBound b ↔ ∃ n < 2 ^ 64, w = Nat.toDigits 10 n) := by
  constructor
  · rw [← ofValue_ok_iff, ← ofText_document document]
    simp only [mapError_eq_ok]
  · intro b w written
    exact Json.natural_iff_digits written

def negation : Value :=
  .object [("op", .object [("not", .number (.natural 0)), ("not", .null)]),
    ("kind", .text "unary")]

def negationText : List Char :=
  " \x7b\"op\":\x7b\"not\":0,\"not\":null\x7d,\"k\\u0069nd\":\"unary\"\x7d".toList

theorem negation_document : IsDocument negation negationText := by
  have first := Json.writesMember_writeMember "not" (Json.writes_writeNatural 0)
  have second := Json.writesMember_writeMember "not" Writes.null
  have op := Json.writesMember_writeMember "op"
    (Json.writes_writeObject (.cons first (.cons second .nil)))
  have spelled : Json.TextScan.Spelled "kind".toList
      ['k', '\\', 'u', '0', '0', '6', '9', 'n', 'd'] := by
    apply Json.TextScan.Spelled.plain (by decide) (by decide) (by decide)
    apply @Json.TextScan.Spelled.code ['0', '0', '6', '9'] 0x69 _ _ rfl (by decide) (by decide)
    apply Json.TextScan.Spelled.plain (by decide) (by decide) (by decide)
    apply Json.TextScan.Spelled.plain (by decide) (by decide) (by decide)
    exact .nil
  have kind := WritesMember.intro Json.blanks_nil spelled Json.blanks_nil Json.blanks_nil
    (Json.writes_writeText "unary") Json.blanks_nil
  have written := Writes.object (.more op (.last kind))
  exact .intro (Json.blanks_cons (c := ' ') rfl Json.blanks_nil) written Json.blanks_nil

theorem ofText_ok_iff_negation : IsDocument negation negationText ∧ IsOperation negation :=
  ⟨negation_document, (ofText_ok_iff negation_document).1.mp ⟨_, rfl⟩⟩

end OperationTree.Operation
