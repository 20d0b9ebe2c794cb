import Mathlib.Data.List.Induction
import OperationTree.Proofs.Reading.KindFaults
import OperationTree.Proofs.Reading.SpanFaults

/-!
Which fault is reported of a value that is no operation. Members are looked at in text order, and
the first that cannot be taken decides; what the members say together comes after them all. Members
that are not at fault may therefore stand in any order and anywhere.
-/

namespace OperationTree.Reading

open Json (Value Fault)
open Operation (ofValue ofMembers childrenOf ofItems)

def IsList (v : Value) : Prop := ∃ items, v = .array items ∧ ∀ u ∈ items, IsOperation u

/-- Known keys, none of them repeated, over spans and lists of their format. -/
structure Sound (members : List (String × Value)) : Prop where
  known : ∀ m ∈ members, m.1 ∈ operationKeys
  once : (members.map Prod.fst).Nodup
  span : ∀ v, ("span", v) ∈ members → IsSpan v
  children : ∀ v, ("children", v) ∈ members → IsList v

/-- The fault that is reported of a value. -/
inductive Reports : Value → Fault → Prop where
  | other {v : Value} (notObject : ∀ members, v ≠ .object members) :
      Reports v (.data (.wrongType v.describe "an operation object"))
  | unknown {before after : List (String × Value)} {key : String} {v : Value}
      (sound : Sound before) (foreign : key ∉ operationKeys) :
      Reports (.object (before ++ (key, v) :: after)) (.data (.unknownField key operationKeys))
  | repeated {before after : List (String × Value)} {key : String} {v : Value}
      (sound : Sound before) (again : key ∈ before.map Prod.fst) :
      Reports (.object (before ++ (key, v) :: after)) (.data (.duplicateField key))
  | span {before after : List (String × Value)} {v : Value} {fault : Fault} (sound : Sound before)
      (fresh : "span" ∉ before.map Prod.fst) (bad : SpanReports v fault) :
      Reports (.object (before ++ ("span", v) :: after)) fault
  | notList {before after : List (String × Value)} {v : Value} (sound : Sound before)
      (fresh : "children" ∉ before.map Prod.fst) (notArray : ∀ items, v ≠ .array items) :
      Reports (.object (before ++ ("children", v) :: after))
        (.data (.wrongType v.describe "a sequence"))
  | child {before after : List (String × Value)} {first last : List Value} {v : Value}
      {fault : Fault} (sound : Sound before) (fresh : "children" ∉ before.map Prod.fst)
      (whole : ∀ u ∈ first, IsOperation u) (bad : Reports v fault) :
      Reports (.object (before ++ ("children", .array (first ++ v :: last)) :: after)) fault
  | content {members : List (String × Value)} {fault : ContentFault} (sound : Sound members)
      (bad : ContentReports members fault) : Reports (.object members) (.data fault)

theorem childrenOf_ok_iff_isList {v : Value} : (∃ ts, childrenOf v = .ok ts) ↔ IsList v := by
  simp only [childrenOf_ok_iff, ofValue_ok_iff, IsList]

theorem regular_iff_sound {members : List (String × Value)} : Regular members ↔ Sound members := by
  constructor
  · intro regular
    refine ⟨fun m => regular.known, regular.once, fun v => regular.under .span, fun v among => ?_⟩
    exact childrenOf_ok_iff_isList.mp (regular.under .children among)
  · intro sound
    refine ⟨sound.once, fun m among => ?_⟩
    rcases mem_operationKeys.mp (sound.known m among) with ⟨field, named⟩
    rcases m with ⟨_, v⟩
    simp only at named
    subst named
    refine ⟨field, rfl, ?_⟩
    cases field with
    | span => exact sound.span v among
    | children => exact childrenOf_ok_iff_isList.mpr (sound.children v among)
    | _ => trivial

theorem ofMembers_sound {before : List (String × Value)} (sound : Sound before)
    (after : List (String × Value)) :
    ∃ d : Draft, d.Holds before ∧ ofMembers {} (before ++ after) = ofMembers d after := by
  have regular := regular_iff_sound.mpr sound
  obtain ⟨d, absorbed⟩ := absorbAll_regular holds_empty (by simpa using regular)
  refine ⟨d, holds_absorbAll holds_empty absorbed, ?_⟩
  rw [Draft.absorbAll] at absorbed
  rw [ofMembers_eq, ofMembers_eq, Draft.absorbAll, List.foldlM_append, absorbed]
  rfl

theorem has_iff_key {before : List (String × Value)} {d : Draft} (holds : d.Holds before)
    (field : Field) : d.Has field ↔ field.text ∈ before.map Prod.fst := by
  simp [holds.has]

theorem put_eq_error {d : Draft} {v : Value} {children : Except Fault (List Operation)}
    {field : Field} {fault : Fault} : d.put v children field = .error fault ↔
      field = .span ∧ SpanReports v fault ∨ field = .children ∧ children = .error fault := by
  cases field <;> simp [Draft.put, map_eq_error, span_ofValue_eq_error]

theorem absorb_eq_error {before : List (String × Value)} {d : Draft} (holds : d.Holds before)
    {key : String} {v : Value} {children : Except Fault (List Operation)} {fault : Fault} :
    d.absorb key v children = .error fault ↔
      key ∉ operationKeys ∧ fault = .data (.unknownField key operationKeys) ∨
      key ∈ before.map Prod.fst ∧ fault = .data (.duplicateField key) ∨
      key ∉ before.map Prod.fst ∧ (key = "span" ∧ SpanReports v fault ∨
        key = "children" ∧ children = .error fault) := by
  cases found : Field.ofText? key with
  | none =>
    have foreign : key ∉ operationKeys := by
      intro known
      rcases mem_operationKeys.mp known with ⟨field, rfl⟩
      rw [field_ofText_text] at found
      cases found
    have fresh : key ∉ before.map Prod.fst := by
      intro again
      rcases List.mem_map.mp again with ⟨m, among, rfl⟩
      exact foreign (holds.regular.known among)
    have notSpan : key ≠ "span" := fun same => foreign (mem_operationKeys.mpr ⟨.span, same⟩)
    have notChildren : key ≠ "children" :=
      fun same => foreign (mem_operationKeys.mpr ⟨.children, same⟩)
    rw [absorb_unknown found, ← operationKeys_eq]
    simp [foreign, fresh, notSpan, notChildren, eq_comm]
  | some field =>
    obtain rfl := field_text found
    have known : field.text ∈ operationKeys := mem_operationKeys.mpr ⟨field, rfl⟩
    have named (other : Field) : field.text = other.text ↔ field = other :=
      ⟨fun same => field_text_injective same, congrArg Field.text⟩
    have span : field.text = "span" ↔ field = .span := named .span
    have list : field.text = "children" ↔ field = .children := named .children
    by_cases again : field.text ∈ before.map Prod.fst
    · rw [absorb_repeated ((has_iff_key holds field).mpr again)]
      simp [known, again, eq_comm]
    · rw [absorb_fresh fun held => again ((has_iff_key holds field).mp held), put_eq_error]
      simp only [known, again, span, list, not_true_eq_false, not_false_eq_true, false_and,
        false_or, true_and]

theorem ofItems_child {first last : List Value} {v : Value} {fault : Fault}
    (whole : ∀ u ∈ first, IsOperation u) (bad : ofValue v = .error fault) :
    ofItems (first ++ v :: last) = .error fault := by
  induction first with
  | nil =>
    rw [List.nil_append, ofItems, bad]
    rfl
  | cons u first ih =>
    obtain ⟨t, read⟩ := ofValue_of_isOperation (whole u List.mem_cons_self)
    have later := ih fun w among => whole w (List.mem_cons_of_mem _ among)
    rw [List.cons_append, ofItems, read, later]
    rfl

theorem ofValue_of_member {before after : List (String × Value)} {key : String} {v : Value}
    {fault : Fault} (sound : Sound before)
    (bad : ∀ d : Draft, d.Holds before → d.absorb key v (childrenOf v) = .error fault) :
    ofValue (.object (before ++ (key, v) :: after)) = .error fault := by
  obtain ⟨d, holds, read⟩ := ofMembers_sound sound ((key, v) :: after)
  rw [ofValue, read, ofMembers, bad d holds]
  rfl

theorem ofValue_of_reports {v : Value} {fault : Fault} (reports : Reports v fault) :
    ofValue v = .error fault := by
  induction reports with
  | other notObject =>
    rw [ofValue]
    exact notObject
  | unknown sound foreign =>
    exact ofValue_of_member sound fun d holds => (absorb_eq_error holds).mpr (.inl ⟨foreign, rfl⟩)
  | repeated sound again =>
    refine ofValue_of_member sound fun d holds => (absorb_eq_error holds).mpr (.inr (.inl ?_))
    exact ⟨again, rfl⟩
  | span sound fresh bad =>
    refine ofValue_of_member sound fun d holds => (absorb_eq_error holds).mpr (.inr (.inr ?_))
    exact ⟨fresh, .inl ⟨rfl, bad⟩⟩
  | notList sound fresh notArray =>
    refine ofValue_of_member sound fun d holds => (absorb_eq_error holds).mpr (.inr (.inr ?_))
    refine ⟨fresh, .inr ⟨rfl, ?_⟩⟩
    rw [childrenOf]
    exact notArray
  | child sound fresh whole _ ih =>
    refine ofValue_of_member sound fun d holds => (absorb_eq_error holds).mpr (.inr (.inr ?_))
    refine ⟨fresh, .inr ⟨rfl, ?_⟩⟩
    rw [childrenOf, ofItems_child whole ih]
  | @content members fault sound bad =>
    obtain ⟨d, holds, read⟩ := ofMembers_sound sound []
    rw [List.append_nil] at read
    rw [ofValue, read, ofMembers, (finish_reports holds).mpr bad]
    rfl

mutual
theorem reports_value : ∀ (v : Value) {fault : Fault}, ofValue v = .error fault → Reports v fault
  | .object members, _, refused => by
    rw [ofValue] at refused
    exact reports_members holds_empty members refused
  | .null, _, refused | .bool _, _, refused | .number _, _, refused | .text _, _, refused
  | .array _, _, refused => by
    simp only [ofValue, Except.error.injEq] at refused
    subst refused
    exact .other (by simp)
theorem reports_members {before : List (String × Value)} {d : Draft} (holds : d.Holds before) :
    ∀ (later : List (String × Value)) {fault : Fault},
      ofMembers d later = .error fault → Reports (.object (before ++ later)) fault
  | [], _, refused => by
    rw [ofMembers] at refused
    obtain ⟨content, bad, rfl⟩ := asData_eq_error.mp refused
    rw [List.append_nil]
    exact .content (regular_iff_sound.mp holds.regular) ((finish_reports holds).mp bad)
  | (key, v) :: later, _, refused => by
    have sound := regular_iff_sound.mp holds.regular
    rw [ofMembers] at refused
    rcases bind_eq_error.mp refused with bad | ⟨next, absorbed, refused⟩
    · rcases (absorb_eq_error holds).mp bad with ⟨foreign, rfl⟩ | ⟨again, rfl⟩ |
        ⟨fresh, ⟨rfl, own⟩ | ⟨rfl, own⟩⟩
      · exact .unknown sound foreign
      · exact .repeated sound again
      · exact .span sound fresh own
      · exact reports_children sound fresh later v own
    · have held := holds_absorb_member (m := (key, v)) holds absorbed
      have reports := reports_members held later refused
      rwa [List.append_assoc, List.singleton_append] at reports
theorem reports_children {before : List (String × Value)} (sound : Sound before)
    (fresh : "children" ∉ before.map Prod.fst) (after : List (String × Value)) :
    ∀ (v : Value) {fault : Fault}, childrenOf v = .error fault →
      Reports (.object (before ++ ("children", v) :: after)) fault
  | .array items, _, refused => by
    rw [childrenOf] at refused
    obtain ⟨first, v, last, rfl, whole, bad⟩ := reports_items items refused
    exact .child sound fresh whole bad
  | .null, _, refused | .bool _, _, refused | .number _, _, refused | .text _, _, refused
  | .object _, _, refused => by
    simp only [childrenOf, Except.error.injEq] at refused
    subst refused
    exact .notList sound fresh (by simp)
theorem reports_items : ∀ (items : List Value) {fault : Fault}, ofItems items = .error fault →
    ∃ first v last, items = first ++ v :: last ∧ (∀ u ∈ first, IsOperation u) ∧ Reports v fault
  | [], _, refused => by
    rw [ofItems] at refused
    cases refused
  | v :: later, _, refused => by
    rw [ofItems] at refused
    rcases bind_eq_error.mp refused with bad | ⟨t, read, refused⟩
    · exact ⟨[], v, later, rfl, by simp, reports_value v bad⟩
    · rcases bind_eq_error.mp refused with bad | ⟨ts, _, refused⟩
      · obtain ⟨first, u, last, rfl, whole, bad⟩ := reports_items later bad
        refine ⟨v :: first, u, last, rfl, ?_, bad⟩
        exact List.forall_mem_cons.mpr ⟨isOperation_of_ofValue v ⟨t, read⟩, whole⟩
      · cases refused
end

theorem ofValue_eq_error {v : Value} {fault : Fault} :
    ofValue v = .error fault ↔ Reports v fault :=
  ⟨reports_value v, ofValue_of_reports⟩

theorem isOk_iff {ε α : Type} {x : Except ε α} : x.isOk = true ↔ ∃ a, x = .ok a := by
  cases x <;> simp [Except.isOk, Except.toBool]

instance (v : Value) : Decidable (IsSpan v) :=
  decidable_of_iff ((Span.ofValue v).isOk = true) (by rw [isOk_iff, span_ofValue_iff])

instance (v : Value) : Decidable (IsList v) :=
  decidable_of_iff ((childrenOf v).isOk = true) (by rw [isOk_iff, childrenOf_ok_iff_isList])

/-- The member is not at fault where it stands. -/
structure Taken (before : List (String × Value)) (m : String × Value) : Prop where
  known : m.1 ∈ operationKeys
  fresh : m.1 ∉ before.map Prod.fst
  span : m.1 = "span" → IsSpan m.2
  children : m.1 = "children" → IsList m.2

theorem taken_iff {before : List (String × Value)} {m : String × Value} : Taken before m ↔
    m.1 ∈ operationKeys ∧ m.1 ∉ before.map Prod.fst ∧ (m.1 = "span" → IsSpan m.2) ∧
      (m.1 = "children" → IsList m.2) := by
  constructor
  · intro taken
    exact ⟨taken.known, taken.fresh, taken.span, taken.children⟩
  · intro taken
    exact ⟨taken.1, taken.2.1, taken.2.2.1, taken.2.2.2⟩

instance (before : List (String × Value)) (m : String × Value) : Decidable (Taken before m) :=
  decidable_of_iff _ taken_iff.symm

def faulty (before : List (String × Value)) : List (String × Value) → List (String × Value)
  | [] => []
  | m :: later =>
    if Taken before m then faulty (before ++ [m]) later else m :: faulty (before ++ [m]) later

theorem sound_nil : Sound [] := by
  constructor <;> simp

theorem sound_snoc {before : List (String × Value)} {m : String × Value} :
    Sound (before ++ [m]) ↔ Sound before ∧ Taken before m := by
  rcases m with ⟨key, v⟩
  have fresh : key ∉ before.map Prod.fst ↔ ∀ u, (key, u) ∉ before := by simp
  constructor
  · intro sound
    have once := nodup_snoc.mp sound.once
    refine ⟨⟨fun m among => ?_, once.1, fun u among => ?_, fun u among => ?_⟩, ?_, ?_, ?_, ?_⟩
    · exact sound.known m (List.mem_append_left _ among)
    · exact sound.span u (List.mem_append_left _ among)
    · exact sound.children u (List.mem_append_left _ among)
    · exact sound.known (key, v) (by simp)
    · exact fresh.mpr once.2
    · rintro rfl
      exact sound.span v (by simp)
    · rintro rfl
      exact sound.children v (by simp)
  · intro both
    rcases both with ⟨sound, taken⟩
    refine ⟨fun m among => ?_, nodup_snoc.mpr ⟨sound.once, fresh.mp taken.fresh⟩,
      fun u among => ?_, fun u among => ?_⟩
    · rcases List.mem_append.mp among with earlier | last
      · exact sound.known m earlier
      · rw [List.mem_singleton.mp last]
        exact taken.known
    · rcases List.mem_append.mp among with earlier | last
      · exact sound.span u earlier
      · cases List.mem_singleton.mp last
        exact taken.span rfl
    · rcases List.mem_append.mp among with earlier | last
      · exact sound.children u earlier
      · cases List.mem_singleton.mp last
        exact taken.children rfl

theorem sound_perm {members others : List (String × Value)} (perm : others.Perm members)
    (sound : Sound members) : Sound others := by
  constructor
  · exact fun m among => sound.known m (perm.mem_iff.mp among)
  · exact (perm.map Prod.fst).nodup_iff.mpr sound.once
  · exact fun v among => sound.span v (perm.mem_iff.mp among)
  · exact fun v among => sound.children v (perm.mem_iff.mp among)

theorem content_perm {members others : List (String × Value)} (perm : others.Perm members)
    {fault : ContentFault} (reports : ContentReports members fault) :
    ContentReports others fault := by
  have same (m : String × Value) : m ∈ members ↔ m ∈ others := perm.mem_iff.symm
  cases reports with
  | noKind missing => exact .noKind fun v => by rw [← same]; exact missing v
  | tag held bad => exact .tag ((same _).mp held) bad
  | noPayload held asked missing =>
    exact .noPayload ((same _).mp held) asked fun v => by rw [← same]; exact missing v
  | payload held asked given bad => exact .payload ((same _).mp held) asked ((same _).mp given) bad
  | stray held fits given unused least =>
    simp only [same] at held fits given least
    exact .stray held fits given unused least

theorem faulty_sound {first : List (String × Value)} (sound : Sound first)
    (later : List (String × Value)) : faulty [] (first ++ later) = faulty first later := by
  induction first using List.reverseRecOn generalizing later with
  | nil => rfl
  | append_singleton first m ih =>
    obtain ⟨sound, taken⟩ := sound_snoc.mp sound
    rw [List.append_assoc, ih sound, List.singleton_append, faulty, if_pos taken]

theorem faulty_eq_cons {before later rest : List (String × Value)} {m : String × Value}
    (sound : Sound before) (split : faulty before later = m :: rest) :
    ∃ first last, later = first ++ m :: last ∧ Sound (before ++ first) ∧
      ¬ Taken (before ++ first) m := by
  induction later generalizing before with
  | nil => cases split
  | cons n later ih =>
    rw [faulty] at split
    split at split
    · next taken =>
      obtain ⟨first, last, rfl, sound, bad⟩ := ih (sound_snoc.mpr ⟨sound, taken⟩) split
      refine ⟨n :: first, last, rfl, ?_⟩
      rw [List.append_cons]
      exact ⟨sound, bad⟩
    · next bad =>
      obtain ⟨rfl, _⟩ := List.cons.inj split
      exact ⟨[], later, rfl, by simpa using sound, by simpa using bad⟩

theorem countP_faulty {before : List (String × Value)} {key : String}
    (again : key ∈ before.map Prod.fst) (later : List (String × Value)) :
    (faulty before later).countP (·.1 == key) = later.countP (·.1 == key) := by
  induction later generalizing before with
  | nil => rfl
  | cons m later ih =>
    have held : key ∈ (before ++ [m]).map Prod.fst := by
      rw [List.map_append]
      exact List.mem_append_left _ again
    rw [faulty]
    split
    · next taken =>
      have other : ¬ m.1 = key := by
        rintro rfl
        exact taken.fresh again
      rw [ih held, List.countP_cons_of_neg (by simpa using other)]
    · rw [List.countP_cons, List.countP_cons, ih held]

theorem faulty_moved {before after others : List (String × Value)} {m : String × Value}
    (sound : Sound before) (bad : ¬ Taken before m) (perm : others.Perm (before ++ m :: after))
    (same : faulty [] others = faulty [] (before ++ m :: after)) :
    ∃ first last, others = first ++ m :: last ∧ Sound first ∧
      (m.1 ∈ first.map Prod.fst ↔ m.1 ∈ before.map Prod.fst) := by
  have starts {before : List (String × Value)} (sound : Sound before) (bad : ¬ Taken before m)
      (after : List (String × Value)) :
      faulty [] (before ++ m :: after) = m :: faulty (before ++ [m]) after := by
    rw [faulty_sound sound, faulty, if_neg bad]
  have listed := same
  rw [starts sound bad] at listed
  obtain ⟨first, last, rfl, soundFirst, badFirst⟩ := faulty_eq_cons sound_nil listed
  rw [List.nil_append] at soundFirst badFirst
  refine ⟨first, last, rfl, soundFirst, ?_⟩
  rw [starts sound bad, starts soundFirst badFirst] at same
  have ends := congrArg (List.countP (·.1 == m.1)) (List.cons.inj same).2
  rw [countP_faulty (by simp), countP_faulty (by simp)] at ends
  have all := perm.countP_eq (·.1 == m.1)
  rw [List.countP_append, List.countP_append, List.countP_cons, List.countP_cons, ends] at all
  have begins : first.countP (·.1 == m.1) = before.countP (·.1 == m.1) := by omega
  have stands (members : List (String × Value)) :
      m.1 ∈ members.map Prod.fst ↔ 0 < members.countP (·.1 == m.1) := by
    rw [List.countP_pos_iff]
    simp
  rw [stands, stands, begins]

theorem not_isSpan {v : Value} {fault : Fault} (bad : SpanReports v fault) : ¬ IsSpan v := by
  intro fine
  obtain ⟨span, read⟩ := span_ofValue_iff.mpr fine
  rw [span_ofValue_eq_error.mpr bad] at read
  cases read

theorem not_isOperation {v : Value} {fault : Fault} (bad : Reports v fault) :
    ¬ IsOperation v := by
  intro fine
  obtain ⟨t, read⟩ := ofValue_of_isOperation fine
  rw [ofValue_of_reports bad] at read
  cases read

/-- Members that are not at fault may be put anywhere. -/
theorem reports_moved {members others : List (String × Value)} (perm : others.Perm members)
    (same : faulty [] others = faulty [] members) {fault : Fault}
    (reports : Reports (.object members) fault) : Reports (.object others) fault := by
  cases reports with
  | other notObject => exact absurd rfl (notObject members)
  | @unknown before _ key v sound foreign =>
    have bad : ¬ Taken before (key, v) := fun taken => foreign taken.known
    obtain ⟨first, last, rfl, sound, _⟩ := faulty_moved sound bad perm same
    exact .unknown sound foreign
  | @repeated before _ key v sound again =>
    have bad : ¬ Taken before (key, v) := fun taken => taken.fresh again
    obtain ⟨first, last, rfl, sound, repeats⟩ := faulty_moved sound bad perm same
    exact .repeated sound (repeats.mpr again)
  | @span before _ v _ sound fresh reports =>
    have bad : ¬ Taken before ("span", v) := fun taken => not_isSpan reports (taken.span rfl)
    obtain ⟨first, last, rfl, sound, repeats⟩ := faulty_moved sound bad perm same
    exact .span sound (fun again => fresh (repeats.mp again)) reports
  | @notList before _ v sound fresh notArray =>
    have bad : ¬ Taken before ("children", v) := by
      intro taken
      rcases taken.children rfl with ⟨items, list, _⟩
      exact notArray items list
    obtain ⟨first, last, rfl, sound, repeats⟩ := faulty_moved sound bad perm same
    exact .notList sound (fun again => fresh (repeats.mp again)) notArray
  | @child before _ done more v _ sound fresh whole reports =>
    have bad : ¬ Taken before ("children", .array (done ++ v :: more)) := by
      intro taken
      rcases taken.children rfl with ⟨items, list, all⟩
      cases list
      exact not_isOperation reports (all v (by simp))
    obtain ⟨first, last, rfl, sound, repeats⟩ := faulty_moved sound bad perm same
    exact .child sound (fun again => fresh (repeats.mp again)) whole reports
  | content sound bad => exact .content (sound_perm perm sound) (content_perm perm bad)

end OperationTree.Reading

namespace OperationTree.Operation

open Json (Value Fault IsDocument LocatedFault)
open Reading (Reports faulty ofValue_eq_error reports_moved)

theorem ofText_fault_iff {v : Value} {text : List Char} (document : IsDocument v text)
    {fault : Fault} :
    (∃ position, ofText (String.ofList text) = .error ⟨fault, position⟩) ↔ Reports v fault := by
  rw [← ofValue_eq_error, ← ofText_document document, mapError_eq_error]
  constructor
  · intro refused
    rcases refused with ⟨position, refused⟩
    exact ⟨_, refused, rfl⟩
  · intro refused
    rcases refused with ⟨⟨_, position⟩, refused, rfl⟩
    exact ⟨position, refused⟩

/-- A document of an object reports the fault that comes first, and reports the same however the
members are ordered that are not at fault. -/
theorem ofText_reports_first {members : List (String × Value)} {text : List Char}
    (document : IsDocument (.object members) text) :
    (∀ fault, (∃ position, ofText (String.ofList text) = .error ⟨fault, position⟩) ↔
      Reports (.object members) fault) ∧
    ∀ (others : List (String × Value)) (otherText : List Char),
      others.Perm members → faulty [] others = faulty [] members →
      IsDocument (.object others) otherText → ∀ fault,
        ((∃ position, ofText (String.ofList otherText) = .error ⟨fault, position⟩) ↔
          ∃ position, ofText (String.ofList text) = .error ⟨fault, position⟩) := by
  refine ⟨fun fault => ofText_fault_iff document,
    fun others otherText perm same otherDocument fault => ?_⟩
  rw [ofText_fault_iff document, ofText_fault_iff otherDocument]
  constructor
  · exact reports_moved perm.symm same.symm
  · exact reports_moved perm same

def threefold : List (String × Value) :=
  [("name", .text "x"), ("kind", .text "block"), ("kind", .text "loop"), ("size", .null)]

def threefoldText : List Char :=
  "\x7b\"name\":\"x\",\"kind\":\"block\",\"kind\":\"loop\",\"size\":null\x7d".toList

def threefoldMoved : List (String × Value) :=
  [("kind", .text "block"), ("kind", .text "loop"), ("size", .null), ("name", .text "x")]

def threefoldMovedText : List Char :=
  "\x7b\"kind\":\"block\",\"kind\":\"loop\",\"size\":null,\"name\":\"x\"\x7d".toList

theorem threefold_documents : IsDocument (.object threefold) threefoldText ∧
    IsDocument (.object threefoldMoved) threefoldMovedText := by
  have member (key s : String) := Json.writesMember_writeMember key (Json.writes_writeText s)
  have size := Json.writesMember_writeMember "size" Json.Writes.null
  constructor
  · exact Json.isDocument_of_writes (Json.writes_writeObject
      (.cons (member "name" "x") (.cons (member "kind" "block") (.cons (member "kind" "loop")
        (.cons size .nil)))))
  · exact Json.isDocument_of_writes (Json.writes_writeObject
      (.cons (member "kind" "block") (.cons (member "kind" "loop") (.cons size
        (.cons (member "name" "x") .nil)))))

theorem ofText_reports_first_threefold :
    faulty [] threefoldMoved = faulty [] threefold ∧
    (∃ position, ofText (String.ofList threefoldText) =
      .error ⟨.data (.duplicateField "kind"), position⟩) ∧
    ∃ position, ofText (String.ofList threefoldMovedText) =
      .error ⟨.data (.duplicateField "kind"), position⟩ := by
  have perm : threefoldMoved.Perm threefold :=
    show (threefoldMoved.take 3 ++ threefoldMoved.drop 3).Perm _ from List.perm_append_comm
  have same : faulty [] threefoldMoved = faulty [] threefold := rfl
  have sound : Reading.Sound [("name", .text "x"), ("kind", .text "block")] :=
    ⟨by decide, by decide, by simp, by simp⟩
  have reports : Reports (.object threefold) (.data (.duplicateField "kind")) :=
    .repeated sound (by decide)
  obtain ⟨first, moved⟩ := ofText_reports_first threefold_documents.1
  have refused := (first _).mpr reports
  exact ⟨same, refused, (moved _ _ perm same threefold_documents.2 _).mpr refused⟩

end OperationTree.Operation
