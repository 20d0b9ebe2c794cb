import Mathlib
import OperationTree.Config
import OperationTree.Proofs.Outcomes
import OperationTree.Proofs.Toml.Distinct

/-!
What a table of settings may say. It gives at most one depth, under one key; whatever else stands in
it is refused and never passed over.
-/

namespace OperationTree.Config

open Toml (Extent Item Key Members)

def IsDepth (item : Item) (depth : UInt32) : Prop :=
  ∃ n extent, item = .scalar (.integer n) extent ∧ 1 ≤ n ∧ n ≤ 2 ^ 32 - 1 ∧ (depth.toNat : Int) = n

/-- A section holds at most the depth; an array begins with it. -/
inductive SectionGives : Item → Option UInt32 → Prop
  | bare (form : Toml.Form) (extent : Option Extent) : SectionGives (.table form [] extent) none
  | table {key : Key} {item : Item} {depth : UInt32} (form : Toml.Form) (extent : Option Extent)
    (named : key.text = "max-depth") (valid : IsDepth item depth) :
    SectionGives (.table form [(key, item)] extent) (some depth)
  | array {first : Item} {depth : UInt32} (later : List Item) (extent : Extent)
    (valid : IsDepth first depth) : SectionGives (.array (first :: later) extent) (some depth)

/-- A table holds at most the section. -/
inductive Gives : Members → Option UInt32 → Prop
  | absent : Gives [] none
  | present {key : Key} {item : Item} {given : Option UInt32} (named : key.text = "walker")
    (valid : SectionGives item given) : Gives [(key, item)] given

theorem decodeDepth_eq_ok {fallback : Extent} {item : Item} {depth : UInt32} :
    decodeDepth fallback item = .ok depth ↔ ∃ n extent, item = .scalar (.integer n) extent ∧
      0 ≤ n ∧ n ≤ 2 ^ 32 - 1 ∧ (depth.toNat : Int) = n := by
  have size : UInt32.size = 2 ^ 32 := rfl
  have small := depth.toNat_lt
  constructor
  · intro decoded
    unfold decodeDepth at decoded
    split at decoded
    · next n extent =>
      split at decoded
      · next fits =>
        cases decoded
        refine ⟨n, extent, rfl, fits.1, by omega, ?_⟩
        rw [UInt32.toNat_ofNat_of_lt' (by omega)]
        omega
      · cases decoded
    · cases decoded
  · rintro ⟨n, extent, rfl, positive, fits, same⟩
    have inside : 0 ≤ n ∧ n < UInt32.size := by omega
    have number : n.toNat = depth.toNat := by omega
    simp only [decodeDepth, if_pos inside, number, UInt32.ofNat_toNat]

theorem isDepth_iff (fallback : Extent) {item : Item} {depth : UInt32} :
    IsDepth item depth ↔ decodeDepth fallback item = .ok depth ∧ depth ≠ 0 := by
  have positive : depth ≠ 0 ↔ 1 ≤ depth.toNat := by
    rw [Nat.one_le_iff_ne_zero]
    exact not_congr UInt32.toNat_inj.symm
  rw [decodeDepth_eq_ok, positive]
  constructor
  · rintro ⟨n, extent, rfl, least, greatest, same⟩
    exact ⟨⟨n, extent, rfl, by omega, greatest, same⟩, by omega⟩
  · rintro ⟨⟨n, extent, rfl, _, greatest, same⟩, least⟩
    exact ⟨n, extent, rfl, by omega, greatest, same⟩

theorem named_of_decode {ε : Type} {decode : Members → Except ε (Option UInt32)} {name : String}
    (step : ∀ member rest given, decode (member :: rest) = .ok given →
      member.1.text = name ∧ ∃ later, decode rest = .ok later)
    {members : Members} {given : Option UInt32} (decoded : decode members = .ok given) :
    ∀ m ∈ members, m.1.text = name := by
  induction members generalizing given with
  | nil => nofun
  | cons member rest ih =>
    obtain ⟨named, later, onward⟩ := step member rest given decoded
    exact List.forall_mem_cons.mpr ⟨named, ih onward⟩

theorem named_of_decodeSection {members : Members} {given : Option UInt32}
    (decoded : decodeSection members = .ok given) : ∀ m ∈ members, m.1.text = "max-depth" := by
  refine named_of_decode (fun member rest given decoded => ?_) decoded
  rw [decodeSection] at decoded
  split at decoded
  · next named =>
    obtain ⟨_, _, decoded⟩ := bind_eq_ok.mp decoded
    obtain ⟨later, onward, _⟩ := bind_eq_ok.mp decoded
    exact ⟨named, later, onward⟩
  · cases decoded

theorem decodeSection_eq_ok {members : Members} (distinct : members.Distinct)
    {given : Option UInt32} : decodeSection members = .ok given ↔
      (members = [] ∧ given = none) ∨ ∃ key item depth, members = [(key, item)] ∧
        key.text = "max-depth" ∧ decodeDepth key.extent item = .ok depth ∧ given = some depth := by
  constructor
  · intro decoded
    rcases distinct.single (named_of_decodeSection decoded) with rfl | ⟨key, item, rfl, named⟩
    · cases decoded
      exact .inl ⟨rfl, rfl⟩
    · rw [decodeSection, if_pos named] at decoded
      obtain ⟨depth, valid, decoded⟩ := bind_eq_ok.mp decoded
      cases decoded
      exact .inr ⟨key, item, depth, rfl, named, valid, rfl⟩
  · rintro (⟨rfl, rfl⟩ | ⟨key, item, depth, rfl, named, valid, rfl⟩)
    · rfl
    · rw [decodeSection, if_pos named, valid]
      rfl

theorem named_of_decodeRoot {members : Members} {given : Option UInt32}
    (decoded : decodeRoot members = .ok given) : ∀ m ∈ members, m.1.text = "walker" := by
  refine named_of_decode (fun member rest given decoded => ?_) decoded
  rw [decodeRoot] at decoded
  split at decoded
  · next named =>
    obtain ⟨_, _, decoded⟩ := bind_eq_ok.mp decoded
    obtain ⟨later, onward, _⟩ := bind_eq_ok.mp decoded
    exact ⟨named, later, onward⟩
  · cases decoded

theorem decodeRoot_eq_ok {members : Members} (distinct : members.Distinct)
    {given : Option UInt32} : decodeRoot members = .ok given ↔
      (members = [] ∧ given = none) ∨ ∃ key item, members = [(key, item)] ∧
        key.text = "walker" ∧ decodeWalker key.extent item = .ok given := by
  constructor
  · intro decoded
    rcases distinct.single (named_of_decodeRoot decoded) with rfl | ⟨key, item, rfl, named⟩
    · cases decoded
      exact .inl ⟨rfl, rfl⟩
    · rw [decodeRoot, if_pos named] at decoded
      obtain ⟨depth, valid, decoded⟩ := bind_eq_ok.mp decoded
      cases decoded
      exact .inr ⟨key, item, rfl, named, valid⟩
  · rintro (⟨rfl, rfl⟩ | ⟨key, item, rfl, named, valid⟩)
    · rfl
    · rw [decodeRoot, if_pos named, valid]
      rfl

theorem decodeWalker_eq_ok {fallback : Extent} {item : Item} (distinct : item.Distinct)
    {given : Option UInt32} (positive : given ≠ some 0) :
    decodeWalker fallback item = .ok given ↔ SectionGives item given := by
  constructor
  · intro decoded
    cases distinct with
    | scalar value extent => cases value <;> cases decoded
    | table keys each =>
      rcases (decodeSection_eq_ok ⟨keys, each⟩).mp decoded with
        ⟨rfl, rfl⟩ | ⟨key, item, depth, rfl, named, valid, rfl⟩
      · exact .bare _ _
      · have depth := (isDepth_iff _).mpr ⟨valid, fun zero => positive (congrArg some zero)⟩
        exact .table _ _ named depth
    | @array items extent each =>
      cases items with
      | nil => cases decoded
      | cons first later =>
        obtain ⟨depth, valid, rfl⟩ := map_eq_ok.mp decoded
        exact .array _ _ ((isDepth_iff _).mpr ⟨valid, fun zero => positive (congrArg some zero)⟩)
    | @tables items each under =>
      cases items with
      | nil => cases decoded
      | cons first later =>
        -- what stands first is a table, and no number
        obtain ⟨form, members, extent, rfl⟩ := under _ List.mem_cons_self
        cases decoded
  · intro gives
    cases gives with
    | bare form extent => rfl
    | table form extent named valid =>
      rw [decodeWalker, decodeSection, if_pos named, ((isDepth_iff _).mp valid).1]
      rfl
    | array later extent valid =>
      rw [decodeWalker, ((isDepth_iff _).mp valid).1]
      rfl

theorem ne_zero_of_sectionGives {item : Item} {given : Option UInt32}
    (gives : SectionGives item given) : given ≠ some 0 := by
  rintro rfl
  cases gives with
  | table form extent named valid => exact (isDepth_iff default).mp valid |>.2 rfl
  | array later extent valid => exact (isDepth_iff default).mp valid |>.2 rfl

theorem gives_iff {members : Members} (distinct : members.Distinct) {given : Option UInt32} :
    Gives members given ↔ decodeRoot members = .ok given ∧ given ≠ some 0 := by
  rw [decodeRoot_eq_ok distinct]
  constructor
  · intro gives
    cases gives with
    | absent => exact ⟨.inl ⟨rfl, rfl⟩, nofun⟩
    | @present key item _ named valid =>
      have positive := ne_zero_of_sectionGives valid
      have sound : item.Distinct := distinct.each _ List.mem_cons_self
      exact ⟨.inr ⟨key, item, rfl, named, (decodeWalker_eq_ok sound positive).mpr valid⟩, positive⟩
  · rintro ⟨⟨rfl, rfl⟩ | ⟨key, item, rfl, named, decoded⟩, positive⟩
    · exact .absent
    · have sound : item.Distinct := distinct.each _ List.mem_cons_self
      exact .present named ((decodeWalker_eq_ok sound positive).mp decoded)

theorem ofTable_eq_ok {members : Members} {config : Config} : ofTable members = .ok config ↔
    ∃ given, decodeRoot members = .ok given ∧ given ≠ some 0 ∧ config = ⟨given.getD 256⟩ := by
  unfold ofTable
  rw [bind_eq_ok]
  refine exists_congr fun given => and_congr_right fun _ => ?_
  split
  · exact ⟨fun same => ⟨nofun, (Except.ok.inj same).symm⟩, fun same => congrArg _ same.2.symm⟩
  · exact ⟨nofun, fun same => absurd rfl same.1⟩
  · next depth nonzero _ =>
    have positive : some depth ≠ some 0 := fun zero => nonzero (Option.some.inj zero)
    exact ⟨fun same => ⟨positive, (Except.ok.inj same).symm⟩, fun same => congrArg _ same.2.symm⟩

/-- The text is one of settings, and this is the depth in it, if one is given there. -/
def States (text : String) (depth : Option UInt32) : Prop :=
  ∃ members, Toml.parse? text = some members ∧ Gives members depth

theorem ofText_of_parse {text : String} {members : Members}
    (parsed : Toml.parse? text = some members) : ofText text = ofTable members := by
  rw [ofText, parsed]

theorem ofText_of_states {text : String} {depth : Option UInt32} (states : States text depth) :
    ofText text = .ok ⟨depth.getD 256⟩ := by
  obtain ⟨members, parsed, gives⟩ := states
  obtain ⟨decoded, positive⟩ := (gives_iff (Toml.distinct_of_parse parsed)).mp gives
  rw [ofText_of_parse parsed, ofTable_eq_ok]
  exact ⟨depth, decoded, positive, rfl⟩

theorem states_of_ofText_ok {text : String} {config : Config} (parsed : ofText text = .ok config) :
    ∃ depth, States text depth := by
  cases table : Toml.parse? text with
  | none =>
    rw [ofText, table] at parsed
    cases parsed
  | some members =>
    rw [ofText_of_parse table, ofTable_eq_ok] at parsed
    obtain ⟨depth, decoded, positive, _⟩ := parsed
    have gives := (gives_iff (Toml.distinct_of_parse table)).mpr ⟨decoded, positive⟩
    exact ⟨depth, members, table, gives⟩

theorem read_eq_ok {text path : String} {members : Members}
    (parsed : Toml.parse? text = some members) {config : Config} :
    read text path = .ok config ↔ ∃ given, Gives members given ∧ config = ⟨given.getD 256⟩ := by
  rw [read, mapError_eq_ok, ofText_of_parse parsed, ofTable_eq_ok]
  refine exists_congr fun given => ?_
  rw [gives_iff (Toml.distinct_of_parse parsed), and_assoc]

theorem read_refused {text path : String} (refused : ∀ config, read text path ≠ .ok config) :
    ∃ reason, read text path = .error (.config reason path) := by
  unfold read at refused ⊢
  cases outcome : ofText text with
  | ok config => exact absurd (mapError_eq_ok.mpr outcome) (refused config)
  | error fault => exact ⟨fault.reason text, mapError_eq_error.mpr ⟨fault, rfl, rfl⟩⟩

/-- A text that is a table of settings is read exactly if the table gives a depth or none, and then
this one or the default is the limit. Any other table is refused, with an error that names the
file. -/
theorem read_table {text path : String} {members : Members}
    (parsed : Toml.parse? text = some members) :
    (∀ config, read text path = .ok config ↔
      ∃ given, Gives members given ∧ config.maxDepth = given.getD 256) ∧
    ((¬ ∃ given, Gives members given) →
      ∃ reason, read text path = .error (.config reason path)) ∧
    ∀ config, read text path = .ok config →
      1 ≤ config.maxDepth.toNat ∧ config.maxDepth.toNat ≤ 2 ^ 32 - 1 := by
  refine ⟨fun config => ?_, fun gives => ?_, fun config accepted => ?_⟩
  · rw [read_eq_ok parsed]
    refine exists_congr fun given => and_congr_right fun _ => ?_
    rcases config with ⟨depth⟩
    exact Config.mk.injEq depth (given.getD 256) ▸ Iff.rfl
  · refine read_refused fun config accepted => gives ?_
    obtain ⟨given, valid, _⟩ := (read_eq_ok parsed).mp accepted
    exact ⟨given, valid⟩
  · obtain ⟨given, valid, rfl⟩ := (read_eq_ok parsed).mp accepted
    have positive := ((gives_iff (Toml.distinct_of_parse parsed)).mp valid).2
    have below := (given.getD 256).toNat_lt
    refine ⟨?_, Nat.le_pred_of_lt below⟩
    rcases given with _ | depth
    · decide
    · rw [Nat.one_le_iff_ne_zero]
      exact fun zero => positive (congrArg some (UInt32.toNat_inj.mp zero))

/-- An array is taken for what it begins with. A key that is misspelt and a number that is too large
are not passed over. -/
theorem read_table_forms :
    let listed : Members := [(⟨"walker", ⟨0, 6⟩⟩,
      .array [.scalar (.integer 7) ⟨10, 11⟩, .scalar (.text "x") ⟨13, 16⟩] ⟨9, 17⟩)]
    let misspelt : Members := [(⟨"walker", ⟨1, 7⟩⟩,
      .table {} [(⟨"max_depth", ⟨9, 18⟩⟩, .scalar (.integer 3) ⟨21, 22⟩)] (some ⟨0, 22⟩))]
    let large : Members := [(⟨"walker", ⟨0, 6⟩⟩,
      .table ⟨true, true, false⟩
        [(⟨"max-depth", ⟨7, 16⟩⟩, .scalar (.integer 4294967296) ⟨19, 29⟩)] none)]
    (Toml.parse? "walker = [7, 'x']" = some listed ∧
      read "walker = [7, 'x']" "a" = .ok ⟨7⟩) ∧
    (Toml.parse? "[walker]\nmax_depth = 3\n" = some misspelt ∧
      ∃ reason, read "[walker]\nmax_depth = 3\n" "b" = .error (.config reason "b")) ∧
    Toml.parse? "walker.max-depth = 4294967296" = some large ∧
      ∃ reason, read "walker.max-depth = 4294967296" "c" = .error (.config reason "c") := by
  intro listed misspelt large
  have first : Toml.parse? "walker = [7, 'x']" = some listed := by cbv
  have second : Toml.parse? "[walker]\nmax_depth = 3\n" = some misspelt := by cbv
  have third : Toml.parse? "walker.max-depth = 4294967296" = some large := by cbv
  refine ⟨⟨first, ((read_table first).1 ⟨7⟩).mpr ⟨some 7, ?_, rfl⟩⟩,
    ⟨second, (read_table second).2.1 ?_⟩, third, (read_table third).2.1 ?_⟩
  · exact .present rfl (.array _ _ ⟨7, _, rfl, by decide, by decide, rfl⟩)
  · rintro ⟨given, valid⟩
    dsimp only [misspelt] at valid
    cases valid with
    | present _ inside =>
      cases inside with
      | table _ _ named _ => exact absurd named (by decide)
  · rintro ⟨given, valid⟩
    dsimp only [large] at valid
    cases valid with
    | present _ inside =>
      cases inside with
      | table _ _ _ depth =>
        obtain ⟨_, _, ⟨⟩, _, small, _⟩ := depth
        exact absurd small (by decide)

end OperationTree.Config
