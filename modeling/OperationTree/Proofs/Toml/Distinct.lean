import Mathlib.Data.List.Nodup
import OperationTree.Toml.Parse

namespace OperationTree.Toml

/-- No table in the item names a key twice, and what stands under repeated headers are tables. -/
inductive Item.Distinct : Item → Prop
  | scalar (value : Scalar) (extent : Extent) : Distinct (.scalar value extent)
  | array {items : List Item} {extent : Extent} (each : ∀ item ∈ items, Distinct item) :
    Distinct (.array items extent)
  | table {form : Form} {members : Members} {extent : Option Extent}
    (keys : (members.map fun m => m.1.text).Nodup) (each : ∀ m ∈ members, Distinct m.2) :
    Distinct (.table form members extent)
  | tables {items : List Item} (each : ∀ item ∈ items, Distinct item)
    (under : ∀ item ∈ items, ∃ form members extent, item = .table form members extent) :
    Distinct (.tables items)

namespace Members

structure Distinct (members : Members) : Prop where
  keys : (members.map fun m => m.1.text).Nodup
  each : ∀ m ∈ members, m.2.Distinct

theorem distinct_nil : Distinct [] := ⟨List.nodup_nil, nofun⟩

theorem Distinct.item {members : Members} (distinct : members.Distinct) (form : Form)
    (extent : Option Extent) : Item.Distinct (.table form members extent) :=
  .table distinct.keys distinct.each

theorem distinct_of_item {form : Form} {members : Members} {extent : Option Extent}
    (distinct : Item.Distinct (.table form members extent)) : members.Distinct := by
  cases distinct with
  | table keys each => exact ⟨keys, each⟩

theorem find?_eq_none_iff {members : Members} {text : String} :
    members.find? text = none ↔ ∀ m ∈ members, m.1.text ≠ text := by
  rw [find?, Option.map_eq_none_iff, List.find?_eq_none]
  simp

theorem mem_of_find? {members : Members} {text : String} {item : Item}
    (found : members.find? text = some item) : ∃ key, key.text = text ∧ (key, item) ∈ members := by
  obtain ⟨⟨key, _⟩, first, rfl⟩ := Option.map_eq_some_iff.mp found
  exact ⟨key, by simpa using List.find?_some first, List.mem_of_find?_eq_some first⟩

theorem Distinct.found {members : Members} (distinct : members.Distinct) {text : String}
    {item : Item} (found : members.find? text = some item) : item.Distinct := by
  obtain ⟨key, _, among⟩ := mem_of_find? found
  exact distinct.each _ among

theorem Distinct.single {members : Members} (distinct : members.Distinct) {text : String}
    (only : ∀ m ∈ members, m.1.text = text) :
    members = [] ∨ ∃ key item, members = [(key, item)] ∧ key.text = text := by
  rcases members with _ | ⟨⟨key, item⟩, _ | ⟨⟨other, again⟩, later⟩⟩
  · exact .inl rfl
  · exact .inr ⟨key, item, rfl, only _ List.mem_cons_self⟩
  · rw [List.forall_mem_cons, List.forall_mem_cons] at only
    have apart := (List.nodup_cons.mp distinct.keys).1
    exact absurd (List.mem_cons.mpr (.inl (only.1.trans only.2.1.symm))) apart

theorem Distinct.snoc {members : Members} (distinct : members.Distinct) {key : Key}
    (fresh : members.find? key.text = none) {item : Item} (sound : item.Distinct) :
    Members.Distinct (members ++ [(key, item)]) where
  keys := by
    rw [List.map_append, List.nodup_append]
    refine ⟨distinct.keys, List.nodup_singleton _, ?_⟩
    intro text among other last
    obtain ⟨m, inside, rfl⟩ := List.mem_map.mp among
    rw [List.map_singleton, List.mem_singleton] at last
    rw [last]
    exact find?_eq_none_iff.mp fresh m inside
  each := by
    rw [List.forall_mem_append, List.forall_mem_singleton]
    exact ⟨distinct.each, sound⟩

theorem Distinct.replace {members : Members} (distinct : members.Distinct) (text : String)
    {item : Item} (sound : item.Distinct) : (members.replace text item).Distinct where
  keys := by
    have same : (members.replace text item).map (fun m => m.1.text) =
        members.map fun m => m.1.text := by
      rw [Members.replace, List.map_map]
      apply List.map_congr_left
      intro m _
      simp only [Function.comp_apply]
      split <;> rfl
    rw [same]
    exact distinct.keys
  each := by
    rw [Members.replace, List.forall_mem_map]
    intro m among
    split
    · exact sound
    · exact distinct.each m among

theorem Distinct.remove {members : Members} (distinct : members.Distinct) (text : String) :
    (members.remove text).Distinct where
  keys := distinct.keys.sublist (List.filter_sublist.map _)
  each m among := distinct.each m (List.mem_of_mem_filter among)

theorem Distinct.add {members changed : Members} (distinct : members.Distinct) {key : Key}
    {item : Item} (sound : item.Distinct) (added : members.add? key item = some changed) :
    changed.Distinct := by
  unfold add? at added
  split at added
  · cases added
  · next fresh =>
    cases added
    exact distinct.snoc (by simpa using fresh) sound

theorem distinct_tables_snoc {earlier : List Item} {form : Form} {members : Members}
    {extent : Option Extent} (tables : Item.Distinct (.tables earlier))
    (distinct : members.Distinct) :
    Item.Distinct (.tables (earlier ++ [.table form members extent])) := by
  cases tables with
  | tables each under =>
    refine .tables ?_ ?_
    · rw [List.forall_mem_append, List.forall_mem_singleton]
      exact ⟨each, distinct.item form extent⟩
    · rw [List.forall_mem_append, List.forall_mem_singleton]
      exact ⟨under, form, members, extent, rfl⟩

theorem distinct_tables_dropLast {items : List Item} (tables : Item.Distinct (.tables items)) :
    Item.Distinct (.tables items.dropLast) := by
  cases tables with
  | tables each under =>
    exact .tables (fun item among => each item ((List.dropLast_sublist items).subset among))
      fun item among => under item ((List.dropLast_sublist items).subset among)

theorem Distinct.update {β : Type} {route : Route}
    {change : Bool → Members → Option (β × Members)} {P : β → Prop}
    (keeps : ∀ dotted inner answer changed, inner.Distinct →
      change dotted inner = some (answer, changed) → P answer ∧ changed.Distinct) :
    ∀ (path : List Key) (dotted : Bool) (members : Members) (answer : β) (changed : Members),
      members.Distinct → Members.update route change path dotted members = some (answer, changed) →
      P answer ∧ changed.Distinct := by
  intro path
  induction path with
  | nil => exact keeps
  | cons key path ih =>
    intro dotted members answer changed distinct updated
    unfold Members.update at updated
    split at updated
    · next fresh =>
      obtain ⟨⟨answer, inner⟩, below, rest⟩ := Option.bind_eq_some_iff.mp updated
      cases rest
      obtain ⟨answered, sound⟩ := ih _ _ _ _ distinct_nil below
      exact ⟨answered, distinct.snoc fresh (sound.item _ _)⟩
    · next form inner extent found =>
      split at updated
      · cases updated
      · obtain ⟨⟨answer, inner⟩, below, rest⟩ := Option.bind_eq_some_iff.mp updated
        cases rest
        obtain ⟨answered, sound⟩ := ih _ _ _ _ (distinct_of_item (distinct.found found)) below
        exact ⟨answered, distinct.replace _ (sound.item _ _)⟩
    · next items found =>
      split at updated
      · next form inner extent last =>
        obtain ⟨⟨answer, _⟩, below, rest⟩ := Option.bind_eq_some_iff.mp updated
        cases rest
        have tables := distinct.found found
        have table : Item.Distinct (.table form inner extent) := by
          cases tables with
          | tables each _ => exact each _ (List.mem_of_getLast? last)
        obtain ⟨answered, sound⟩ := ih _ _ _ _ (distinct_of_item table) below
        exact ⟨answered,
          distinct.replace _ (distinct_tables_snoc (distinct_tables_dropLast tables) sound)⟩
      · cases updated
    · cases updated

theorem Distinct.updated {β : Type} {route : Route}
    {change : Bool → Members → Option (β × Members)}
    (keeps : ∀ dotted inner answer changed, inner.Distinct →
      change dotted inner = some (answer, changed) → changed.Distinct)
    {path : List Key} {dotted : Bool} {members changed : Members} {answer : β}
    (distinct : members.Distinct)
    (updated : Members.update route change path dotted members = some (answer, changed)) :
    changed.Distinct :=
  (Distinct.update (P := fun _ => True)
    (fun _ _ _ _ inside put => ⟨trivial, keeps _ _ _ _ inside put⟩) _ _ _ _ _ distinct updated).2

theorem Distinct.define {inBraces : Bool} {path : List Key} {key : Key} {item : Item}
    {members changed : Members} (distinct : members.Distinct) (sound : item.Distinct)
    (defined : members.define? inBraces path key item = some changed) : changed.Distinct := by
  obtain ⟨⟨_, _⟩, updated, rest⟩ := Option.bind_eq_some_iff.mp defined
  cases rest
  refine Distinct.updated ?_ distinct updated
  intro dotted inner _ changed inside added
  split at added
  · cases added
  · obtain ⟨_, added, rest⟩ := Option.map_eq_some_iff.mp added
    cases rest
    exact inside.add sound added

end Members

namespace Draft

structure Distinct (d : Draft) : Prop where
  root : d.root.Distinct
  current : d.current.Distinct

theorem Distinct.settle {d : Draft} (distinct : d.Distinct) {members : Members}
    (settled : d.settle? = some members) : members.Distinct := by
  unfold settle? at settled
  split at settled
  · cases settled
    exact distinct.current
  · next place _ =>
    obtain ⟨⟨_, _⟩, updated, rest⟩ := Option.bind_eq_some_iff.mp settled
    cases rest
    refine Members.Distinct.updated ?_ distinct.root updated
    intro _ inner _ changed inside put
    split at put
    · split at put
      · next items found =>
        cases put
        exact inside.replace _ (Members.distinct_tables_snoc (inside.found found) distinct.current)
      · cases put
    · obtain ⟨_, added, rest⟩ := Option.map_eq_some_iff.mp put
      cases rest
      exact inside.add (distinct.current.item _ _) added

theorem distinct_openTable {root : Members} {path : List Key} {key : Key} {extent : Extent}
    {d : Draft} (distinct : root.Distinct) (opened : openTable? root path key extent = some d) :
    d.Distinct := by
  obtain ⟨⟨_, _⟩, updated, rest⟩ := Option.bind_eq_some_iff.mp opened
  cases rest
  have parts := Members.Distinct.update (P := Members.Distinct) ?_ _ _ _ _ _ distinct updated
  · exact ⟨parts.2, parts.1⟩
  · intro _ inner _ changed inside put
    split at put
    · cases put
      exact ⟨Members.distinct_nil, inside⟩
    · next form members _ found =>
      split at put
      · cases put
        exact ⟨Members.distinct_of_item (inside.found found), inside.remove _⟩
      · cases put
    · cases put

theorem distinct_openRepeated {root : Members} {path : List Key} {key : Key} {extent : Extent}
    {d : Draft} (distinct : root.Distinct)
    (opened : openRepeated? root path key extent = some d) : d.Distinct := by
  obtain ⟨⟨_, _⟩, updated, rest⟩ := Option.bind_eq_some_iff.mp opened
  cases rest
  refine ⟨Members.Distinct.updated ?_ distinct updated, Members.distinct_nil⟩
  intro _ inner _ changed inside put
  split at put
  · next fresh =>
    cases put
    exact inside.snoc fresh (.tables nofun nofun)
  · cases put
    exact inside
  · cases put

end Draft

def Line.Distinct : Line → Prop
  | .member _ _ item => item.Distinct
  | .header _ _ _ | .repeatedHeader _ _ _ => True

theorem Draft.Distinct.take {d next : Draft} (distinct : d.Distinct) {line : Line}
    (sound : line.Distinct) (taken : d.take? line = some next) : next.Distinct := by
  cases line with
  | member path key item =>
    obtain ⟨current, defined, rest⟩ := Option.bind_eq_some_iff.mp taken
    cases rest
    exact ⟨distinct.root, distinct.current.define sound defined⟩
  | header path key extent =>
    obtain ⟨root, settled, opened⟩ := Option.bind_eq_some_iff.mp taken
    exact distinct_openTable (distinct.settle settled) opened
  | repeatedHeader path key extent =>
    obtain ⟨root, settled, opened⟩ := Option.bind_eq_some_iff.mp taken
    exact distinct_openRepeated (distinct.settle settled) opened

theorem Draft.Distinct.run {lines : List Line} (sound : ∀ line ∈ lines, line.Distinct)
    {d last : Draft} (distinct : d.Distinct) (taken : lines.foldlM Draft.take? d = some last) :
    last.Distinct := by
  induction lines generalizing d with
  | nil =>
    cases taken
    exact distinct
  | cons line lines ih =>
    rw [List.forall_mem_cons] at sound
    rw [List.foldlM_cons] at taken
    obtain ⟨next, first, later⟩ := Option.bind_eq_some_iff.mp taken
    exact ih sound.2 (distinct.take sound.1 first) later

theorem distinct_tableOf {lines : List Line} (sound : ∀ line ∈ lines, line.Distinct)
    {members : Members} (made : tableOf? lines = some members) : members.Distinct := by
  obtain ⟨last, taken, settled⟩ := Option.bind_eq_some_iff.mp made
  have start : Draft.Distinct {} := ⟨Members.distinct_nil, Members.distinct_nil⟩
  exact (start.run sound taken).settle settled

namespace Rule

variable {α β : Type}

def Yields (p : Rule α) (P : α → Prop) : Prop :=
  ∀ input a rest, p.run input = some (a, rest) → P a

theorem yields_pure {P : α → Prop} {a : α} (sound : P a) : (pure a : Rule α).Yields P := by
  rintro input _ rest ⟨⟩
  exact sound

theorem yields_failure {P : α → Prop} : (failure : Rule α).Yields P := nofun

theorem Yields.bind {p : Rule α} {P : α → Prop} {next : α → Rule β} {Q : β → Prop}
    (first : p.Yields P) (later : ∀ a, P a → (next a).Yields Q) : (p >>= next).Yields Q := by
  intro input b rest read
  obtain ⟨⟨a, between⟩, here, there⟩ := Option.bind_eq_some_iff.mp read
  exact later a (first input a between here) between b rest there

theorem yields_after (p : Rule α) {next : α → Rule β} {Q : β → Prop}
    (later : ∀ a, (next a).Yields Q) : (p >>= next).Yields Q :=
  Yields.bind (P := fun _ => True) (fun _ _ _ _ => trivial) fun a _ => later a

theorem yields_refused {next : α → Rule β} {Q : β → Prop} :
    ((failure : Rule α) >>= next).Yields Q :=
  Yields.bind (P := fun _ => False) yields_failure nofun

theorem Yields.placed {p : Rule α} {P : α → Prop} (yields : p.Yields P) :
    (placed p).Yields fun read => P read.1 :=
  yields_after _ fun _ => yields.bind fun _ sound => yields_after _ fun _ => yields_pure sound

end Rule

open Rule

mutual
theorem value_distinct (depth : Nat) : (fuel : Nat) → (value depth fuel).Yields Item.Distinct
  | 0 => yields_failure
  | fuel + 1 => by
    rw [value]
    refine yields_after _ fun next => ?_
    split
    · split
      · exact yields_refused
      · refine ((yields_after _ fun _ => items_distinct (depth + 1) fuel).placed).bind ?_
        exact fun read each => yields_pure (.array each)
    · split
      · exact yields_refused
      · refine Yields.bind (P := fun read => Members.Distinct read.1) (Yields.placed ?_) ?_
        · refine yields_after _ fun _ => yields_after _ fun _ => yields_after _ fun next => ?_
          split
          · exact yields_after _ fun _ => yields_pure Members.distinct_nil
          · exact inBraces_distinct (depth + 1) fuel [] Members.distinct_nil
        · exact fun read distinct => yields_pure (distinct.item _ _)
    · exact yields_after _ fun read => yields_pure (.scalar _ _)
theorem items_distinct (depth : Nat) : (fuel : Nat) →
    (items depth fuel).Yields fun listed => ∀ item ∈ listed, item.Distinct
  | 0 => yields_failure
  | fuel + 1 => by
    rw [items]
    refine yields_after _ fun _ => yields_after _ fun next => ?_
    split
    · exact yields_after _ fun _ => yields_pure nofun
    · refine (value_distinct depth fuel).bind fun item sound => ?_
      refine yields_after _ fun _ => yields_after _ fun next => ?_
      split
      · refine yields_after _ fun _ => (items_distinct depth fuel).bind fun later each => ?_
        exact yields_pure (List.forall_mem_cons.mpr ⟨sound, each⟩)
      · exact yields_after _ fun _ => yields_pure (List.forall_mem_singleton.mpr sound)
theorem inBraces_distinct (depth : Nat) : (fuel : Nat) → (members : Members) →
    members.Distinct → (inBraces depth fuel members).Yields Members.Distinct
  | 0, _, _ => yields_failure
  | fuel + 1, members, distinct => by
    rw [inBraces]
    refine yields_after _ fun keys => yields_after _ fun _ => yields_after _ fun _ => ?_
    refine (value_distinct depth fuel).bind fun item sound => yields_after _ fun _ => ?_
    split
    · exact yields_failure
    · next changed defined =>
      have distinct := distinct.define sound defined
      refine yields_after _ fun next => ?_
      split
      · exact inBraces_distinct depth fuel changed distinct
      · exact yields_pure distinct
      · exact yields_failure
end

theorem memberLine_distinct : memberLine.Yields Line.Distinct := by
  refine yields_after _ fun keys => yields_after _ fun _ => yields_after _ fun _ => ?_
  refine yields_after _ fun fuel => (value_distinct 0 _).bind fun item sound => ?_
  exact yields_after _ fun _ => yields_pure sound

theorem headerLine_distinct : headerLine.Yields Line.Distinct := by
  refine yields_after _ fun repeated => yields_after _ fun _ => yields_after _ fun _ => ?_
  split <;> exact yields_pure trivial

theorem line_distinct : line.Yields fun read => ∀ l ∈ read, l.Distinct := by
  refine yields_after _ fun _ => yields_after _ fun next => ?_
  split
  · exact yields_pure nofun
  · exact yields_after _ fun _ => yields_pure nofun
  · exact yields_after _ fun _ => yields_pure nofun
  · exact yields_after _ fun _ => yields_after _ fun _ => yields_pure nofun
  · refine headerLine_distinct.bind fun l sound => yields_pure ?_
    rintro _ ⟨⟩
    exact sound
  · refine memberLine_distinct.bind fun l sound => yields_pure ?_
    rintro _ ⟨⟩
    exact sound

theorem lines_distinct : (fuel : Nat) → (lines fuel).Yields fun read => ∀ l ∈ read, l.Distinct
  | 0 => yields_pure nofun
  | fuel + 1 => by
    rw [lines]
    refine yields_after _ fun left => ?_
    split
    · exact yields_pure nofun
    · refine line_distinct.bind fun first sound => (lines_distinct fuel).bind fun later each => ?_
      refine yields_pure ?_
      rw [List.forall_mem_append]
      exact ⟨fun l among => sound l (Option.mem_toList.mp among), each⟩

theorem document_distinct : document.Yields fun read => ∀ l ∈ read, l.Distinct := by
  refine yields_after _ fun marked => ?_
  split
  · exact yields_after _ fun _ => yields_after _ fun _ => lines_distinct _
  · exact yields_after _ fun _ => lines_distinct _

theorem distinct_of_parse {text : String} {members : Members}
    (parsed : parse? text = some members) : members.Distinct := by
  obtain ⟨⟨all, rest⟩, read, made⟩ := Option.bind_eq_some_iff.mp parsed
  exact distinct_tableOf (document_distinct _ all rest read) made

end OperationTree.Toml
