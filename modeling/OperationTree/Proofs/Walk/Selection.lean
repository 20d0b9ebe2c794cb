import OperationTree.Proofs.Walk.GuardSoundness
import OperationTree.Proofs.Walk.Recorder
import OperationTree.Proofs.Walk.Table

/-!
Walks that go on to chosen children only. Such a walk records what a plain walk of the tree of
chosen children records, and it never visits anything else.
-/

namespace OperationTree

/-- At every place of a tree the children to visit: in any order, left out or repeated. -/
abbrev Selection : Type := List Nat → (t : Operation) → List (Fin t.children.length)

theorem Operation.sizeOf_child (t : Operation) (index : Fin t.children.length) :
    sizeOf (t.children.get index) < sizeOf t :=
  sizeOf_lt_of_mem (List.get_mem t.children index)

/-- The tree with the chosen children in place of all, from the place `path` on. -/
def Operation.select (chosen : Selection) (path : List Nat) (t : Operation) : Operation :=
  { t with
    children := (chosen path t).map fun index =>
      select chosen (path ++ [index.val]) (t.children.get index) }
termination_by sizeOf t
decreasing_by exact t.sizeOf_child index

theorem Operation.kind_select (chosen : Selection) (path : List Nat) (t : Operation) :
    (t.select chosen path).kind = t.kind := by
  rw [select]

theorem Operation.children_select (chosen : Selection) (path : List Nat) (t : Operation) :
    (t.select chosen path).children = (chosen path t).map fun index =>
      (t.children.get index).select chosen (path ++ [index.val]) := by
  rw [select]

namespace Selection

/-- From the place `path` on, every step of the way goes to a chosen child. -/
def Leads (chosen : Selection) (path : List Nat) (t : Operation) : List Nat → Prop
  | [] => True
  | index :: way => ∃ child ∈ chosen path t, child.val = index ∧
    chosen.Leads (path ++ [index]) (t.children.get child) way

theorem leads_snoc {chosen : Selection} {path way : List Nat} {t u : Operation}
    (leads : chosen.Leads path t way) (found : t.at? way = some u)
    {child : Fin u.children.length} (picked : child ∈ chosen (path ++ way) u) :
    chosen.Leads path t (way ++ [child.val]) := by
  induction way generalizing path t with
  | nil =>
    cases found
    rw [List.append_nil] at picked
    exact ⟨child, picked, rfl, trivial⟩
  | cons first way ih =>
    rcases leads with ⟨next, taken, rfl, onward⟩
    refine ⟨next, taken, rfl, ih onward ?_ ?_⟩
    · rw [Operation.at?, List.getElem?_eq_getElem next.isLt] at found
      exact found
    · rw [List.append_assoc]
      exact picked

def table (chosen : Selection) (limit : UInt32) : Table Script.Session Failure where
  limit := limit
  ofGuard := .guard
  hook _ := some fun path t depth =>
    .modify (Script.recordAt t depth) (.visit (.each ((chosen path t).map Fin.val)) .propagate)

structure Keeps (chosen : Selection) (tree : Operation) {σ : Type} (s : Journal σ) : Prop where
  visits : ∀ path ∈ s.visits, chosen.Leads [] tree path
  calls : ∀ call ∈ s.calls, tree.at? call.path = some call.operation ∧
    chosen.Leads [] tree call.path

/-- Both runs end alike and in the same state, and the journal of the first one keeps to chosen
children. -/
def Follows (chosen : Selection) (tree : Operation) (path : List Nat) {σ ε : Type}
    (run : Run (Journal σ) ε Unit) (plain : Run σ ε Unit) : Prop :=
  ∀ s : Journal σ, s.path = path → chosen.Keeps tree s →
    plain.run.run s.state = ((run.run.run s).1, (run.run.run s).2.state) ∧
      (run.run.run s).2.path = path ∧ chosen.Keeps tree (run.run.run s).2

variable {chosen : Selection} {tree : Operation} {σ ε : Type}

theorem follows_pure (path : List Nat) :
    chosen.Follows tree path (pure () : Run (Journal σ) ε Unit) (pure ()) :=
  fun _ here keeps => ⟨rfl, here, keeps⟩

theorem follows_throw (path : List Nat) (e : ε) :
    chosen.Follows tree path (throw e : Run (Journal σ) ε Unit) (throw e) :=
  fun _ here keeps => ⟨rfl, here, keeps⟩

theorem follows_seq {path : List Nat} {first later : Run (Journal σ) ε Unit}
    {plainFirst plainLater : Run σ ε Unit} (follows : chosen.Follows tree path first plainFirst)
    (onward : chosen.Follows tree path later plainLater) :
    chosen.Follows tree path (first >>= fun _ => later) (plainFirst >>= fun _ => plainLater) := by
  intro s here keeps
  obtain ⟨alike, back, kept⟩ := follows s here keeps
  rw [run_bind, run_bind, alike]
  generalize first.run.run s = ended at back kept ⊢
  rcases ended with ⟨_ | _, next⟩
  · exact ⟨rfl, back, kept⟩
  · exact onward next back kept

theorem follows_forM {path : List Nat} {β : Type} {each : β → Run (Journal σ) ε Unit}
    {plain : β → Run σ ε Unit} {bs : List β}
    (follows : ∀ b ∈ bs, chosen.Follows tree path (each b) (plain b)) :
    chosen.Follows tree path (bs.forM each) (bs.forM plain) := by
  induction bs with
  | nil => exact follows_pure path
  | cons b bs ih =>
    have first := follows b List.mem_cons_self
    have later := ih fun c among => follows c (List.mem_cons_of_mem b among)
    rw [List.forM_eq_forM, List.forM_eq_forM] at later ⊢
    rw [List.forM_cons, List.forM_cons]
    exact follows_seq first later

theorem follows_inside {path : List Nat} {index : Nat} {run : Run (Journal σ) ε Unit}
    {plain : Run σ ε Unit} (leads : chosen.Leads [] tree (path ++ [index]))
    (follows : chosen.Follows tree (path ++ [index]) run plain) :
    chosen.Follows tree path (Journal.inside index run) plain := by
  rintro s rfl keeps
  have begun : chosen.Keeps tree (s.step index) :=
    ⟨List.forall_mem_cons.mpr ⟨leads, keeps.visits⟩, keeps.calls⟩
  obtain ⟨alike, _, kept⟩ := follows (s.step index) rfl begun
  rw [Journal.run_inside]
  exact ⟨alike, rfl, kept.visits, kept.calls⟩

theorem visitAll_picked (w : Walker (Journal σ) ε) (t : Operation) (depth : Depth)
    (picked : List (Fin t.children.length)) :
    Demand.answer t depth ((w.offer t.children).mapIdx Child.numbered)
      (.each (picked.map Fin.val)) =
      picked.forM fun index => Journal.inside index.val (w.visit (t.children.get index) depth) := by
  have found (index : Fin t.children.length) :
      ((w.offer t.children).mapIdx Child.numbered)[index.val]? =
        some ((w.child (t.children.get index) (w.dispatch (t.children.get index))).numbered
          index.val) := by
    rw [List.getElem?_mapIdx, getElem?_offer, List.getElem?_eq_getElem index.isLt]
    rfl
  rw [Demand.answer, visitAll, List.filterMap_map]
  have all : (fun index : Nat => ((w.offer t.children).mapIdx Child.numbered)[index]?) ∘ Fin.val =
      some ∘ fun index : Fin t.children.length =>
        (w.child (t.children.get index) (w.dispatch (t.children.get index))).numbered index.val :=
    funext found
  rw [all, ← List.filterMap_map, List.filterMap_some, List.forM_eq_forM, List.forM_map]
  rfl

theorem run_dispatch_table (chosen : Selection) (limit : UInt32) (t : Operation) (depth : Depth)
    (s : Journal Script.Session) :
    ((chosen.table limit).walker.dispatch t depth).run.run s =
      (Demand.answer t depth
        (((chosen.table limit).walker.offer t.children).mapIdx Child.numbered)
        (.each ((chosen s.path t).map Fin.val))).run.run
          { s.note t.kind.tag t depth with state := Script.recordAt t depth s.state } := by
  have passed := Plan.run_onState_visit
    (Demand.answer t depth (((chosen.table limit).walker.offer t.children).mapIdx Child.numbered))
    (.each ((chosen s.path t).map Fin.val))
  rw [Walker.dispatch_eq, ← passed]
  rfl

theorem run_dispatch_recorder (limit : UInt32) (t : Operation) (depth : Depth)
    (s : Script.Session) :
    ((Script.recorder limit).dispatch t depth).run.run s =
      (visitAll ((Script.recorder limit).offer t.children) depth).run.run
        (Script.recordAt t depth s) := by
  rw [Walker.dispatch_eq]
  rfl

theorem follows_hook {limit : UInt32} {path : List Nat} {t : Operation} {depth : Depth}
    (found : tree.at? path = some t) (leads : chosen.Leads [] tree path)
    (each : ∀ child ∈ chosen path t, chosen.Follows tree (path ++ [child.val])
      ((chosen.table limit).walker.visit (t.children.get child) depth)
      ((Script.recorder limit).visit ((t.children.get child).select chosen (path ++ [child.val]))
        depth)) :
    chosen.Follows tree path ((chosen.table limit).walker.dispatch t depth)
      ((Script.recorder limit).dispatch (t.select chosen path) depth) := by
  rintro s rfl keeps
  have below : chosen.Follows tree s.path
      (Demand.answer t depth
        (((chosen.table limit).walker.offer t.children).mapIdx Child.numbered)
        (.each ((chosen s.path t).map Fin.val)))
      (visitAll ((Script.recorder limit).offer (t.select chosen s.path).children) depth) := by
    rw [visitAll_picked, Walker.visitAll_offer, Operation.children_select, List.forM_eq_forM,
      List.forM_eq_forM, List.forM_map]
    apply follows_forM
    intro child picked
    exact follows_inside (leads_snoc leads found picked) (each child picked)
  have recorded : Script.recordAt (t.select chosen s.path) depth s.state =
      Script.recordAt t depth s.state := by
    unfold Script.recordAt
    rw [Operation.kind_select]
  have called : ∀ call ∈ (s.note t.kind.tag t depth).calls,
      tree.at? call.path = some call.operation ∧ chosen.Leads [] tree call.path :=
    List.forall_mem_cons.mpr ⟨⟨found, leads⟩, keeps.calls⟩
  rw [run_dispatch_table, run_dispatch_recorder, recorded]
  exact below { s.note t.kind.tag t depth with state := Script.recordAt t depth s.state } rfl
    ⟨keeps.visits, called⟩

theorem follows_visit (limit : UInt32) (t : Operation) {path : List Nat} (depth : Depth)
    (found : tree.at? path = some t) (leads : chosen.Leads [] tree path) :
    chosen.Follows tree path ((chosen.table limit).walker.visit t depth)
      ((Script.recorder limit).visit (t.select chosen path) depth) := by
  show chosen.Follows tree path
    ((chosen.table limit).walker.guarded t depth ((chosen.table limit).walker.dispatch t))
    ((Script.recorder limit).guarded (t.select chosen path) depth
      ((Script.recorder limit).dispatch (t.select chosen path)))
  unfold Walker.guarded
  cases depth.enter with
  | error e => exact follows_throw path (Failure.guard e)
  | ok entered =>
    apply follows_hook found leads
    intro child picked
    have onward := leads_snoc leads found picked
    have there : tree.at? (path ++ [child.val]) = some (t.children.get child) :=
      at?_snoc found (List.getElem?_eq_getElem child.isLt)
    exact follows_visit limit (t.children.get child) entered there onward
termination_by sizeOf t
decreasing_by exact t.sizeOf_child child

/-- Going on to chosen children only is walking the tree of chosen children. Whatever is visited,
whether the guard lets it through or not, is on a way of chosen children. -/
theorem selective_walk (chosen : Selection) (limit : UInt32) (t : Operation) (s : Script.Session) :
    let ended := (chosen.table limit).walker.run (some t) { state := s }
    (Script.recorder limit).run (some (t.select chosen [])) s = (ended.1, ended.2.state) ∧
      (∀ path ∈ ended.2.visits, chosen.Leads [] t path) ∧
      ∀ call ∈ ended.2.calls, t.at? call.path = some call.operation ∧
        chosen.Leads [] t call.path := by
  have follows : chosen.Follows t [] ((chosen.table limit).walker.walk (some t))
      ((Script.recorder limit).walk (some (t.select chosen []))) :=
    follows_visit limit t (Depth.root limit) rfl trivial
  obtain ⟨alike, _, kept⟩ := follows { state := s } rfl ⟨by simp, by simp⟩
  exact ⟨alike, kept.visits, kept.calls⟩

end Selection

end OperationTree
