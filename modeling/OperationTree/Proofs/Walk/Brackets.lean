import OperationTree.Proofs.Walk.Trail

/-!
Hooks that do something before a descent and undo it after, whether it failed or not. At the end of
a walk all is undone, and while the walk lasts only the hooks of the operations on the way from the
root have something left to undo.
-/

namespace OperationTree

inductive Bracket where
  | enter (call : Call)
  | exit (call : Call)
  deriving DecidableEq, Repr

namespace Bracket

def entered? : Bracket → Option Call
  | .enter call => some call
  | .exit _ => none

/-- Brackets are closed by the calls that opened them, and the inner ones before the outer ones. -/
inductive Word : List Bracket → Prop where
  | empty : Word []
  | wrap (call : Call) {inner later : List Bracket} (inside : Word inner) (after : Word later) :
      Word (.enter call :: (inner ++ .exit call :: later))

theorem Word.append {first second : List Bracket} (word : Word first) (next : Word second) :
    Word (first ++ second) := by
  induction word with
  | empty => exact next
  | wrap call inside _ _ ih =>
    rw [List.cons_append, List.append_assoc, List.cons_append]
    exact .wrap call inside ih

end Bracket

/-- A counter with the brackets so far, in order, and with what it stood at when hooks were called,
by their places and latest first. -/
structure Gauge where
  counter : Int
  brackets : List Bracket := []
  readings : List (List Nat × Int) := []

namespace Gauge

variable {ε : Type}

def read (path : List Nat) (s : Gauge) : Gauge :=
  { s with readings := (path, s.counter) :: s.readings }

def enter (call : Call) (s : Gauge) : Gauge :=
  { s with counter := s.counter + 1, brackets := s.brackets ++ [.enter call] }

def exit (call : Call) (s : Gauge) : Gauge :=
  { s with counter := s.counter - 1, brackets := s.brackets ++ [.exit call] }

def surround (call : Call) : Plan Demand Gauge ε :=
  .modify (enter call) (.visit .descend fun outcome => .modify (exit call) (.propagate outcome))

/-- Hooks of the chosen kinds put brackets around their descent. The others descend, or fail at the
places where they are told to. -/
def respond (chosen : KindTag → Bool) (raise : List Nat → Operation → Option ε) (call : Call) :
    Plan Demand Gauge ε :=
  if chosen call.hook then surround call
  else match raise call.path call.operation with
    | some e => .fail e
    | none => .visit .descend .propagate

def table (limit : UInt32) (ofGuard : DepthExceeded → ε) (chosen : KindTag → Bool)
    (raise : List Nat → Operation → Option ε) : Table Gauge ε where
  limit := limit
  ofGuard := ofGuard
  hook tag := some fun path t depth => .modify (read path)
    (respond chosen raise ⟨path, tag, t, depth.current, depth.remaining⟩)

def load (chosen : KindTag → Bool) (ts : List Operation) : Nat :=
  ts.countP fun t => chosen t.kind.tag

/-- The walk is at a place, and of the operations in `opened` those of a chosen kind have an open
bracket. -/
structure Poised (chosen : KindTag → Bool) (initial : Int) (tree : Operation) (path : List Nat)
    (opened : List Operation) (s : Journal Gauge) : Prop where
  here : s.path = path
  counter : s.state.counter = initial + load chosen opened
  entered : s.state.brackets.filterMap Bracket.entered? =
    (s.calls.filter fun call => chosen call.hook).reverse
  complete : s.state.readings.map Prod.fst = s.calls.map Call.path
  readings : ∀ r ∈ s.state.readings, ∃ t, tree.at? r.1 = some t ∧
    r.2 = initial + load chosen (tree.above r.1)

/-- However the run ends, the walk is back where it was, and all brackets of the run are closed. -/
def Settles (chosen : KindTag → Bool) (initial : Int) (tree : Operation) (path : List Nat)
    (opened : List Operation) (run : Run (Journal Gauge) ε Unit) : Prop :=
  ∀ s, Poised chosen initial tree path opened s →
    Poised chosen initial tree path opened (run.run.run s).2 ∧
    ∃ word, Bracket.Word word ∧
      (run.run.run s).2.state.brackets = s.state.brackets ++ word

variable {chosen : KindTag → Bool} {initial : Int} {tree : Operation} {path : List Nat}
  {opened : List Operation}

theorem settles_pure :
    Settles chosen initial tree path opened (pure () : Run (Journal Gauge) ε Unit) :=
  fun _ poised => ⟨poised, [], .empty, (List.append_nil _).symm⟩

theorem settles_throw (e : ε) :
    Settles chosen initial tree path opened (throw e : Run (Journal Gauge) ε Unit) :=
  fun _ poised => ⟨poised, [], .empty, (List.append_nil _).symm⟩

theorem settles_seq {first later : Run (Journal Gauge) ε Unit}
    (settles : Settles chosen initial tree path opened first)
    (onward : Settles chosen initial tree path opened later) :
    Settles chosen initial tree path opened (first >>= fun _ => later) := by
  intro s poised
  obtain ⟨back, word, closed, brackets⟩ := settles s poised
  rw [run_bind]
  generalize first.run.run s = ended at back brackets ⊢
  rcases ended with ⟨_ | _, next⟩
  · exact ⟨back, word, closed, brackets⟩
  · obtain ⟨again, more, closedToo, after⟩ := onward next back
    refine ⟨again, word ++ more, closed.append closedToo, ?_⟩
    rw [after, brackets, List.append_assoc]

theorem settles_forM {α : Type} {each : α → Run (Journal Gauge) ε Unit} {as : List α}
    (settles : ∀ a ∈ as, Settles chosen initial tree path opened (each a)) :
    Settles chosen initial tree path opened (as.forM each) := by
  induction as with
  | nil => exact settles_pure
  | cons a as ih =>
    have later := ih fun b among => settles b (List.mem_cons_of_mem a among)
    rw [List.forM_eq_forM] at later ⊢
    rw [List.forM_cons]
    exact settles_seq (settles a List.mem_cons_self) later

theorem settles_inside {index : Nat} {run : Run (Journal Gauge) ε Unit}
    (settles : Settles chosen initial tree (path ++ [index]) opened run) :
    Settles chosen initial tree path opened (Journal.inside index run) := by
  rintro s ⟨rfl, counter, entered, complete, readings⟩
  obtain ⟨back, word, closed, brackets⟩ := settles (s.step index)
    ⟨rfl, counter, entered, complete, readings⟩
  rw [Journal.run_inside]
  exact ⟨⟨rfl, back.counter, back.entered, back.complete, back.readings⟩, word, closed, brackets⟩

theorem Poised.of_load {others : List Operation} {s : Journal Gauge}
    (poised : Poised chosen initial tree path opened s)
    (same : load chosen opened = load chosen others) :
    Poised chosen initial tree path others s where
  here := poised.here
  counter := by rw [← same, poised.counter]
  entered := poised.entered
  complete := poised.complete
  readings := poised.readings

variable {limit : UInt32} {ofGuard : DepthExceeded → ε} {raise : List Nat → Operation → Option ε}

def called (t : Operation) (depth : Depth) (s : Journal Gauge) : Journal Gauge :=
  { s.note t.kind.tag t depth with state := s.state.read s.path }

def callAt (t : Operation) (depth : Depth) (s : Journal Gauge) : Call :=
  ⟨s.path, t.kind.tag, t, depth.current, depth.remaining⟩

theorem load_snoc (t : Operation) : load chosen (opened ++ [t]) =
    load chosen opened + if chosen t.kind.tag then 1 else 0 := by
  rw [load, load, List.countP_append, List.countP_singleton]

theorem readings_called {s : Journal Gauge}
    (poised : Poised chosen initial tree path (tree.above path) s) {t : Operation}
    (found : tree.at? path = some t) (depth : Depth) :
    ∀ r ∈ (called t depth s).state.readings, ∃ t, tree.at? r.1 = some t ∧
      r.2 = initial + load chosen (tree.above r.1) := by
  obtain rfl := poised.here
  exact List.forall_mem_cons.mpr ⟨⟨t, found, poised.counter⟩, poised.readings⟩

theorem complete_called {s : Journal Gauge} (poised : Poised chosen initial tree path opened s)
    (t : Operation) (depth : Depth) :
    (called t depth s).state.readings.map Prod.fst = (called t depth s).calls.map Call.path :=
  congrArg (s.path :: ·) poised.complete

theorem Poised.opens {s : Journal Gauge}
    (poised : Poised chosen initial tree path (tree.above path) s) {t : Operation}
    (found : tree.at? path = some t) (depth : Depth) (picked : chosen t.kind.tag = true) :
    Poised chosen initial tree path (tree.above path ++ [t])
      { called t depth s with state := (called t depth s).state.enter (callAt t depth s) } where
  here := poised.here
  counter := by
    show s.state.counter + 1 = _
    rw [load_snoc, if_pos picked, poised.counter]
    omega
  entered := by
    show (s.state.brackets ++ [Bracket.enter (callAt t depth s)]).filterMap Bracket.entered? =
      ((callAt t depth s :: s.calls).filter fun call => chosen call.hook).reverse
    have noted : chosen (callAt t depth s).hook = true := picked
    rw [List.filterMap_append, poised.entered, List.filter_cons, if_pos noted, List.reverse_cons]
    rfl
  complete := complete_called poised t depth
  readings := readings_called poised found depth

theorem Poised.passes {s : Journal Gauge}
    (poised : Poised chosen initial tree path (tree.above path) s) {t : Operation}
    (found : tree.at? path = some t) (depth : Depth) (picked : chosen t.kind.tag = false) :
    Poised chosen initial tree path (tree.above path) (called t depth s) where
  here := poised.here
  counter := poised.counter
  entered := by
    show s.state.brackets.filterMap Bracket.entered? =
      ((callAt t depth s :: s.calls).filter fun call => chosen call.hook).reverse
    have skipped : ¬ chosen (callAt t depth s).hook = true := by
      rw [callAt, picked]
      exact Bool.false_ne_true
    rw [poised.entered, List.filter_cons, if_neg skipped]
  complete := complete_called poised t depth
  readings := readings_called poised found depth

theorem Poised.closes {s : Journal Gauge} {t : Operation}
    (poised : Poised chosen initial tree path (opened ++ [t]) s) (picked : chosen t.kind.tag = true)
    (call : Call) :
    Poised chosen initial tree path opened { s with state := s.state.exit call } where
  here := poised.here
  counter := by
    show s.state.counter - 1 = _
    rw [poised.counter, load_snoc, if_pos picked]
    omega
  entered := by
    show (s.state.brackets ++ [Bracket.exit call]).filterMap Bracket.entered? = _
    rw [List.filterMap_append, poised.entered]
    exact List.append_nil _
  complete := poised.complete
  readings := poised.readings

theorem run_surround (ways : Demand → Run (Journal Gauge) ε Unit) (call : Call)
    (s : Journal Gauge) :
    ((surround call).onState.run ways).run.run s =
      let ended := (ways .descend).run.run { s with state := s.state.enter call }
      (ended.1, { ended.2 with state := ended.2.state.exit call }) := by
  rw [surround, Plan.run_onState_modify, Plan.run_onState_visit_next, Plan.run_onState_modify]
  rcases (ways .descend).run.run { s with state := s.state.enter call } with ⟨_ | ⟨⟩, next⟩ <;> rfl

theorem run_dispatch_table (t : Operation) (depth : Depth) (s : Journal Gauge) :
    ((table limit ofGuard chosen raise).walker.dispatch t depth).run.run s =
      ((respond chosen raise (callAt t depth s)).onState.run (Demand.answer t depth
        (((table limit ofGuard chosen raise).walker.offer t.children).mapIdx
          Child.numbered))).run.run (called t depth s) := by
  rw [Walker.dispatch_eq]
  rfl

theorem settles_descend {w : Walker (Journal Gauge) ε} {t : Operation} {depth : Depth}
    (each : ∀ index child, t.children[index]? = some child →
      Settles chosen initial tree (path ++ [index]) opened (w.visit child depth)) :
    Settles chosen initial tree path opened
      (Demand.answer t depth ((w.offer t.children).mapIdx Child.numbered) .descend) := by
  apply settles_forM
  intro child among
  obtain ⟨index, within, rfl⟩ := List.mem_mapIdx.mp among
  have present := List.getElem?_eq_getElem within
  rw [getElem?_offer] at present
  obtain ⟨u, below, offered⟩ := Option.map_eq_some_iff.mp present
  rw [← offered]
  exact settles_inside (each index u below)

theorem settles_dispatch {t : Operation} {depth : Depth} (found : tree.at? path = some t)
    (each : ∀ index child, t.children[index]? = some child →
      Settles chosen initial tree (path ++ [index]) (tree.above (path ++ [index]))
        ((table limit ofGuard chosen raise).walker.visit child depth)) :
    Settles chosen initial tree path (tree.above path)
      ((table limit ofGuard chosen raise).walker.dispatch t depth) := by
  have below : Settles chosen initial tree path (tree.above path ++ [t]) (Demand.answer t depth
      (((table limit ofGuard chosen raise).walker.offer t.children).mapIdx Child.numbered)
      .descend) := by
    apply settles_descend
    intro index child present
    rw [← Operation.above_snoc found index]
    exact each index child present
  intro s poised
  have hook : (callAt t depth s).hook = t.kind.tag := rfl
  rw [run_dispatch_table, respond, hook]
  -- a failure below is held until the exit is noted, so the cases do not ask how the descent ends
  cases picked : chosen t.kind.tag with
  | true =>
    obtain ⟨back, word, closed, brackets⟩ := below _ (poised.opens found depth picked)
    rw [if_pos rfl, run_surround]
    refine ⟨back.closes picked _, .enter (callAt t depth s) :: (word ++ [.exit (callAt t depth s)]),
      .wrap _ closed .empty, ?_⟩
    refine (congrArg (· ++ [Bracket.exit (callAt t depth s)]) brackets).trans ?_
    show s.state.brackets ++ [.enter (callAt t depth s)] ++ word ++ [.exit (callAt t depth s)] = _
    rw [List.append_assoc, List.append_assoc, List.cons_append]
    rfl
  | false =>
    have passed := poised.passes found depth picked
    -- `t` has no bracket, so it may be counted among those above its children
    have light : load chosen (tree.above path ++ [t]) = load chosen (tree.above path) := by
      rw [load_snoc, picked]
      rfl
    rw [if_neg Bool.false_ne_true]
    cases raise (callAt t depth s).path (callAt t depth s).operation with
    | some e => exact settles_throw e _ passed
    | none =>
      obtain ⟨back, settled⟩ := below _ (passed.of_load light.symm)
      rw [Plan.run_onState_visit]
      exact ⟨back.of_load light, settled⟩

theorem settles_visit (limit : UInt32) (ofGuard : DepthExceeded → ε)
    (raise : List Nat → Operation → Option ε) (t : Operation) {path : List Nat} (depth : Depth)
    (found : tree.at? path = some t) :
    Settles chosen initial tree path (tree.above path)
      ((table limit ofGuard chosen raise).walker.visit t depth) := by
  show Settles chosen initial tree path (tree.above path)
    ((table limit ofGuard chosen raise).walker.guarded t depth
      ((table limit ofGuard chosen raise).walker.dispatch t))
  unfold Walker.guarded
  cases depth.enter with
  | error e => exact settles_throw (ofGuard e)
  | ok entered =>
    apply settles_dispatch found
    intro index child present
    have smaller := Operation.sizeOf_lt_of_mem (List.mem_of_getElem? present)
    exact settles_visit limit ofGuard raise child entered (at?_snoc found present)
termination_by sizeOf t
decreasing_by exact smaller

/-- However a walk ends, the counter is back where it was, the brackets close one another, and
there is a pair for each call of a chosen hook, in the order of the calls. Each hook found as many
brackets open as there are operations of a chosen kind above its own. -/
theorem balanced_walk (limit : UInt32) (ofGuard : DepthExceeded → ε) (chosen : KindTag → Bool)
    (raise : List Nat → Operation → Option ε) (tree : Operation) (initial : Int) :
    let left := ((table limit ofGuard chosen raise).walker.run (some tree)
      { state := { counter := initial } }).2
    left.state.counter = initial ∧
    Bracket.Word left.state.brackets ∧
    left.state.brackets.filterMap Bracket.entered? =
      (left.calls.filter fun call => chosen call.hook).reverse ∧
    left.state.readings.map Prod.fst = left.calls.map Call.path ∧
    ∀ r ∈ left.state.readings, ∃ t, tree.at? r.1 = some t ∧
      r.2 - initial = (tree.above r.1).countP fun u => chosen u.kind.tag := by
  intro left
  have start : Poised chosen initial tree [] (tree.above [])
      { state := { counter := initial } } := ⟨rfl, (Int.add_zero initial).symm, rfl, rfl, nofun⟩
  obtain ⟨poised, word, closed, brackets⟩ :=
    settles_visit limit ofGuard raise tree (Depth.root limit) rfl _ start
  rw [List.nil_append] at brackets
  refine ⟨poised.counter.trans (Int.add_zero initial), ?_, poised.entered, poised.complete, ?_⟩
  · rw [← brackets] at closed
    exact closed
  · intro r among
    obtain ⟨t, there, reading⟩ := poised.readings r among
    have excess : r.2 - initial = load chosen (tree.above r.1) := by
      rw [reading]
      omega
    exact ⟨t, there, excess⟩

/-- A failure two levels down leaves no bracket open, and what stands after it is not come by. -/
theorem balanced_walk_raised :
    let literal : Operation := ⟨.literal "x", {}, []⟩
    let tree : Operation := ⟨.block, {}, [⟨.loop, {}, [literal, literal]⟩, literal]⟩
    let chosen (tag : KindTag) : Bool := tag = .block || tag = .loop
    let raise (path : List Nat) (_ : Operation) : Option String :=
      if path = [0, 1] then some "raised" else none
    let ended := (table 5 DepthExceeded.message chosen raise).walker.run (some tree)
      { state := { counter := 7 } }
    ended.1 = .error "raised" ∧ ended.2.state.counter = 7 ∧
      Bracket.Word ended.2.state.brackets ∧
      ended.2.state.readings = [([0, 1], 9), ([0, 0], 9), ([0], 8), ([], 7)] ∧
      (9 - 7 : Int) = (tree.above [0, 1]).countP fun u => chosen u.kind.tag := by
  intro literal tree chosen raise ended
  obtain ⟨counter, word, _, _, readings⟩ :=
    balanced_walk 5 DepthExceeded.message chosen raise tree 7
  have listed : ended.2.state.readings = [([0, 1], 9), ([0, 0], 9), ([0], 8), ([], 7)] := rfl
  have among : ([0, 1], 9) ∈ ended.2.state.readings := by
    rw [listed]
    exact List.mem_cons_self
  obtain ⟨_, _, excess⟩ := readings _ among
  exact ⟨rfl, counter, word, listed, excess⟩

end Gauge

end OperationTree
