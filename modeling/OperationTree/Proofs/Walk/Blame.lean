import OperationTree.Proofs.Walk.Consumers
import OperationTree.Proofs.Walk.Search
import OperationTree.Proofs.Walk.Shadow

/-!
The operation that a depth error points at. A printer is run beside a record of what its visits make
of errors on the way out: the innermost visit gives the error the span of its operation, and all
visits around it hand on what they were handed.
-/

namespace OperationTree.Outline

/-- What the visit of an operation made of an error. -/
structure Handover where
  operation : Operation
  received : WalkError
  returned : WalkError
  deriving DecidableEq, Repr

structure Register where
  page : Page := {}
  handovers : List Handover := []

namespace Register

def write (style : OutlineStyle) (t : Operation) (depth : Depth) (s : Register) : Register :=
  { s with page := Outline.write style t depth s.page }

def hand (t : Operation) (e : WalkError) (s : Register) : Register :=
  { s with handovers := ⟨t, e, e.withSpan t.span⟩ :: s.handovers }

def walker (style : OutlineStyle) (limit : UInt32) : Walker Register WalkError where
  limit := limit
  ofGuard := WalkError.ofGuard
  tripped t trip s := { s with page := (Outline.walker style limit).tripped t trip s.page }
  around t run := tryCatch run fun e => do
    modify (hand t e)
    throw (e.withSpan t.span)
  hook _ t depth children := do
    modify (write style t depth)
    visitAll children depth

variable {style : OutlineStyle} {limit : UInt32}

theorem run_around (t : Operation) (run : Run Register WalkError Unit) (s : Register) :
    ((walker style limit).around t run).run.run s = match run.run.run s with
      | (.ok (), next) => (.ok (), next)
      | (.error e, next) => (.error (e.withSpan t.span), next.hand t e) := by
  show (tryCatch run _).run.run s = _
  rw [ExceptT.run_tryCatch, StateT.run_bind]
  rcases run.run.run s with ⟨_ | ⟨⟩, next⟩ <;> rfl

theorem walker_shadows (style : OutlineStyle) (limit : UInt32) :
    (walker style limit).Shadows page (Outline.walker style limit) where
  limit := rfl
  ofGuard := rfl
  tripped _ _ _ := rfl
  around t inner run same := by
    intro s
    have plain : (Outline.walker style limit).around t run =
      ExceptT.adapt (fun e => e.withSpan t.span) run := rfl
    rw [plain, run_adapt, same s, run_around]
    rcases inner.run.run s with ⟨_ | ⟨⟩, next⟩ <;> rfl
  hook _ t depth _ _ same :=
    shows_bind (shows_modify fun _ => rfl) fun _ => shows_visitAll same depth

def named (limit : UInt32) (held : Operation) : WalkError :=
  .tooDeep ⟨limit + 1, limit⟩ (some held.span)

/-- What becomes of an error: the visit of the operation held back names it, and the visits of the
operations around that one, from the innermost on, change nothing. The latest comes first. -/
def trail (limit : UInt32) (held : Operation) (enclosing : List Operation) : List Handover :=
  enclosing.map (fun u => ⟨u, named limit held, named limit held⟩) ++
    [⟨held, .tooDeep ⟨limit + 1, limit⟩ none, named limit held⟩]

/-- A run came by an operation to be held back and by operations around it, or it came by none. -/
def Hands (limit : UInt32) (before : List Handover) (ended : Except WalkError Unit × Register) :
    Option (Operation × List Operation) → Prop
  | none => ended.1 = .ok () ∧ ended.2.handovers = before
  | some (held, enclosing) => ended.1 = .error (named limit held) ∧
      ended.2.handovers = trail limit held enclosing ++ before

theorem hands_around (style : OutlineStyle) {found : Option (Operation × List Operation)}
    {before : List Handover} {s : Register} {run : Run Register WalkError Unit}
    (hands : Hands limit before (run.run.run s) found) (t : Operation) :
    Hands limit before (((walker style limit).around t run).run.run s)
      (found.map fun hit => (hit.1, t :: hit.2)) := by
  rw [run_around]
  generalize run.run.run s = ended at hands ⊢
  rcases ended with ⟨e | ⟨⟩, next⟩
  · cases found with
    | none => exact nomatch hands.1
    | some hit =>
      obtain ⟨failed, kept⟩ := hands
      cases failed
      refine ⟨rfl, ?_⟩
      show (⟨t, named limit hit.1, _⟩ : Handover) :: next.handovers = _
      rw [kept]
      rfl
  · cases found with
    | none => exact hands
    | some hit => exact nomatch hands.1

def firstHeld (limit : UInt32) (ps : List Place) : Option Place :=
  ps.find? fun q => q.1.length = limit.toNat

theorem firstHeld_append (ps qs : List Place) :
    firstHeld limit (ps ++ qs) = (firstHeld limit ps).or (firstHeld limit qs) := List.find?_append

theorem mem_of_firstHeld {ps : List Place} {q : Place} (found : firstHeld limit ps = some q) :
    q ∈ ps := List.mem_of_find?_eq_some found

theorem hands_refused (style : OutlineStyle) (limited : limit.toNat < Depth.top) {n : Nat}
    (full : n = limit.toNat) (t : Operation) (s : Register) :
    Hands limit s.handovers (((walker style limit).visit t (.level limit n)).run.run s)
      (some (t, [])) := by
  subst full
  have refused : ((walker style limit).guarded t (.level limit limit.toNat)
      ((walker style limit).dispatch t)).run.run s = (.error (.tooDeep ⟨limit + 1, limit⟩ none),
        (walker style limit).tripped t ⟨limit + 1, limit⟩ s) :=
    Walker.run_guarded_of_full (walker style limit) limited t _ s
  rw [Walker.visit_eq, run_around, refused]
  exact ⟨rfl, rfl⟩

theorem run_guarded {n : Nat} (reached : Depth.Reaches limit (n + 1)) (t : Operation)
    (s : Register) :
    ((walker style limit).guarded t (.level limit n) ((walker style limit).dispatch t)).run.run s =
      (t.children.forM fun u => (walker style limit).visit u (.level limit (n + 1))).run.run
        (s.write style t (.level limit (n + 1))) := by
  have entered : (walker style limit).guarded t (.level limit n) ((walker style limit).dispatch t) =
      (walker style limit).dispatch t (.level limit (n + 1)) :=
    Walker.guarded_of_reaches (walker style limit) reached t _
  rw [entered, Walker.dispatch_eq, ← Walker.visitAll_offer]
  rfl

theorem above_drop {path : List Nat} {first : Nat} {parent : Operation} {ts : List Operation}
    {q : Place} (among : q ∈ Operation.placesAll path first ts) :
    parent.above (q.1.drop path.length) = parent :: (parent.above (q.1.drop path.length)).tail := by
  obtain ⟨index, way, _, _, route, _⟩ := (Operation.mem_placesAll path first ts).mp among
  rw [route, List.drop_left]
  rfl

/-- The visits of children from the number `first` on. The operation itself is not counted among
those around the one held back. -/
def HandsBelow (style : OutlineStyle) (limit : UInt32) (parent : Operation) (path : List Nat)
    (first : Nat) (ts : List Operation) : Prop :=
  ∀ s : Register, Hands limit s.handovers
    ((ts.forM fun t => (walker style limit).visit t (.level limit (path.length + 1))).run.run s)
    ((firstHeld limit (Operation.placesAll path first ts)).map fun q =>
      (q.2, (parent.above (q.1.drop path.length)).tail))

theorem hands_visit_of_below (limited : limit.toNat < Depth.top) {path : List Nat}
    (within : path.length ≤ limit.toNat) {t : Operation}
    (below : path.length < limit.toNat → HandsBelow style limit t path 0 t.children)
    (s : Register) :
    Hands limit s.handovers (((walker style limit).visit t (.level limit path.length)).run.run s)
      ((firstHeld limit (t.places path)).map fun q => (q.2, t.above (q.1.drop path.length))) := by
  rw [Operation.places_eq]
  by_cases full : path.length = limit.toNat
  · have found := hands_refused style limited full t s
    have first : firstHeld limit ((path, t) :: Operation.placesAll path 0 t.children) =
        some (path, t) := List.find?_cons_of_pos (by simpa using full)
    rw [first, Option.map_some, List.drop_length]
    exact found
  · have deeper := Nat.lt_of_le_of_ne within full
    have reached : Depth.Reaches limit (path.length + 1) := (Depth.reaches_iff limited _).mpr deeper
    have children := below deeper (s.write style t (.level limit (path.length + 1)))
    rw [← run_guarded reached] at children
    have around := hands_around style children t
    have passed : firstHeld limit ((path, t) :: Operation.placesAll path 0 t.children) =
        firstHeld limit (Operation.placesAll path 0 t.children) :=
      List.find?_cons_of_neg (by simpa using full)
    rw [passed, Walker.visit_eq]
    cases found : firstHeld limit (Operation.placesAll path 0 t.children) with
    | none =>
      rw [found] at around
      exact around
    | some q =>
      rw [found] at around
      rw [Option.map_some, above_drop (mem_of_firstHeld found)]
      exact around

theorem handsBelow_cons {parent t : Operation} {path : List Nat} {first : Nat}
    {ts : List Operation} (present : parent.children[first]? = some t)
    (visited : ∀ s : Register, Hands limit s.handovers
      (((walker style limit).visit t (.level limit (path.length + 1))).run.run s)
      ((firstHeld limit (t.places (path ++ [first]))).map fun q =>
        (q.2, t.above (q.1.drop (path ++ [first]).length))))
    (later : HandsBelow style limit parent path (first + 1) ts) :
    HandsBelow style limit parent path first (t :: ts) := by
  intro s
  have child := visited s
  rw [Operation.placesAll, firstHeld_append, List.forM_eq_forM, List.forM_cons, run_bind]
  generalize ((walker style limit).visit t (.level limit (path.length + 1))).run.run s = ended
    at child ⊢
  cases found : firstHeld limit (t.places (path ++ [first])) with
  | none =>
    rw [found] at child
    rw [Option.none_or]
    rcases ended with ⟨_ | ⟨⟩, next⟩
    · exact nomatch child.1
    · have rest := later next
      rwa [show next.handovers = s.handovers from child.2] at rest
  | some q =>
    obtain ⟨way, route, _⟩ :=
      (Operation.mem_places (path ++ [first]) t).mp (mem_of_firstHeld found)
    have onward : parent.above (q.1.drop path.length) =
        parent :: t.above (q.1.drop (path ++ [first]).length) := by
      rw [route, List.drop_left, List.append_assoc, List.drop_left]
      exact Operation.above_cons present way
    rw [found] at child
    rw [Option.some_or, Option.map_some, onward]
    rcases ended with ⟨_ | ⟨⟩, next⟩
    · exact child
    · exact nomatch child.1

mutual
theorem hands_visit (style : OutlineStyle) (limited : limit.toNat < Depth.top) (path : List Nat)
    (within : path.length ≤ limit.toNat) : (t : Operation) → (s : Register) →
    Hands limit s.handovers (((walker style limit).visit t (.level limit path.length)).run.run s)
      ((firstHeld limit (t.places path)).map fun q => (q.2, t.above (q.1.drop path.length)))
  | ⟨kind, span, children⟩ =>
    hands_visit_of_below limited within fun deeper =>
      handsBelow style limited deeper ⟨kind, span, children⟩ 0 children rfl
theorem handsBelow (style : OutlineStyle) (limited : limit.toNat < Depth.top) {path : List Nat}
    (deeper : path.length < limit.toNat) (parent : Operation) (first : Nat) :
    (ts : List Operation) → parent.children.drop first = ts →
      HandsBelow style limit parent path first ts
  | [], _ => fun _ => ⟨rfl, rfl⟩
  | t :: ts, rest => by
    obtain ⟨present, onward⟩ := Operation.getElem?_of_drop_eq rest
    have longer : (path ++ [first]).length = path.length + 1 := by simp
    have visited := hands_visit style limited (path ++ [first]) (by omega) t
    have level : Depth.level limit (path ++ [first]).length = .level limit (path.length + 1) := by
      rw [longer]
    rw [level] at visited
    exact handsBelow_cons present visited
      (handsBelow style limited deeper parent (first + 1) ts onward)
end

theorem firstHeld_eq_none_iff (limit : UInt32) (t : Operation) :
    firstHeld limit (t.places []) = none ↔ t.height ≤ limit.toNat := by
  have levels := Operation.map_places [] t
  rw [List.length_nil] at levels
  rw [Operation.height_le_iff_none_below, ← levels, List.forall_mem_map, firstHeld,
    List.find?_eq_none]
  simp

theorem hands_run (style : OutlineStyle) (limited : limit.toNat < Depth.top) (t : Operation) :
    Hands limit [] ((walker style limit).run (some t) {})
      ((firstHeld limit (t.places [])).map fun q => (q.2, t.above q.1)) :=
  hands_visit style limited [] (Nat.zero_le _) t {}

end Register

/-- Printing fails if the tree is higher than the limit, and then the error has the span of the
first operation that is one level too deep, whatever that span is. The error went out through the
visits of that operation and of all around it: the innermost gave it the span, and the others, up to
the root's, left it as it was. -/
theorem error_points_at_first {limit : UInt32} (limited : limit.toNat < 2 ^ 32 - 1)
    (style : OutlineStyle) (t : Operation) :
    let kept := (Register.walker style limit).run (some t) {}
    (walker style limit).run (some t) {} = (kept.1, kept.2.page) ∧
    ((∃ e, (print style limit t).1 = .error e) ↔ limit.toNat < t.height) ∧
    (t.height ≤ limit.toNat → kept.2.handovers = []) ∧
    (limit.toNat < t.height → ∃ path held,
      (t.places []).find? (fun q => q.1.length + 1 = limit.toNat + 1) = some (path, held) ∧
      let named : WalkError := .tooDeep ⟨limit + 1, limit⟩ (some held.span)
      (print style limit t).1 = .error named ∧
      kept.2.handovers.reverse = ⟨held, .tooDeep ⟨limit + 1, limit⟩ none, named⟩ ::
        (t.above path).reverse.map fun u => ⟨u, named, named⟩) := by
  intro kept
  have same : (walker style limit).run (some t) {} = (kept.1, kept.2.page) :=
    (Register.walker_shadows style limit).run t {}
  have printed : (print style limit t).1 = kept.1.map fun _ => kept.2.page.text := by
    rw [print, same]
  have hands := Register.hands_run style limited t
  have shallow := Register.firstHeld_eq_none_iff limit t
  refine ⟨same, ?_⟩
  cases found : Register.firstHeld limit (t.places []) with
  | none =>
    have low := shallow.mp found
    rw [found] at hands
    obtain ⟨done, quiet⟩ := hands
    have text : (print style limit t).1 = .ok kept.2.page.text := by
      rw [printed, done]
      rfl
    refine ⟨⟨fun ⟨e, failed⟩ => ?_, fun high => absurd low (Nat.not_le.mpr high)⟩, fun _ => quiet,
      fun high => absurd low (Nat.not_le.mpr high)⟩
    exact nomatch text.symm.trans failed
  | some q =>
    have high : limit.toNat < t.height := by
      rw [← Nat.not_le, ← shallow, found]
      exact nofun
    rw [found] at hands
    obtain ⟨failed, handed⟩ := hands
    have refused : (print style limit t).1 = .error (Register.named limit q.2) := by
      rw [printed, failed]
      rfl
    refine ⟨⟨fun _ => high, fun _ => ⟨_, refused⟩⟩, fun low => absurd low (Nat.not_le.mpr high),
      fun _ => ⟨q.1, q.2, ?_, refused, ?_⟩⟩
    · simp only [Nat.add_right_cancel_iff]
      exact found
    · show List.reverse kept.2.handovers = _
      rw [handed, Register.trail, List.append_nil, List.reverse_append, List.map_reverse]
      rfl

/-- An inverted span is reported as it is, although the operations around it have spans to show. -/
theorem error_points_at_first_inverted :
    let held : Operation := ⟨.parenthesized, ⟨7, 4⟩, []⟩
    let loop : Operation := ⟨.loop, ⟨3, 8⟩, [held, ⟨.returns, ⟨5, 6⟩, []⟩]⟩
    let tree : Operation := ⟨.block, ⟨0, 9⟩, [⟨.literal "x", ⟨1, 2⟩, []⟩, loop]⟩
    let named : WalkError := .tooDeep ⟨3, 2⟩ (some ⟨7, 4⟩)
    tree.outline 2 = .error named ∧ tree.trace 2 = .error named ∧
      ((Register.walker .outline 2).run (some tree) {}).2.handovers.reverse =
        [⟨held, .tooDeep ⟨3, 2⟩ none, named⟩, ⟨loop, named, named⟩, ⟨tree, named, named⟩] := by
  intro held loop tree named
  have two : (2 : UInt32).toNat < 2 ^ 32 - 1 := by decide
  have high : (2 : UInt32).toNat < tree.height := by decide
  obtain ⟨_, _, _, outlined⟩ := error_points_at_first two .outline tree
  obtain ⟨_, _, _, traced⟩ := error_points_at_first two .trace tree
  obtain ⟨path, first, found, failed, handed⟩ := outlined high
  obtain ⟨path', first', found', failed', _⟩ := traced high
  cases found
  cases found'
  exact ⟨failed, failed', handed⟩

end OperationTree.Outline
