import OperationTree.Proofs.Walk.GuardSoundness
import OperationTree.Proofs.Walk.Search
import OperationTree.Proofs.Walk.Table

/-!
The path to a match. A finder knows the way to the operation at hand from a trail that it keeps by
itself. It is run beside a copy that also notes, at each call of its hook, the trail and the true
place of the call.
-/

namespace OperationTree

theorem Plan.run_onState_modify {ι σ ε : Type} (ways : ι → Run (Journal σ) ε Unit) (f : σ → σ)
    (next : Plan ι σ ε) (s : Journal σ) :
    ((Plan.modify f next).onState.run ways).run.run s =
      (next.onState.run ways).run.run { s with state := f s.state } := rfl

theorem Plan.run_onState_visit_next {ι σ ε : Type} (ways : ι → Run (Journal σ) ε Unit) (way : ι)
    (next : Except ε Unit → Plan ι σ ε) (s : Journal σ) :
    ((Plan.visit way next).onState.run ways).run.run s =
      ((next ((ways way).run.run s).1).onState.run ways).run.run ((ways way).run.run s).2 := rfl

namespace Query

structure Sighting where
  path : List Nat
  trail : List Nat
  operation : Operation
  deriving DecidableEq, Repr

/-- A search and the calls of its hook, the latest first. -/
structure Watch where
  search : Search Trail := { result := {} }
  sightings : List Sighting := []

namespace Watch

def onSearch (f : Search Trail → Search Trail) (s : Watch) : Watch :=
  { s with search := f s.search }

def sight (path : List Nat) (t : Operation) (s : Watch) : Watch :=
  { s with sightings := ⟨path, s.search.result.path.reverse, t⟩ :: s.sightings }

def follow : List Nat → Plan Demand Watch DepthExceeded
  | [] => .done
  | index :: later =>
    .modify (onSearch (onTrail (Trail.down index))) (.visit (.visit index) fun
      | .error e => .fail e
      | .ok () => .modify (onSearch (onTrail Trail.up)) (.read fun s =>
        if s.search.result.found.isSome then .done else follow later))

def pursue (p : Operation → Bool) (t : Operation) : Plan Demand Watch DepthExceeded :=
  .read fun s =>
    if s.search.result.found.isSome then .done
    else .modify (onSearch (Search.examine t))
      (if p t then .modify (onSearch (onTrail Trail.mark)) .done
        else follow (List.range t.children.length))

def table (limit : UInt32) (p : Operation → Bool) : Table Watch DepthExceeded where
  limit := limit
  ofGuard := id
  hook _ := some fun path t _ => .modify (sight path t) (pursue p t)

/-- The trail was right at every call so far, and a match was found at the latest of them. -/
structure Keeps (p : Operation → Bool) (tree : Operation) (s : Watch) : Prop where
  trails : ∀ o ∈ s.sightings, o.trail = o.path ∧ tree.at? o.path = some o.operation
  latest : ∀ hit, s.search.result.found = some hit →
    ∃ o, s.sightings.head? = some o ∧ o.path = hit ∧ p o.operation = true

variable {limit : UInt32} {p : Operation → Bool} {tree : Operation} {path : List Nat}

theorem Keeps.move {s : Watch} (keeps : s.Keeps p tree) (f : Trail → Trail)
    (same : ∀ trail, (f trail).found = trail.found) : (s.onSearch (onTrail f)).Keeps p tree where
  trails := keeps.trails
  latest hit found := keeps.latest hit ((same s.search.result).symm.trans found)

structure Fresh (p : Operation → Bool) (tree : Operation) (path : List Nat)
    (s : Journal Watch) : Prop where
  here : s.path = path
  trail : s.state.search.result = ⟨path.reverse, none⟩
  keeps : s.state.Keeps p tree

/-- Two runs ended alike and with the same search. What was noted is right, and without a failure
the trail leads back to the place. -/
structure Ends (p : Operation → Bool) (tree : Operation) (path : List Nat)
    (plain : Except DepthExceeded Unit × Search Trail)
    (watched : Except DepthExceeded Unit × Journal Watch) : Prop where
  alike : plain = (watched.1, watched.2.state.search)
  keeps : watched.2.state.Keeps p tree
  back : watched.1 = .ok () → watched.2.state.search.result.path = path.reverse

def Follows (p : Operation → Bool) (tree : Operation) (path : List Nat)
    (watched : Run (Journal Watch) DepthExceeded Unit)
    (plain : Run (Search Trail) DepthExceeded Unit) : Prop :=
  ∀ s, Fresh p tree path s → Ends p tree path (plain.run.run s.state.search) (watched.run.run s)

def enter (index : Nat) (s : Journal Watch) : Journal Watch :=
  Journal.step index { s with state := s.state.onSearch (onTrail (Trail.down index)) }

def leave (path : List Nat) (next : Journal Watch) : Journal Watch :=
  { next with path, state := next.state.onSearch (onTrail Trail.up) }

theorem fresh_enter {s : Journal Watch} (fresh : Fresh p tree path s) (index : Nat) :
    Fresh p tree (path ++ [index]) (enter index s) where
  here := congrArg (· ++ [index]) fresh.here
  trail := by
    have down : Trail.down index s.state.search.result = ⟨(path ++ [index]).reverse, none⟩ := by
      rw [fresh.trail, List.reverse_append]
      rfl
    exact down
  keeps := fresh.keeps.move (Trail.down index) fun _ => rfl

theorem trail_leave {next : Journal Watch} {index : Nat}
    (back : next.state.search.result.path = (path ++ [index]).reverse) :
    (leave path next).state.search.result.path = path.reverse := by
  have up : next.state.search.result.path.tail = path.reverse := by
    rw [back, List.reverse_append]
    rfl
  exact up

theorem fresh_leave {next : Journal Watch} {index : Nat} (kept : next.state.Keeps p tree)
    (back : next.state.search.result.path = (path ++ [index]).reverse)
    (none : next.state.search.result.found = none) : Fresh p tree path (leave path next) where
  here := rfl
  trail := by
    have found : (leave path next).state.search.result.found = Option.none := none
    rcases ended : (leave path next).state.search.result with ⟨trail, hit⟩
    rw [ended] at found
    have up := trail_leave back
    rw [ended] at up
    rw [← up, ← found]
  keeps := kept.move Trail.up fun _ => rfl

theorem run_follow_cons (ways : Demand → Run (Journal Watch) DepthExceeded Unit) (index : Nat)
    (later : List Nat) (s : Journal Watch) :
    ((follow (index :: later)).onState.run ways).run.run s =
      match (ways (.visit index)).run.run
        { s with state := s.state.onSearch (onTrail (Trail.down index)) } with
      | (.ok (), next) =>
        if next.state.search.result.found.isSome then
          (.ok (), { next with state := next.state.onSearch (onTrail Trail.up) })
        else ((follow later).onState.run ways).run.run
          { next with state := next.state.onSearch (onTrail Trail.up) }
      | (.error e, next) => (.error e, next) := by
  rw [follow, Plan.run_onState_modify, Plan.run_onState_visit_next]
  rcases (ways (.visit index)).run.run
    { s with state := s.state.onSearch (onTrail (Trail.down index)) } with ⟨_ | ⟨⟩, next⟩
  · rfl
  · rcases next with ⟨⟨⟨⟨trail, _ | hit⟩, examined⟩, sightings⟩, path, visits, calls⟩ <;> rfl

theorem answer_visit (w : Walker (Journal Watch) DepthExceeded) {t child : Operation}
    {index : Nat} (present : t.children[index]? = some child) (depth : Depth) :
    Demand.answer t depth ((w.offer t.children).mapIdx Child.numbered) (.visit index) =
      Journal.inside index (w.visit child depth) := by
  rw [Demand.answer, List.getElem?_mapIdx, getElem?_offer, present]
  rfl

theorem follows_follow {t : Operation} {depth : Depth}
    (each : ∀ index child, t.children[index]? = some child → Follows p tree (path ++ [index])
      ((table limit p).walker.visit child depth)
      ((walker limit (Query.pursue (calling p))).visit child depth))
    (index : Nat) (ts : List Operation) (rest : t.children.drop index = ts) :
    Follows p tree path
      ((follow (List.range' index ts.length)).onState.run (Demand.answer t depth
        (((table limit p).walker.offer t.children).mapIdx Child.numbered)))
      (Query.follow depth index ((walker limit (Query.pursue (calling p))).offer ts)) := by
  induction ts generalizing index with
  | nil => exact fun s fresh => ⟨rfl, fresh.keeps, fun _ => congrArg Trail.path fresh.trail⟩
  | cons child ts ih =>
    obtain ⟨present, onward⟩ := Operation.getElem?_of_drop_eq rest
    intro s fresh
    obtain rfl := fresh.here
    obtain ⟨alike, kept, back⟩ := each index child present (enter index s) (fresh_enter fresh index)
    have visited : (((walker limit (Query.pursue (calling p))).child child
        ((walker limit (Query.pursue (calling p))).dispatch child)).visit depth).run.run
          (onTrail (Trail.down index) s.state.search) = _ := alike
    rw [Walker.offer, Query.run_follow_cons, visited, List.length_cons, List.range'_succ,
      run_follow_cons, answer_visit _ present, Journal.run_inside]
    have entered : Journal.step index
        { s with state := s.state.onSearch (onTrail (Trail.down index)) } = enter index s := rfl
    rw [entered]
    generalize (((table limit p).walker.visit child depth).run.run (enter index s)) = ended
      at kept back ⊢
    rcases ended with ⟨_ | ⟨⟩, next⟩
    · exact ⟨rfl, kept, nofun⟩
    · have returned : next.state.search.result.path = (s.path ++ [index]).reverse := back rfl
      by_cases found : next.state.search.result.found.isSome = true
      · simp only [if_pos found]
        exact ⟨rfl, kept.move Trail.up fun _ => rfl, fun _ => trail_leave returned⟩
      · simp only [if_neg found]
        exact ih (index + 1) onward _ (fresh_leave kept returned (by simpa using found))

def called (t : Operation) (depth : Depth) (s : Journal Watch) : Journal Watch :=
  { s.note t.kind.tag t depth with state := s.state.sight s.path t }

theorem run_dispatch_table (t : Operation) (depth : Depth) (s : Journal Watch) :
    ((table limit p).walker.dispatch t depth).run.run s =
      ((pursue p t).onState.run (Demand.answer t depth
        (((table limit p).walker.offer t.children).mapIdx Child.numbered))).run.run
          (called t depth s) := by
  rw [Walker.dispatch_eq]
  rfl

theorem trail_called {s : Journal Watch} (fresh : Fresh p tree path s) (t : Operation)
    (depth : Depth) : (called t depth s).state.sightings.head? = some ⟨path, path, t⟩ := by
  have trail : s.state.search.result.path.reverse = path := by
    rw [fresh.trail, List.reverse_reverse]
  have latest : (called t depth s).state.sightings.head? =
      some ⟨s.path, s.state.search.result.path.reverse, t⟩ := rfl
  rw [latest, trail, fresh.here]

theorem fresh_called {s : Journal Watch} (fresh : Fresh p tree path s) {t : Operation}
    (found : tree.at? path = some t) (depth : Depth) :
    Fresh p tree path (called t depth s) where
  here := fresh.here
  trail := fresh.trail
  keeps := by
    have trail : s.state.search.result.path.reverse = s.path := by
      rw [fresh.trail, List.reverse_reverse, fresh.here]
    have none : s.state.search.result.found = none := congrArg Trail.found fresh.trail
    rw [← fresh.here] at found
    refine ⟨List.forall_mem_cons.mpr ⟨⟨trail, found⟩, fresh.keeps.trails⟩, fun hit marked => ?_⟩
    exact nomatch none.symm.trans marked

theorem run_pursue_plan (ways : Demand → Run (Journal Watch) DepthExceeded Unit) (t : Operation)
    {s : Journal Watch} (fresh : s.state.search.result.found = none) :
    ((pursue p t).onState.run ways).run.run s =
      if p t then
        (.ok (), { s with
          state := (s.state.onSearch (Search.examine t)).onSearch (onTrail Trail.mark) })
      else ((follow (List.range t.children.length)).onState.run ways).run.run
        { s with state := s.state.onSearch (Search.examine t) } := by
  have isNone : s.state.search.result.found.isSome = false := by rw [fresh]; rfl
  unfold pursue
  rw [Plan.onState, Plan.run_read, isNone]
  cases p t <;> rfl

theorem follows_dispatch {t : Operation} {depth : Depth} (there : tree.at? path = some t)
    (each : ∀ index child, t.children[index]? = some child → Follows p tree (path ++ [index])
      ((table limit p).walker.visit child depth)
      ((walker limit (Query.pursue (calling p))).visit child depth)) :
    Follows p tree path ((table limit p).walker.dispatch t depth)
      ((walker limit (Query.pursue (calling p))).dispatch t depth) := by
  intro s fresh
  have noted := fresh_called fresh there depth
  have latest := trail_called fresh t depth
  have none : (called t depth s).state.search.result.found = none :=
    congrArg Trail.found noted.trail
  have same : s.state.search = (called t depth s).state.search := rfl
  rw [run_dispatch_table, run_pursue_plan _ t none, Walker.dispatch_eq, same]
  have plain : ((walker limit (Query.pursue (calling p))).hook t.kind.tag t depth
      ((walker limit (Query.pursue (calling p))).offer t.children)).run.run
        (called t depth s).state.search = _ := run_pursue_hook t depth _ none
  rw [plain]
  cases fits : p t with
  | true =>
    refine ⟨rfl, ⟨noted.keeps.trails, fun hit marked => ?_⟩,
      fun _ => congrArg Trail.path noted.trail⟩
    have trail : (called t depth s).state.search.result.path.reverse = path := by
      rw [noted.trail, List.reverse_reverse]
    have hitPath : hit = path := (Option.some.inj marked).symm.trans trail
    exact ⟨_, latest, hitPath.symm, fits⟩
  | false =>
    have below := follows_follow each 0 t.children List.drop_zero
    rw [← List.range_eq_range'] at below
    exact below
      { called t depth s with state := (called t depth s).state.onSearch (Search.examine t) }
      ⟨noted.here, noted.trail, noted.keeps.trails, noted.keeps.latest⟩

theorem follows_visit (limit : UInt32) (t : Operation) {path : List Nat} (depth : Depth)
    (there : tree.at? path = some t) :
    Follows p tree path ((table limit p).walker.visit t depth)
      ((walker limit (Query.pursue (calling p))).visit t depth) := by
  show Follows p tree path
    ((table limit p).walker.guarded t depth ((table limit p).walker.dispatch t))
    ((walker limit (Query.pursue (calling p))).guarded t depth
      ((walker limit (Query.pursue (calling p))).dispatch t))
  unfold Walker.guarded
  cases depth.enter with
  | error e => exact fun s fresh => ⟨rfl, fresh.keeps, nofun⟩
  | ok entered =>
    apply follows_dispatch there
    intro index child present
    have smaller := Operation.sizeOf_lt_of_mem (List.mem_of_getElem? present)
    exact follows_visit limit child entered (at?_snoc there present)
termination_by sizeOf t
decreasing_by exact smaller

theorem run_table (limit : UInt32) (p : Operation → Bool) (t : Operation) :
    Ends p t [] ((walker limit (Query.pursue (calling p))).run (some t) { result := {} })
      ((table limit p).walker.run (some t) { state := {} }) := by
  have fresh : Fresh p t [] { state := {} } := ⟨rfl, rfl, by simp, nofun⟩
  exact follows_visit limit t (Depth.root limit) rfl _ fresh

end Watch

theorem least_of_find_reached {limit : UInt32} {p : Operation → Bool} {t : Operation} {q : Place}
    (first : ((reached limit (t.places [])).find? fun q => p q.2) = some q) {other : List Nat}
    {v : Operation} (there : t.at? other = some v) (fits : p v = true) :
    other = q.1 ∨ q.1 < other := by
  obtain ⟨_, before, after, split, none⟩ := List.find?_eq_some_iff_append.mp first
  have whole : t.places [] = before ++ q :: (after ++ (t.places []).dropWhile
      fun q => Depth.Reaches limit (q.1.length + 1)) := by
    rw [← List.cons_append, ← List.append_assoc, ← split]
    exact (List.takeWhile_append_dropWhile ..).symm
  have among : (other, v) ∈ t.places [] := t.mem_places_root.mpr there
  have ascending := t.pairwise_places []
  rw [whole] at among ascending
  rcases List.mem_append.mp among with early | later
  · have fails := none _ early
    simp [fits] at fails
  · rcases List.mem_cons.mp later with rfl | behind
    · exact .inl rfl
    · have below := (List.pairwise_append.mp ascending).2.1
      exact .inr ((List.pairwise_cons.mp below).1 _ behind)

theorem found_of_answer {hunted : Hunt} {hit : List Nat} {limit : UInt32}
    (answered : hunted.answer limit = .ok (some hit)) : hunted = .found hit := by
  cases hunted with
  | found path =>
    cases answered
    rfl
  | missed => cases answered
  | held stop => cases answered

theorem found_of_findPath {limit : UInt32} {p : Operation → Bool} {t : Operation} {hit : List Nat}
    (answered : (findPath limit p t).answer = .ok (some hit)) :
    ((walker limit (pursue (calling p))).run (some t) { result := {} }).2.result.found =
      some hit := by
  unfold findPath ask at answered
  rcases ended : (walker limit (pursue (calling p))).run (some t) { result := {} } with
    ⟨_ | ⟨⟩, search⟩
  · rw [ended] at answered
    cases answered
  · rw [ended] at answered
    exact Except.ok.inj answered

/-- What is found is the match at the least path, where a path comes before those that go on from
it. At every call of its hook the finder's trail leads from the root to the operation at hand, the
last call before a match is the one at the match, and a walk without a failure leaves no trail. -/
theorem findFirst_least (limit : UInt32) (p : Operation → Bool) (t : Operation) :
    let plain := (walker limit (pursue (calling p))).run (some t) { result := {} }
    let watched := (Watch.table limit p).walker.run (some t) { state := {} }
    plain = (watched.1, watched.2.state.search) ∧
    (∀ o ∈ watched.2.state.sightings, o.trail = o.path ∧ t.at? o.path = some o.operation) ∧
    (plain.1 = .ok () → plain.2.result.path = []) ∧
    ∀ hit, (findPath limit p t).answer = .ok (some hit) →
      ∃ u, t.at? hit = some u ∧ p u = true ∧ (findFirst limit p t).answer = .ok (some u) ∧
        watched.2.state.sightings.head? = some ⟨hit, hit, u⟩ ∧
        ∀ other v, t.at? other = some v → p v = true → other = hit ∨ hit < other := by
  intro plain watched
  obtain ⟨alike, keeps, back⟩ := Watch.run_table limit p t
  have outcome : plain.1 = watched.1 := congrArg Prod.fst alike
  have search : plain.2 = watched.2.state.search := congrArg Prod.snd alike
  refine ⟨alike, keeps.trails, fun ok => ?_, fun hit answered => ?_⟩
  · rw [search]
    exact back (outcome.symm.trans ok)
  · have marked : watched.2.state.search.result.found = some hit := by
      rw [← search]
      exact found_of_findPath answered
    obtain ⟨o, latest, place, fits⟩ := keeps.latest hit marked
    obtain ⟨trail, there⟩ := keeps.trails o (List.mem_of_mem_head? latest)
    rw [place] at there
    have sighted : o = ⟨hit, hit, o.operation⟩ := by
      rcases o with ⟨path, _, operation⟩
      cases place
      cases trail
      rfl
    have first : (findFirst limit p t).answer = .ok (some o.operation) := by
      show (findPath limit p t).answer.map (fun path => path.bind t.at?) = _
      rw [answered]
      exact congrArg Except.ok there
    have hunted : (hunt limit p (t.places [])).1.answer limit = .ok (some hit) := by
      rw [findPath_eq] at answered
      exact answered
    obtain ⟨u, least⟩ := find_of_found (found_of_answer hunted)
    refine ⟨o.operation, there, fits, first, by rw [latest, ← sighted], ?_⟩
    intro other v elsewhere matching
    exact least_of_find_reached least elsewhere matching

/-- Of twins the finder returns the first, and it can tell which one that is. -/
theorem findFirst_least_twins :
    let leaf : Operation := ⟨.literal "x", {}, []⟩
    let tree : Operation := ⟨.block, {}, [⟨.loop, {}, [⟨.none, {}, []⟩, leaf]⟩, leaf, leaf]⟩
    let p (t : Operation) : Bool := t.kind.tag == .literal
    (findPath 5 p tree).answer = .ok (some [0, 1]) ∧
      (findFirst 5 p tree).answer = .ok (some leaf) ∧
      ((Watch.table 5 p).walker.run (some tree) { state := {} }).2.state.sightings.head? =
        some ⟨[0, 1], [0, 1], leaf⟩ ∧
      ((walker 5 (pursue (calling p))).run (some tree) { result := {} }).2.result.path = [] := by
  intro leaf tree p
  obtain ⟨_, _, back, least⟩ := findFirst_least 5 p tree
  have answered : (findPath 5 p tree).answer = .ok (some [0, 1]) := rfl
  have done : ((walker 5 (pursue (calling p))).run (some tree) { result := {} }).1 = .ok () := rfl
  obtain ⟨u, there, _, first, latest, _⟩ := least [0, 1] answered
  have twin : leaf = u := Option.some.inj there
  rw [← twin] at first latest
  exact ⟨answered, first, latest, back done⟩

end Query

end OperationTree
