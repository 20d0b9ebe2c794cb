import OperationTree.Proofs.Walk.Height
import OperationTree.Proofs.Walk.Places
import OperationTree.Proofs.Walk.Plan
import OperationTree.Query

/-!
Searches for one operation. Asking whether there is a match and asking where the first one stands
are the same search: it goes through the places of a tree in order, up to the first match or to the
first operation that the guard holds back.
-/

namespace OperationTree.Query

variable {α : Type} {limit : UInt32} {p : Operation → Bool}

inductive Hunt where
  | missed
  | found (path : List Nat)
  | held (path : List Nat)
  deriving DecidableEq, Repr

def hunt (limit : UInt32) (p : Operation → Bool) : List Place → Hunt × List Operation
  | [] => (.missed, [])
  | q :: qs =>
    if Depth.Reaches limit (q.1.length + 1) then
      if p q.2 then (.found q.1, [q.2])
      else ((hunt limit p qs).1, q.2 :: (hunt limit p qs).2)
    else (.held q.1, [])

theorem hunt_of_held {q : Place} (held : ¬ Depth.Reaches limit (q.1.length + 1))
    (qs : List Place) : hunt limit p (q :: qs) = (.held q.1, []) := by
  rw [hunt, if_neg held]

theorem hunt_of_match {q : Place} (reached : Depth.Reaches limit (q.1.length + 1))
    (fits : p q.2 = true) (qs : List Place) : hunt limit p (q :: qs) = (.found q.1, [q.2]) := by
  rw [hunt, if_pos reached, if_pos fits]

theorem hunt_of_pass {q : Place} (reached : Depth.Reaches limit (q.1.length + 1))
    (fails : p q.2 = false) (qs : List Place) :
    hunt limit p (q :: qs) = ((hunt limit p qs).1, q.2 :: (hunt limit p qs).2) := by
  rw [hunt, if_pos reached, fails]
  rfl

theorem hunt_append_of_missed {xs : List Place} (missed : (hunt limit p xs).1 = .missed)
    (ys : List Place) : hunt limit p (xs ++ ys) =
      ((hunt limit p ys).1, (hunt limit p xs).2 ++ (hunt limit p ys).2) := by
  induction xs with
  | nil => rfl
  | cons q qs ih =>
    by_cases reached : Depth.Reaches limit (q.1.length + 1)
    · cases fits : p q.2 with
      | true =>
        rw [hunt_of_match reached fits] at missed
        cases missed
      | false =>
        rw [hunt_of_pass reached fits] at missed
        rw [List.cons_append, hunt_of_pass reached fits, hunt_of_pass reached fits, ih missed,
          List.cons_append]
    · rw [hunt_of_held reached] at missed
      cases missed

theorem hunt_append_of_ended {xs : List Place} (ended : (hunt limit p xs).1 ≠ .missed)
    (ys : List Place) : hunt limit p (xs ++ ys) = hunt limit p xs := by
  induction xs with
  | nil => exact absurd rfl ended
  | cons q qs ih =>
    by_cases reached : Depth.Reaches limit (q.1.length + 1)
    · cases fits : p q.2 with
      | true => rw [List.cons_append, hunt_of_match reached fits, hunt_of_match reached fits]
      | false =>
        rw [hunt_of_pass reached fits] at ended
        rw [List.cons_append, hunt_of_pass reached fits, hunt_of_pass reached fits, ih ended]
    · rw [List.cons_append, hunt_of_held reached, hunt_of_held reached]

theorem reaches_of_found {path hit : List Nat} {t : Operation}
    (found : (hunt limit p (t.places path)).1 = .found hit) :
    Depth.Reaches limit (path.length + 1) := by
  by_contra held
  rw [Operation.places_eq, hunt_of_held held] at found
  cases found

structure Keeping (α : Type) where
  missed : α
  found : List Nat → α
  held : List Nat → α

def Keeping.ended (k : Keeping α) (limit : UInt32) (hunted : Hunt × List Operation)
    (earlier : List Operation) : Except DepthExceeded Unit × Search α :=
  let examined := hunted.2.reverse ++ earlier
  match hunted.1 with
  | .missed => (.ok (), ⟨k.missed, examined⟩)
  | .found path => (.ok (), ⟨k.found path, examined⟩)
  | .held path => (.error ⟨(Depth.level limit (path.length + 1)).current, limit⟩,
    ⟨k.held path, examined⟩)

theorem Keeping.ended_of_held (k : Keeping α) {q : Place}
    (held : ¬ Depth.Reaches limit (q.1.length + 1)) (qs : List Place)
    (earlier : List Operation) : k.ended limit (hunt limit p (q :: qs)) earlier =
      (.error ⟨(Depth.level limit (q.1.length + 1)).current, limit⟩, ⟨k.held q.1, earlier⟩) := by
  rw [hunt_of_held held]
  rfl

theorem Keeping.ended_of_match (k : Keeping α) {q : Place}
    (reached : Depth.Reaches limit (q.1.length + 1)) (fits : p q.2 = true) (qs : List Place)
    (earlier : List Operation) : k.ended limit (hunt limit p (q :: qs)) earlier =
      (.ok (), ⟨k.found q.1, q.2 :: earlier⟩) := by
  rw [hunt_of_match reached fits]
  rfl

theorem Keeping.ended_of_pass (k : Keeping α) {q : Place}
    (reached : Depth.Reaches limit (q.1.length + 1)) (fails : p q.2 = false) (qs : List Place)
    (earlier : List Operation) : k.ended limit (hunt limit p (q :: qs)) earlier =
      k.ended limit (hunt limit p qs) (q.2 :: earlier) := by
  rw [hunt_of_pass reached fails]
  unfold ended
  simp only [List.reverse_cons, List.append_assoc, List.singleton_append]

theorem Keeping.ended_append_of_missed (k : Keeping α) {xs : List Place}
    (missed : (hunt limit p xs).1 = .missed) (ys : List Place) (earlier : List Operation) :
    k.ended limit (hunt limit p (xs ++ ys)) earlier =
      k.ended limit (hunt limit p ys) ((hunt limit p xs).2.reverse ++ earlier) := by
  rw [hunt_append_of_missed missed]
  unfold ended
  simp only [List.reverse_append, List.append_assoc]

theorem visit_level (hook : Hook (Search α) DepthExceeded) (t : Operation) (n : Nat) :
    (walker limit hook).visit t (.level limit n) =
      if Depth.Reaches limit (n + 1) then
        hook t (.level limit (n + 1)) ((walker limit hook).offer t.children)
      else throw ⟨(Depth.level limit (n + 1)).current, limit⟩ := by
  have guarded := Walker.guarded_level (walker limit hook) t n ((walker limit hook).dispatch t)
  rw [Walker.dispatch_eq] at guarded
  exact guarded

def detecting : Keeping Bool where
  missed := false
  found _ := true
  held _ := false

/-- Nothing happens any more once there is a match; the guard lets the rest of the level through. -/
theorem run_detected {n : Nat} (reached : Depth.Reaches limit (n + 1)) (ts : List Operation)
    (earlier : List Operation) :
    (ts.forM fun t => (walker limit (detect (calling p))).visit t (.level limit n)).run.run
      ⟨true, earlier⟩ = (.ok (), ⟨true, earlier⟩) := by
  induction ts with
  | nil => rfl
  | cons t ts ih =>
    rw [List.forM_eq_forM] at ih ⊢
    rw [List.forM_cons, run_bind, visit_level, if_pos reached]
    exact ih

theorem run_detect_hook (t : Operation) (depth : Depth)
    (children : List (Child (Search Bool) DepthExceeded)) (earlier : List Operation) :
    (detect (calling p) t depth children).run.run ⟨false, earlier⟩ =
      if p t then (.ok (), ⟨true, t :: earlier⟩)
      else (visitAll children depth).run.run ⟨false, t :: earlier⟩ := by
  unfold detect calling
  cases p t <;> rfl

mutual
theorem run_detect (path : List Nat) (earlier : List Operation) : (t : Operation) →
    ((walker limit (detect (calling p))).visit t (.level limit path.length)).run.run
      ⟨false, earlier⟩ = detecting.ended limit (hunt limit p (t.places path)) earlier
  | ⟨kind, span, children⟩ => by
    have below := run_detectAll path 0 (⟨kind, span, children⟩ :: earlier) children
    rw [visit_level, Operation.places]
    by_cases reached : Depth.Reaches limit (path.length + 1)
    · rw [if_pos reached, run_detect_hook, Walker.visitAll_offer]
      cases fits : p ⟨kind, span, children⟩ with
      | true =>
        rw [detecting.ended_of_match reached fits]
        rfl
      | false =>
        rw [detecting.ended_of_pass reached fits, ← below reached]
        rfl
    · rw [if_neg reached, detecting.ended_of_held reached]
      rfl
theorem run_detectAll (path : List Nat) (index : Nat) (earlier : List Operation) :
    (ts : List Operation) → Depth.Reaches limit (path.length + 1) →
    (ts.forM fun t =>
      (walker limit (detect (calling p))).visit t (.level limit (path.length + 1))).run.run
        ⟨false, earlier⟩ =
      detecting.ended limit (hunt limit p (Operation.placesAll path index ts)) earlier
  | [], _ => rfl
  | t :: ts, reached => by
    have first := run_detect (path ++ [index]) earlier t
    have onLevel : (path ++ [index]).length = path.length + 1 := by simp
    rw [onLevel] at first
    rw [List.forM_eq_forM, List.forM_cons, run_bind, first, Operation.placesAll]
    -- after a match the later siblings are entered, but nothing more is done there
    cases ended : (hunt limit p (t.places (path ++ [index]))).1 with
    | missed =>
      have later := run_detectAll path (index + 1)
        ((hunt limit p (t.places (path ++ [index]))).2.reverse ++ earlier) ts reached
      rw [detecting.ended_append_of_missed ended, ← later]
      unfold Keeping.ended
      rw [ended]
      rfl
    | found hit =>
      have entered := reaches_of_found ended
      rw [onLevel] at entered
      have idle := run_detected (p := p) entered ts
      rw [hunt_append_of_ended (by simp [ended])]
      unfold Keeping.ended
      rw [ended]
      exact idle _
    | held stop =>
      rw [hunt_append_of_ended (by simp [ended])]
      unfold Keeping.ended
      rw [ended]
end

/-- The trail leads back to where the search began, or to the operation that was held back. -/
def pursuing (path : List Nat) : Keeping Trail where
  missed := ⟨path.reverse, none⟩
  found hit := ⟨path.reverse, some hit⟩
  held stop := ⟨stop.reverse, none⟩

theorem run_follow_cons (depth : Depth) (index : Nat)
    (child : Child (Search Trail) DepthExceeded)
    (rest : List (Child (Search Trail) DepthExceeded)) (s : Search Trail) :
    (follow depth index (child :: rest)).run.run s =
      match (child.visit depth).run.run (onTrail (Trail.down index) s) with
      | (.ok (), next) =>
        if next.result.found.isSome then (.ok (), onTrail Trail.up next)
        else (follow depth (index + 1) rest).run.run (onTrail Trail.up next)
      | (.error e, next) => (.error e, next) := by
  show ((child.visit depth) >>= fun _ => _).run.run (onTrail (Trail.down index) s) = _
  rw [run_bind]
  rcases (child.visit depth).run.run (onTrail (Trail.down index) s) with ⟨_ | ⟨⟩, next⟩
  · rfl
  · rcases next with ⟨⟨path, _ | hit⟩, examined⟩ <;> rfl

theorem run_pursue_hook (t : Operation) (depth : Depth)
    (children : List (Child (Search Trail) DepthExceeded)) {s : Search Trail}
    (fresh : s.result.found = none) :
    (pursue (calling p) t depth children).run.run s =
      if p t then (.ok (), onTrail Trail.mark (s.examine t))
      else (follow depth 0 children).run.run (s.examine t) := by
  rcases s with ⟨⟨path, found⟩, examined⟩
  cases fresh
  unfold pursue calling
  cases p t <;> rfl

theorem down_trail (path : List Nat) (index : Nat) (earlier : List Operation) :
    onTrail (Trail.down index) ⟨⟨path.reverse, none⟩, earlier⟩ =
      ⟨⟨(path ++ [index]).reverse, none⟩, earlier⟩ := by
  rw [List.reverse_append]
  rfl

theorem up_trail (path : List Nat) (index : Nat) (found : Option (List Nat))
    (examined : List Operation) :
    onTrail Trail.up ⟨⟨(path ++ [index]).reverse, found⟩, examined⟩ =
      ⟨⟨path.reverse, found⟩, examined⟩ := by
  rw [List.reverse_append]
  rfl

mutual
theorem run_pursue (path : List Nat) (earlier : List Operation) : (t : Operation) →
    ((walker limit (pursue (calling p))).visit t (.level limit path.length)).run.run
      ⟨⟨path.reverse, none⟩, earlier⟩ =
      (pursuing path).ended limit (hunt limit p (t.places path)) earlier
  | ⟨kind, span, children⟩ => by
    have below := run_follow path 0 (⟨kind, span, children⟩ :: earlier) children
    rw [visit_level, Operation.places]
    by_cases reached : Depth.Reaches limit (path.length + 1)
    · rw [if_pos reached, run_pursue_hook _ _ _ rfl]
      cases fits : p ⟨kind, span, children⟩ with
      | true =>
        have marked : (pursuing path).found path = ⟨path.reverse, some path.reverse.reverse⟩ := by
          rw [List.reverse_reverse]
          rfl
        rw [(pursuing path).ended_of_match reached fits, marked]
        rfl
      | false =>
        rw [(pursuing path).ended_of_pass reached fits, ← below]
        rfl
    · rw [if_neg reached, (pursuing path).ended_of_held reached]
      rfl
theorem run_follow (path : List Nat) (index : Nat) (earlier : List Operation) :
    (ts : List Operation) →
    (follow (.level limit (path.length + 1)) index
      ((walker limit (pursue (calling p))).offer ts)).run.run ⟨⟨path.reverse, none⟩, earlier⟩ =
      (pursuing path).ended limit (hunt limit p (Operation.placesAll path index ts)) earlier
  | [] => rfl
  | t :: ts => by
    have first := run_pursue (path ++ [index]) earlier t
    have onLevel : (path ++ [index]).length = path.length + 1 := by simp
    rw [onLevel] at first
    have visited : (((walker limit (pursue (calling p))).child t
        ((walker limit (pursue (calling p))).dispatch t)).visit
          (.level limit (path.length + 1))).run.run
          (onTrail (Trail.down index) ⟨⟨path.reverse, none⟩, earlier⟩) =
        (pursuing (path ++ [index])).ended limit (hunt limit p (t.places (path ++ [index])))
          earlier := by
      rw [down_trail]
      exact first
    rw [Walker.offer, run_follow_cons, visited, Operation.placesAll]
    cases ended : (hunt limit p (t.places (path ++ [index]))).1 with
    | missed =>
      have later := run_follow path (index + 1)
        ((hunt limit p (t.places (path ++ [index]))).2.reverse ++ earlier) ts
      rw [(pursuing path).ended_append_of_missed ended, ← later]
      unfold Keeping.ended
      simp only [ended, pursuing, up_trail]
      rfl
    | found hit =>
      rw [hunt_append_of_ended (by simp [ended])]
      unfold Keeping.ended
      simp only [ended, pursuing, up_trail]
      rfl
    | held stop =>
      rw [hunt_append_of_ended (by simp [ended])]
      unfold Keeping.ended
      simp only [ended, pursuing]
end

def Hunt.answer (limit : UInt32) : Hunt → Except DepthExceeded (Option (List Nat))
  | .missed => .ok none
  | .found path => .ok (some path)
  | .held path => .error ⟨(Depth.level limit (path.length + 1)).current, limit⟩

theorem findPath_eq (limit : UInt32) (p : Operation → Bool) (t : Operation) :
    findPath limit p t =
      ⟨(hunt limit p (t.places [])).1.answer limit, (hunt limit p (t.places [])).2⟩ := by
  have searched : (walker limit (pursue (calling p))).run (some t) { result := {} } =
      (pursuing []).ended limit (hunt limit p (t.places [])) [] := run_pursue [] [] t
  unfold findPath ask
  rw [searched]
  unfold Keeping.ended
  cases (hunt limit p (t.places [])).1 <;>
    simp only [List.append_nil, List.reverse_reverse] <;> rfl

theorem contains_eq (limit : UInt32) (p : Operation → Bool) (t : Operation) :
    contains limit p t = ⟨((hunt limit p (t.places [])).1.answer limit).map Option.isSome,
      (hunt limit p (t.places [])).2⟩ := by
  have searched : (walker limit (detect (calling p))).run (some t) { result := false } =
      detecting.ended limit (hunt limit p (t.places [])) [] := run_detect [] [] t
  unfold contains ask
  rw [searched]
  unfold Keeping.ended
  cases (hunt limit p (t.places [])).1 <;>
    simp only [List.append_nil, List.reverse_reverse] <;> rfl

def upTo (p : Operation → Bool) : List Operation → List Operation
  | [] => []
  | t :: ts => if p t then [t] else t :: upTo p ts

def reached (limit : UInt32) (qs : List Place) : List Place :=
  qs.takeWhile fun q => Depth.Reaches limit (q.1.length + 1)

theorem hunt_eq (limit : UInt32) (p : Operation → Bool) (qs : List Place) :
    hunt limit p qs =
      (match (reached limit qs).find? fun q => p q.2 with
        | some q => .found q.1
        | none =>
          match qs.find? fun q => ¬ Depth.Reaches limit (q.1.length + 1) with
          | some q => .held q.1
          | none => .missed,
        upTo p ((reached limit qs).map Prod.snd)) := by
  induction qs with
  | nil => rfl
  | cons q qs ih =>
    unfold reached at ih ⊢
    by_cases within : Depth.Reaches limit (q.1.length + 1)
    · rw [List.takeWhile_cons_of_pos (by simpa using within), List.map_cons, upTo,
        List.find?_cons_of_neg (l := qs) (by simpa using within)]
      cases fits : p q.2 with
      | true =>
        rw [hunt_of_match within fits, List.find?_cons_of_pos (by simpa using fits)]
        rfl
      | false =>
        rw [hunt_of_pass within fits, List.find?_cons_of_neg (by simpa using fits), ih]
        rfl
    · rw [List.takeWhile_cons_of_neg (by simpa using within), hunt_of_held within,
        List.find?_cons_of_pos (l := qs) (by simpa using within)]
      rfl

theorem map_reached (limited : limit.toNat < Depth.top) (t : Operation) :
    (reached limit (t.places [])).map Prod.snd = t.inReach limit.toNat := by
  have levels : (t.places []).map (fun q => (q.2, q.1.length + 1)) = t.preorder 1 :=
    t.map_places []
  rw [Operation.inReach_eq, ← levels, List.takeWhile_map, List.map_map, reached]
  simp only [Depth.reaches_iff limited]
  rfl

theorem find_reached (limited : limit.toNat < Depth.top) (p : Operation → Bool) (t : Operation) :
    (t.inReach limit.toNat).find? p =
      ((reached limit (t.places [])).find? fun q => p q.2).map Prod.snd := by
  rw [← map_reached limited, List.find?_map]
  rfl

theorem held_of_height (limited : limit.toNat < Depth.top) (t : Operation) :
    (match (t.places []).find? fun q => ¬ Depth.Reaches limit (q.1.length + 1) with
      | some q => Hunt.held q.1
      | none => Hunt.missed : Hunt).answer limit =
    if t.height ≤ limit.toNat then .ok none else .error ⟨limit + 1, limit⟩ := by
  have levels : (t.places []).map (fun q => (q.2, q.1.length + 1)) = t.preorder 1 :=
    t.map_places []
  have stops : (t.preorder 1).find? (fun r => limit.toNat < r.2) =
      ((t.places []).find? fun q => ¬ Depth.Reaches limit (q.1.length + 1)).map
        fun q => (q.2, q.1.length + 1) := by
    rw [← levels, List.find?_map]
    simp only [Depth.reaches_iff limited, Nat.not_le]
    rfl
  by_cases shallow : t.height ≤ limit.toNat
  · have within := (Operation.height_le_iff limit.toNat t).mp shallow
    have none : (t.preorder 1).find? (fun r => limit.toNat < r.2) = none := by
      rw [List.find?_eq_none]
      intro r among
      simpa using within r among
    rw [none, eq_comm, Option.map_eq_none_iff] at stops
    rw [stops, if_pos shallow]
    rfl
  · obtain ⟨deep, among, below⟩ := Operation.deep_of_lt_height (Nat.lt_of_not_le shallow)
    have someDeep : ((t.preorder 1).find? fun r => limit.toNat < r.2).isSome = true := by
      rw [List.find?_isSome]
      exact ⟨deep, among, by simpa using below⟩
    obtain ⟨r, found⟩ := Option.isSome_iff_exists.mp someDeep
    have oneBelow := Operation.first_too_deep (Nat.succ_le_succ (Nat.zero_le _)) t found
    rw [found, eq_comm, Option.map_eq_some_iff] at stops
    obtain ⟨q, stop, rfl⟩ := stops
    rw [stop, if_neg shallow]
    have level : q.1.length + 1 = limit.toNat + 1 := oneBelow
    show Except.error _ = _
    rw [level, Depth.current_above limited]

theorem answer_eq (limited : limit.toNat < Depth.top) (p : Operation → Bool) (t : Operation) :
    (hunt limit p (t.places [])).1.answer limit =
      match (reached limit (t.places [])).find? fun q => p q.2 with
      | some q => .ok (some q.1)
      | none => if t.height ≤ limit.toNat then .ok none else .error ⟨limit + 1, limit⟩ := by
  rw [hunt_eq]
  cases (reached limit (t.places [])).find? fun q => p q.2 with
  | some q => rfl
  | none => exact held_of_height limited t

theorem at?_of_find_reached {q : Place} {t : Operation}
    (found : ((reached limit (t.places [])).find? fun q => p q.2) = some q) :
    t.at? q.1 = some q.2 := by
  have among := List.mem_of_find?_eq_some found
  exact t.mem_places_root.mp ((List.takeWhile_sublist _).subset among)

theorem find_of_found {hit : List Nat} {qs : List Place}
    (found : (hunt limit p qs).1 = .found hit) :
    ∃ u, ((reached limit qs).find? fun q => p q.2) = some (hit, u) := by
  rw [hunt_eq] at found
  split at found
  · next q first =>
    cases found
    exact ⟨q.2, first⟩
  · split at found <;> cases found

theorem findFirst_answer (limited : limit.toNat < Depth.top) (p : Operation → Bool)
    (t : Operation) : (findFirst limit p t).answer =
      match (t.inReach limit.toNat).find? p with
      | some u => .ok (some u)
      | none => if t.height ≤ limit.toNat then .ok none else .error ⟨limit + 1, limit⟩ := by
  unfold findFirst
  rw [findPath_eq, find_reached limited]
  simp only [answer_eq limited]
  cases found : (reached limit (t.places [])).find? fun q => p q.2 with
  | some q =>
    have there := at?_of_find_reached found
    show Except.ok (t.at? q.1) = _
    rw [there]
    rfl
  | none =>
    simp only [Option.map_none]
    split <;> rfl

theorem contains_answer (limit : UInt32) (p : Operation → Bool) (t : Operation) :
    (contains limit p t).answer = (findFirst limit p t).answer.map Option.isSome := by
  unfold findFirst
  rw [contains_eq, findPath_eq]
  cases ended : (hunt limit p (t.places [])).1 with
  | missed => rfl
  | held stop => rfl
  | found hit =>
    obtain ⟨u, first⟩ := find_of_found ended
    have there : t.at? hit = some u := at?_of_find_reached first
    show Except.ok true = Except.ok (t.at? hit).isSome
    rw [there]
    rfl

theorem examined_eq (limited : limit.toNat < Depth.top) (p : Operation → Bool) (t : Operation) :
    (hunt limit p (t.places [])).2 = upTo p (t.inReach limit.toNat) := by
  rw [hunt_eq, ← map_reached limited]

/-- Asking for a match and asking for the first one are the same search. Both look at the
operations in pre-order up to the first match, or up to the first operation one level below the
limit, and fail at that one; what is entered after a match makes neither of them fail. -/
theorem searches_agree (limited : limit.toNat < 2 ^ 32 - 1) (p : Operation → Bool)
    (t : Operation) :
    let asked := contains limit p t
    let sought := findFirst limit p t
    asked.answer = sought.answer.map Option.isSome ∧
    asked.examined = upTo p (t.inReach limit.toNat) ∧ sought.examined = asked.examined ∧
    (∀ u, sought.answer = .ok (some u) ↔ (t.inReach limit.toNat).find? p = some u) ∧
    (asked.answer = .ok true ↔ ∃ u ∈ t.inReach limit.toNat, p u = true) ∧
    (asked.answer = .ok false ↔
      (∀ u ∈ t.inReach limit.toNat, p u = false) ∧ ∀ q ∈ t.preorder 1, q.2 ≠ limit.toNat + 1) ∧
    ∀ e, asked.answer = .error e ↔ e = ⟨limit + 1, limit⟩ ∧
      (∀ u ∈ t.inReach limit.toNat, p u = false) ∧ ∃ q ∈ t.preorder 1, q.2 = limit.toNat + 1 := by
  intro asked sought
  have same : asked.answer = sought.answer.map Option.isSome := contains_answer limit p t
  have answer : sought.answer = _ := findFirst_answer limited p t
  have askedFor : asked.examined = upTo p (t.inReach limit.toNat) := by
    show (contains limit p t).examined = _
    rw [contains_eq, examined_eq limited]
  have soughtFor : sought.examined = upTo p (t.inReach limit.toNat) := by
    show (findPath limit p t).examined = _
    rw [findPath_eq, examined_eq limited]
  refine ⟨same, askedFor, soughtFor.trans askedFor.symm, ?_⟩
  rw [same, answer, ← Operation.height_le_iff_none_below, ← Operation.lt_height_iff_one_below]
  cases found : (t.inReach limit.toNat).find? p with
  | some u =>
    have among := List.mem_of_find?_eq_some found
    have fits := List.find?_some found
    have someFits : ∃ u ∈ t.inReach limit.toNat, p u = true := ⟨u, among, fits⟩
    have notNone : ¬ ∀ u ∈ t.inReach limit.toNat, p u = false := by simpa using someFits
    simp [Except.map, someFits, notNone]
  | none =>
    have noneFits : ∀ u ∈ t.inReach limit.toNat, p u = false := by simpa using found
    have notSome : ¬ ∃ u ∈ t.inReach limit.toNat, p u = true := by simpa using noneFits
    by_cases shallow : t.height ≤ limit.toNat
    · have notHigh : ¬ limit.toNat < t.height := Nat.not_lt.mpr shallow
      simpa [Except.map, notSome, shallow, notHigh] using noneFits
    · have high : limit.toNat < t.height := Nat.lt_of_not_le shallow
      have only (e : DepthExceeded) :
          (⟨limit + 1, limit⟩ : DepthExceeded) = e ↔ e = ⟨limit + 1, limit⟩ ∧
            (∀ u ∈ t.inReach limit.toNat, p u = false) ∧ limit.toNat < t.height :=
        ⟨fun same => ⟨same.symm, noneFits, high⟩, fun same => same.1.symm⟩
      simpa [Except.map, notSome, shallow] using only

/-- The match stands beside a chain that is too deep: before the chain it is found, after it the
chain is met first. -/
theorem searches_agree_beside :
    let leaf : Operation := ⟨.literal "x", {}, []⟩
    let chain : Operation := ⟨.loop, {}, [⟨.block, {}, [leaf]⟩]⟩
    let goal : Operation := ⟨.returns, {}, []⟩
    let p (t : Operation) : Bool := t.kind.tag == .returns
    let early : Operation := ⟨.block, {}, [leaf, goal, chain]⟩
    let late : Operation := ⟨.block, {}, [leaf, chain, goal]⟩
    (2 : UInt32).toNat < 2 ^ 32 - 1 ∧
      (contains 2 p early).answer = .ok true ∧ (findFirst 2 p early).answer = .ok (some goal) ∧
      (contains 2 p early).examined = [early, leaf, goal] ∧
      (contains 2 p late).answer = .error ⟨3, 2⟩ ∧
      (findFirst 2 p late).examined = [late, leaf, chain] := by
  intro leaf chain goal p early late
  have two : (2 : UInt32).toNat < 2 ^ 32 - 1 := by decide
  obtain ⟨_, seen, _, first, found, _, _⟩ := searches_agree two p early
  obtain ⟨_, missed, same, _, _, _, fails⟩ := searches_agree two p late
  refine ⟨two, found.mpr ⟨goal, by decide, by decide⟩, (first goal).mpr (by decide),
    seen.trans (by decide), (fails ⟨3, 2⟩).mpr ⟨rfl, by decide, by decide⟩, ?_⟩
  exact (same.trans missed).trans (by decide)

end OperationTree.Query
