import OperationTree.Operation

namespace OperationTree

abbrev Place : Type := List Nat × Operation

namespace Operation

mutual
/-- The pre-order with paths, where `path` leads to the tree itself. -/
def places (path : List Nat) : Operation → List Place
  | ⟨kind, span, children⟩ => (path, ⟨kind, span, children⟩) :: placesAll path 0 children
def placesAll (path : List Nat) (index : Nat) : List Operation → List Place
  | [] => []
  | t :: ts => t.places (path ++ [index]) ++ placesAll path (index + 1) ts
end

theorem places_eq (path : List Nat) (t : Operation) :
    t.places path = (path, t) :: placesAll path 0 t.children := by
  rcases t with ⟨kind, span, children⟩
  rw [places]

mutual
theorem map_places (path : List Nat) : (t : Operation) →
    (t.places path).map (fun q => (q.2, q.1.length + 1)) = t.preorder (path.length + 1)
  | ⟨kind, span, children⟩ => by
    rw [places, preorder, List.map_cons, map_placesAll path 0 children]
theorem map_placesAll (path : List Nat) (index : Nat) : (ts : List Operation) →
    (placesAll path index ts).map (fun q => (q.2, q.1.length + 1)) =
      preorderAll (path.length + 1 + 1) ts
  | [] => rfl
  | t :: ts => by
    have below : (path ++ [index]).length = path.length + 1 := by simp
    rw [placesAll, preorderAll, List.map_append, map_places (path ++ [index]) t,
      map_placesAll path (index + 1) ts, below]
end

mutual
theorem mem_places {q : Place} (path : List Nat) : (t : Operation) →
    (q ∈ t.places path ↔ ∃ way, q.1 = path ++ way ∧ t.at? way = some q.2)
  | ⟨kind, span, children⟩ => by
    rw [places, List.mem_cons, mem_placesAll path 0 children]
    constructor
    · rintro (rfl | ⟨index, way, child, present, route, found⟩)
      · exact ⟨[], (List.append_nil path).symm, rfl⟩
      · rw [Nat.zero_add] at route
        refine ⟨index :: way, route, ?_⟩
        rw [at?, present]
        exact found
    · rintro ⟨way, route, found⟩
      cases way with
      | nil =>
        rw [List.append_nil] at route
        exact .inl (Prod.ext route (Option.some.inj found).symm)
      | cons index way =>
        rw [at?] at found
        split at found
        · next child present =>
          refine .inr ⟨index, way, child, present, ?_, found⟩
          rw [Nat.zero_add]
          exact route
        · cases found
theorem mem_placesAll {q : Place} (path : List Nat) (first : Nat) : (ts : List Operation) →
    (q ∈ placesAll path first ts ↔ ∃ index way child, ts[index]? = some child ∧
      q.1 = path ++ (first + index) :: way ∧ child.at? way = some q.2)
  | [] => by simp [placesAll]
  | t :: ts => by
    rw [placesAll, List.mem_append, mem_places (path ++ [first]) t,
      mem_placesAll path (first + 1) ts]
    constructor
    · rintro (⟨way, route, found⟩ | ⟨index, way, child, present, route, found⟩)
      · exact ⟨0, way, t, rfl, by simpa using route, found⟩
      · refine ⟨index + 1, way, child, present, ?_, found⟩
        rwa [Nat.add_right_comm, Nat.add_assoc] at route
    · rintro ⟨index, way, child, present, route, found⟩
      cases index with
      | zero =>
        cases present
        exact .inl ⟨way, by simpa using route, found⟩
      | succ index =>
        refine .inr ⟨index, way, child, present, ?_, found⟩
        rwa [Nat.add_right_comm, Nat.add_assoc]
end

theorem mem_places_root {q : Place} (t : Operation) :
    q ∈ t.places [] ↔ t.at? q.1 = some q.2 := by
  rw [mem_places]
  constructor
  · rintro ⟨way, rfl, found⟩
    exact found
  · intro found
    exact ⟨q.1, rfl, found⟩

theorem lt_of_mem_placesAll {path : List Nat} {first : Nat} {ts : List Operation} {q : Place}
    (among : q ∈ placesAll path first ts) : path < q.1 := by
  obtain ⟨index, way, child, _, route, _⟩ := (mem_placesAll path first ts).mp among
  have longer : path ++ [] < path ++ (first + index) :: way :=
    List.append_left_lt (List.nil_lt_cons _ _)
  rwa [List.append_nil, ← route] at longer

mutual
/-- Pre-order is the order of the paths: by the first child number that differs, and a path comes
before those that go on from it. -/
theorem pairwise_places (path : List Nat) : (t : Operation) →
    (t.places path).Pairwise fun q r => q.1 < r.1
  | ⟨kind, span, children⟩ => by
    rw [places, List.pairwise_cons]
    exact ⟨fun q among => lt_of_mem_placesAll among, pairwise_placesAll path 0 children⟩
theorem pairwise_placesAll (path : List Nat) (first : Nat) : (ts : List Operation) →
    (placesAll path first ts).Pairwise fun q r => q.1 < r.1
  | [] => .nil
  | t :: ts => by
    rw [placesAll, List.pairwise_append]
    refine ⟨pairwise_places (path ++ [first]) t, pairwise_placesAll path (first + 1) ts, ?_⟩
    intro q left r right
    obtain ⟨way, route, _⟩ := (mem_places (path ++ [first]) t).mp left
    obtain ⟨index, onward, _, _, detour, _⟩ := (mem_placesAll path (first + 1) ts).mp right
    rw [route, detour, List.append_assoc]
    apply List.append_left_lt
    exact List.cons_lt_cons_iff.mpr (.inl (by omega))
end

theorem getElem?_of_drop_eq {ts us : List Operation} {child : Operation} {index : Nat}
    (rest : ts.drop index = child :: us) :
    ts[index]? = some child ∧ ts.drop (index + 1) = us := by
  have first : (ts.drop index)[0]? = some child := by rw [rest]; rfl
  have later : (ts.drop index).tail = us := by rw [rest]; rfl
  rw [List.getElem?_drop] at first
  rw [List.tail_drop] at later
  exact ⟨first, later⟩

/-- The operations that a path passes, from the root down, without the one that it leads to. -/
def above (t : Operation) : List Nat → List Operation
  | [] => []
  | index :: path => t :: t.children[index]?.elim [] fun child => child.above path

theorem above_cons {t child : Operation} {index : Nat} (present : t.children[index]? = some child)
    (path : List Nat) : t.above (index :: path) = t :: child.above path := by
  rw [above, present]
  rfl

theorem above_snoc {tree t : Operation} {path : List Nat} (found : tree.at? path = some t)
    (index : Nat) : tree.above (path ++ [index]) = tree.above path ++ [t] := by
  induction path generalizing tree with
  | nil =>
    cases found
    rw [List.nil_append, above, above]
    cases t.children[index]? <;> rfl
  | cons first path ih =>
    rw [at?] at found
    split at found
    · next child present =>
      rw [List.cons_append, above_cons present, above_cons present, ih found, List.cons_append]
    · cases found

end Operation

end OperationTree
