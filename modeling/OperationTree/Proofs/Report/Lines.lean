import OperationTree.Report

namespace OperationTree.Report

theorem flatten_splitLines (source : List Char) : (splitLines source).flatten = source := by
  induction source using splitLines.induct with
  | case1 => rfl
  | case2 rest ih => rw [splitLines, List.flatten_cons, ih]; rfl
  | case3 c rest notPair ends ih =>
    rw [splitLines.eq_3 _ _ notPair, if_pos ends, List.flatten_cons, ih, List.singleton_append]
  | case4 c rest notPair goesOn none ih =>
    rw [splitLines.eq_3 _ _ notPair, if_neg goesOn, none, ← ih, none]
    rfl
  | case5 c rest notPair goesOn line lines some ih =>
    rw [splitLines.eq_3 _ _ notPair, if_neg goesOn, some, ← ih, some]
    rfl

theorem placeLines_append (offset : Nat) (above below : List (List Char)) :
    placeLines offset (above ++ below) =
      placeLines offset above ++ placeLines (offset + above.flatten.length) below := by
  induction above generalizing offset with
  | nil => rfl
  | cons line above ih =>
    rw [List.cons_append, placeLines, ih, placeLines, List.flatten_cons, List.length_append,
      Nat.add_assoc]
    rfl

theorem length_placeLines (offset : Nat) (lines : List (List Char)) :
    (placeLines offset lines).length = lines.length := by
  induction lines generalizing offset with
  | nil => rfl
  | cons line lines ih => rw [placeLines, List.length_cons, ih, List.length_cons]

theorem offset_of_mem_placeLines {offset : Nat} {lines : List (List Char)} {l : SourceLine}
    (among : l ∈ placeLines offset lines) :
    offset ≤ l.offset ∧ l.offset ≤ offset + lines.flatten.length := by
  induction lines generalizing offset with
  | nil => cases among
  | cons line lines ih =>
    rw [List.flatten_cons, List.length_append]
    cases among with
    | head => exact ⟨Nat.le_refl _, Nat.le_add_right ..⟩
    | tail _ later =>
      have bounds := ih later
      omega

theorem stop_getLast? (offset : Nat) (lines : List (List Char)) :
    ((placeLines offset lines).getLast?.map SourceLine.stop).getD offset =
      offset + lines.flatten.length := by
  induction lines generalizing offset with
  | nil => rfl
  | cons line lines ih =>
    rw [placeLines, List.getLast?_cons, List.flatten_cons, List.length_append, ← Nat.add_assoc,
      ← ih]
    cases (placeLines (offset + line.length) lines).getLast? <;> rfl

theorem lineAt?_split {above below : List (List Char)} {l : List Char} {k : Nat}
    (within : k < l.length) :
    lineAt? (placeLines 0 (above ++ l :: below)) (above.flatten.length + k) =
      some (above.length, ⟨above.flatten.length, l⟩) := by
  have early : ∀ p ∈ (placeLines 0 above).zipIdx, p.1.offset ≤ above.flatten.length + k := by
    intro p among
    have bounds := offset_of_mem_placeLines (List.fst_mem_of_mem_zipIdx among)
    omega
  have late (first : Nat) : ∀ p ∈ (placeLines (above.flatten.length + l.length) below).zipIdx first,
      ¬ p.1.offset ≤ above.flatten.length + k := by
    intro p among
    have bounds := offset_of_mem_placeLines (List.fst_mem_of_mem_zipIdx among)
    omega
  have inside : ¬ 0 + (above ++ l :: below).flatten.length < above.flatten.length + k := by
    rw [List.flatten_append, List.flatten_cons, List.length_append, List.length_append]
    omega
  simp only [lineAt?, stop_getLast?, if_neg inside]
  rw [placeLines_append, placeLines, List.zipIdx_append, List.zipIdx_cons, List.filter_append,
    List.filter_eq_self.mpr (by simpa using early), List.filter_cons_of_pos (by simp),
    List.filter_eq_nil_iff.mpr (by simpa using late _), List.getLast?_concat, length_placeLines]
  simp

theorem lineAt?_eq_some {lines : List SourceLine} {k index : Nat} {l : SourceLine}
    (falls : lineAt? lines k = some (index, l)) :
    lines[index]? = some l ∧ l.offset ≤ k := by
  simp only [lineAt?] at falls
  split at falls
  · cases falls
  · obtain ⟨⟨l', index'⟩, last, same⟩ := Option.map_eq_some_iff.mp falls
    cases same
    obtain ⟨among, before⟩ := List.mem_filter.mp (List.mem_of_getLast? last)
    exact ⟨List.mk_mem_zipIdx_iff_getElem?.mp among, of_decide_eq_true before⟩

theorem sourceLines_of_ne_nil {source : List Char} (nonempty : source ≠ []) :
    sourceLines source = placeLines 0 (splitLines source) := by
  rw [sourceLines, if_neg (by simpa using nonempty)]

theorem lineAt?_eq_none {source : List Char} (nonempty : source ≠ []) {k : Nat} :
    lineAt? (sourceLines source) k = none ↔ source.length < k := by
  have whole := flatten_splitLines source
  rw [sourceLines_of_ne_nil nonempty]
  cases lines : splitLines source with
  | nil =>
    rw [lines] at whole
    exact absurd whole.symm nonempty
  | cons line later =>
    rw [lines] at whole
    simp only [lineAt?, stop_getLast?, Nat.zero_add, whole]
    split
    · next beyond => exact iff_of_true rfl beyond
    · next inside =>
      -- the first line begins with the text, so the filter keeps it
      rw [placeLines, List.zipIdx_cons, List.filter_cons_of_pos (by simp), List.getLast?_cons]
      exact iff_of_false nofun inside

/-- The character at an index stands in a line, and in a column of it. -/
inductive Stands (source : List Char) : (index line column : Nat) → Prop
  | mk {above below : List (List Char)} {l : List Char} {k : Nat} :
    splitLines source = above ++ l :: below → k < l.length →
    Stands source (above.flatten.length + k) (above.length + 1) (k + 1)

theorem exists_split {lines : List (List Char)} {index : Nat}
    (within : index < lines.flatten.length) :
    ∃ above l below k, lines = above ++ l :: below ∧ k < l.length ∧
      above.flatten.length + k = index := by
  induction lines generalizing index with
  | nil => cases within
  | cons line lines ih =>
    rw [List.flatten_cons, List.length_append] at within
    by_cases here : index < line.length
    · exact ⟨[], line, lines, index, rfl, here, Nat.zero_add _⟩
    · have later : index - line.length < lines.flatten.length := by omega
      obtain ⟨above, l, below, k, rfl, short, same⟩ := ih later
      refine ⟨line :: above, l, below, k, rfl, short, ?_⟩
      rw [List.flatten_cons, List.length_append]
      omega

theorem exists_stands {source : List Char} {index : Nat} (within : index < source.length) :
    ∃ line column, Stands source index line column := by
  rw [← flatten_splitLines source] at within
  obtain ⟨above, l, below, k, split, short, rfl⟩ := exists_split within
  exact ⟨_, _, .mk split short⟩

theorem Stands.lineAt?_eq {source : List Char} {index line column : Nat}
    (stands : Stands source index line column) :
    ∃ row l, lineAt? (sourceLines source) index = some (row, l) ∧ row + 1 = line ∧
      l.offset + column = index + 1 := by
  obtain @⟨above, below, l, k, split, short⟩ := stands
  have nonempty : source ≠ [] := by rintro rfl; simp [splitLines] at split
  rw [sourceLines_of_ne_nil nonempty, split]
  exact ⟨_, _, lineAt?_split short, rfl, (Nat.add_assoc ..).symm⟩

theorem Stands.index_eq {source : List Char} {index row column k : Nat} {l : SourceLine}
    (stands : Stands source index (row + 1) column)
    (falls : lineAt? (sourceLines source) k = some (row, l))
    (same : l.offset + column = k + 1) : k = index := by
  obtain ⟨row', l', falls', rows, same'⟩ := stands.lineAt?_eq
  cases rows
  have one := (lineAt?_eq_some falls).1.symm.trans (lineAt?_eq_some falls').1
  cases one
  omega

end OperationTree.Report
