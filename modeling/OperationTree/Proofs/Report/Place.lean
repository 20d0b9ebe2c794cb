import OperationTree.Proofs.Report.Lines
import OperationTree.Proofs.Spans
import OperationTree.Proofs.Text.Lines

/-!
Where a report says that an operation stands. A span counts bytes, and a report counts characters,
so the two agree exactly if no character up to the end of the span takes more than one byte.
-/

namespace OperationTree.Report

def heading (filename : String) : String :=
  "Error: operation tree too deep (" ++ filename ++ ")\n"

def opening (margin line column : Nat) : List Char :=
  List.replicate margin ' ' ++
    ("╭─[<unknown>:" ++ toString line ++ ":" ++ toString column ++ "]").toList

/-- A report gives a line and a column in the row below its heading. -/
def Gives (report filename : String) (line column : Nat) : Prop :=
  ∃ margin rest,
    report = heading filename ++ (String.ofList (opening margin line column) ++ "\n" ++ rest)

theorem opening_append (margin line column : Nat) (rest : List Char) :
    opening margin line column ++ rest = List.replicate margin ' ' ++ '╭' ::
      ("─[<unknown>:".toList ++ (Nat.toDigits 10 line ++ ':' ::
        (Nat.toDigits 10 column ++ ']' :: rest))) := by
  have digits (n : Nat) : (toString n).toList = Nat.toDigits 10 n := Nat.toList_repr
  have first : "╭─[<unknown>:".toList = '╭' :: "─[<unknown>:".toList := by decide +kernel
  have colon : ":".toList = [':'] := rfl
  have bracket : "]".toList = [']'] := rfl
  simp only [opening, String.toList_append, digits, first, colon, bracket, List.append_assoc,
    List.cons_append, List.nil_append]

theorem opening_append_inj {margin line column margin' line' column' : Nat}
    {rest rest' : List Char}
    (same : opening margin line column ++ rest = opening margin' line' column' ++ rest') :
    line = line' ∧ column = column' := by
  have blank (n : Nat) : '╭' ∉ List.replicate n ' ' := by
    intro among
    exact absurd (List.eq_of_mem_replicate among) (by decide)
  rw [opening_append, opening_append] at same
  have place := List.append_cancel_left (append_cons_inj (blank _) (blank _) same).2
  obtain ⟨lines, later⟩ :=
    append_cons_inj (not_mem_toDigits rfl line) (not_mem_toDigits rfl line') place
  obtain ⟨columns, -⟩ :=
    append_cons_inj (not_mem_toDigits rfl column) (not_mem_toDigits rfl column') later
  exact ⟨toDigits_injective lines, toDigits_injective columns⟩

theorem Gives.unique {report filename : String} {line column line' column' : Nat}
    (gives : Gives report filename line column) (gives' : Gives report filename line' column') :
    line = line' ∧ column = column' := by
  obtain ⟨margin, rest, rfl⟩ := gives
  obtain ⟨margin', rest', same⟩ := gives'
  have rows := congrArg String.toList ((String.append_right_inj _).mp same)
  simp only [String.toList_append, String.toList_ofList, List.append_assoc] at rows
  exact opening_append_inj rows

theorem not_gives_heading (filename : String) (line column : Nat) :
    ¬ Gives (heading filename ++ String.join []) filename line column := by
  rintro ⟨margin, rest, same⟩
  have rows := congrArg String.toList ((String.append_right_inj _).mp same)
  simp only [String.toList_append, String.toList_ofList, List.append_assoc, opening_append] at rows
  exact List.cons_ne_nil _ _ (List.append_eq_nil_iff.mp rows.symm).2

theorem dropBlankEnd_append {cs : List Char} {c : Char} (shown : Text.isBlank c = false) :
    Text.dropBlankEnd (cs ++ [c]) = cs ++ [c] := by
  rw [Text.dropBlankEnd, List.reverse_append, List.reverse_singleton, List.singleton_append,
    List.dropWhile_cons_of_neg (by simp [shown]), List.reverse_cons, List.reverse_reverse]

theorem row_opening (margin line column : Nat) :
    row (opening margin line column) = String.ofList (opening margin line column) ++ "\n" := by
  have ended : opening margin line column =
      (List.replicate margin ' ' ++
        ("╭─[<unknown>:" ++ toString line ++ ":" ++ toString column).toList) ++ [']'] := by
    rw [opening, String.toList_append, List.append_assoc]
    rfl
  rw [row, ended, dropBlankEnd_append rfl]

theorem excerptRows_eq {source : List Char} (label : Label) {first last : Nat}
    {firstLine lastLine : SourceLine}
    (begins : lineAt? (sourceLines source) label.start = some (first, firstLine))
    (ends : lineAt? (sourceLines source) label.last = some (last, lastLine)) :
    ∃ margin rest, excerptRows source label =
      opening margin (first + 1) (label.start - firstLine.offset + 1) :: rest := by
  have place (line column : Nat) : "╭─[<unknown>:" ++ toString line ++ ":" ++ toString column ++ "]"
      = "╭─[<unknown>" ++ (":" ++ toString line ++ ":" ++ toString column) ++ "]" := by
    simp only [← String.append_assoc]
    rfl
  simp only [excerptRows, begins, ends, Margin.blank, opening, place]
  exact ⟨_, _, rfl⟩

/-- The label that is drawn for a span: its bytes, taken for characters. -/
def label (span : Span) (message : String) : Label := ⟨span.start.toNat, span.stop.toNat, message⟩

theorem located_eq (source filename message : String) (span : Span) :
    located source filename message span = heading filename ++
      String.join ((excerptRows source.toList (label span message)).map row) := rfl

variable {source filename message : String} {span : Span}

theorem located_gives {first last : Nat} {firstLine lastLine : SourceLine}
    (begins : lineAt? (sourceLines source.toList) (label span message).start =
      some (first, firstLine))
    (ends : lineAt? (sourceLines source.toList) (label span message).last =
      some (last, lastLine)) :
    Gives (located source filename message span) filename (first + 1)
      ((label span message).start - firstLine.offset + 1) := by
  obtain ⟨margin, rest, rows⟩ := excerptRows_eq _ begins ends
  refine ⟨margin, String.join (rest.map row), ?_⟩
  rw [located_eq, rows, List.map_cons, String.join_cons, row_opening]

theorem excerptRows_eq_nil {chars : List Char} {label : Label}
    (beyond : lineAt? (sourceLines chars) label.start = none ∨
      lineAt? (sourceLines chars) label.last = none) : excerptRows chars label = [] := by
  simp only [excerptRows]
  split
  · next begins ends =>
    rw [begins, ends] at beyond
    rcases beyond with none | none <;> cases none
  · rfl

theorem located_gives_iff {line column : Nat} :
    Gives (located source filename message span) filename line column ↔
      ∃ index l, lineAt? (sourceLines source.toList) (label span message).start = some (index, l) ∧
        lineAt? (sourceLines source.toList) (label span message).last ≠ none ∧
        index + 1 = line ∧ (label span message).start - l.offset + 1 = column := by
  constructor
  · intro gives
    by_cases beyond : lineAt? (sourceLines source.toList) (label span message).start = none ∨
        lineAt? (sourceLines source.toList) (label span message).last = none
    · rw [located_eq, excerptRows_eq_nil beyond] at gives
      exact absurd gives (not_gives_heading filename line column)
    · obtain ⟨begun, ended⟩ := not_or.mp beyond
      obtain ⟨⟨index, l⟩, begins⟩ := Option.ne_none_iff_exists'.mp begun
      obtain ⟨⟨last, l'⟩, ends⟩ := Option.ne_none_iff_exists'.mp ended
      exact ⟨index, l, begins, ended, (located_gives begins ends).unique gives⟩
  · rintro ⟨index, l, begins, ended, rfl, rfl⟩
    obtain ⟨⟨last, l'⟩, ends⟩ := Option.ne_none_iff_exists'.mp ended
    exact located_gives begins ends

theorem located_place_iff {index : Nat} (forward : span.start < span.stop)
    (within : index < source.toList.length) :
    (∃ line column, Gives (located source filename message span) filename line column ∧
        Stands source.toList index line column) ↔
      span.start.toNat = index ∧ span.stop.toNat ≤ source.toList.length + 1 := by
  have reaches : lineAt? (sourceLines source.toList) (label span message).last ≠ none ↔
      span.stop.toNat ≤ source.toList.length + 1 := by
    have last : (label span message).last = span.stop.toNat - 1 := by
      rw [UInt64.lt_iff_toNat_lt] at forward
      simp only [label, Label.last]
      omega
    rw [last, Ne, lineAt?_eq_none (List.ne_nil_of_length_pos (by omega))]
    omega
  constructor
  · rintro ⟨line, column, gives, stands⟩
    obtain ⟨row, l, begins, ended, rfl, rfl⟩ := located_gives_iff.mp gives
    have before := (lineAt?_eq_some begins).2
    -- one character stands at a place, so it is the one that the label begins with
    have same : (label span message).start = index := stands.index_eq begins (by omega)
    exact ⟨same, reaches.mp ended⟩
  · rintro ⟨rfl, reached⟩
    obtain ⟨line, column, stands⟩ := exists_stands within
    obtain ⟨row, l, begins, rows, same⟩ := stands.lineAt?_eq
    have before := (lineAt?_eq_some begins).2
    have columns : span.start.toNat - l.offset + 1 = column := by omega
    exact ⟨_, _, located_gives_iff.mpr ⟨row, l, begins, reaches.mpr reached, rows, columns⟩, stands⟩

theorem length_le_utf8Len (cs : List Char) : cs.length ≤ String.utf8Len cs := by
  induction cs with
  | nil => exact Nat.le_refl _
  | cons c cs ih =>
    have positive := c.utf8Size_pos
    rw [List.length_cons, String.utf8Len_cons]
    omega

theorem utf8Len_eq_length_iff (cs : List Char) :
    String.utf8Len cs = cs.length ↔ ∀ c ∈ cs, c.utf8Size = 1 := by
  induction cs with
  | nil => exact iff_of_true rfl nofun
  | cons c cs ih =>
    have positive := c.utf8Size_pos
    have least := length_le_utf8Len cs
    rw [List.forall_mem_cons, ← ih, List.length_cons, String.utf8Len_cons]
    omega

theorem utf8ByteSize_eq_length_iff (s : String) :
    s.utf8ByteSize = s.length ↔ ∀ c ∈ s.toList, c.utf8Size = 1 := by
  rw [← String.utf8Len_toList, ← String.length_toList, utf8Len_eq_length_iff]

/-- What a span names in a source whose characters it does not break. -/
structure Cut (source : String) (span : Span) where
  before : String
  marked : String
  after : String
  text : source = before ++ marked ++ after
  start : span.start.toNat = before.utf8ByteSize
  stop : span.stop.toNat = (before ++ marked).utf8ByteSize

namespace Cut

theorem stop_le (cut : Cut source span) : span.stop.toNat ≤ source.utf8ByteSize := by
  have whole := congrArg String.utf8ByteSize cut.text
  have stop := cut.stop
  rw [String.utf8ByteSize_append] at whole
  omega

theorem length_source (cut : Cut source span) :
    source.length = cut.before.length + cut.marked.length + cut.after.length := by
  have whole := congrArg String.length cut.text
  rwa [String.length_append, String.length_append] at whole

theorem marked_pos (cut : Cut source span) (forward : span.start < span.stop) :
    0 < cut.marked.length := by
  rw [Nat.pos_iff_ne_zero, Ne, String.length_eq_zero_iff]
  intro none
  have bytes := cut.stop
  rw [none, String.append_empty, ← cut.start] at bytes
  rw [UInt64.lt_iff_toNat_lt] at forward
  omega

end Cut

def Label.marked? (source : List Char) (label : Label) : Option (List Char) :=
  if label.stop ≤ source.length then some ((source.take label.stop).drop label.start) else none

/-- A report gives the place of the character at an index. -/
def Points (report filename source : String) (index : Nat) : Prop :=
  ∃ line column, Gives report filename line column ∧ Stands source.toList index line column

def shortForm (trip : DepthExceeded) : String :=
  "error: insufficient execution stack: operation nesting depth " ++ toString trip.depth.toNat ++
    " exceeds limit " ++ toString trip.limit.toNat ++ "\n"

theorem shortForm_eq (trip : DepthExceeded) (known : Option Span) :
    plain (.tooDeep trip known) = shortForm trip := rfl

theorem usableSpan?_tooDeep (source : String) (trip : DepthExceeded) (span : Span) :
    usableSpan? source (.tooDeep trip (some span)) =
      if span.start < span.stop ∧ span.stop.toNat ≤ source.utf8ByteSize then some span
      else none := by
  have forward : (!span.isEmpty) = true ↔ span.start < span.stop := by
    rw [Bool.not_eq_true', ← Bool.not_eq_true, span.isEmpty_iff, UInt64.not_le]
  simp only [usableSpan?, Bool.and_eq_true, decide_eq_true_eq, forward]

theorem located_points_iff (cut : Cut source span) (forward : span.start < span.stop) :
    Points (located source filename message span) filename source cut.before.length ↔
      (∀ c ∈ cut.before.toList, c.utf8Size = 1) ∧ span.stop.toNat ≤ source.length + 1 := by
  have within : cut.before.length < source.toList.length := by
    have marked := cut.marked_pos forward
    have whole := cut.length_source
    rw [String.length_toList]
    omega
  rw [Points, located_place_iff forward within, String.length_toList, cut.start,
    utf8ByteSize_eq_length_iff]

theorem marked?_eq_some_iff (cut : Cut source span) (message : String)
    (single : ∀ c ∈ cut.before.toList, c.utf8Size = 1) :
    (label span message).marked? source.toList = some cut.marked.toList ↔
      ∀ c ∈ cut.marked.toList, c.utf8Size = 1 := by
  have whole := cut.length_source
  have start : span.start.toNat = cut.before.length :=
    cut.start.trans ((utf8ByteSize_eq_length_iff _).mpr single)
  have stop : span.stop.toNat = cut.before.length + cut.marked.utf8ByteSize := by
    rw [cut.stop, String.utf8ByteSize_append, ← cut.start, start]
  have covered : (label span message).marked? source.toList =
      if span.stop.toNat ≤ source.length then
        some ((source.toList.take span.stop.toNat).drop span.start.toNat) else none := by
    rw [Label.marked?, String.length_toList]
    rfl
  rw [covered, ← utf8ByteSize_eq_length_iff]
  constructor
  · intro same
    split at same
    · next inside =>
      have lengths := congrArg List.length (Option.some.inj same)
      rw [List.length_drop, List.length_take, String.length_toList, String.length_toList] at lengths
      omega
    · cases same
  · intro bytes
    rw [bytes] at stop
    have characters : source.toList =
        cut.before.toList ++ cut.marked.toList ++ cut.after.toList := by
      have text := congrArg String.toList cut.text
      rwa [String.toList_append, String.toList_append] at text
    have left : cut.before.length + cut.marked.length =
        (cut.before.toList ++ cut.marked.toList).length := by
      rw [List.length_append, String.length_toList, String.length_toList]
    rw [if_pos (by omega), characters, stop, left, List.take_left, start, ← String.length_toList,
      List.drop_left]

theorem located_right_iff (cut : Cut source span) (forward : span.start < span.stop) :
    Points (located source filename message span) filename source cut.before.length ∧
        (label span message).marked? source.toList = some cut.marked.toList ↔
      ∀ c ∈ (cut.before ++ cut.marked).toList, c.utf8Size = 1 := by
  have parts : (∀ c ∈ (cut.before ++ cut.marked).toList, c.utf8Size = 1) ↔
      (∀ c ∈ cut.before.toList, c.utf8Size = 1) ∧ ∀ c ∈ cut.marked.toList, c.utf8Size = 1 := by
    rw [String.toList_append, List.forall_mem_append]
  rw [located_points_iff cut forward]
  constructor
  · rintro ⟨⟨single, -⟩, covers⟩
    exact parts.mpr ⟨single, (marked?_eq_some_iff cut message single).mp covers⟩
  · intro each
    obtain ⟨single, covered⟩ := parts.mp each
    have stop := cut.stop.trans ((utf8ByteSize_eq_length_iff _).mpr each)
    have whole := cut.length_source
    rw [String.length_append] at stop
    exact ⟨⟨single, by omega⟩, (marked?_eq_some_iff cut message single).mpr covered⟩

theorem render_of_cut (cut : Cut source span) (forward : span.start < span.stop)
    (filename : String) (trip : DepthExceeded) :
    render (some source) filename (.tooDeep trip (some span)) =
      located source filename trip.message span := by
  have usable : usableSpan? source (.tooDeep trip (some span)) = some span := by
    rw [usableSpan?_tooDeep, if_pos ⟨forward, cut.stop_le⟩]
  simp only [render, usable, WalkError.message]

theorem render_of_unusable
    (unusable : span.stop ≤ span.start ∨ source.utf8ByteSize < span.stop.toNat)
    (filename : String) (trip : DepthExceeded) :
    render (some source) filename (.tooDeep trip (some span)) = shortForm trip := by
  have none : usableSpan? source (.tooDeep trip (some span)) = none := by
    rw [usableSpan?_tooDeep, if_neg]
    rintro ⟨forward, inside⟩
    rw [← UInt64.not_lt] at unusable
    rcases unusable with backward | beyond
    · exact backward forward
    · omega
  simp only [render, none]
  exact shortForm_eq trip (some span)

/-- What is written for an operation that could not be entered. A span that can be used is shown in
its source. The report gives the place of the first character of the span exactly if no character
before it takes more than a byte and the text has enough characters, and it marks the characters of
the span as well exactly if these take one byte each. -/
theorem reported_place (filename : String) (trip : DepthExceeded) (source : String) (span : Span) :
    (∀ known, render none filename (.tooDeep trip known) = shortForm trip) ∧
    render (some source) filename (.tooDeep trip none) = shortForm trip ∧
    (span.stop ≤ span.start ∨ source.utf8ByteSize < span.stop.toNat →
      render (some source) filename (.tooDeep trip (some span)) = shortForm trip) ∧
    ∀ cut : Cut source span, span.start < span.stop →
      let report := render (some source) filename (.tooDeep trip (some span))
      report = heading filename ++
        String.join ((excerptRows source.toList (label span trip.message)).map row) ∧
      (Points report filename source cut.before.length ↔
        (∀ c ∈ cut.before.toList, c.utf8Size = 1) ∧ span.stop.toNat ≤ source.length + 1) ∧
      (Points report filename source cut.before.length ∧
          (label span trip.message).marked? source.toList = some cut.marked.toList ↔
        ∀ c ∈ (cut.before ++ cut.marked).toList, c.utf8Size = 1) := by
  refine ⟨fun known => shortForm_eq trip known, shortForm_eq trip none, ?_, ?_⟩
  · intro unusable
    exact render_of_unusable unusable filename trip
  · intro cut forward
    simp only [render_of_cut cut forward]
    exact ⟨located_eq .., located_points_iff cut forward, located_right_iff cut forward⟩

/-- In a source of single bytes the place and the marks are right. -/
theorem reported_place_single :
    render (some "a\nbc\n") "main.src" (.tooDeep ⟨2, 1⟩ (some ⟨4, 2⟩)) = shortForm ⟨2, 1⟩ ∧
    render (some "a\nbc\n") "main.src" (.tooDeep ⟨2, 1⟩ (some ⟨2, 9⟩)) = shortForm ⟨2, 1⟩ ∧
    Points (render (some "a\nbc\n") "main.src" (.tooDeep ⟨2, 1⟩ (some ⟨2, 4⟩))) "main.src"
      "a\nbc\n" 2 ∧
    (label ⟨2, 4⟩ (DepthExceeded.message ⟨2, 1⟩)).marked? "a\nbc\n".toList = some ['b', 'c'] := by
  refine ⟨?_, ?_, ?_⟩
  · exact (reported_place "main.src" ⟨2, 1⟩ "a\nbc\n" ⟨4, 2⟩).2.2.1 (.inl (by decide))
  · exact (reported_place "main.src" ⟨2, 1⟩ "a\nbc\n" ⟨2, 9⟩).2.2.1 (.inr (by decide))
  · exact ((reported_place "main.src" ⟨2, 1⟩ "a\nbc\n" ⟨2, 4⟩).2.2.2
      ⟨"a\n", "bc", "\n", rfl, rfl, rfl⟩ (by decide)).2.2.mpr
        ((utf8ByteSize_eq_length_iff ("a\n" ++ "bc")).mp rfl)

/-- A character of two bytes stands before the span, and the report gives the column after that of
the span and marks what follows there. -/
theorem misplaced_after_wide :
    ∃ cut : Cut "é\nab\n" ⟨3, 5⟩, cut.before = "é\n" ∧ cut.marked = "ab" ∧
      render (some "é\nab\n") "main.src" (.tooDeep ⟨2, 1⟩ (some ⟨3, 5⟩)) =
        "Error: operation tree too deep (main.src)\n" ++
        "   ╭─[<unknown>:2:2]\n" ++
        "   │\n" ++
        " 2 │ ab\n" ++
        "   │  ─┬\n" ++
        "   │   ╰── insufficient execution stack: operation nesting depth 2 exceeds limit 1\n" ++
        "   │\n" ++
        "   │ Note: raise [walker] max-depth in opwalk.toml or pass --max-depth\n" ++
        "───╯\n" ∧
      ¬ Points (render (some "é\nab\n") "main.src" (.tooDeep ⟨2, 1⟩ (some ⟨3, 5⟩))) "main.src"
        "é\nab\n" cut.before.length ∧
      (label ⟨3, 5⟩ (DepthExceeded.message ⟨2, 1⟩)).marked? "é\nab\n".toList =
        some ['b', '\n'] := by
  have misplaced (cut : Cut "é\nab\n" ⟨3, 5⟩) (named : cut.before = "é\n") :
      ¬ Points (render (some "é\nab\n") "main.src" (.tooDeep ⟨2, 1⟩ (some ⟨3, 5⟩))) "main.src"
        "é\nab\n" cut.before.length := by
    rw [render_of_cut cut (by decide), located_points_iff cut (by decide), named]
    rintro ⟨single, -⟩
    exact absurd (single 'é' (by decide)) (by decide)
  exact ⟨⟨"é\n", "ab", "\n", rfl, rfl, rfl⟩, rfl, rfl, by decide +kernel, misplaced _ rfl,
    by decide +kernel⟩

end OperationTree.Report
