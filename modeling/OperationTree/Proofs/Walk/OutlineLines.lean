import Mathlib.Data.List.Forall2
import OperationTree.Proofs.Spans
import OperationTree.Proofs.Walk.Shape

/-!
The lines of an outline. Payloads are written as they are, so that an outline has a line for each
operation if no payload holds a newline, and in no other case.
-/

namespace OperationTree

/-- The text breaks at its newlines into these lines, each of which is ended. -/
def BreaksInto (text : String) (lines : List String) : Prop :=
  text.toList.splitOn '\n' = lines.map String.toList ++ [[]]

def Kind.breaks (k : Kind) : Nat := (k.payload.getD "").toList.count '\n'

namespace Outline

def detail : Kind → String
  | .variableDeclaration text | .literal text | .localReference text => " " ++ text
  | .fieldReference field => " ." ++ field
  | .unary op => " " ++ op.symbol
  | .binary op => " " ++ op.symbol
  | .invocation method => " " ++ method ++ "()"
  | _ => ""

theorem label_eq (k : Kind) : label k = k.name ++ detail k := by
  cases k with
  | variableDeclaration _ | literal _ | localReference _ | fieldReference _ | unary _ | binary _ =>
    rw [detail, ← String.append_assoc]
    rfl
  | invocation method =>
    rw [detail, ← String.append_assoc, ← String.append_assoc]
    rfl
  | _ => exact (String.append_empty).symm

def shortEntry (p : Operation × Nat) : String :=
  String.join (List.replicate (p.2 - 1) "  ") ++ p.1.kind.name

/-- What a trace shows, then the details, and the span if it is not empty. -/
def entry (p : Operation × Nat) : String :=
  shortEntry p ++ detail p.1.kind ++
    if p.1.span.start < p.1.span.stop then
      " @" ++ toString p.1.span.start.toNat ++ ".." ++ toString p.1.span.stop.toNat
    else ""

theorem spanSuffix_eq (span : Span) : spanSuffix span = if span.start < span.stop then
    " @" ++ toString span.start.toNat ++ ".." ++ toString span.stop.toNat else "" := by
  have forward : ¬ span.isEmpty = true ↔ span.start < span.stop := by
    rw [Span.isEmpty_iff, UInt64.not_le]
  simp only [spanSuffix, ← forward, ite_not]

theorem line_trace (p : Operation × Nat) : line .trace p.1 p.2 = shortEntry p ++ "\n" := by
  rw [line, heading, indent_eq, shortEntry]

theorem line_outline (p : Operation × Nat) : line .outline p.1 p.2 = entry p ++ "\n" := by
  rw [line, heading, label_eq, spanSuffix_eq, indent_eq, entry, shortEntry]
  simp only [String.append_assoc]

theorem entry_eq (p : Operation × Nat) :
    entry p = shortEntry p ++ detail p.1.kind ++ spanSuffix p.1.span := by
  rw [entry, spanSuffix_eq]

theorem shortEntry_prefix (p : Operation × Nat) : (shortEntry p).toList <+: (entry p).toList := by
  rw [entry_eq, String.append_assoc, String.toList_append]
  exact List.prefix_append _ _

theorem rendering_eq_of_line {style : OutlineStyle} {shown : Operation × Nat → String}
    (lines : ∀ p : Operation × Nat, line style p.1 p.2 = shown p ++ "\n") (t : Operation) :
    rendering style t = String.join (((t.preorder 1).map shown).map (· ++ "\n")) := by
  rw [rendering, List.map_map]
  exact congrArg String.join (List.map_congr_left fun p _ => lines p)

theorem count_detail (k : Kind) : (detail k).toList.count '\n' = k.breaks := by
  cases k with
  | variableDeclaration _ | literal _ | localReference _ | fieldReference _ | unary _ | binary _
  | invocation _ => simp [detail, Kind.breaks, Kind.payload]
  | _ => rfl

theorem newline_not_mem_indent (level : Nat) : '\n' ∉ (indent level).toList := by
  rw [indent, String.toList_ofList]
  intro among
  exact absurd (List.eq_of_mem_replicate among) (by decide)

theorem newline_not_mem_shortEntry (p : Operation × Nat) : '\n' ∉ (shortEntry p).toList := by
  rw [shortEntry, ← indent_eq, String.toList_append, List.mem_append, not_or]
  exact ⟨newline_not_mem_indent p.2, newline_not_mem_name p.1.kind.tag⟩

theorem newline_not_mem_spanSuffix (span : Span) : '\n' ∉ (spanSuffix span).toList := by
  have start := newline_not_mem_digits span.start.toNat
  have stop := newline_not_mem_digits span.stop.toNat
  unfold spanSuffix
  split
  · nofun
  · simp [start, stop]

theorem count_entry (p : Operation × Nat) :
    (entry p).toList.count '\n' = p.1.kind.breaks := by
  have short := List.count_eq_zero.mpr (newline_not_mem_shortEntry p)
  have span := List.count_eq_zero.mpr (newline_not_mem_spanSuffix p.1.span)
  rw [entry_eq, String.toList_append, String.toList_append, List.count_append, List.count_append,
    short, span, count_detail, Nat.zero_add, Nat.add_zero]

theorem count_rendering (t : Operation) : (rendering .outline t).toList.count '\n' =
    t.size + (t.inOrder.map fun u => u.kind.breaks).sum := by
  rw [rendering_eq_of_line line_outline, count_join, List.length_map, Operation.length_preorder,
    List.map_map, Operation.inOrder, List.map_map]
  exact congrArg (t.size + ·.sum) (List.map_congr_left fun p _ => count_entry p)

/-- The outline has a line for each operation, in pre-order, and the same line of the trace is a
beginning of it. -/
def LinePerOperation (t : Operation) (text traced : String) : Prop :=
  ∃ lines names, BreaksInto text lines ∧ BreaksInto traced names ∧
    lines.length = t.size ∧ lines = (t.preorder 1).map entry ∧
    List.Forall₂ (fun name line => name.toList <+: line.toList) names lines

theorem breaksInto_trace (t : Operation) :
    BreaksInto (rendering .trace t) ((t.preorder 1).map shortEntry) := by
  rw [BreaksInto, rendering_eq_of_line line_trace]
  apply splitOn_join
  rw [List.forall_mem_map]
  exact fun p _ => newline_not_mem_shortEntry p

theorem breaksInto_outline {t : Operation} (plain : ∀ u ∈ t.inOrder, u.kind.breaks = 0) :
    BreaksInto (rendering .outline t) ((t.preorder 1).map entry) := by
  rw [BreaksInto, rendering_eq_of_line line_outline]
  apply splitOn_join
  rw [List.forall_mem_map]
  intro p among
  rw [← List.count_eq_zero, count_entry]
  exact plain p.1 (List.mem_map_of_mem among)

theorem linePerOperation_iff (t : Operation) :
    LinePerOperation t (rendering .outline t) (rendering .trace t) ↔
      ∀ u ∈ t.inOrder, u.kind.breaks = 0 := by
  constructor
  · rintro ⟨lines, _, broken, _, size, _⟩
    have count := congrArg List.length broken
    rw [length_splitOn, count_rendering, List.length_append, List.length_map, size,
      List.length_singleton] at count
    have none : (t.inOrder.map fun u => u.kind.breaks).sum = 0 := by omega
    rw [List.sum_eq_zero_iff_forall_eq_nat, List.forall_mem_map] at none
    exact none
  · intro plain
    refine ⟨_, _, breaksInto_outline plain, breaksInto_trace t, ?_, rfl, ?_⟩
    · rw [List.length_map, Operation.length_preorder]
    · rw [List.forall₂_map_left_iff, List.forall₂_map_right_iff, List.forall₂_same]
      exact fun p _ => shortEntry_prefix p

end Outline

namespace Operation

/-- An outline has a line for each operation: two spaces for each level below the root, the label,
and the span if it is not empty. A payload with newlines breaks its line, so that the text has as
many lines more; where there is none of them, each line of the trace begins the same line of the
outline. -/
theorem outline_line_per_operation {limit : UInt32} (limited : limit.toNat < 2 ^ 32 - 1)
    {t : Operation} (shallow : t.height ≤ limit.toNat) :
    ∃ text traced, t.outline limit = .ok text ∧ t.trace limit = .ok traced ∧
      text = String.join ((t.preorder 1).map fun p => Outline.entry p ++ "\n") ∧
      (text.toList.splitOn '\n').length =
        t.size + (t.inOrder.map fun u => u.kind.breaks).sum + 1 ∧
      (Outline.LinePerOperation t text traced ↔
        ∀ u ∈ t.inOrder, ∀ payload ∈ u.kind.payload, '\n' ∉ payload.toList) := by
  refine ⟨_, _, Outline.print_of_height_le limited .outline shallow,
    Outline.print_of_height_le limited .trace shallow, ?_, ?_, ?_⟩
  · rw [Outline.rendering_eq_of_line Outline.line_outline, List.map_map]
    rfl
  · rw [length_splitOn, Outline.count_rendering]
  · rw [Outline.linePerOperation_iff]
    refine forall₂_congr fun u _ => ?_
    rw [Kind.breaks, List.count_eq_zero]
    cases u.kind.payload with
    | none => simp
    | some payload => simp

/-- A tree whose payloads hold no newline, though other line ends. -/
theorem outline_line_per_operation_spanned :
    let call : Operation := ⟨.invocation "f\r", ⟨2, 7⟩, [⟨.literal "", ⟨9, 4⟩, []⟩]⟩
    let tree : Operation := ⟨.returns, {}, [call, ⟨.unary .negate, ⟨8, 9⟩, []⟩]⟩
    tree.outline 3 = .ok "Return\n  Invocation f\r() @2..7\n    Literal \n  Unary - @8..9\n" ∧
      Outline.LinePerOperation tree
        "Return\n  Invocation f\r() @2..7\n    Literal \n  Unary - @8..9\n"
        "Return\n  Invocation\n    Literal\n  Unary\n" := by
  intro call tree
  have limited : (3 : UInt32).toNat < 2 ^ 32 - 1 := by decide
  obtain ⟨text, traced, outlined, named, rfl, _, lines⟩ :=
    outline_line_per_operation limited (t := tree) (by decide)
  refine ⟨outlined, ?_⟩
  have names : tree.trace 3 = .ok "Return\n  Invocation\n    Literal\n  Unary\n" := rfl
  cases Except.ok.inj (named.symm.trans names)
  exact lines.mpr (by decide)

/-- A newline in a payload breaks the line of its operation. -/
theorem outline_broken_by_payload :
    let tree : Operation := ⟨.block, {}, [⟨.literal "a\nb", {}, []⟩]⟩
    tree.height ≤ (2 : UInt32).toNat ∧ tree.size = 2 ∧
      tree.outline 2 = .ok "Block\n  Literal a\nb\n" ∧
      tree.trace 2 = .ok "Block\n  Literal\n" ∧
      ¬ Outline.LinePerOperation tree "Block\n  Literal a\nb\n" "Block\n  Literal\n" := by
  intro tree
  refine ⟨by decide, by decide, rfl, rfl, ?_⟩
  exact fun lines => absurd ((Outline.linePerOperation_iff tree).mp lines) (by decide)

end Operation

end OperationTree
