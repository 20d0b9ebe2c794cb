import OperationTree.Proofs.Text.Lines
import OperationTree.Proofs.Walk.Consumers

/-!
The shape of a tree: kinds in their nesting and order, without payloads and spans. A trace shows the
shape and nothing else, and the shape can be told from it.
-/

namespace OperationTree

inductive Shape (α : Type) where
  | node (label : α) (children : List (Shape α))

variable {α β : Type}

namespace Shape

mutual
def entries (level : Nat) : Shape α → List (α × Nat)
  | node label children => (label, level) :: entriesAll (level + 1) children
def entriesAll (level : Nat) : List (Shape α) → List (α × Nat)
  | [] => []
  | s :: ss => s.entries level ++ entriesAll level ss
end

/-- What comes next, if anything does, is further up than the level. -/
def Leaves (level : Nat) (rest : List (α × Nat)) : Prop := ∀ p ∈ rest.head?, p.2 < level

theorem leaves_entriesAll {level : Nat} {rest : List (α × Nat)} (leaves : Leaves level rest)
    (ss : List (Shape α)) : Leaves (level + 1) (entriesAll level ss ++ rest) := by
  cases ss with
  | nil =>
    rw [entriesAll, List.nil_append]
    exact fun p first => Nat.lt_succ_of_lt (leaves p first)
  | cons s ss =>
    rcases s with ⟨label, children⟩
    rw [entriesAll, entries]
    rintro p ⟨⟩
    exact Nat.lt_succ_self level

mutual
/-- The entries of a shape end where its level is left, so that they tell the shape. -/
theorem entries_append_inj {level : Nat} {rest rest' : List (α × Nat)}
    (leaves : Leaves (level + 1) rest) (leaves' : Leaves (level + 1) rest') :
    (s s' : Shape α) → s.entries level ++ rest = s'.entries level ++ rest' →
      s = s' ∧ rest = rest'
  | node label children, node label' children', same => by
    rw [entries, entries, List.cons_append, List.cons_append, List.cons.injEq] at same
    obtain ⟨rfl, rfl⟩ := entriesAll_append_inj leaves leaves' children children' same.2
    cases same.1
    exact ⟨rfl, rfl⟩
theorem entriesAll_append_inj {level : Nat} {rest rest' : List (α × Nat)}
    (leaves : Leaves level rest) (leaves' : Leaves level rest') :
    (ss ss' : List (Shape α)) → entriesAll level ss ++ rest = entriesAll level ss' ++ rest' →
      ss = ss' ∧ rest = rest'
  | [], [], same => ⟨rfl, same⟩
  | [], node label children :: ss, same => by
    -- the next entry of the one list is on the level that the other has left
    simp only [entriesAll, entries, List.nil_append] at same
    have first : (label, level) ∈ rest.head? := by
      rw [same]
      rfl
    exact absurd (leaves _ first) (Nat.lt_irrefl level)
  | node label children :: ss, [], same => by
    simp only [entriesAll, entries, List.nil_append] at same
    have first : (label, level) ∈ rest'.head? := by
      rw [← same]
      rfl
    exact absurd (leaves' _ first) (Nat.lt_irrefl level)
  | s :: ss, s' :: ss', same => by
    rw [entriesAll, entriesAll, List.append_assoc, List.append_assoc] at same
    obtain ⟨rfl, later⟩ := entries_append_inj (leaves_entriesAll leaves ss)
      (leaves_entriesAll leaves' ss') s s' same
    obtain ⟨rfl, rfl⟩ := entriesAll_append_inj leaves leaves' ss ss' later
    exact ⟨rfl, rfl⟩
end

theorem entries_inj {level : Nat} {s s' : Shape α} (same : s.entries level = s'.entries level) :
    s = s' := by
  have ends : Leaves (level + 1) ([] : List (α × Nat)) := nofun
  have appended : s.entries level ++ [] = s'.entries level ++ [] := by rw [same]
  exact (entries_append_inj ends ends s s' appended).1

end Shape

namespace Operation

mutual
def shape (label : Kind → α) : Operation → Shape α
  | ⟨kind, _, children⟩ => .node (label kind) (shapeAll label children)
def shapeAll (label : Kind → α) : List Operation → List (Shape α)
  | [] => []
  | t :: ts => t.shape label :: shapeAll label ts
end

mutual
theorem entries_shape (label : Kind → α) (level : Nat) : (t : Operation) →
    (t.shape label).entries level = (t.preorder level).map fun p => (label p.1.kind, p.2)
  | ⟨kind, span, children⟩ => by
    rw [shape, Shape.entries, preorder, List.map_cons,
      entriesAll_shapeAll label (level + 1) children]
theorem entriesAll_shapeAll (label : Kind → α) (level : Nat) : (ts : List Operation) →
    Shape.entriesAll level (shapeAll label ts) =
      (preorderAll level ts).map fun p => (label p.1.kind, p.2)
  | [] => rfl
  | t :: ts => by
    rw [shapeAll, Shape.entriesAll, preorderAll, List.map_append, entries_shape label level t,
      entriesAll_shapeAll label level ts]
end

theorem shape_eq_iff {label : Kind → α} {t u : Operation} :
    t.shape label = u.shape label ↔ (t.shape label).entries 1 = (u.shape label).entries 1 :=
  ⟨congrArg (Shape.entries 1), Shape.entries_inj⟩

theorem shape_comp_eq_iff {label : Kind → α} {name : α → β} (injective : name.Injective)
    {t u : Operation} :
    t.shape (name ∘ label) = u.shape (name ∘ label) ↔ t.shape label = u.shape label := by
  have renamed (v : Operation) : (v.shape (name ∘ label)).entries 1 =
      ((v.shape label).entries 1).map (Prod.map name id) := by
    rw [entries_shape, entries_shape, List.map_map]
    rfl
  rw [shape_eq_iff, shape_eq_iff, renamed, renamed]
  exact (injective.prodMap Function.injective_id).list_map.eq_iff

end Operation

namespace KindTag

theorem find?_name (tag : KindTag) :
    all.find? (fun other => other.name == tag.name) = some tag := by
  cases tag <;> rfl

theorem name_injective : Function.Injective name := by
  intro a b same
  have found := find?_name a
  rw [same, find?_name] at found
  exact (Option.some.inj found).symm

theorem head_name_ne_space (tag : KindTag) : tag.name.toList.head? ≠ some ' ' := by
  cases tag <;> decide

end KindTag

namespace Outline

def readLine (line : List Char) : String × Nat :=
  (String.ofList (line.dropWhile (· = ' ')), (line.takeWhile (· = ' ')).length / 2 + 1)

/-- The names and levels that a trace shows. What comes after the last line is not a line. -/
def readTrace (text : String) : List (String × Nat) :=
  (text.toList.splitOn '\n').dropLast.map readLine

theorem readLine_indented {name : String} (plain : name.toList.head? ≠ some ' ') {level : Nat}
    (below : 1 ≤ level) : readLine (indent level ++ name).toList = (name, level) := by
  have spaces : ∀ c ∈ List.replicate (2 * (level - 1)) ' ', decide (c = ' ') = true := by
    intro c among
    rw [List.eq_of_mem_replicate among]
    rfl
  have stops : name.toList.takeWhile (· = ' ') = [] ∧
      name.toList.dropWhile (· = ' ') = name.toList := by
    cases chars : name.toList with
    | nil => exact ⟨rfl, rfl⟩
    | cons c cs =>
      rw [chars, List.head?_cons, Ne, Option.some.injEq] at plain
      simp [plain]
  have halves : 2 * (level - 1) / 2 + 1 = level := by omega
  rw [readLine, String.toList_append, indent, String.toList_ofList,
    List.takeWhile_append_of_pos spaces, List.dropWhile_append_of_pos spaces, stops.1, stops.2,
    List.append_nil, List.length_replicate, halves, String.ofList_toList]

theorem rendering_trace (t : Operation) : rendering .trace t =
    String.join ((((t.shape Kind.name).entries 1).map fun entry =>
      indent entry.2 ++ entry.1).map (· ++ "\n")) := by
  rw [rendering, Operation.entries_shape, List.map_map, List.map_map]
  rfl

theorem readTrace_rendering (t : Operation) :
    readTrace (rendering .trace t) = (t.shape Kind.name).entries 1 := by
  have unbroken : ∀ line ∈ ((t.shape Kind.name).entries 1).map fun entry =>
      indent entry.2 ++ entry.1, '\n' ∉ line.toList := by
    rw [Operation.entries_shape, List.map_map, List.forall_mem_map]
    intro p _
    show '\n' ∉ (indent p.2 ++ p.1.kind.name).toList
    rw [String.toList_append, indent, String.toList_ofList, List.mem_append, not_or]
    exact ⟨fun among => absurd (List.eq_of_mem_replicate among) (by decide),
      newline_not_mem_name p.1.kind.tag⟩
  rw [readTrace, rendering_trace, splitOn_join unbroken, List.dropLast_concat,
    Operation.entries_shape, List.map_map, List.map_map, List.map_map]
  apply List.map_congr_left
  intro p among
  exact readLine_indented p.1.kind.tag.head_name_ne_space (Operation.le_of_mem_preorder t among)

theorem rendering_trace_eq_iff {t u : Operation} :
    rendering .trace t = rendering .trace u ↔ t.shape Kind.name = u.shape Kind.name := by
  constructor
  · intro same
    apply Operation.shape_eq_iff.mpr
    rw [← readTrace_rendering, same, readTrace_rendering]
  · intro same
    rw [rendering_trace, rendering_trace, same]

theorem indent_eq (level : Nat) : indent level = String.join (List.replicate (level - 1) "  ") := by
  apply String.toList_injective
  rw [indent, String.toList_ofList, String.toList_join]
  generalize level - 1 = n
  induction n with
  | zero => rfl
  | succ n ih =>
    rw [List.replicate_succ, List.flatMap_cons, ← ih, Nat.mul_succ]
    rfl

theorem trace_eq_ok_iff {limit : UInt32} (limited : limit.toNat < Depth.top) {t : Operation}
    {text : String} :
    t.trace limit = .ok text ↔ t.height ≤ limit.toNat ∧ text = rendering .trace t := by
  by_cases shallow : t.height ≤ limit.toNat
  · have printed : t.trace limit = .ok (rendering .trace t) :=
      print_of_height_le limited .trace shallow
    rw [printed, Except.ok.injEq, eq_comm]
    exact (and_iff_right shallow).symm
  · obtain ⟨held, _, failed⟩ := print_of_lt_height limited .trace (Nat.lt_of_not_le shallow)
    have refused : t.trace limit = .error (.tooDeep ⟨limit + 1, limit⟩ (some held.span)) := failed
    rw [refused]
    exact ⟨nofun, fun whole => absurd whole.1 shallow⟩

end Outline

namespace Operation

/-- A trace has a line for each operation in pre-order: two spaces for each level below the root,
and the name of its kind. Two traces are the same text if the trees differ in payloads and spans
only, and in no other case. -/
theorem trace_determines_shape {limit : UInt32} (limited : limit.toNat < 2 ^ 32 - 1)
    (t : Operation) :
    (t.height ≤ limit.toNat → t.trace limit = .ok (String.join ((t.preorder 1).map fun p =>
      String.join (List.replicate (p.2 - 1) "  ") ++ p.1.kind.name ++ "\n"))) ∧
    ∀ (other : UInt32) (u : Operation) (text text' : String), other.toNat < 2 ^ 32 - 1 →
      t.trace limit = .ok text → u.trace other = .ok text' →
        (text = text' ↔ t.shape Kind.tag = u.shape Kind.tag) ∧
        (text = text' ↔ t.shape Kind.name = u.shape Kind.name) := by
  constructor
  · intro shallow
    have whole := (Outline.trace_eq_ok_iff limited).mpr ⟨shallow, rfl⟩
    simp only [← Outline.indent_eq]
    exact whole
  · intro other u text text' otherLimited traced traced'
    obtain ⟨_, rfl⟩ := (Outline.trace_eq_ok_iff limited).mp traced
    obtain ⟨_, rfl⟩ := (Outline.trace_eq_ok_iff otherLimited).mp traced'
    have named := Outline.rendering_trace_eq_iff (t := t) (u := u)
    exact ⟨named.trans (shape_comp_eq_iff KindTag.name_injective), named⟩

/-- Payloads and spans do not show in a trace, and one level of nesting does. -/
theorem trace_determines_shape_siblings :
    let leaf (text : String) (span : Span) : Operation := ⟨.literal text, span, []⟩
    let within (text : String) (span : Span) : Operation :=
      ⟨.block, span, [⟨.loop, {}, [leaf text span]⟩]⟩
    let beside : Operation := ⟨.block, {}, [⟨.loop, {}, []⟩, leaf "x" {}]⟩
    (within "x" {}).trace 3 = .ok "Block\n  Loop\n    Literal\n" ∧
      (within "y\n" ⟨4, 2⟩).trace 300 = (within "x" {}).trace 3 ∧
      beside.trace 3 ≠ (within "x" {}).trace 3 := by
  intro leaf within beside
  have three : (3 : UInt32).toNat < 2 ^ 32 - 1 := by decide
  have many : (300 : UInt32).toNat < 2 ^ 32 - 1 := by decide
  obtain ⟨whole, same⟩ := trace_determines_shape three (within "x" {})
  have traced := whole (by decide)
  have other := (trace_determines_shape many (within "y\n" ⟨4, 2⟩)).1 (by decide)
  have flat := (trace_determines_shape three beside).1 (by decide)
  refine ⟨traced, ?_, fun equal => ?_⟩
  · rw [other, traced]
    exact congrArg Except.ok ((same 300 _ _ _ many traced other).1.mpr rfl).symm
  · have text := Except.ok.inj (traced.symm.trans (equal.symm.trans flat))
    have shapes := (same 3 beside _ _ three traced flat).1.mp text
    cases shapes

end Operation

end OperationTree
