import OperationTree.Proofs.Json.Compact
import OperationTree.Proofs.Reading.Documents
import OperationTree.Proofs.Reading.Drafts
import OperationTree.Proofs.Reading.Payloads
import OperationTree.Proofs.Spans

/-!
Writing an operation and reading it back. The written text is a document for a value that names
the operation's parts, and that value means the operation without its empty spans.
-/

namespace OperationTree

open Json (Value Writes WritesMember)
open Reading (Draft asData)

def Kind.toMembers (kind : Kind) : List (String × Value) :=
  match kind.payloadKey, kind.written with
  | some key, some payload => [("kind", .text kind.tag.key), (key.text, .text payload)]
  | _, _ => [("kind", .text kind.tag.key)]

def Span.toValue (span : Span) : Value :=
  .object [("start", .number (.natural span.start)), ("end", .number (.natural span.stop))]

def Span.toMembers (span : Span) : List (String × Value) :=
  if span.isEmpty then [] else [("span", span.toValue)]

namespace Operation

def childrenMembers (children : List Value) : List (String × Value) :=
  if children.isEmpty then [] else [("children", .array children)]

mutual
def toValue : Operation → Value
  | ⟨kind, span, children⟩ =>
    .object (kind.toMembers ++ span.toMembers ++ childrenMembers (toValues children))
def toValues : List Operation → List Value
  | [] => []
  | t :: ts => t.toValue :: toValues ts
end

end Operation

open List (Forall₂)
open Json (writes_writeText writesMember_writeMember writes_writeObject writes_writeArray
  writes_writeNatural)

theorem Kind.writes_members (kind : Kind) : Forall₂ WritesMember kind.toMembers kind.members := by
  have tag := writesMember_writeMember "kind" (writes_writeText kind.tag.key)
  cases asked : kind.payloadKey with
  | none =>
    simp only [toMembers, members, asked]
    exact .cons tag .nil
  | some key =>
    cases held : kind.written with
    | none =>
      simp only [toMembers, members, asked, held]
      exact .cons tag .nil
    | some payload =>
      have payload := writesMember_writeMember key.text (writes_writeText payload)
      simp only [toMembers, members, asked, held]
      exact .cons tag (.cons payload .nil)

theorem Span.writes_members (span : Span) : Forall₂ WritesMember span.toMembers span.members := by
  unfold toMembers members
  split
  · exact .nil
  · refine .cons (writesMember_writeMember _ (writes_writeObject ?_)) .nil
    have start := writesMember_writeMember "start" (writes_writeNatural span.start)
    have stop := writesMember_writeMember "end" (writes_writeNatural span.stop)
    exact .cons start (.cons stop .nil)

namespace Operation

theorem writes_childMembers {children : List Value} {ws : List (List Char)}
    (written : Forall₂ Writes children ws) :
    Forall₂ WritesMember (childrenMembers children) (childMembers ws) := by
  cases written with
  | nil => exact .nil
  | cons first later =>
    exact .cons (writesMember_writeMember _ (writes_writeArray (.cons first later))) .nil

mutual
theorem writes_write : (t : Operation) → Writes t.toValue t.write
  | ⟨kind, span, children⟩ => by
    rw [toValue, write]
    apply writes_writeObject
    apply List.rel_append
    · exact List.rel_append kind.writes_members span.writes_members
    · exact writes_childMembers (writes_writeAll children)
theorem writes_writeAll : (ts : List Operation) → Forall₂ Writes (toValues ts) (writeAll ts)
  | [] => by
    rw [toValues, writeAll]
    exact .nil
  | t :: ts => by
    rw [toValues, writeAll]
    exact .cons (writes_write t) (writes_writeAll ts)
end

end Operation

namespace Reading

open Operation (ofMembers ofItems childrenOf childrenMembers)

def Draft.ofKind (kind : Kind) : Draft where
  tag := some (.text kind.tag.key)
  payloads := match kind.payloadKey, kind.written with
    | some key, some payload => [(key, .text payload)]
    | _, _ => []

theorem ofMembers_tag (v : Value) (later : List (String × Value)) :
    ofMembers {} (("kind", v) :: later) = ofMembers { tag := some v } later := by
  rw [ofMembers]
  rfl

theorem ofMembers_payload (tag v : Value) (key : PayloadKey) (later : List (String × Value)) :
    ofMembers { tag := some tag } ((key.text, v) :: later) =
      ofMembers { tag := some tag, payloads := [(key, v)] } later := by
  rw [ofMembers]
  cases key <;> rfl

theorem ofMembers_kind (kind : Kind) (later : List (String × Value)) :
    ofMembers {} (kind.toMembers ++ later) = ofMembers (.ofKind kind) later := by
  unfold Kind.toMembers Draft.ofKind
  cases kind.payloadKey with
  | none => exact ofMembers_tag _ later
  | some key =>
    cases kind.written with
    | none => exact ofMembers_tag _ later
    | some payload =>
      rw [List.cons_append, ofMembers_tag]
      exact ofMembers_payload _ _ key later

theorem payload_ofKind {kind : Kind} {key : PayloadKey} {v : Value}
    (held : (Draft.ofKind kind).payload? key = some v) : kind.payloadKey = some key := by
  unfold Draft.ofKind Draft.payload? at held
  split at held
  · next own payload asked written =>
    by_cases same : own = key
    · rw [asked, same]
    · simp [same] at held
  · cases held

theorem decode_ofKind (kind : Kind) :
    Kind.decode (Draft.ofKind kind).tag (Draft.ofKind kind).payload? = .ok kind := by
  refine decode_eq_ok.mpr ⟨kind.tag, rfl, ?_⟩
  cases kind with
  | unary op => cases op <;> rfl
  | binary op => cases op <;> rfl
  | _ => rfl

theorem finish_ofKind (kind : Kind) (span : Option Span) (children : Option (List Operation)) :
    Draft.finish { Draft.ofKind kind with span, children } =
      .ok ⟨kind, span.getD {}, children.getD []⟩ := by
  refine finish_eq_ok.mpr ⟨kind, decode_ofKind kind, ?_, rfl⟩
  rw [stray_eq_none]
  intro key present
  obtain ⟨v, held⟩ := Option.isSome_iff_exists.mp present
  exact payload_ofKind held

theorem ofMembers_span {d : Draft} (fresh : d.span = none) (span : Span)
    (later : List (String × Value)) : ofMembers d (span.toMembers ++ later) =
      ofMembers { d with span := if span.isEmpty then none else some span } later := by
  unfold Span.toMembers
  split
  · rw [← fresh]
    rfl
  · rw [List.singleton_append, ofMembers]
    have missing : ¬ d.Has .span := by simp [Draft.Has, fresh]
    have absorbed := absorb_fresh missing span.toValue (childrenOf span.toValue)
    rw [Field.text] at absorbed
    rw [absorbed]
    rfl

theorem ofMembers_children {d : Draft} (fresh : d.children = none) {children : List Value}
    {ts : List Operation} (read : ofItems children = .ok ts) :
    ofMembers d (childrenMembers children) =
      asData (Draft.finish { d with children := if children.isEmpty then none else some ts }) := by
  unfold childrenMembers
  split
  · rw [ofMembers, ← fresh]
  · rw [ofMembers]
    have missing : ¬ d.Has .children := by simp [Draft.Has, fresh]
    have absorbed := absorb_fresh missing (.array children) (childrenOf (.array children))
    rw [Field.text, childrenOf, read] at absorbed
    rw [childrenOf, read, absorbed]
    rfl

end Reading

namespace Operation

open Reading (ofMembers_kind ofMembers_span ofMembers_children finish_ofKind)

theorem toValues_isEmpty (ts : List Operation) : (toValues ts).isEmpty = ts.isEmpty := by
  cases ts <;> simp [toValues]

theorem normalAll_eq_map (ts : List Operation) : normalAll ts = ts.map normal := by
  induction ts with
  | nil => simp [normalAll]
  | cons t ts ih => simp [normalAll, ih]

mutual
theorem ofValue_toValue : (t : Operation) → ofValue t.toValue = .ok t.normal
  | ⟨kind, span, children⟩ => by
    have read := ofItems_toValues children
    rw [toValue, ofValue, normal, List.append_assoc, ofMembers_kind, ofMembers_span rfl,
      ofMembers_children rfl read, finish_ofKind, toValues_isEmpty]
    -- what was left out comes back as the default: an absent span, no children
    have kept : (if span.isEmpty then none else some span).getD {} =
        if span.isEmpty then .absent else span := by
      split <;> rfl
    have all : (if children.isEmpty then none else some (normalAll children)).getD [] =
        normalAll children := by
      cases children with
      | nil => simp [normalAll]
      | cons t ts => rfl
    rw [kept, all]
    rfl
theorem ofItems_toValues : (ts : List Operation) → ofItems (toValues ts) = .ok (normalAll ts)
  | [] => by
    rw [toValues, ofItems, normalAll]
  | t :: ts => by
    rw [toValues, ofItems, normalAll, ofValue_toValue t, ofItems_toValues ts]
    rfl
end

theorem normal_eq (t : Operation) : t.normal = ⟨t.kind,
    if t.span.stop ≤ t.span.start then ⟨0, 0⟩ else t.span, t.children.map normal⟩ := by
  rcases t with ⟨kind, span, children⟩
  simp only [normal, normalAll_eq_map, Span.isEmpty_iff]
  rfl

mutual
theorem normal_eq_self_iff (level : Nat) : (t : Operation) → (t.normal = t ↔
    ∀ p ∈ t.preorder level, p.1.span.start < p.1.span.stop ∨ p.1.span = ⟨0, 0⟩)
  | ⟨kind, span, children⟩ => by
    have own : (if span.isEmpty then Span.absent else span) = span ↔
        span.start < span.stop ∨ span = ⟨0, 0⟩ := by
      rw [← UInt64.not_le, ← Span.isEmpty_iff]
      by_cases empty : span.isEmpty = true
      · simp only [empty, if_true, not_true_eq_false, false_or]
        exact eq_comm
      · simp [empty]
    rw [normal, preorder, List.forall_mem_cons, ← normalAll_eq_self_iff (level + 1) children, ← own]
    simp
theorem normalAll_eq_self_iff (level : Nat) : (ts : List Operation) → (normalAll ts = ts ↔
    ∀ p ∈ preorderAll level ts, p.1.span.start < p.1.span.stop ∨ p.1.span = ⟨0, 0⟩)
  | [] => by simp [normalAll, preorderAll]
  | t :: ts => by
    rw [normalAll, preorderAll, List.forall_mem_append, ← normal_eq_self_iff level t,
      ← normalAll_eq_self_iff level ts, List.cons.injEq]
end

theorem members_of_isEmpty (span : Span) :
    (if span.isEmpty then Span.absent else span).members = span.members := by
  split
  · next empty =>
    simp only [Span.members, empty, if_true]
    rfl
  · rfl

mutual
theorem write_normal : (t : Operation) → t.normal.write = t.write
  | ⟨kind, span, children⟩ => by
    rw [normal, write, write, members_of_isEmpty, writeAll_normalAll children]
theorem writeAll_normalAll : (ts : List Operation) → writeAll (normalAll ts) = writeAll ts
  | [] => by simp [normalAll]
  | t :: ts => by
    rw [normalAll, writeAll, writeAll, write_normal t, writeAll_normalAll ts]
end

theorem ofText_toText (t : Operation) : ofText t.toText = .ok t.normal := by
  have document := Json.isDocument_of_writes (writes_write t)
  have read := ofText_document document
  rw [ofValue_toValue] at read
  exact mapError_eq_ok.mp read

/-- Reading back what was written gives the operation without its empty spans. -/
theorem round_trip (t : Operation) :
    ofText t.toText = .ok t.normal ∧
    t.normal = ⟨t.kind, if t.span.stop ≤ t.span.start then ⟨0, 0⟩ else t.span,
      t.children.map normal⟩ ∧
    (ofText t.toText = .ok t ↔
      ∀ p ∈ t.preorder 1, p.1.span.start < p.1.span.stop ∨ p.1.span = ⟨0, 0⟩) ∧
    (ofText t.toText).map toText = .ok t.toText ∧
    ∀ u : Operation, t.toText = u.toText ↔ t.normal = u.normal := by
  have read := ofText_toText t
  refine ⟨read, normal_eq t, ?_, ?_, fun u => ?_⟩
  · rw [read, ← normal_eq_self_iff]
    simp
  · rw [read, Except.map, toText, write_normal, toText]
  · constructor
    · intro same
      rw [same, ofText_toText u] at read
      exact (Except.ok.inj read).symm
    · intro same
      rw [toText, toText, ← write_normal t, same, write_normal u]

end Operation

end OperationTree
