import OperationTree.Proofs.Reading.CutShort
import OperationTree.Proofs.RoundTrip

/-!
The text of an operation shows where it ends. Cut short anywhere it breaks off, with blanks after
it the same operation is read, and with anything else after it the text is malformed.
-/

namespace OperationTree.Reading

open Json (Value Writes Blanks isBlank writeText writeMember writeObject writes_writeText
  writes_writeNatural writes_writeObject writes_writeArray writesMember_writeMember)
open Operation (childrenOf childMembers toValues writeAll normalAll)

theorem parts_member {draft next : Draft} {outer : Awaiting .operation} (field : Field)
    {goal : Goal} {k : Awaiting goal} {v : Value} {w : List Char} {ws : List (List Char)}
    (called : (Record.operation draft outer).afterKey field.text = .colon goal k)
    (value : CutShort (.value goal k) w) (written : Writes v w) (fresh : ¬ draft.Has field)
    (put : draft.put v (childrenOf v) field = .ok next)
    (later : Parts State.record (.operation next outer) ws) :
    Parts State.record (.operation draft outer) (writeMember field.text w :: ws) := by
  refine .cons (fun phase early => cut_member rfl early called value)
    (fun phase early rest ends => ?_) later
  have member := writesMember_writeMember field.text written
  rw [outcome_draft_member outer draft early member (fun k _ => yields_children k v) ends,
    absorb_fresh fresh, put]
  rfl

theorem parts_kind (outer : Awaiting .operation) (kind : Kind) {ws : List (List Char)}
    (later : Parts State.record (.operation (.ofKind kind) outer) ws) :
    Parts State.record (.operation {} outer) (kind.members ++ ws) := by
  have tag {ws : List (List Char)}
      (later : Parts State.record (.operation { tag := some (.text kind.tag.key) } outer) ws) :
      Parts State.record (.operation {} outer)
        (writeMember "kind" (writeText kind.tag.key) :: ws) :=
    parts_member .kind rfl (cut_text _ _) (writes_writeText _) (by simp [Draft.Has]) rfl later
  unfold Draft.ofKind at later
  unfold Kind.members
  cases asked : kind.payloadKey with
  | none =>
    rw [asked] at later
    exact tag later
  | some key =>
    cases held : kind.written with
    | none =>
      rw [asked, held] at later
      exact tag later
    | some payload =>
      rw [asked, held] at later
      have called (draft : Draft) : (Record.operation draft outer).afterKey key.text =
          .colon .value (.payload draft key outer) := by
        cases key <;> rfl
      exact tag (parts_member (.payload key) (called _) (cut_text _ _) (writes_writeText payload)
        (by simp [Draft.Has, Draft.payload?]) rfl later)

theorem parts_bound {b : Bounds} {f : BoundField} {outer : Awaiting .span}
    (fresh : b.get f = none) (n : UInt64) {ws : List (List Char)}
    (later : Parts State.record (.span (b.set n f) outer) ws) :
    Parts State.record (.span b outer) (writeMember f.text (writeNatural n) :: ws) := by
  have called : (Record.span b outer).afterKey f.text = .colon .bound (.bound b f outer) := by
    simp [Record.afterKey, boundField_ofText_text, fresh]
  have absorbed : b.absorb (f.text, .number (.natural n)) = .ok (b.set n f) := by
    simp [Bounds.absorb, boundField_ofText_text, fresh, boundOf, Except.map]
  refine .cons (fun phase early => cut_member rfl early called (cut_bound b f outer n))
    (fun phase early rest ends => ?_) later
  have member := writesMember_writeMember f.text (writes_writeNatural n)
  rw [outcome_bounds_member outer b early member ends, absorbed]
  rfl

theorem afterKey_span {draft : Draft} (fresh : draft.span = none) (outer : Awaiting .operation) :
    (Record.operation draft outer).afterKey "span" = .colon .span (.span draft outer) := by
  show (if draft.span.isSome then _ else _) = _
  rw [fresh]
  rfl

theorem afterKey_children {draft : Draft} (fresh : draft.children = none)
    (outer : Awaiting .operation) : (Record.operation draft outer).afterKey "children" =
      .colon .children (.children draft outer) := by
  show (if draft.children.isSome then _ else _) = _
  rw [fresh]
  rfl

theorem parts_span {draft : Draft} (fresh : draft.span = none) (outer : Awaiting .operation)
    (span : Span) {ws : List (List Char)}
    (later : Parts State.record
      (.operation { draft with span := if span.isEmpty then none else some span } outer) ws) :
    Parts State.record (.operation draft outer) (span.members ++ ws) := by
  unfold Span.members
  split
  · next empty =>
    rw [if_pos empty, ← fresh] at later
    exact later
  · next proper =>
    rw [if_neg proper] at later
    have start := writesMember_writeMember "start" (writes_writeNatural span.start)
    have stop := writesMember_writeMember "end" (writes_writeNatural span.stop)
    have written : Writes span.toValue _ := writes_writeObject (.cons start (.cons stop .nil))
    have bounds (k : Awaiting .span) : Parts State.record (.span {} k)
        [writeMember "start" (writeNatural span.start),
          writeMember "end" (writeNatural span.stop)] :=
      parts_bound (b := {}) (f := .start) rfl span.start
        (parts_bound (f := .stop) rfl span.stop (.nil _))
    have missing : ¬ draft.Has .span := by simp [Draft.Has, fresh]
    exact parts_member .span (afterKey_span fresh outer) (cut_writeObject rfl (bounds _)) written
      missing rfl later

theorem parts_children {draft : Draft} (fresh : draft.children = none)
    (outer : Awaiting .operation) (ts : List Operation)
    (elements : ∀ k, Parts State.row (.children [] k) (writeAll ts)) :
    Parts State.record (.operation draft outer) (childMembers (writeAll ts)) := by
  unfold childMembers
  split
  · exact .nil _
  · have missing : ¬ draft.Has .children := by simp [Draft.Has, fresh]
    have put : draft.put (.array (toValues ts)) (childrenOf (.array (toValues ts))) .children =
        .ok { draft with children := some (normalAll ts) } := by
      rw [childrenOf, Operation.ofItems_toValues]
      rfl
    exact parts_member .children (afterKey_children fresh outer) (cut_writeArray rfl (elements _))
      (writes_writeArray (Operation.writes_writeAll ts)) missing put (.nil _)

theorem write_head (t : Operation) : ∃ w, t.write = '{' :: w := by
  rcases t with ⟨kind, span, children⟩
  rw [Operation.write, writeObject, List.cons_append]
  exact ⟨_, rfl⟩

mutual
theorem cut_write (k : Awaiting .operation) : (t : Operation) →
    CutShort (.value .operation k) t.write
  | ⟨kind, span, children⟩ => by
    rw [Operation.write, List.append_assoc]
    apply cut_writeObject rfl
    apply parts_kind
    apply parts_span rfl
    exact parts_children rfl k children fun k => parts_writeAll k [] children
theorem parts_writeAll (k : Awaiting .children) (done : List Operation) : (ts : List Operation) →
    Parts State.row (.children done k) (writeAll ts)
  | [] => by
    rw [writeAll]
    exact .nil _
  | t :: ts => by
    rw [writeAll]
    have whole := cut_write (.child done k) t
    have written := Operation.writes_write t
    refine .cons (fun phase early => ?_) (fun phase early rest ends => ?_)
      (parts_writeAll k (t.normal :: done) ts)
    · obtain ⟨w, head⟩ := write_head t
      rw [head] at whole ⊢
      exact cut_element early (by decide) (by decide) whole
    · have yields := yields_operation (.child done k) t.toValue written
      rw [Operation.ofValue_toValue] at yields
      have read := outcome_element (r := .children done k) rfl early Json.blanks_nil written
        Json.blanks_nil yields ends
      rw [List.nil_append, List.append_nil] at read
      exact read
end

theorem outcome_object (k : Awaiting .operation) {members : List (String × Value)} {w : List Char}
    (written : Writes (.object members) w) (rest : List Char) :
    outcome (.value .operation k) (w ++ rest) =
      Operation.ofValue (.object members) >>= fun t => outcome (k.resume t) rest := by
  cases written with
  | noMembers blanks =>
    rw [List.cons_append, List.cons_append, outcome_open_record, List.append_assoc]
    show outcome (.record .opened (.operation {} k)) (_ ++ ('}' :: rest)) = _
    rw [outcome_blanks rfl blanks, outcome_close_record _ _ (by decide), handed_draft]
    rfl
  | object written =>
    rw [List.cons_append, List.cons_append, outcome_open_record, List.append_assoc]
    exact outcome_draft k {} (by decide) members written rest

theorem outcome_write (t : Operation) (rest : List Char) :
    outcome .initial (t.write ++ rest) = outcome (.complete t.normal) rest := by
  have object : ∃ members, t.toValue = .object members := by
    rcases t with ⟨kind, span, children⟩
    rw [Operation.toValue]
    exact ⟨_, rfl⟩
  obtain ⟨members, same⟩ := object
  have written := Operation.writes_write t
  rw [same] at written
  rw [State.initial, outcome_object .document written, ← same, Operation.ofValue_toValue]
  rfl

theorem outcome_complete (t : Operation) {rest : List Char} (blanks : Blanks rest) :
    outcome (.complete t) rest = .ok t := by
  rw [← List.append_nil rest, outcome_blanks rfl blanks]
  rfl

theorem outcome_complete_more (t : Operation) {rest : List Char} (more : ¬ Blanks rest) :
    outcome (.complete t) rest = .error (.syntactic .trailingCharacters) := by
  induction rest with
  | nil => exact absurd Json.blanks_nil more
  | cons c rest ih =>
    by_cases blank : isBlank c = true
    · have stays : (State.complete t).step c = .ok (.complete t) := by
        rw [step_between rfl, if_pos blank]
      rw [outcome_step stays]
      exact ih fun blanks => more (Json.blanks_cons blank blanks)
    · have stops : (State.complete t).step c = Json.halt .trailingCharacters 1 := by
        rw [step_between rfl, if_neg blank]
        rfl
      simp [outcome, stops, Json.halt]

end OperationTree.Reading

namespace OperationTree.Operation

open Json (LocatedFault Blanks isBlank)
open Reading (outcome cut_write outcome_write outcome_complete outcome_complete_more)

theorem ofText_fault (text : String) :
    (ofText text).mapError LocatedFault.fault = outcome .initial text.toList :=
  Reading.read_fault _ _ _

theorem ofText_eq_ok {text : String} {t : Operation} :
    ofText text = .ok t ↔ outcome .initial text.toList = .ok t := by
  rw [← ofText_fault, mapError_eq_ok]

theorem ofText_cut {t : Operation} {p q : String} (cut : p ++ q = t.toText) (more : q ≠ "") :
    ∃ stopped, ofText p = .error stopped ∧ stopped.fault.category = .cutShort := by
  have same : t.write = p.toList ++ q.toList := by
    rw [← String.toList_append, cut, toText, String.toList_ofList]
  have rest : q.toList ≠ [] := by simpa using more
  obtain ⟨fault, ends, read⟩ := cut_write .document t p.toList q.toList same rest
  rw [← Reading.State.initial, ← ofText_fault] at read
  obtain ⟨stopped, refused, named⟩ := mapError_eq_error.mp read
  refine ⟨stopped, refused, ?_⟩
  rw [named]
  show (if fault.isEnd then _ else _) = _
  rw [if_pos ends]

theorem outcome_followed (t : Operation) (s : String) :
    outcome .initial (t.toText ++ s).toList = outcome (.complete t.normal) s.toList := by
  rw [String.toList_append, toText, String.toList_ofList, outcome_write]

theorem blanks_iff {s : String} :
    Blanks s.toList ↔ ∀ c ∈ s.toList, c ∈ [' ', '\t', '\n', '\r'] := by
  simp [Blanks, isBlank, or_assoc]

/-- No beginning of a written operation is read, and of what begins with one only what goes on in
blanks. -/
theorem self_delimiting (t : Operation) :
    (∀ p q : String, p ++ q = t.toText → q ≠ "" →
      ∃ stopped, ofText p = .error stopped ∧ stopped.fault.category = .cutShort) ∧
    (∀ s : String,
      ((∀ c ∈ s.toList, c ∈ [' ', '\t', '\n', '\r']) →
        ∃ u, ofText t.toText = .ok u ∧ ofText (t.toText ++ s) = .ok u) ∧
      ((∃ c ∈ s.toList, c ∉ [' ', '\t', '\n', '\r']) →
        ∃ stopped, ofText (t.toText ++ s) = .error stopped ∧
          stopped.fault.category = .malformed)) ∧
    ∀ text more : String, text ++ more = t.toText ∨ text = t.toText ++ more →
      ∀ u, ofText text = .ok u → ofText t.toText = .ok u := by
  have blank (s : String) (blanks : Blanks s.toList) : ofText (t.toText ++ s) = .ok t.normal := by
    rw [ofText_eq_ok, outcome_followed, outcome_complete _ blanks]
  have refused (s : String) (mark : ¬ Blanks s.toList) :
      ∃ stopped, ofText (t.toText ++ s) = .error stopped ∧ stopped.fault.category = .malformed := by
    have read := ofText_fault (t.toText ++ s)
    rw [outcome_followed, outcome_complete_more _ mark] at read
    obtain ⟨stopped, refused, named⟩ := mapError_eq_error.mp read
    exact ⟨stopped, refused, by rw [named]; rfl⟩
  refine ⟨fun p q => ofText_cut, fun s => ⟨fun only => ?_, fun mark => ?_⟩,
    fun text more relates u read => ?_⟩
  · exact ⟨t.normal, ofText_toText t, blank s (blanks_iff.mpr only)⟩
  · rcases mark with ⟨c, among, other⟩
    exact refused s fun blanks => other (blanks_iff.mp blanks c among)
  · rcases relates with cut | rfl
    · by_cases nothing : more = ""
      · rw [nothing, String.append_empty] at cut
        rwa [← cut]
      · obtain ⟨stopped, failed, _⟩ := ofText_cut cut nothing
        rw [failed] at read
        cases read
    · by_cases blanks : Blanks more.toList
      · rw [blank more blanks] at read
        rw [← read, ofText_toText]
      · obtain ⟨stopped, failed, _⟩ := refused more blanks
        rw [failed] at read
        cases read

/-- A literal's text, cut inside its payload's key, and followed by a line's end or a brace. -/
theorem self_delimiting_literal :
    (ofLiteral "1").toText = "\x7b\"kind\":\"literal\",\"value\":\"1\"\x7d" ∧
    (∃ stopped, ofText "\x7b\"kind\":\"literal\",\"va" = .error stopped ∧
      stopped.fault.category = .cutShort) ∧
    (∃ u, ofText (ofLiteral "1").toText = .ok u ∧
      ofText ((ofLiteral "1").toText ++ "\r\n") = .ok u) ∧
    ∃ stopped, ofText ((ofLiteral "1").toText ++ " \x7d") = .error stopped ∧
      stopped.fault.category = .malformed := by
  have written : (ofLiteral "1").toText = "\x7b\"kind\":\"literal\",\"value\":\"1\"\x7d" := by
    decide +kernel
  obtain ⟨cut, followed, _⟩ := self_delimiting (ofLiteral "1")
  refine ⟨written, cut _ "lue\":\"1\"\x7d" ?_ (by decide), ?_, ?_⟩
  · rw [written]
    decide
  · exact (followed "\r\n").1 (by simp)
  · exact (followed " \x7d").2 (by simp)

end OperationTree.Operation
