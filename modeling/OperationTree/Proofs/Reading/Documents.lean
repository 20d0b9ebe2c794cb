import OperationTree.Proofs.Reading.Meaning
import OperationTree.Proofs.Reading.Values

namespace OperationTree

open Json (Value Fault Writes WritesItems WritesMember WritesMembers)

namespace Reading

theorem yields_bound (k : Awaiting .bound) {v : Value} {w : List Char} (written : Writes v w) :
    Yields k w (asData (boundOf v)) := by
  cases v with
  | array items =>
    intro rest _
    cases written <;> rw [List.cons_append, List.cons_append, outcome_open_row] <;> rfl
  | object members =>
    intro rest _
    cases written <;> rw [List.cons_append, List.cons_append, outcome_open_record] <;> rfl
  | number n =>
    cases n with
    | natural n => exact yields_delivered written trivial rfl
    | _ => exact yields_refused written trivial rfl
  | _ => exact yields_refused written trivial rfl

theorem outcome_bounds_member (k : Awaiting .span) (b : Bounds) {phase : Phase} {key : String}
    {v : Value} {w rest : List Char} (early : phase ≠ .filled)
    (written : WritesMember (key, v) w) (ends : Ends rest) :
    outcome (.record phase (.span b k)) (w ++ rest) =
      asData (b.absorb (key, v)) >>= fun next => outcome (.record .filled (.span next k)) rest := by
  unfold Bounds.absorb
  cases field : BoundField.ofText? key with
  | none =>
    have called : (Record.span b k).afterKey key = .colon .skipped (.foreign b k) := by
      simp [Record.afterKey, field]
    rw [outcome_member called early written (fun w => yields_skipped _ v) ends]
    rfl
  | some field' =>
    by_cases present : (b.get field').isSome = true
    · have refused : (Record.span b k).afterKey key = .closing (.duplicateField field'.text) := by
        simp [Record.afterKey, field, present]
      rw [outcome_member_fault refused early written]
      simp [present]
      rfl
    · have called : (Record.span b k).afterKey key = .colon .bound (.bound b field' k) := by
        simp [Record.afterKey, field, present]
      rw [outcome_member called early written (fun w => yields_bound _) ends]
      simp only [present]
      cases boundOf v <;> rfl

theorem outcome_bounds (k : Awaiting .span) (b : Bounds) {phase : Phase}
    {members : List (String × Value)} {w : List Char} (early : phase ≠ .filled)
    (written : WritesMembers members w) (rest : List Char) :
    outcome (.record phase (.span b k)) (w ++ '}' :: rest) =
      asData (members.foldlM Bounds.absorb b >>= Bounds.finish) >>= fun span =>
        outcome (k.resume span) rest := by
  induction members generalizing b phase w with
  | nil => cases written
  | cons member later ih =>
    rcases member with ⟨key, v⟩
    rw [List.foldlM_cons]
    cases written with
    | last written =>
      rw [outcome_bounds_member k b early written (ends_brace rest)]
      cases b.absorb (key, v) with
      | error fault => rfl
      | ok next =>
        show outcome (.record .filled (.span next k)) ('}' :: rest) =
          asData next.finish >>= fun span => outcome (k.resume span) rest
        rw [outcome_close_record _ _ (by decide)]
        simp only [Record.close, handed, asData]
        cases next.finish <;> rfl
    | more written later =>
      rw [List.append_assoc, List.cons_append,
        outcome_bounds_member k b early written (ends_comma _)]
      cases b.absorb (key, v) with
      | error fault => rfl
      | ok next =>
        show outcome (.record .filled (.span next k)) (',' :: (_ ++ _)) = _
        rw [outcome_comma_record, ih next (by decide) later]
        rfl

theorem outcome_surplus {items : List Value} {w : List Char} (written : WritesItems items w)
    (rest : List Char) :
    outcome .surplus (w ++ rest) = .error (.syntactic .trailingCharacters) := by
  have stops {before v : List Char} {value : Value} (blanks : Json.Blanks before)
      (written : Writes value v) (tail : List Char) :
      outcome .surplus (before ++ (v ++ tail)) = .error (.syntactic .trailingCharacters) := by
    rcases head_of_writes written with ⟨c, later, rfl, mark, opens⟩
    have steps : State.surplus.step c = Json.halt .trailingCharacters 1 := by
      rw [step_mark rfl mark]
      simp [State.punctuate, opens]
    rw [outcome_blanks rfl blanks, List.cons_append]
    simp [outcome, steps, Json.halt]
  cases written with
  | last blanks written _ =>
    simp only [List.append_assoc]
    exact stops blanks written _
  | more blanks written _ _ =>
    simp only [List.append_assoc]
    exact stops blanks written _

theorem outcome_pair (k : Awaiting .span) {items : List Value} {w : List Char}
    (written : WritesItems items w) (rest : List Char) :
    outcome (.row .opened (.noBound k)) (w ++ ']' :: rest) =
      pairOf items >>= fun span => outcome (k.resume span) rest := by
  have first {v : Value} {before w after tail : List Char} (blanks : Json.Blanks before)
      (written : Writes v w) (blanksAfter : Json.Blanks after) (ends : Ends tail) :
      outcome (.row .opened (.noBound k)) (before ++ w ++ after ++ tail) =
        asData (boundOf v) >>= fun n => outcome (.row .filled (.oneBound n k)) tail :=
    outcome_element rfl (show Phase.opened ≠ .filled by decide) blanks written blanksAfter
      (yields_bound (.firstBound k) written) ends
  have second {v : Value} {before w after tail : List Char} (start : UInt64)
      (blanks : Json.Blanks before) (written : Writes v w) (blanksAfter : Json.Blanks after)
      (ends : Ends tail) :
      outcome (.row .separated (.oneBound start k)) (before ++ w ++ after ++ tail) =
        asData (boundOf v) >>= fun n => outcome (.pair ⟨start, n⟩ k) tail :=
    outcome_element rfl (show Phase.separated ≠ .filled by decide) blanks written blanksAfter
      (yields_bound (.secondBound start k) written) ends
  cases written with
  | @last v _ _ _ blanks written blanksAfter =>
    rw [first blanks written blanksAfter (ends_bracket rest), pairOf]
    cases asData (boundOf v) with
    | error fault => rfl
    | ok start =>
      exact outcome_close_row .filled (.oneBound start k) (by decide) rest
  | @more v items _ _ _ _ blanks written blanksAfter later =>
    rw [List.append_assoc, List.cons_append, first blanks written blanksAfter (ends_comma _)]
    cases later with
    | @last u _ _ _ blanks written blanksAfter =>
      rw [pairOf]
      cases asData (boundOf v) with
      | error fault => rfl
      | ok start =>
        show outcome (.row .filled (.oneBound start k)) (',' :: (_ ++ _)) = _
        rw [outcome_comma_row, second start blanks written blanksAfter (ends_bracket rest)]
        cases boundU : asData (boundOf u) with
        | error fault => rfl
        | ok stop =>
          show outcome (.pair ⟨start, stop⟩ k) (']' :: rest) = outcome (k.resume ⟨start, stop⟩) rest
          exact outcome_step (by rw [step_mark rfl (by decide)]; rfl) rest
    | @more u items _ _ _ _ blanks written blanksAfter later =>
      rw [pairOf]
      cases asData (boundOf v) with
      | error fault => rfl
      | ok start =>
        show outcome (.row .filled (.oneBound start k)) (',' :: (_ ++ _)) = _
        rw [outcome_comma_row, List.append_assoc, List.cons_append,
          second start blanks written blanksAfter (ends_comma _)]
        cases asData (boundOf u) with
        | error fault => rfl
        | ok stop =>
          have comma : (State.pair ⟨start, stop⟩ k).step ',' = .ok .surplus := by
            rw [step_mark rfl (by decide)]
            rfl
          show outcome (.pair ⟨start, stop⟩ k) (',' :: (_ ++ _)) = _
          rw [outcome_step comma, outcome_surplus later]
          cases later <;> rfl

theorem yields_span (k : Awaiting .span) {v : Value} {w : List Char} (written : Writes v w) :
    Yields k w (Span.ofValue v) := by
  cases v with
  | array items =>
    cases written with
    | noItems blanks => exact yields_empty_row rfl (fun _ => rfl) blanks
    | array written =>
      intro rest _
      rw [List.cons_append, List.cons_append, outcome_open_row, List.append_assoc]
      exact outcome_pair k written rest
  | object members =>
    cases written with
    | noMembers blanks => exact yields_empty_record rfl (fun _ => rfl) blanks
    | object written =>
      intro rest _
      rw [List.cons_append, List.cons_append, outcome_open_record, List.append_assoc]
      exact outcome_bounds k {} (by decide) written rest
  | _ => exact yields_refused written trivial rfl

theorem outcome_draft_member (k : Awaiting .operation) (draft : Draft) {phase : Phase}
    {key : String} {v : Value} {w rest : List Char} (early : phase ≠ .filled)
    (written : WritesMember (key, v) w)
    (yieldsChildren : ∀ (k : Awaiting .children) w, Writes v w →
      Yields k w (Operation.childrenOf v)) (ends : Ends rest) :
    outcome (.record phase (.operation draft k)) (w ++ rest) =
      draft.absorb key v (Operation.childrenOf v) >>= fun next =>
        outcome (.record .filled (.operation next k)) rest := by
  unfold Draft.absorb
  cases field : Field.ofText? key with
  | none =>
    exact outcome_member_fault (by simp [Record.afterKey, field]) early written rest
  | some field' =>
    cases field' with
    | kind =>
      have called : (Record.operation draft k).afterKey key = .colon .value (.tag draft k) := by
        simp [Record.afterKey, field]
      rw [outcome_member called early written (fun w => yields_value _ v) ends]
      show outcome (Awaiting.resume (.tag draft k) v) rest = _
      simp only [Awaiting.resume]
      split
      · exact outcome_closing _ rest
      · rfl
    | payload payload =>
      have called : (Record.operation draft k).afterKey key =
          .colon .value (.payload draft payload k) := by
        simp [Record.afterKey, field]
      rw [outcome_member called early written (fun w => yields_value _ v) ends]
      show outcome (Awaiting.resume (.payload draft payload k) v) rest = _
      simp only [Awaiting.resume]
      split
      · exact outcome_closing _ rest
      · rfl
    | span =>
      by_cases present : draft.span.isSome = true
      · have refused : (Record.operation draft k).afterKey key =
            .closing (.duplicateField "span") := by
          simp [Record.afterKey, field, present]
        rw [outcome_member_fault refused early written]
        simp only [present]
        rfl
      · have called : (Record.operation draft k).afterKey key = .colon .span (.span draft k) := by
          simp [Record.afterKey, field, present]
        rw [outcome_member called early written (fun w => yields_span _) ends]
        simp only [present]
        cases Span.ofValue v <;> rfl
    | children =>
      by_cases present : draft.children.isSome = true
      · have refused : (Record.operation draft k).afterKey key =
            .closing (.duplicateField "children") := by
          simp [Record.afterKey, field, present]
        rw [outcome_member_fault refused early written]
        simp only [present]
        rfl
      · have called : (Record.operation draft k).afterKey key =
            .colon .children (.children draft k) := by
          simp [Record.afterKey, field, present]
        rw [outcome_member called early written (yieldsChildren _) ends]
        simp only [present]
        cases Operation.childrenOf v <;> rfl

theorem handed_draft (k : Awaiting .operation) (draft : Draft) (rest : List Char) :
    handed (Record.operation draft k).close rest =
      asData draft.finish >>= fun t => outcome (k.resume t) rest := by
  simp only [Record.close, handed, asData]
  cases draft.finish <;> rfl

mutual
/-- Reading a value for an operation comes to what the value means. -/
theorem yields_operation (k : Awaiting .operation) :
    ∀ (v : Value) {w : List Char}, Writes v w → Yields k w (Operation.ofValue v)
  | .null, _, written => yields_refused written trivial rfl
  | .bool _, _, written => yields_refused written trivial rfl
  | .number _, _, written => yields_refused written trivial rfl
  | .text _, _, written => yields_refused written trivial rfl
  | .array _, _, written => by
    intro rest _
    cases written <;> rw [List.cons_append, List.cons_append, outcome_open_row] <;> rfl
  | .object _, _, .noMembers blanks => yields_empty_record rfl (handed_draft k {}) blanks
  | .object members, _, .object written => by
    intro rest _
    rw [List.cons_append, List.cons_append, outcome_open_record, List.append_assoc]
    exact outcome_draft k {} (by decide) members written rest
theorem outcome_draft (k : Awaiting .operation) (draft : Draft) {phase : Phase}
    (early : phase ≠ .filled) :
    ∀ (members : List (String × Value)) {w : List Char}, WritesMembers members w → ∀ rest,
      outcome (.record phase (.operation draft k)) (w ++ ('}' :: rest)) =
        Operation.ofMembers draft members >>= fun t => outcome (k.resume t) rest
  | [(key, v)], _, .last written => by
    intro rest
    have yields := fun k w => yields_children k v (w := w)
    rw [outcome_draft_member k draft early written yields (ends_brace rest), Operation.ofMembers]
    cases draft.absorb key v (Operation.childrenOf v) with
    | error fault => rfl
    | ok next =>
      show outcome (.record .filled (.operation next k)) ('}' :: rest) = _
      rw [outcome_close_record _ _ (by decide), handed_draft]
      rfl
  | (key, v) :: members, _, .more written later => by
    intro rest
    have yields := fun k w => yields_children k v (w := w)
    rw [List.append_assoc, List.cons_append,
      outcome_draft_member k draft early written yields (ends_comma _), Operation.ofMembers]
    cases draft.absorb key v (Operation.childrenOf v) with
    | error fault => rfl
    | ok next =>
      show outcome (.record .filled (.operation next k)) (',' :: (_ ++ _)) = _
      rw [outcome_comma_record, outcome_draft k next (by decide) members later]
      rfl
theorem yields_children (k : Awaiting .children) :
    ∀ (v : Value) {w : List Char}, Writes v w → Yields k w (Operation.childrenOf v)
  | .null, _, written => yields_refused written trivial rfl
  | .bool _, _, written => yields_refused written trivial rfl
  | .number _, _, written => yields_refused written trivial rfl
  | .text _, _, written => yields_refused written trivial rfl
  | .object _, _, written => by
    intro rest _
    cases written <;> rw [List.cons_append, List.cons_append, outcome_open_record] <;> rfl
  | .array _, _, .noItems blanks => yields_empty_row rfl (fun _ => rfl) blanks
  | .array items, _, .array written => by
    intro rest _
    rw [List.cons_append, List.cons_append, outcome_open_row, List.append_assoc]
    exact outcome_children k [] (by decide) items written rest
theorem outcome_children (k : Awaiting .children) (done : List Operation) {phase : Phase}
    (early : phase ≠ .filled) :
    ∀ (items : List Value) {w : List Char}, WritesItems items w → ∀ rest,
      outcome (.row phase (.children done k)) (w ++ (']' :: rest)) =
        Operation.ofItems items >>= fun ts => outcome (k.resume (done.reverse ++ ts)) rest
  | [v], _, .last blanksBefore written blanksAfter => by
    intro rest
    have yields := yields_operation (.child done k) v written
    rw [outcome_element rfl early blanksBefore written blanksAfter yields (ends_bracket rest),
      Operation.ofItems]
    cases Operation.ofValue v with
    | error fault => rfl
    | ok t =>
      show outcome (.row .filled (.children (t :: done) k)) (']' :: rest) = _
      rw [outcome_close_row _ _ (by decide)]
      simp [Row.close, handed_ok, bind, Except.bind, Operation.ofItems, pure, Except.pure]
  | v :: items, _, .more blanksBefore written blanksAfter later => by
    intro rest
    have yields := yields_operation (.child done k) v written
    rw [List.append_assoc, List.cons_append,
      outcome_element rfl early blanksBefore written blanksAfter yields (ends_comma _),
      Operation.ofItems]
    cases Operation.ofValue v with
    | error fault => rfl
    | ok t =>
      show outcome (.row .filled (.children (t :: done) k)) (',' :: (_ ++ _)) = _
      rw [outcome_comma_row, outcome_children k (t :: done) (by decide) items later]
      cases Operation.ofItems items with
      | error fault => rfl
      | ok ts => simp [bind, Except.bind, pure, Except.pure]
end

end Reading

namespace Operation

open Reading

theorem ofText_document {v : Value} {text : List Char} (document : Json.IsDocument v text) :
    (ofText (String.ofList text)).mapError Json.LocatedFault.fault = ofValue v := by
  cases document with
  | @intro before w after blanksBefore written blanksAfter =>
    have yields := yields_operation .document v written
    unfold ofText
    rw [read_fault, String.toList_ofList, List.append_assoc, State.initial,
      outcome_blanks rfl blanksBefore, yields]
    · cases ofValue v with
      | error fault => rfl
      | ok t =>
        show outcome (.complete t) after = .ok t
        rw [← List.append_nil after, outcome_blanks rfl blanksAfter]
        rfl
    · rw [← List.append_nil after]
      exact ends_blanks blanksAfter ends_nil

end Operation

end OperationTree
