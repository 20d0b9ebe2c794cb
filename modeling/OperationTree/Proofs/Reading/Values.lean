import OperationTree.Proofs.Reading.Outcome

namespace OperationTree.Reading

open Json (Value Fault Blanks EndsNumber Writes WritesItems WritesMember WritesMembers isBlank)

/-- Reading `w` for `k` comes to `result`, whatever follows that is not part of a number. -/
def Yields {goal : Goal} (k : Awaiting goal) (w : List Char) (result : Except Fault goal.Result) :
    Prop :=
  ∀ rest, Ends rest →
    outcome (.value goal k) (w ++ rest) = result >>= fun x => outcome (k.resume x) rest

theorem ends_nil : Ends [] := by
  intro c member
  cases member

theorem ends_cons {c : Char} {rest : List Char} (ends : EndsNumber c) : Ends (c :: rest) := by
  intro d member
  cases member
  exact ends

theorem endsNumber_of_blank {c : Char} (blank : isBlank c = true) : EndsNumber c := by
  simp only [isBlank, Bool.or_eq_true, beq_iff_eq] at blank
  rcases blank with ((rfl | rfl) | rfl) | rfl <;> refine ⟨?_, ?_, ?_, ?_⟩ <;> decide

theorem ends_blanks {blank rest : List Char} (blanks : Blanks blank) (ends : Ends rest) :
    Ends (blank ++ rest) := by
  cases blank with
  | nil => exact ends
  | cons c blank => exact ends_cons (endsNumber_of_blank (blanks c List.mem_cons_self))

theorem ends_comma (rest : List Char) : Ends (',' :: rest) :=
  ends_cons ⟨rfl, by decide, by decide, by decide⟩

theorem ends_bracket (rest : List Char) : Ends (']' :: rest) :=
  ends_cons ⟨rfl, by decide, by decide, by decide⟩

theorem ends_brace (rest : List Char) : Ends ('}' :: rest) :=
  ends_cons ⟨rfl, by decide, by decide, by decide⟩

def IsScalar : Value → Prop
  | .array _ | .object _ => False
  | _ => True

theorem outcome_scalar {goal : Goal} (k : Awaiting goal) {v : Value} {w : List Char}
    (written : Writes v w) (scalar : IsScalar v) {rest : List Char} (ends : Ends rest) :
    outcome (.value goal k) (w ++ rest) = handed (deliver goal k v) rest := by
  have word (c d : Char) (letters : List Char) (value : Value) (mark : isBlank c = false)
      (begins : begin goal k c = .ok (.word goal k ⟨d :: letters, value⟩)) :
      outcome (.value goal k) (c :: d :: letters ++ rest) = handed (deliver goal k value) rest := by
    have steps : (State.value goal k).step c = .ok (.word goal k ⟨d :: letters, value⟩) := by
      rw [step_mark rfl mark]
      exact begins
    rw [List.cons_append, outcome_step steps]
    exact outcome_word k value d letters rest
  cases written with
  | null => exact word 'n' 'u' ['l', 'l'] .null (by decide) rfl
  | true => exact word 't' 'r' ['u', 'e'] (.bool true) (by decide) rfl
  | false => exact word 'f' 'a' ['l', 's', 'e'] (.bool false) (by decide) rfl
  | number reads => exact outcome_number k reads ends
  | @text s w spelled =>
    rw [List.append_assoc, List.singleton_append]
    exact outcome_text k spelled rest
  | _ => exact scalar.elim

theorem head_of_writes {v : Value} {w : List Char} (written : Writes v w) :
    ∃ c later, w = c :: later ∧ isBlank c = false ∧ c ≠ ']' := by
  cases written with
  | number reads =>
    rcases Json.ofText?_cases reads with ⟨later, rfl, _⟩ | ⟨c, later, d, rfl, digit, _⟩
    · exact ⟨'-', later, rfl, by decide, by decide⟩
    · refine ⟨c, later, rfl, isBlank_of_digit digit, ?_⟩
      intro same
      subst same
      cases digit
  | _ => exact ⟨_, _, rfl, by decide, by decide⟩

theorem outcome_open_record {goal : Goal} (k : Awaiting goal) (rest : List Char) :
    outcome (.value goal k) ('{' :: rest) = handed (openRecord goal k) rest := by
  apply outcome_placed 0
  rw [step_mark rfl (by decide)]
  rfl

theorem outcome_open_row {goal : Goal} (k : Awaiting goal) (rest : List Char) :
    outcome (.value goal k) ('[' :: rest) = handed (openRow goal k) rest := by
  apply outcome_placed 0
  rw [step_mark rfl (by decide)]
  rfl

theorem outcome_close_record (phase : Phase) (r : Record) (ready : phase ≠ .separated)
    (rest : List Char) : outcome (.record phase r) ('}' :: rest) = handed r.close rest := by
  apply outcome_placed 1
  rw [step_mark rfl (by decide)]
  cases phase <;> first | rfl | exact absurd rfl ready

theorem outcome_close_row (phase : Phase) (r : Row) (ready : phase ≠ .separated)
    (rest : List Char) : outcome (.row phase r) (']' :: rest) = handed r.close rest := by
  apply outcome_placed 1
  rw [step_mark rfl (by decide)]
  cases phase <;> first | rfl | exact absurd rfl ready

theorem outcome_comma_record (r : Record) (rest : List Char) :
    outcome (.record .filled r) (',' :: rest) = outcome (.record .separated r) rest := by
  apply outcome_step
  rw [step_mark rfl (by decide)]
  rfl

theorem outcome_comma_row (r : Row) (rest : List Char) :
    outcome (.row .filled r) (',' :: rest) = outcome (.row .separated r) rest := by
  apply outcome_step
  rw [step_mark rfl (by decide)]
  rfl

theorem outcome_colon {goal : Goal} (k : Awaiting goal) (rest : List Char) :
    outcome (.colon goal k) (':' :: rest) = outcome (.value goal k) rest := by
  apply outcome_step
  rw [step_mark rfl (by decide)]
  rfl

def Row.element : Row → State
  | .children done outer => .value .operation (.child done outer)
  | .noBound outer => .value .bound (.firstBound outer)
  | .oneBound start outer => .value .bound (.secondBound start outer)
  | .array done outer => .value .value (.item done outer)
  | .skipped outer => .value .skipped (.skippedItem outer)

theorem row_step_element {phase : Phase} (r : Row) (early : phase ≠ .filled) {c : Char}
    (mark : isBlank c = false) (opens : c ≠ ']') :
    (State.row phase r).step c = r.element.step c := by
  have between : r.element.isScanning = false := by cases r <;> rfl
  have begins : r.beginElement c = r.element.punctuate c := by cases r <;> rfl
  rw [step_mark rfl mark, step_mark between mark, ← begins]
  cases phase with
  | filled => exact absurd rfl early
  | _ => simp [State.punctuate, Row.step, opens]

theorem outcome_element {goal : Goal} {k : Awaiting goal} {r : Row} {phase : Phase} {v : Value}
    {before w after rest : List Char} {result : Except Fault goal.Result}
    (element : r.element = .value goal k) (early : phase ≠ .filled)
    (blanksBefore : Blanks before) (written : Writes v w) (blanksAfter : Blanks after)
    (yields : Yields k w result) (ends : Ends rest) :
    outcome (.row phase r) (before ++ w ++ after ++ rest) =
      result >>= fun x => outcome (k.resume x) rest := by
  rcases head_of_writes written with ⟨c, later, head, mark, opens⟩
  have same (tail : List Char) :
      outcome (.row phase r) (w ++ tail) = outcome (.value goal k) (w ++ tail) := by
    rw [head, List.cons_append]
    simp only [outcome, row_step_element r early mark opens, element]
  simp only [List.append_assoc]
  rw [outcome_blanks rfl blanksBefore, same, yields _ (ends_blanks blanksAfter ends)]
  congr 1
  funext x
  exact outcome_blanks (resume_between k x) blanksAfter rest

theorem outcome_member {goal : Goal} {k : Awaiting goal} {r : Record} {phase : Phase}
    {key : String} {v : Value} {w rest : List Char} {result : Except Fault goal.Result}
    (called : r.afterKey key = .colon goal k) (early : phase ≠ .filled)
    (written : WritesMember (key, v) w) (yields : ∀ w, Writes v w → Yields k w result)
    (ends : Ends rest) :
    outcome (.record phase r) (w ++ rest) = result >>= fun x => outcome (k.resume x) rest := by
  cases written with
  | @intro _ _ before name colon between w after blanksBefore spelled blanksColon blanksBetween
      written blanksAfter =>
    have keyRead := outcome_key (r := r) early spelled
    rw [called] at keyRead
    simp only [List.append_assoc, List.cons_append] at keyRead ⊢
    rw [outcome_blanks rfl blanksBefore, keyRead, outcome_blanks rfl blanksColon, outcome_colon,
      outcome_blanks rfl blanksBetween, yields w written _ (ends_blanks blanksAfter ends)]
    congr 1
    funext x
    exact outcome_blanks (resume_between k x) blanksAfter rest

theorem outcome_member_fault {r : Record} {phase : Phase} {key : String} {v : Value}
    {w : List Char} {fault : ContentFault} (refused : r.afterKey key = .closing fault)
    (early : phase ≠ .filled) (written : WritesMember (key, v) w) (rest : List Char) :
    outcome (.record phase r) (w ++ rest) = .error (.data fault) := by
  cases written with
  | intro blanksBefore spelled _ _ _ _ =>
    have keyRead := outcome_key (r := r) early spelled
    rw [refused] at keyRead
    simp only [List.append_assoc, List.cons_append] at keyRead ⊢
    rw [outcome_blanks rfl blanksBefore, keyRead, outcome_closing]

theorem yields_empty_row {goal : Goal} {k : Awaiting goal} {r : Row} {blank : List Char}
    (opened : openRow goal k = .ok (.row .opened r)) {result : Except Fault goal.Result}
    (closed : ∀ rest, handed r.close rest = result >>= fun x => outcome (k.resume x) rest)
    (blanks : Blanks blank) : Yields k ('[' :: blank ++ [']']) result := by
  intro rest _
  rw [List.cons_append, List.cons_append, outcome_open_row, opened, List.append_assoc]
  show outcome (.row .opened r) (blank ++ ([']'] ++ rest)) = _
  rw [outcome_blanks rfl blanks, List.singleton_append, outcome_close_row _ r (by decide), closed]

theorem yields_empty_record {goal : Goal} {k : Awaiting goal} {r : Record} {blank : List Char}
    (opened : openRecord goal k = .ok (.record .opened r)) {result : Except Fault goal.Result}
    (closed : ∀ rest, handed r.close rest = result >>= fun x => outcome (k.resume x) rest)
    (blanks : Blanks blank) : Yields k ('{' :: blank ++ ['}']) result := by
  intro rest _
  rw [List.cons_append, List.cons_append, outcome_open_record, opened, List.append_assoc]
  show outcome (.record .opened r) (blank ++ (['}'] ++ rest)) = _
  rw [outcome_blanks rfl blanks, List.singleton_append, outcome_close_record _ r (by decide),
    closed]

theorem yields_delivered {goal : Goal} {k : Awaiting goal} {v : Value} {w : List Char}
    {x : goal.Result} (written : Writes v w) (scalar : IsScalar v)
    (delivered : deliver goal k v = .ok (k.resume x)) : Yields k w (.ok x) := by
  intro rest ends
  rw [outcome_scalar k written scalar ends, delivered]
  rfl

theorem yields_refused {goal : Goal} {k : Awaiting goal} {v : Value} {w : List Char}
    {fault : ContentFault} (written : Writes v w) (scalar : IsScalar v)
    (refused : deliver goal k v = .error fault) : Yields k w (.error (.data fault)) := by
  intro rest ends
  rw [outcome_scalar k written scalar ends, refused]
  rfl

mutual
theorem yields_value (k : Awaiting .value) :
    ∀ (v : Value) {w : List Char}, Writes v w → Yields k w (.ok v)
  | .null, _, written => yields_delivered written trivial rfl
  | .bool _, _, written => yields_delivered written trivial rfl
  | .number _, _, written => yields_delivered written trivial rfl
  | .text _, _, written => yields_delivered written trivial rfl
  | .array _, _, .noItems blanks => yields_empty_row rfl (fun _ => rfl) blanks
  | .object _, _, .noMembers blanks => yields_empty_record rfl (fun _ => rfl) blanks
  | .array items, _, .array written => by
    intro rest _
    rw [List.cons_append, List.cons_append, outcome_open_row, List.append_assoc]
    exact outcome_items k [] (by decide) items written rest
  | .object members, _, .object written => by
    intro rest _
    rw [List.cons_append, List.cons_append, outcome_open_record, List.append_assoc]
    exact outcome_members k [] (by decide) members written rest
theorem outcome_items (k : Awaiting .value) (done : List Value) {phase : Phase}
    (early : phase ≠ .filled) :
    ∀ (items : List Value) {w : List Char}, WritesItems items w → ∀ rest,
      outcome (.row phase (.array done k)) (w ++ (']' :: rest)) =
        outcome (k.resume (.array (done.reverse ++ items))) rest
  | [v], _, .last blanksBefore written blanksAfter => by
    intro rest
    have yields := yields_value (.item done k) v written
    rw [outcome_element rfl early blanksBefore written blanksAfter yields (ends_bracket rest)]
    show outcome (.row .filled (.array (v :: done) k)) (']' :: rest) = _
    rw [outcome_close_row _ _ (by decide)]
    simp [Row.close, handed_ok]
  | v :: items, _, .more blanksBefore written blanksAfter later => by
    intro rest
    have yields := yields_value (.item done k) v written
    rw [List.append_assoc, List.cons_append,
      outcome_element rfl early blanksBefore written blanksAfter yields (ends_comma _)]
    show outcome (.row .filled (.array (v :: done) k)) (',' :: (_ ++ _)) = _
    rw [outcome_comma_row, outcome_items k (v :: done) (by decide) items later]
    simp
theorem outcome_members (k : Awaiting .value) (done : List (String × Value)) {phase : Phase}
    (early : phase ≠ .filled) :
    ∀ (members : List (String × Value)) {w : List Char}, WritesMembers members w → ∀ rest,
      outcome (.record phase (.object done k)) (w ++ ('}' :: rest)) =
        outcome (k.resume (.object (done.reverse ++ members))) rest
  | [(key, v)], _, .last written => by
    intro rest
    have yields := fun w => yields_value (.member done key k) v (w := w)
    rw [outcome_member rfl early written yields (ends_brace rest)]
    show outcome (.record .filled (.object ((key, v) :: done) k)) ('}' :: rest) = _
    rw [outcome_close_record _ _ (by decide)]
    simp [Record.close, handed_ok]
  | (key, v) :: members, _, .more written later => by
    intro rest
    have yields := fun w => yields_value (.member done key k) v (w := w)
    rw [List.append_assoc, List.cons_append,
      outcome_member rfl early written yields (ends_comma _)]
    show outcome (.record .filled (.object ((key, v) :: done) k)) (',' :: (_ ++ _)) = _
    rw [outcome_comma_record, outcome_members k ((key, v) :: done) (by decide) members later]
    simp
end

mutual
theorem yields_skipped (k : Awaiting .skipped) :
    ∀ (v : Value) {w : List Char}, Writes v w → Yields k w (.ok ())
  | .null, _, written => yields_delivered written trivial rfl
  | .bool _, _, written => yields_delivered written trivial rfl
  | .number _, _, written => yields_delivered written trivial rfl
  | .text _, _, written => yields_delivered written trivial rfl
  | .array _, _, .noItems blanks => yields_empty_row rfl (fun _ => rfl) blanks
  | .object _, _, .noMembers blanks => yields_empty_record rfl (fun _ => rfl) blanks
  | .array items, _, .array written => by
    intro rest _
    rw [List.cons_append, List.cons_append, outcome_open_row, List.append_assoc]
    exact skipped_items k (by decide) items written rest
  | .object members, _, .object written => by
    intro rest _
    rw [List.cons_append, List.cons_append, outcome_open_record, List.append_assoc]
    exact skipped_members k (by decide) members written rest
theorem skipped_items (k : Awaiting .skipped) {phase : Phase} (early : phase ≠ .filled) :
    ∀ (items : List Value) {w : List Char}, WritesItems items w → ∀ rest,
      outcome (.row phase (.skipped k)) (w ++ (']' :: rest)) = outcome (k.resume ()) rest
  | [v], _, .last blanksBefore written blanksAfter => by
    intro rest
    have yields := yields_skipped (.skippedItem k) v written
    rw [outcome_element rfl early blanksBefore written blanksAfter yields (ends_bracket rest)]
    exact outcome_close_row .filled (.skipped k) (by decide) rest
  | v :: items, _, .more blanksBefore written blanksAfter later => by
    intro rest
    have yields := yields_skipped (.skippedItem k) v written
    rw [List.append_assoc, List.cons_append,
      outcome_element rfl early blanksBefore written blanksAfter yields (ends_comma _)]
    show outcome (.row .filled (.skipped k)) (',' :: (_ ++ _)) = _
    rw [outcome_comma_row]
    exact skipped_items k (by decide) items later rest
theorem skipped_members (k : Awaiting .skipped) {phase : Phase} (early : phase ≠ .filled) :
    ∀ (members : List (String × Value)) {w : List Char}, WritesMembers members w → ∀ rest,
      outcome (.record phase (.skipped k)) (w ++ ('}' :: rest)) = outcome (k.resume ()) rest
  | [(_, v)], _, .last written => by
    intro rest
    have yields := fun w => yields_skipped (.skippedMember k) v (w := w)
    rw [outcome_member rfl early written yields (ends_brace rest)]
    exact outcome_close_record .filled (.skipped k) (by decide) rest
  | (_, v) :: members, _, .more written later => by
    intro rest
    have yields := fun w => yields_skipped (.skippedMember k) v (w := w)
    rw [List.append_assoc, List.cons_append,
      outcome_member rfl early written yields (ends_comma _)]
    show outcome (.record .filled (.skipped k)) (',' :: (_ ++ _)) = _
    rw [outcome_comma_record]
    exact skipped_members k (by decide) members later rest
end

end OperationTree.Reading
