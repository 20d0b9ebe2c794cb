import OperationTree.Proofs.Json.Compact
import OperationTree.Proofs.Reading.Values

/-!
Texts that end too early. A written text, number, array or object that is cut anywhere before its
last character breaks off: what is left neither reads as something shorter nor shows any other
fault.
-/

namespace OperationTree.Reading

open Json (Fault SyntaxFault Halt Stage TextScan follow? writeText writeMember
  writeObject writeArray)

def BreaksOff (result : Except Fault Operation) : Prop :=
  ∃ fault : SyntaxFault, fault.isEnd = true ∧ result = .error (.syntactic fault)

/-- Wherever `w` is cut before its end, reading it breaks off. -/
def CutShort (state : State) (w : List Char) : Prop :=
  ∀ p q, w = p ++ q → q ≠ [] → BreaksOff (outcome state p)

theorem cut_nil (state : State) : CutShort state [] := by
  intro p q same more
  exact absurd (List.append_eq_nil_iff.mp same.symm).2 more

theorem cut_cons {state next : State} {c : Char} {w : List Char} (here : BreaksOff state.finish)
    (steps : state.step c = .ok next) (later : CutShort next w) : CutShort state (c :: w) := by
  intro p q same more
  cases p with
  | nil => exact here
  | cons d p =>
    obtain ⟨rfl, beyond⟩ := List.cons.inj same
    rw [outcome_step steps]
    exact later p q beyond more

theorem cut_single {state : State} (here : BreaksOff state.finish) (c : Char) :
    CutShort state [c] := by
  intro p q same more
  cases p with
  | nil => exact here
  | cons d p =>
    have nothing := (List.cons.inj same).2
    exact absurd (List.append_eq_nil_iff.mp nothing.symm).2 more

theorem ends_of_append {v q : List Char} (ends : Ends (v ++ q)) : Ends v := by
  cases v with
  | nil => exact ends_nil
  | cons c v => exact ends_cons (ends c rfl)

theorem cut_append {state next : State} {u v : List Char} (first : CutShort state u)
    (reads : ∀ rest, Ends rest → outcome state (u ++ rest) = outcome next rest)
    (second : CutShort next v) (ends : Ends v) : CutShort state (u ++ v) := by
  intro p q same more
  rcases List.append_eq_append_iff.mp same with ⟨into, rfl, rfl⟩ | ⟨left, rfl, rfl⟩
  · rw [reads into (ends_of_append ends)]
    exact second into q rfl more
  · cases left with
    | nil =>
      have whole := reads [] ends_nil
      rw [List.append_nil, List.append_nil] at whole
      rw [whole]
      exact second [] v rfl more
    | cons c left => exact first p (c :: left) rfl (by simp)

theorem cut_follow {σ α : Type} {step : σ → Char → Except Halt (Stage σ α)} {wrap : σ → State}
    {scan last : σ} {w : List Char}
    (goes : ∀ scan c next, step scan c = .ok (.going next) → (wrap scan).step c = .ok (wrap next))
    (inside : ∀ scan, BreaksOff (wrap scan).finish)
    (taken : follow? step scan w = some last) : CutShort (wrap scan) w := by
  induction w generalizing scan with
  | nil => exact cut_nil _
  | cons c w ih =>
    simp only [follow?] at taken
    split at taken
    · next next going => exact cut_cons (inside scan) (goes _ _ _ going) (ih taken)
    · cases taken

theorem cut_writeText {state : State} {wrap : TextScan → State} (here : BreaksOff state.finish)
    (opens : state.step '"' = .ok (wrap (.plain "")))
    (goes : ∀ scan c next, TextScan.step true scan c = .ok (.going next) →
      (wrap scan).step c = .ok (wrap next))
    (inside : ∀ scan, BreaksOff (wrap scan).finish) (s : String) :
    CutShort state (writeText s) := by
  have taken := TextScan.follow_spelled (TextScan.spelled_flatMap_escape s.toList) ""
  have quote : Ends ['"'] := ends_cons ⟨rfl, by decide, by decide, by decide⟩
  rw [writeText, List.cons_append]
  apply cut_cons here opens
  exact cut_append (cut_follow goes inside taken) (fun rest _ => outcome_follow goes taken rest)
    (cut_single (inside _) '"') quote

theorem cut_text (k : Awaiting .value) (s : String) :
    CutShort (.value .value k) (writeText s) := by
  have opens : (State.value .value k).step '"' = .ok (.text .value k (.plain "")) := by
    rw [step_mark rfl (by decide)]
    rfl
  exact cut_writeText ⟨.endInValue, rfl, rfl⟩ opens (text_goes .value k)
    (fun _ => ⟨.endInString, rfl, rfl⟩) s

theorem toDigits_beginning (n : Nat) {p q : List Char} (same : Nat.toDigits 10 n = p ++ q)
    (some : p ≠ []) : ∃ m ≤ n, p = Nat.toDigits 10 m := by
  induction n using Nat.strongRecOn generalizing q with
  | _ n ih =>
    rcases List.eq_nil_or_concat' q with rfl | ⟨q, d, rfl⟩
    · exact ⟨n, le_refl n, by simpa using same.symm⟩
    · by_cases small : n < 10
      · rw [Nat.toDigits_of_lt_base small, ← List.append_assoc] at same
        have nothing := (List.append_inj' (show [] ++ [_] = _ from same) rfl).1
        exact absurd (List.append_eq_nil_iff.mp nothing.symm).1 some
      · rw [Nat.toDigits_of_base_le (by decide) (by omega), ← List.append_assoc] at same
        have shorter := (List.append_inj' same rfl).1
        obtain ⟨m, below, digits⟩ := ih (n / 10) (by omega) shorter
        exact ⟨m, by omega, digits⟩

theorem cut_bound (b : Bounds) (field : BoundField) (outer : Awaiting .span) (n : UInt64) :
    CutShort (.value .bound (.bound b field outer)) (writeNatural n) := by
  intro p q same _
  by_cases nothing : p = []
  · subst nothing
    exact ⟨.endInValue, rfl, rfl⟩
  · obtain ⟨m, below, rfl⟩ := toDigits_beginning n.toNat same nothing
    have fits : m < 2 ^ 64 := lt_of_le_of_lt below n.toNat_lt
    have reads := Json.ofText?_toDigits (UInt64.ofNat m)
    rw [UInt64.toNat_ofNat_of_lt' fits] at reads
    have read := outcome_number (.bound b field outer) reads ends_nil
    rw [List.append_nil] at read
    rw [read]
    exact ⟨.endInObject, rfl, rfl⟩

theorem record_breaks (phase : Phase) (r : Record) : BreaksOff (State.record phase r).finish := by
  refine ⟨r.atEnd phase, ?_, rfl⟩
  unfold Record.atEnd
  split <;> rfl

theorem row_breaks (phase : Phase) (r : Row) : BreaksOff (State.row phase r).finish := by
  refine ⟨Row.atEnd phase, ?_, rfl⟩
  unfold Row.atEnd
  split <;> rfl

theorem cut_member {r : Record} {phase : Phase} {key : String} {goal : Goal} {k : Awaiting goal}
    {w : List Char} (strict : r.isSkipped = false) (early : phase ≠ .filled)
    (called : r.afterKey key = .colon goal k) (value : CutShort (.value goal k) w) :
    CutShort (.record phase r) (writeMember key w) := by
  have opens : (State.record phase r).step '"' = .ok (.key r (.plain "")) := by
    rw [step_mark rfl (by decide)]
    cases phase <;> first | rfl | exact absurd rfl early
  have goes (scan : TextScan) (c : Char) (next : TextScan)
      (going : TextScan.step true scan c = .ok (.going next)) :
      (State.key r scan).step c = .ok (.key r next) :=
    key_goes r scan c next (by rwa [strict])
  have colon : (State.colon goal k).step ':' = .ok (.value goal k) := by
    rw [step_mark rfl (by decide)]
    rfl
  have read (rest : List Char) :
      outcome (.record phase r) (writeText key ++ rest) = outcome (.colon goal k) rest := by
    have spelled := TextScan.spelled_flatMap_escape key.toList
    rw [← called, ← outcome_key early spelled]
    simp [writeText]
  exact cut_append
    (cut_writeText (record_breaks phase r) opens goes (fun _ => ⟨.endInString, rfl, rfl⟩) key)
    (fun rest _ => read rest) (cut_cons ⟨.endInObject, rfl, rfl⟩ colon value)
    (ends_cons ⟨rfl, by decide, by decide, by decide⟩)

theorem cut_element {r : Row} {phase : Phase} {c : Char} {w : List Char} (early : phase ≠ .filled)
    (mark : Json.isBlank c = false) (opens : c ≠ ']') (element : CutShort r.element (c :: w)) :
    CutShort (.row phase r) (c :: w) := by
  intro p q same more
  cases p with
  | nil => exact row_breaks phase r
  | cons d p =>
    obtain ⟨rfl, _⟩ := List.cons.inj same
    have cut := element (c :: p) q same more
    simp only [outcome] at cut ⊢
    rwa [row_step_element r early mark opens]

/-- One text after the other is read as a further member or element, and can be cut anywhere. -/
inductive Parts {σ : Type} (wrap : Phase → σ → State) : σ → List (List Char) → Prop where
  | nil (s : σ) : Parts wrap s []
  | cons {s next : σ} {w : List Char} {ws : List (List Char)}
      (cut : ∀ phase, phase ≠ .filled → CutShort (wrap phase s) w)
      (reads : ∀ phase, phase ≠ .filled → ∀ rest, Ends rest →
        outcome (wrap phase s) (w ++ rest) = outcome (wrap .filled next) rest)
      (later : Parts wrap next ws) : Parts wrap s (w :: ws)

theorem cut_parts {σ : Type} {wrap : Phase → σ → State} {close : Char}
    (here : ∀ phase s, BreaksOff (wrap phase s).finish)
    (comma : ∀ s, (wrap .filled s).step ',' = .ok (wrap .separated s)) (ends : Ends [close])
    {s : σ} {ws : List (List Char)} (parts : Parts wrap s ws) {phase : Phase}
    (early : phase ≠ .filled) : CutShort (wrap phase s) ([','].intercalate ws ++ [close]) := by
  induction parts generalizing phase with
  | nil s => exact cut_single (here phase s) close
  | @cons s next w ws cut reads later ih =>
    cases ws with
    | nil =>
      rw [List.intercalate_singleton]
      exact cut_append (cut phase early) (reads phase early) (cut_single (here _ _) close) ends
    | cons v vs =>
      have more := cut_append (cut phase early) (reads phase early)
        (cut_cons (here _ _) (comma next) (ih (by decide))) (ends_comma _)
      simpa using more

theorem cut_writeObject {goal : Goal} {k : Awaiting goal} {r : Record} {ws : List (List Char)}
    (opened : openRecord goal k = .ok (.record .opened r)) (parts : Parts State.record r ws) :
    CutShort (.value goal k) (writeObject ws) := by
  have brace : (State.value goal k).step '{' = .ok (.record .opened r) := by
    rw [step_mark rfl (by decide)]
    show placed 0 (openRecord goal k) = _
    rw [opened]
    rfl
  have comma (r : Record) : (State.record .filled r).step ',' = .ok (.record .separated r) := by
    rw [step_mark rfl (by decide)]
    rfl
  rw [writeObject, List.cons_append]
  exact cut_cons ⟨.endInValue, rfl, rfl⟩ brace
    (cut_parts record_breaks comma (ends_brace []) parts (by decide))

theorem cut_writeArray {goal : Goal} {k : Awaiting goal} {r : Row} {ws : List (List Char)}
    (opened : openRow goal k = .ok (.row .opened r)) (parts : Parts State.row r ws) :
    CutShort (.value goal k) (writeArray ws) := by
  have bracket : (State.value goal k).step '[' = .ok (.row .opened r) := by
    rw [step_mark rfl (by decide)]
    show placed 0 (openRow goal k) = _
    rw [opened]
    rfl
  have comma (r : Row) : (State.row .filled r).step ',' = .ok (.row .separated r) := by
    rw [step_mark rfl (by decide)]
    rfl
  rw [writeArray, List.cons_append]
  exact cut_cons ⟨.endInValue, rfl, rfl⟩ bracket
    (cut_parts row_breaks comma (ends_bracket []) parts (by decide))

end OperationTree.Reading
