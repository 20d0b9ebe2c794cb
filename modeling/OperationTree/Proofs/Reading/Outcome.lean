import OperationTree.Proofs.Json.NumberSpelling
import OperationTree.Reading.Step

/-!
What reading on from a state comes to, without positions. Blanks between values do not matter, a
text or a number is handed over whole, and so elements of arrays and members of objects can be
read one after the other.
-/

namespace OperationTree.Reading

open Json (Value Fault Halt Number NumberScan NumberSkim TextScan WordScan Stage Blanks EndsNumber
  Writes WritesMember LocatedFault isBlank digit? follow? halt)

def outcome (state : State) : List Char → Except Fault Operation
  | [] => state.finish
  | c :: rest =>
    match state.step c with
    | .ok next => outcome next rest
    | .error stopped => .error stopped.fault

theorem read_fault (state : State) (position : Json.Position) (text : List Char) :
    (read state position text).mapError LocatedFault.fault = outcome state text := by
  induction text generalizing state position with
  | nil =>
    simp only [read, outcome]
    cases state.finish <;> rfl
  | cons c text ih =>
    simp only [read, outcome]
    cases state.step c with
    | ok next => exact ih _ _
    | error stopped => rfl

theorem outcome_step {state next : State} {c : Char} (steps : state.step c = .ok next)
    (rest : List Char) : outcome state (c :: rest) = outcome next rest := by
  simp [outcome, steps]

def State.isScanning : State → Bool
  | .key _ _ | .text _ _ _ | .word _ _ _ | .number _ _ _ | .skippedNumber _ _ => true
  | _ => false

theorem step_between {state : State} (between : state.isScanning = false) (c : Char) :
    state.step c = if isBlank c then .ok state else state.punctuate c := by
  cases state <;> first | rfl | cases between

theorem finish_between {state : State} (between : state.isScanning = false) :
    state.finish = state.atEnd := by
  cases state <;> first | rfl | cases between

theorem step_mark {state : State} {c : Char} (between : state.isScanning = false)
    (mark : isBlank c = false) : state.step c = state.punctuate c := by
  simp [step_between between, mark]

theorem outcome_blanks {state : State} {blank : List Char} (between : state.isScanning = false)
    (blanks : Blanks blank) (rest : List Char) :
    outcome state (blank ++ rest) = outcome state rest := by
  induction blank with
  | nil => rfl
  | cons c blank ih =>
    have first : isBlank c = true := blanks c List.mem_cons_self
    have stays : state.step c = .ok state := by simp [step_between between, first]
    rw [List.cons_append, outcome_step stays]
    exact ih fun d member => blanks d (List.mem_cons_of_mem c member)

theorem resume_between {goal : Goal} (k : Awaiting goal) (x : goal.Result) :
    (k.resume x).isScanning = false := by
  cases k <;> simp only [Awaiting.resume] <;> first | rfl | (split <;> rfl)

theorem deliver_between {goal : Goal} {k : Awaiting goal} {v : Value} {next : State}
    (delivered : deliver goal k v = .ok next) : next.isScanning = false := by
  unfold deliver at delivered
  split at delivered <;> cases delivered <;> exact resume_between _ _

theorem outcome_closing (fault : ContentFault) (rest : List Char) :
    outcome (.closing fault) rest = .error (.data fault) := by
  induction rest with
  | nil => rfl
  | cons c rest ih =>
    by_cases blank : isBlank c = true
    · have stays : (State.closing fault).step c = .ok (.closing fault) := by
        rw [step_between rfl, if_pos blank]
      rw [outcome_step stays, ih]
    · have stops : (State.closing fault).step c = dataHalt fault (if c = '}' then 1 else 0) := by
        rw [step_between rfl, if_neg blank]
        rfl
      simp [outcome, stops, dataHalt]

/-- Reading goes on from a state, unless what led to it is at fault. -/
def handed (next : Except ContentFault State) (rest : List Char) : Except Fault Operation :=
  next.mapError Fault.data >>= fun state => outcome state rest

theorem handed_ok (next : State) (rest : List Char) : handed (.ok next) rest = outcome next rest :=
  rfl

theorem handed_error (fault : ContentFault) (rest : List Char) :
    handed (.error fault) rest = .error (.data fault) := rfl

theorem outcome_placed {state : State} {c : Char} (bytes : Nat)
    {next : Except ContentFault State} (steps : state.step c = placed bytes next)
    (rest : List Char) : outcome state (c :: rest) = handed next rest := by
  cases next with
  | ok next => exact outcome_step steps rest
  | error fault => simp [outcome, steps, placed, dataHalt, handed_error]

theorem outcome_follow {σ α : Type} {step : σ → Char → Except Halt (Stage σ α)}
    {wrap : σ → State} {scan last : σ} {w : List Char}
    (goes : ∀ scan c next, step scan c = .ok (.going next) →
      (wrap scan).step c = .ok (wrap next))
    (taken : follow? step scan w = some last) (rest : List Char) :
    outcome (wrap scan) (w ++ rest) = outcome (wrap last) rest := by
  induction w generalizing scan with
  | nil =>
    cases taken
    rfl
  | cons c w ih =>
    simp only [follow?] at taken
    split at taken
    · next next going =>
      rw [List.cons_append, outcome_step (goes _ _ _ going)]
      exact ih taken
    · cases taken

theorem key_goes (r : Record) (scan : TextScan) (c : Char) (next : TextScan)
    (going : scan.step (!r.isSkipped) c = .ok (.going next)) :
    (State.key r scan).step c = .ok (.key r next) := by
  simp [State.step, State.advance, going, bind, Except.bind, pure, Except.pure]

theorem text_goes (goal : Goal) (k : Awaiting goal) (scan : TextScan) (c : Char) (next : TextScan)
    (going : scan.step (goal != .skipped) c = .ok (.going next)) :
    (State.text goal k scan).step c = .ok (.text goal k next) := by
  simp [State.step, State.advance, going, bind, Except.bind, pure, Except.pure]

theorem number_goes (goal : Goal) (k : Awaiting goal) (scan : NumberScan) (c : Char)
    (next : NumberScan) (going : scan.step c = .ok (.going next)) :
    (State.number goal k scan).step c = .ok (.number goal k next) := by
  simp [State.step, going, bind, Except.bind, pure, Except.pure]

theorem skim_goes (k : Awaiting .skipped) (skim : NumberSkim) (c : Char) (next : NumberSkim)
    (going : skim.step c = .ok (.going next)) :
    (State.skippedNumber k skim).step c = .ok (.skippedNumber k next) := by
  simp [State.step, going, bind, Except.bind, pure, Except.pure]

theorem outcome_key {r : Record} {phase : Phase} {key : String} {w : List Char}
    (early : phase ≠ .filled) (spelled : TextScan.Spelled key.toList w) (rest : List Char) :
    outcome (.record phase r) ('"' :: w ++ '"' :: rest) = outcome (r.afterKey key) rest := by
  have opens : (State.record phase r).step '"' = .ok (.key r (.plain "")) := by
    rw [step_mark rfl (by decide)]
    cases phase <;> first | rfl | exact absurd rfl early
  have closes (read : String) : (State.key r (.plain read)).step '"' = .ok (r.afterKey read) := by
    simp [State.step, State.advance, TextScan.step, bind, Except.bind, pure, Except.pure]
  rw [List.cons_append, outcome_step opens]
  cases skipped : r.isSkipped with
  | true =>
    rcases TextScan.skip_spelled spelled "" with ⟨last, taken⟩
    rw [show false = !r.isSkipped by simp [skipped]] at taken
    rw [outcome_follow (key_goes r) taken, outcome_step (closes last)]
    cases r <;> first | rfl | cases skipped
  | false =>
    have taken := TextScan.follow_spelled spelled ""
    rw [String.empty_append, String.ofList_toList, show true = !r.isSkipped by simp [skipped]]
      at taken
    rw [outcome_follow (key_goes r) taken, outcome_step (closes key)]

theorem outcome_text {goal : Goal} (k : Awaiting goal) {s : String} {w : List Char}
    (spelled : TextScan.Spelled s.toList w) (rest : List Char) :
    outcome (.value goal k) ('"' :: w ++ '"' :: rest) = handed (deliver goal k (.text s)) rest := by
  have opens : (State.value goal k).step '"' = .ok (.text goal k (.plain "")) := by
    rw [step_mark rfl (by decide)]
    rfl
  have closes (read : String) : (State.text goal k (.plain read)).step '"' =
      placed 1 (deliver goal k (.text read)) := by
    simp [State.step, State.advance, TextScan.step, bind, Except.bind]
  rw [List.cons_append, outcome_step opens]
  by_cases skipped : goal = .skipped
  · subst skipped
    rcases TextScan.skip_spelled spelled "" with ⟨last, taken⟩
    rw [outcome_follow (text_goes .skipped k) taken, outcome_placed 1 (closes last)]
    rfl
  · have strict : (goal != .skipped) = true := by simpa using skipped
    have taken := TextScan.follow_spelled spelled ""
    rw [String.empty_append, String.ofList_toList, ← strict] at taken
    rw [outcome_follow (text_goes goal k) taken, outcome_placed 1 (closes s)]

theorem outcome_word {goal : Goal} (k : Awaiting goal) (v : Value) (c : Char)
    (letters rest : List Char) :
    outcome (.word goal k ⟨c :: letters, v⟩) (c :: letters ++ rest) =
      handed (deliver goal k v) rest := by
  induction letters generalizing c with
  | nil =>
    apply outcome_placed 1
    simp [State.step, State.advance, WordScan.step, bind, Except.bind]
  | cons d letters ih =>
    have goes : (State.word goal k ⟨c :: d :: letters, v⟩).step c =
        .ok (.word goal k ⟨d :: letters, v⟩) := by
      simp [State.step, State.advance, WordScan.step, bind, Except.bind, pure, Except.pure]
    rw [List.cons_append, outcome_step goes]
    exact ih d

def Ends (rest : List Char) : Prop := ∀ c ∈ rest.head?, EndsNumber c

theorem advance_between {state : State} (between : state.isScanning = false) (c : Char) :
    state.advance c = state.step c := by
  cases state <;> first | rfl | cases between

theorem outcome_numberEnd {goal : Goal} (k : Awaiting goal) {scan : NumberScan} {n : Number}
    (value : scan.value = .ok n) {rest : List Char} (ends : Ends rest) :
    outcome (.number goal k scan) rest = handed (deliver goal k (.number n)) rest := by
  cases rest with
  | nil =>
    cases delivered : deliver goal k (.number n) with
    | ok next =>
      have finishes : (State.number goal k scan).finish = next.finish := by
        rw [finish_between (deliver_between delivered)]
        simp [State.finish, value, delivered]
      simp [outcome, finishes, handed_ok]
    | error fault =>
      simp [outcome, State.finish, value, delivered, handed_error]
  | cons c rest =>
    have finished := NumberScan.step_ends value (ends c rfl)
    cases delivered : deliver goal k (.number n) with
    | ok next =>
      have steps : (State.number goal k scan).step c = next.step c := by
        simp [State.step, finished, delivered, placed, bind, Except.bind,
          advance_between (deliver_between delivered)]
      simp [outcome, steps, handed_ok]
    | error fault =>
      have steps : (State.number goal k scan).step c = dataHalt fault 0 := by
        simp [State.step, finished, delivered, placed, dataHalt, bind, Except.bind]
      simp [outcome, steps, dataHalt, handed_error]

theorem outcome_skimEnd (k : Awaiting .skipped) {skim : NumberSkim} (canEnd : skim.canEnd = true)
    {rest : List Char} (ends : Ends rest) :
    outcome (.skippedNumber k skim) rest = outcome (k.resume ()) rest := by
  have between := resume_between k ()
  cases rest with
  | nil =>
    have finishes : (State.skippedNumber k skim).finish = (k.resume ()).finish := by
      rw [finish_between between]
      simp [State.finish, canEnd]
    simp [outcome, finishes]
  | cons c rest =>
    have finished := NumberSkim.step_ends canEnd (ends c rfl)
    have steps : (State.skippedNumber k skim).step c = (k.resume ()).step c := by
      simp [State.step, finished, bind, Except.bind, advance_between between]
    simp [outcome, steps]

theorem outcome_startNumber {goal : Goal} (k : Awaiting goal) {scan : NumberScan} {n : Number}
    {w : List Char} (run : scan.run? w = some n) {rest : List Char} (ends : Ends rest) :
    outcome (startNumber goal k scan scan.skim) (w ++ rest) =
      handed (deliver goal k (.number n)) rest := by
  rcases NumberScan.run?_eq_some.mp run with ⟨last, taken, value⟩
  by_cases skipped : goal = .skipped
  · subst skipped
    have taken := NumberScan.follow_skim taken
    have read := outcome_follow (skim_goes k) taken rest
    rw [outcome_skimEnd k (NumberScan.skim_canEnd value) ends] at read
    exact read
  · have started : startNumber goal k scan scan.skim = .number goal k scan := by
      cases goal <;> first | rfl | exact absurd rfl skipped
    rw [started, outcome_follow (number_goes goal k) taken, outcome_numberEnd k value ends]

theorem isBlank_of_digit {c : Char} {d : Nat} (digit : digit? c = some d) : isBlank c = false := by
  have marks : ∀ d < 10, isBlank d.digitChar = false := by decide
  rcases Json.digitChar_of_digit digit with ⟨small, rfl⟩
  exact marks d small

theorem outcome_number {goal : Goal} (k : Awaiting goal) {n : Number} {w : List Char}
    (reads : Number.ofText? (String.ofList w) = some n) {rest : List Char} (ends : Ends rest) :
    outcome (.value goal k) (w ++ rest) = handed (deliver goal k (.number n)) rest := by
  rcases Json.ofText?_cases reads with ⟨later, rfl, run⟩ | ⟨c, later, d, rfl, digit, run⟩
  · have begins : (State.value goal k).step '-' =
        .ok (startNumber goal k (.start true) (NumberScan.start true).skim) := by
      rw [step_mark rfl (by decide)]
      rfl
    rw [List.cons_append, outcome_step begins, outcome_startNumber k run ends]
  · have begins : (State.value goal k).step c = .ok (startNumber goal k
        (if d = 0 then .zero false else .whole ⟨false, d, 0⟩)
        (if d = 0 then NumberScan.zero false else .whole ⟨false, d, 0⟩).skim) := by
      rw [step_mark rfl (isBlank_of_digit digit)]
      cases d <;> simp [State.punctuate, begin, digit, NumberScan.skim]
    simp only [NumberScan.run?, NumberScan.step, digit] at run
    rw [List.cons_append, outcome_step begins, outcome_startNumber k run ends]

end OperationTree.Reading
