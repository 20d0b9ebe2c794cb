import Mathlib.Algebra.Ring.Nat
import OperationTree.Proofs.Json.TextSpelling

namespace OperationTree.Json

namespace NumberScan

theorem run?_eq_some {scan : NumberScan} {w : List Char} {n : Number} :
    scan.run? w = some n ↔ ∃ last, follow? step scan w = some last ∧ last.value = .ok n := by
  induction w generalizing scan with
  | nil =>
    cases h : scan.value with
    | ok m => simp [run?, follow?, h, Except.toOption]
    | error fault => simp [run?, follow?, h, Except.toOption]
  | cons c w ih =>
    simp only [run?, follow?]
    split
    · next next goes => simp [goes, ih]
    · next stops =>
      split
      · next next goes => exact absurd goes (stops next)
      · simp

theorem step_start {c : Char} {d : Nat} (digit : digit? c = some d) (negative : Bool) :
    (start negative).step c =
      .ok (.going (if d = 0 then .zero negative else .whole ⟨negative, d, 0⟩)) := by
  unfold step
  rw [digit]

theorem step_zero {c : Char} {d : Nat} (digit : digit? c = some d) (negative : Bool) :
    (zero negative).step c = halt .invalidNumber 1 := by
  unfold step
  rw [digit]

theorem step_whole {c : Char} {d : Nat} (digit : digit? c = some d) (m : Mantissa) :
    (whole m).step c = .ok (.going (if Mantissa.fits (m.significand * 10 + d) then
      .whole { m with significand := m.significand * 10 + d }
      else .long { m with exponent := 1 })) := by
  unfold step
  rw [digit]
  by_cases room : Mantissa.fits (m.significand * 10 + d) = true
  · simp only [Mantissa.push?, if_pos room]
  · simp only [Mantissa.push?, if_neg room]

theorem step_long {c : Char} {d : Nat} (digit : digit? c = some d) (m : Mantissa) :
    (long m).step c = .ok (.going (.long { m with exponent := m.exponent + 1 })) := by
  unfold step
  rw [digit]

theorem step_start_none {c : Char} (noDigit : digit? c = none) (negative : Bool) :
    (start negative).step c = halt .invalidNumber 1 := by
  unfold step
  rw [noDigit]
  rfl

def skim : NumberScan → NumberSkim
  | .start _ => .start
  | .zero _ => .zero
  | .whole _ | .long _ => .whole
  | .point _ => .point
  | .fraction _ | .rest _ => .fraction
  | .mark _ => .mark
  | .sign _ _ => .sign
  | .power _ _ _ | .vanished _ => .power

theorem skim_fractionDigit (m : Mantissa) (d : Nat) : (fractionDigit m d).skim = .fraction := by
  unfold fractionDigit
  split <;> rfl

theorem stop_ne_going (scan next : NumberScan) : scan.stop ≠ .ok (.going next) := by
  unfold stop halt
  split <;> simp

theorem skim_afterWhole {scan next : NumberScan} {m : Mantissa} {c : Char}
    (goes : afterWhole scan m c = .ok (.going next)) :
    (c = '.' ∧ next.skim = .point) ∨ (c ≠ '.' ∧ (c = 'e' ∨ c = 'E') ∧ next.skim = .mark) := by
  unfold afterWhole at goes
  split at goes
  · next point => cases goes; exact .inl ⟨point, rfl⟩
  · next noPoint =>
    split at goes
    · next letter => cases goes; exact .inr ⟨noPoint, letter, rfl⟩
    · exact absurd goes (stop_ne_going _ _)

theorem skim_afterFraction {scan next : NumberScan} {m : Mantissa} {c : Char}
    (goes : afterFraction scan m c = .ok (.going next)) :
    (c = 'e' ∨ c = 'E') ∧ next.skim = .mark := by
  unfold afterFraction at goes
  split at goes
  · next letter => cases goes; exact ⟨letter, rfl⟩
  · exact absurd goes (stop_ne_going _ _)

theorem skim_step {scan next : NumberScan} {c : Char} (goes : scan.step c = .ok (.going next)) :
    scan.skim.step c = .ok (.going next.skim) := by
  unfold step at goes
  unfold NumberSkim.step
  cases digit : digit? c with
  | some d =>
    rw [digit] at goes
    cases scan with
    | start negative =>
      cases goes
      show Except.ok (Stage.going (if d = 0 then NumberSkim.zero else NumberSkim.whole)) = _
      split <;> rfl
    | zero negative => cases goes
    | whole m =>
      simp only at goes
      split at goes <;> cases goes <;> rfl
    | point m | fraction m =>
      cases goes
      rw [skim_fractionDigit]
      rfl
    | power m down value =>
      simp only at goes
      split at goes
      · cases goes; rfl
      · split at goes
        · cases goes
        · cases goes; rfl
    | _ =>
      cases goes
      rfl
  | none =>
    rw [digit] at goes
    cases scan with
    | zero _ | whole _ | long _ =>
      rcases skim_afterWhole goes with ⟨rfl, kept⟩ | ⟨noPoint, letter, kept⟩
      · rw [kept]
        rfl
      · rw [kept]
        simp [skim, noPoint, letter]
    | fraction _ | rest _ =>
      rcases skim_afterFraction goes with ⟨letter, kept⟩
      rw [kept]
      simp [skim, letter]
    | mark m =>
      simp only at goes
      split at goes
      · next plus => cases goes; subst plus; rfl
      · split at goes
        · next minus => cases goes; subst minus; rfl
        · exact absurd goes (stop_ne_going _ _)
    | start _ | point _ | sign _ _ | power _ _ _ | vanished _ =>
      exact absurd goes (stop_ne_going _ _)

theorem follow_skim {scan last : NumberScan} {w : List Char}
    (taken : follow? step scan w = some last) :
    follow? NumberSkim.step scan.skim w = some last.skim := by
  induction w generalizing scan with
  | nil =>
    cases taken
    rfl
  | cons c w ih =>
    simp only [follow?] at taken
    split at taken
    · next next goes =>
      rw [follow?_cons (skim_step goes)]
      exact ih taken
    · cases taken

theorem skim_canEnd {scan : NumberScan} {n : Number} (value : scan.value = .ok n) :
    scan.skim.canEnd = true := by
  cases scan <;> first | rfl | simp [NumberScan.value] at value

end NumberScan

theorem ofText?_cases {w : List Char} {n : Number}
    (reads : Number.ofText? (String.ofList w) = some n) :
    (∃ later, w = '-' :: later ∧ (NumberScan.start true).run? later = some n) ∨
      ∃ c later d, w = c :: later ∧ digit? c = some d ∧
        (NumberScan.start false).run? (c :: later) = some n := by
  unfold Number.ofText? at reads
  split at reads
  · next later minus =>
    rw [String.toList_ofList] at minus
    exact .inl ⟨later, minus, reads⟩
  · rw [String.toList_ofList] at reads
    right
    cases w with
    | nil => simp [NumberScan.run?, NumberScan.value, Except.toOption] at reads
    | cons c later =>
      cases digit : digit? c with
      | some d => exact ⟨c, later, d, rfl, digit, reads⟩
      | none =>
        rw [NumberScan.run?, NumberScan.step_start_none digit] at reads
        cases reads

def EndsNumber (c : Char) : Prop := digit? c = none ∧ c ≠ '.' ∧ c ≠ 'e' ∧ c ≠ 'E'

theorem NumberScan.step_ends {scan : NumberScan} {n : Number} {c : Char}
    (value : scan.value = .ok n) (ends : EndsNumber c) : scan.step c = .ok (.finished n) := by
  rcases ends with ⟨digit, noPoint, noLower, noUpper⟩
  unfold step
  rw [digit]
  cases scan with
  | zero _ | whole _ | long _ => simp [afterWhole, noPoint, noLower, noUpper, stop, value]
  | fraction _ | rest _ => simp [afterFraction, noLower, noUpper, stop, value]
  | power _ _ _ | vanished _ => simp [stop, value]
  | _ => cases value

theorem NumberSkim.step_ends {skim : NumberSkim} {c : Char} (canEnd : skim.canEnd = true)
    (ends : EndsNumber c) : skim.step c = .ok (.finished ()) := by
  rcases ends with ⟨digit, noPoint, noLower, noUpper⟩
  unfold step
  rw [digit]
  cases skim with
  | zero | whole => simp [noPoint, noLower, noUpper]
  | fraction => simp [noLower, noUpper]
  | power => rfl
  | _ => cases canEnd

theorem digit_digitChar : ∀ d < 10, digit? d.digitChar = some d := by
  decide

theorem digitChar_of_digit {c : Char} {d : Nat} (digit : digit? c = some d) :
    d < 10 ∧ c = d.digitChar := by
  simp only [digit?, Char.le_def, UInt32.le_iff_toNat_le] at digit
  split at digit
  · next range =>
    cases digit
    have low : 48 ≤ c.toNat := range.1
    have high : c.toNat ≤ 57 := range.2
    have zero : '0'.toNat = 48 := rfl
    have below : c.toNat - '0'.toNat < 10 := by omega
    refine ⟨below, ?_⟩
    rw [← Char.toNat_inj, Nat.toNat_digitChar_of_lt_ten below]
    omega
  · cases digit

theorem toDigits_push {n d : Nat} (positive : 0 < n) (digit : d < 10) :
    Nat.toDigits 10 (n * 10 + d) = Nat.toDigits 10 n ++ [d.digitChar] := by
  rw [Nat.toDigits_of_base_le (by decide) (by omega)]
  have quotient : (n * 10 + d) / 10 = n := by omega
  have remainder : (n * 10 + d) % 10 = d := by omega
  rw [quotient, remainder]

def NumberSkim.IsWhole : NumberSkim → Prop
  | .start | .zero | .whole => True
  | _ => False

theorem NumberSkim.whole_of_step {skim next : NumberSkim} {c : Char}
    (goes : skim.step c = .ok (.going next)) (whole : next.IsWhole) :
    skim.IsWhole ∧ ∃ d, digit? c = some d := by
  unfold step at goes
  cases digit : digit? c with
  | some d =>
    rw [digit] at goes
    refine ⟨?_, d, rfl⟩
    cases skim with
    | start | zero | whole => trivial
    | _ => cases goes; exact whole.elim
  | none =>
    rw [digit] at goes
    cases skim with
    | start | point | sign | power => cases goes
    | zero | whole =>
      simp only at goes
      split at goes
      · cases goes; exact whole.elim
      · split at goes
        · cases goes; exact whole.elim
        · cases goes
    | fraction | mark =>
      simp only at goes
      split at goes
      · cases goes; exact whole.elim
      · cases goes

namespace NumberScan

def ofWhole (n : Nat) : NumberScan := if n = 0 then .zero false else .whole ⟨false, n, 0⟩

theorem ofWhole_pos {n : Nat} (positive : 0 < n) : ofWhole n = .whole ⟨false, n, 0⟩ := by
  have nonzero : n ≠ 0 := by omega
  simp [ofWhole, nonzero]

theorem follow_toDigits (n : Nat) (fits : n < UInt64.size) :
    follow? step (.start false) (Nat.toDigits 10 n) = some (ofWhole n) := by
  induction n using Nat.strongRecOn with
  | _ n ih =>
    by_cases small : n < 10
    · rw [Nat.toDigits_of_lt_base small]
      have goes := step_start (digit_digitChar n small) false
      rw [follow?_cons goes]
      rfl
    · have last : n % 10 < 10 := Nat.mod_lt _ (by decide)
      have positive : n / 10 ≠ 0 := by omega
      have whole : n / 10 * 10 + n % 10 = n := by omega
      rw [Nat.toDigits_of_base_le (by decide) (by omega), follow?_append,
        ih (n / 10) (by omega) (by omega)]
      have nonzero : n ≠ 0 := by omega
      have room : Mantissa.fits n = true := decide_eq_true fits
      have goes := step_whole (digit_digitChar _ last) ⟨false, n / 10, 0⟩
      simp only [whole, room, if_true] at goes
      rw [Option.bind_some, ofWhole, if_neg positive, follow?_cons goes, ofWhole, if_neg nonzero]
      rfl

def IsPlain : NumberScan → Prop
  | .start negative | .zero negative => negative = false
  | .whole m => m.negative = false
  | _ => False

theorem float_ne_natural (m : Mantissa) (n : UInt64) : m.float ≠ .ok (.natural n) := by
  unfold Mantissa.float
  split <;> simp

theorem plain_of_natural {scan : NumberScan} {n : UInt64} (value : scan.value = .ok (.natural n)) :
    scan.IsPlain := by
  cases scan with
  | zero negative =>
    cases negative with
    | false => rfl
    | true => simp [NumberScan.value, Mantissa.integer] at value
  | whole m =>
    cases h : m.negative with
    | false => exact h
    | true =>
      simp only [NumberScan.value, Mantissa.integer, h] at value
      simp at value
      split at value <;> simp at value
  | long m | fraction m | rest m | power m _ _ => exact absurd value (float_ne_natural _ _)
  | _ => simp [NumberScan.value] at value

theorem skim_of_plain {scan : NumberScan} (plain : scan.IsPlain) : scan.skim.IsWhole := by
  cases scan with
  | start _ | zero _ | whole _ => trivial
  | _ => exact plain.elim

theorem plain_of_step {scan next : NumberScan} {c : Char}
    (goes : scan.step c = .ok (.going next)) (plain : next.IsPlain) :
    scan.IsPlain ∧ ∃ d, digit? c = some d := by
  rcases NumberSkim.whole_of_step (skim_step goes) (skim_of_plain plain) with ⟨before, d, digit⟩
  refine ⟨?_, d, digit⟩
  cases scan with
  | start negative =>
    rw [step_start digit] at goes
    cases goes
    by_cases zero : d = 0 <;> simpa [zero, IsPlain] using plain
  | zero negative =>
    rw [step_zero digit] at goes
    cases goes
  | whole m =>
    rw [step_whole digit] at goes
    cases goes
    split at plain
    · exact plain
    · exact plain.elim
  | long m =>
    rw [step_long digit] at goes
    cases goes
    exact plain.elim
  | _ => exact before.elim

theorem plain_of_follow {scan last : NumberScan} {w : List Char}
    (taken : follow? step scan w = some last) (plain : last.IsPlain) : scan.IsPlain := by
  induction w generalizing scan with
  | nil =>
    cases taken
    exact plain
  | cons c w ih =>
    simp only [follow?] at taken
    split at taken
    · next next goes => exact (plain_of_step goes (ih taken)).1
    · cases taken

theorem follow_ofWhole {m : Nat} {last : NumberScan} {w : List Char} (positive : 0 < m)
    (bound : m < UInt64.size) (taken : follow? step (ofWhole m) w = some last)
    (plain : last.IsPlain) :
    ∃ k < UInt64.size, last = ofWhole k ∧ Nat.toDigits 10 k = Nat.toDigits 10 m ++ w := by
  induction w generalizing m with
  | nil =>
    cases taken
    exact ⟨m, bound, rfl, by simp⟩
  | cons c w ih =>
    rw [ofWhole_pos positive] at taken
    simp only [follow?] at taken
    split at taken
    · next next goes =>
      rcases plain_of_step goes (plain_of_follow taken plain) with ⟨_, d, digit⟩
      rcases digitChar_of_digit digit with ⟨small, rfl⟩
      rw [step_whole digit] at goes
      by_cases fits : Mantissa.fits (m * 10 + d) = true
      · simp only [fits, if_true] at goes
        cases goes
        have longer : 0 < m * 10 + d := by omega
        rw [← ofWhole_pos longer] at taken
        obtain ⟨k, below, reached, digits⟩ := ih longer (of_decide_eq_true fits) taken
        refine ⟨k, below, reached, ?_⟩
        rw [digits, toDigits_push positive small, List.append_assoc, List.singleton_append]
      · simp only [fits] at goes
        cases goes
        exact (plain_of_follow taken plain).elim
    · cases taken

theorem follow_start {last : NumberScan} {w : List Char}
    (taken : follow? step (.start false) w = some last) (plain : last.IsPlain) :
    (w = [] ∧ last = .start false) ∨
      ∃ k < UInt64.size, last = ofWhole k ∧ w = Nat.toDigits 10 k := by
  cases w with
  | nil =>
    cases taken
    exact .inl ⟨rfl, rfl⟩
  | cons c w =>
    right
    simp only [follow?] at taken
    split at taken
    · next next goes =>
      rcases plain_of_step goes (plain_of_follow taken plain) with ⟨_, d, digit⟩
      rcases digitChar_of_digit digit with ⟨small, rfl⟩
      rw [step_start digit] at goes
      cases goes
      by_cases zero : d = 0
      · subst zero
        cases w with
        | nil =>
          cases taken
          exact ⟨0, by decide, rfl, rfl⟩
        | cons c w =>
          simp only [if_true, follow?] at taken
          split at taken
          · next next goes =>
            rcases plain_of_step goes (plain_of_follow taken plain) with ⟨_, d, digit⟩
            rw [step_zero digit] at goes
            cases goes
          · cases taken
      · have positive : 0 < d := by omega
        rw [if_neg zero, ← ofWhole_pos positive] at taken
        have bound : d < UInt64.size := Nat.lt_trans small (by decide)
        obtain ⟨k, below, reached, digits⟩ := follow_ofWhole positive bound taken plain
        refine ⟨k, below, reached, ?_⟩
        rw [digits, Nat.toDigits_of_lt_base small, List.singleton_append]
    · cases taken

theorem value_ofWhole (k : Nat) : (ofWhole k).value = .ok (.natural (UInt64.ofNat k)) := by
  unfold ofWhole
  split
  · next zero => subst zero; rfl
  · rfl

end NumberScan

open NumberScan in
theorem ofText?_toDigits (n : UInt64) :
    Number.ofText? (String.ofList (Nat.toDigits 10 n.toNat)) = some (.natural n) := by
  have taken := follow_toDigits n.toNat n.toNat_lt_size
  have value := value_ofWhole n.toNat
  rw [UInt64.ofNat_toNat] at value
  unfold Number.ofText?
  split
  · next rest minus =>
    rw [String.toList_ofList] at minus
    rw [minus, follow?, step_start_none rfl] at taken
    cases taken
  · rw [String.toList_ofList]
    exact run?_eq_some.mpr ⟨_, taken, value⟩

open NumberScan in
theorem writes_natural_iff {n : UInt64} {w : List Char} :
    Writes (.number (.natural n)) w ↔ w = Nat.toDigits 10 n.toNat := by
  constructor
  · intro written
    cases written with
    | number reads =>
      rcases ofText?_cases reads with ⟨later, rfl, run⟩ | ⟨c, later, d, rfl, _, run⟩
      · rcases run?_eq_some.mp run with ⟨last, taken, value⟩
        exact absurd (plain_of_follow taken (plain_of_natural value)) (by simp [IsPlain])
      · rcases run?_eq_some.mp run with ⟨last, taken, value⟩
        rcases follow_start taken (plain_of_natural value) with
          ⟨nothing, _⟩ | ⟨k, below, rfl, digits⟩
        · cases nothing
        · rw [value_ofWhole] at value
          cases value
          rw [digits, UInt64.toNat_ofNat_of_lt' below]
  · intro same
    subst same
    exact .number (ofText?_toDigits n)

/-- A text of digits alone, without a needless zero and below `2 ^ 64`, can write nothing else. -/
theorem natural_iff_digits {v : Value} {w : List Char} (written : Writes v w) :
    (∃ n : UInt64, v = .number (.natural n)) ↔ ∃ n < 2 ^ 64, w = Nat.toDigits 10 n := by
  constructor
  · intro natural
    rcases natural with ⟨n, rfl⟩
    exact ⟨n.toNat, n.toNat_lt, writes_natural_iff.mp written⟩
  · intro plain
    rcases plain with ⟨n, below, same⟩
    have digits : ∀ c ∈ w, c.isDigit = true := by
      intro c among
      rw [same] at among
      exact Nat.isDigit_of_mem_toDigits (by decide) (by decide) among
    cases written with
    | @number number _ reads =>
      have natural := ofText?_toDigits (UInt64.ofNat n)
      rw [UInt64.toNat_ofNat_of_lt' below, ← same, reads] at natural
      exact ⟨_, congrArg Value.number (Option.some.inj natural)⟩
    | null => exact absurd (digits 'n' (by simp)) (by decide)
    | true => exact absurd (digits 't' (by simp)) (by decide)
    | false => exact absurd (digits 'f' (by simp)) (by decide)
    | text => exact absurd (digits '"' (by simp)) (by decide)
    | noItems | array => exact absurd (digits '[' (by simp)) (by decide)
    | noMembers | object => exact absurd (digits '\x7b' (by simp)) (by decide)

end OperationTree.Json
