import OperationTree.Json.Write
import OperationTree.Proofs.Json.Grammar

namespace OperationTree.Json

def follow? {σ α : Type} (step : σ → Char → Except Halt (Stage σ α)) : σ → List Char → Option σ
  | scan, [] => some scan
  | scan, c :: later =>
    match step scan c with
    | .ok (.going next) => follow? step next later
    | _ => none

section
variable {σ α : Type} {step : σ → Char → Except Halt (Stage σ α)}

theorem follow?_cons {scan next : σ} {c : Char} (goes : step scan c = .ok (.going next))
    (w : List Char) : follow? step scan (c :: w) = follow? step next w := by
  simp [follow?, goes]

theorem follow?_append (scan : σ) (v w : List Char) :
    follow? step scan (v ++ w) = (follow? step scan v).bind fun next => follow? step next w := by
  induction v generalizing scan with
  | nil => rfl
  | cons c v ih =>
    simp only [List.cons_append, follow?]
    split
    · exact ih _
    · rfl

end

namespace TextScan

theorem utf8Size_of_hexDigit {c : Char} {n : Nat} (digit : hexDigit? c = some n) :
    c.utf8Size = 1 := by
  have small : c.val ≤ 0x7f := by
    simp only [hexDigit?, Char.le_def, UInt32.le_iff_toNat_le] at digit
    rw [UInt32.le_iff_toNat_le]
    split at digit
    · next range => exact Nat.le_trans range.2 (by decide)
    · split at digit
      · next range => exact Nat.le_trans range.2 (by decide)
      · split at digit
        · next range => exact Nat.le_trans range.2 (by decide)
        · cases digit
  simp [Char.utf8Size, small]

theorem hexValue_four {digits : List Char} {code : Nat} (four : digits.length = 4)
    (value : hexValue? digits = some code) :
    ∃ a b c d, digits = [a, b, c, d] ∧
      a.utf8Size = 1 ∧ b.utf8Size = 1 ∧ c.utf8Size = 1 ∧ d.utf8Size = 1 := by
  match digits, four with
  | [a, b, c, d], _ =>
    cases ha : hexDigit? a with
    | none => simp [hexValue?, ha] at value
    | some _ =>
      cases hb : hexDigit? b with
      | none => simp [hexValue?, ha, hb] at value
      | some _ =>
        cases hc : hexDigit? c with
        | none => simp [hexValue?, ha, hb, hc] at value
        | some _ =>
          cases hd : hexDigit? d with
          | none => simp [hexValue?, ha, hb, hc, hd] at value
          | some _ =>
            exact ⟨a, b, c, d, rfl, utf8Size_of_hexDigit ha, utf8Size_of_hexDigit hb,
              utf8Size_of_hexDigit hc, utf8Size_of_hexDigit hd⟩

theorem follow_code {strict : Bool} {read : String} {high : Option Nat} {digits : List Char}
    {code : Nat} {next : TextScan} (four : digits.length = 4)
    (value : hexValue? digits = some code) (taken : takeCode strict read high code = .ok next) :
    follow? (step strict) (.code read high [] 0) digits = some next := by
  rcases hexValue_four four value with ⟨a, b, c, d, rfl, ha, hb, hc, hd⟩
  simp [follow?, step, ha, hb, hc, hd, value, taken, Functor.map, Except.map]

theorem follow_letter {strict : Bool} {c e : Char} (read : String)
    (means : simpleEscape? e = some c) :
    follow? (step strict) (.plain read) ['\\', e] = some (.plain (read.push c)) := by
  have other : e ≠ 'u' := by
    intro same
    subst same
    simp [simpleEscape?] at means
  simp [follow?, step, other, means]

theorem follow_plain {strict : Bool} {c : Char} (read : String) (printable : 0x20 ≤ c.toNat)
    (noQuote : c ≠ '"') (noMark : c ≠ '\\') :
    follow? (step strict) (.plain read) [c] = some (.plain (read.push c)) := by
  have notControl : ¬ c.toNat < 0x20 := by omega
  simp [follow?, step, noQuote, noMark, notControl]

theorem follow_escape {strict : Bool} (read : String) (w : List Char) :
    follow? (step strict) (.plain read) ('\\' :: 'u' :: w) =
      follow? (step strict) (.code read none [] 0) w := by
  simp [follow?, step]

theorem follow_second {strict : Bool} (read : String) (high : Nat) (w : List Char) :
    follow? (step strict) (.pairMark read high) ('\\' :: 'u' :: w) =
      follow? (step strict) (.code read (some high) [] 0) w := by
  simp [follow?, step]

theorem push_append (read : String) (c : Char) (s : List Char) :
    read.push c ++ String.ofList s = read ++ String.ofList (c :: s) := by
  apply String.toList_injective
  simp

theorem follow_spelled {s w : List Char} (spelled : Spelled s w) (read : String) :
    follow? (step true) (.plain read) w = some (.plain (read ++ String.ofList s)) := by
  induction spelled generalizing read with
  | nil => simp [follow?]
  | @plain c s w printable noQuote noMark _ ih =>
    rw [← List.singleton_append, follow?_append, follow_plain read printable noQuote noMark,
      Option.bind_some, ih, push_append]
  | @letter c e s w means _ ih =>
    rw [show '\\' :: e :: w = ['\\', e] ++ w from rfl, follow?_append, follow_letter read means,
      Option.bind_some, ih, push_append]
  | @code digits code s w four value single _ ih =>
    have taken : takeCode true read none code = .ok (.plain (read.push (Char.ofNat code))) := by
      simp [isSurrogate] at single
      simp [takeCode, single]
    rw [List.cons_append, List.cons_append, follow_escape, follow?_append,
      follow_code four value taken, Option.bind_some, ih, push_append]
  | @pair first second high low s w fourFirst valueFirst fourSecond valueSecond isFirst isSecond
      _ ih =>
    have notSecond : isLow high = false := by
      simp [isHigh, isLow] at isFirst ⊢
      omega
    have takenFirst : takeCode true read none high = .ok (.pairMark read high) := by
      simp [takeCode, isFirst, notSecond]
    have takenSecond : takeCode true read (some high) low =
        .ok (.plain (read.push (joinPair high low))) := by
      simp [takeCode, isSecond]
    simp only [List.cons_append, List.append_assoc]
    rw [follow_escape, follow?_append, follow_code fourFirst valueFirst takenFirst,
      Option.bind_some, follow_second, follow?_append,
      follow_code fourSecond valueSecond takenSecond, Option.bind_some, ih, push_append]

theorem takeCode_skipped (read : String) (code : Nat) :
    takeCode false read none code = .ok (.plain read) := by
  simp [takeCode]

theorem skip_spelled {s w : List Char} (spelled : Spelled s w) (read : String) :
    ∃ last, follow? (step false) (.plain read) w = some (.plain last) := by
  induction spelled generalizing read with
  | nil => exact ⟨read, by simp [follow?]⟩
  | @plain c s w printable noQuote noMark _ ih =>
    rw [← List.singleton_append, follow?_append, follow_plain read printable noQuote noMark]
    exact ih (read.push c)
  | @letter c e s w means _ ih =>
    rw [show '\\' :: e :: w = ['\\', e] ++ w from rfl, follow?_append, follow_letter read means]
    exact ih (read.push c)
  | @code digits code s w four value single _ ih =>
    rw [List.cons_append, List.cons_append, follow_escape, follow?_append,
      follow_code four value (takeCode_skipped read code)]
    exact ih read
  | @pair first second high low s w fourFirst valueFirst fourSecond valueSecond _ _ _ ih =>
    simp only [List.cons_append, List.append_assoc]
    rw [follow_escape, follow?_append,
      follow_code fourFirst valueFirst (takeCode_skipped read high),
      Option.bind_some, follow_escape, follow?_append,
      follow_code fourSecond valueSecond (takeCode_skipped read low)]
    exact ih read

theorem hexValue_control : ∀ n < 0x20,
    hexValue? ['0', '0', hexDigit (n / 16), hexDigit (n % 16)] = some n := by
  decide

theorem spelled_escape {s w : List Char} (c : Char) (later : Spelled s w) :
    Spelled (c :: s) (Json.escape c ++ w) := by
  unfold Json.escape
  split
  · next same => subst same; exact .letter rfl later
  split
  · next same => subst same; exact .letter rfl later
  split
  · next same => subst same; exact .letter rfl later
  split
  · next same => subst same; exact .letter rfl later
  split
  · next same => subst same; exact .letter rfl later
  split
  · next same => subst same; exact .letter rfl later
  split
  · next same => subst same; exact .letter rfl later
  split
  · next control =>
    have single : isSurrogate c.toNat = false := by
      simp [isSurrogate, isHigh, isLow]
      omega
    have spelled := Spelled.code rfl (hexValue_control c.toNat control) single later
    rwa [Char.ofNat_toNat] at spelled
  · next noQuote noMark _ _ _ _ _ printable =>
    exact .plain (by omega) noQuote noMark later

theorem spelled_flatMap_escape (s : List Char) : Spelled s (s.flatMap Json.escape) := by
  induction s with
  | nil => exact .nil
  | cons c s ih => exact spelled_escape c ih

end TextScan

end OperationTree.Json
