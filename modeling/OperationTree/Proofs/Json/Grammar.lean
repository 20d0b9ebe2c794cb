import OperationTree.Json.NumberScan
import OperationTree.Json.TextScan

/-!
Which texts write a value. Blanks may stand around every value, key and punctuation mark, a
character may be escaped in any way that means it, and a number may be any literal that is read
as it.
-/

namespace OperationTree.Json

def Blanks (w : List Char) : Prop := ∀ c ∈ w, isBlank c = true

namespace TextScan

def isSurrogate (code : Nat) : Bool := isHigh code || isLow code

/-- The second list may stand between quotes for the characters of the first. -/
inductive Spelled : List Char → List Char → Prop where
  | nil : Spelled [] []
  | plain {c : Char} {s w : List Char} (printable : 0x20 ≤ c.toNat) (noQuote : c ≠ '"')
      (noMark : c ≠ '\\') (later : Spelled s w) : Spelled (c :: s) (c :: w)
  | letter {c e : Char} {s w : List Char} (means : simpleEscape? e = some c)
      (later : Spelled s w) : Spelled (c :: s) ('\\' :: e :: w)
  | code {digits : List Char} {code : Nat} {s w : List Char} (four : digits.length = 4)
      (value : hexValue? digits = some code) (single : isSurrogate code = false)
      (later : Spelled s w) : Spelled (Char.ofNat code :: s) ('\\' :: 'u' :: digits ++ w)
  | pair {first second : List Char} {high low : Nat} {s w : List Char}
      (fourFirst : first.length = 4) (valueFirst : hexValue? first = some high)
      (fourSecond : second.length = 4) (valueSecond : hexValue? second = some low)
      (isFirst : isHigh high = true) (isSecond : isLow low = true) (later : Spelled s w) :
      Spelled (joinPair high low :: s)
        ('\\' :: 'u' :: first ++ '\\' :: 'u' :: second ++ w)

end TextScan

open TextScan (Spelled)

mutual
/-- From the first character of a value to its last. -/
inductive Writes : Value → List Char → Prop where
  | null : Writes .null ['n', 'u', 'l', 'l']
  | true : Writes (.bool true) ['t', 'r', 'u', 'e']
  | false : Writes (.bool false) ['f', 'a', 'l', 's', 'e']
  | number {n : Number} {w : List Char} (reads : Number.ofText? (String.ofList w) = some n) :
      Writes (.number n) w
  | text {s : String} {w : List Char} (spelled : Spelled s.toList w) :
      Writes (.text s) ('"' :: w ++ ['"'])
  | noItems {blank : List Char} (blanks : Blanks blank) :
      Writes (.array []) ('[' :: blank ++ [']'])
  | array {items : List Value} {w : List Char} (written : WritesItems items w) :
      Writes (.array items) ('[' :: w ++ [']'])
  | noMembers {blank : List Char} (blanks : Blanks blank) :
      Writes (.object []) ('{' :: blank ++ ['}'])
  | object {members : List (String × Value)} {w : List Char}
      (written : WritesMembers members w) : Writes (.object members) ('{' :: w ++ ['}'])
inductive WritesItems : List Value → List Char → Prop where
  | last {v : Value} {before w after : List Char} (blanksBefore : Blanks before)
      (written : Writes v w) (blanksAfter : Blanks after) :
      WritesItems [v] (before ++ w ++ after)
  | more {v : Value} {vs : List Value} {before w after ws : List Char}
      (blanksBefore : Blanks before) (written : Writes v w) (blanksAfter : Blanks after)
      (later : WritesItems vs ws) : WritesItems (v :: vs) (before ++ w ++ after ++ ',' :: ws)
inductive WritesMember : String × Value → List Char → Prop where
  | intro {key : String} {v : Value} {before name colon between w after : List Char}
      (blanksBefore : Blanks before) (spelled : Spelled key.toList name)
      (blanksColon : Blanks colon) (blanksBetween : Blanks between) (written : Writes v w)
      (blanksAfter : Blanks after) :
      WritesMember (key, v)
        (before ++ '"' :: name ++ '"' :: colon ++ ':' :: between ++ w ++ after)
inductive WritesMembers : List (String × Value) → List Char → Prop where
  | last {m : String × Value} {w : List Char} (written : WritesMember m w) : WritesMembers [m] w
  | more {m : String × Value} {ms : List (String × Value)} {w ws : List Char}
      (written : WritesMember m w) (later : WritesMembers ms ws) :
      WritesMembers (m :: ms) (w ++ ',' :: ws)
end

inductive IsDocument : Value → List Char → Prop where
  | intro {v : Value} {before w after : List Char} (blanksBefore : Blanks before)
      (written : Writes v w) (blanksAfter : Blanks after) : IsDocument v (before ++ w ++ after)

theorem blanks_nil : Blanks [] := by
  intro c member
  cases member

theorem blanks_cons {c : Char} {w : List Char} (blank : isBlank c = true) (blanks : Blanks w) :
    Blanks (c :: w) := by
  intro d member
  rcases List.mem_cons.mp member with rfl | later
  · exact blank
  · exact blanks d later

end OperationTree.Json
