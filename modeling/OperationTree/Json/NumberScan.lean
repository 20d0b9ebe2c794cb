import OperationTree.Json.Scan
import OperationTree.Json.Value

/-!
Number literals, character by character. Digits beyond 64 bits are not kept: those before the
point only raise the exponent, those after it are dropped.
-/

namespace OperationTree.Json

/-- `± significand · 10 ^ exponent` -/
structure Mantissa where
  negative : Bool
  significand : Nat := 0
  exponent : Int := 0
  deriving DecidableEq, Repr

namespace Mantissa

def fits (n : Nat) : Bool := n < UInt64.size

def push? (m : Mantissa) (d : Nat) : Option Mantissa :=
  if fits (m.significand * 10 + d) then some { m with significand := m.significand * 10 + d }
  else none

def power10 (n : Nat) : Float := Float.ofScientific 1 false n

/-- `x · 10 ^ exponent`, in at most two steps through `10 ^ 308` when the exponent is small. -/
def scale? : (tries : Nat) → (x : Float) → (exponent : Int) → Option Float
  | 0, x, _ => some x
  | tries + 1, x, exponent =>
    if exponent.natAbs ≤ 308 then
      if exponent < 0 then some (x / power10 exponent.natAbs)
      else
        let scaled := x * power10 exponent.natAbs
        if scaled.isInf then none else some scaled
    else if x == 0 then some x
    else if exponent < 0 then scale? tries (x / power10 308) (exponent + 308)
    else none

def float (m : Mantissa) : Except SyntaxFault Number :=
  match scale? 4 (UInt64.ofNat m.significand).toFloat m.exponent with
  | none => .error .numberOutOfRange
  | some x => .ok (.float (if m.negative then -x else x))

def integer (m : Mantissa) : Number :=
  if !m.negative then .natural (UInt64.ofNat m.significand)
  else if 0 < m.significand ∧ Int64.minValue.toInt ≤ -m.significand then
    .negative (Int64.ofInt (-m.significand))
  else .float (-(UInt64.ofNat m.significand).toFloat)

end Mantissa

inductive NumberScan where
  | start (negative : Bool)
  | zero (negative : Bool)
  | whole (m : Mantissa)
  /-- The integer part has more digits than fit. -/
  | long (m : Mantissa)
  | point (m : Mantissa)
  | fraction (m : Mantissa)
  /-- The fraction has more digits than fit. -/
  | rest (m : Mantissa)
  | mark (m : Mantissa)
  | sign (m : Mantissa) (down : Bool)
  | power (m : Mantissa) (down : Bool) (value : Nat)
  /-- The exponent is too large to keep, and the number is zero whatever follows. -/
  | vanished (negative : Bool)
  deriving DecidableEq, Repr

namespace NumberScan

def largestPower : Nat := 0x7FFFFFFF

/-- The number if it ends here; if it cannot end here, what an end of the text is called. -/
def value : NumberScan → Except SyntaxFault Number
  | .zero negative => .ok (Mantissa.integer ⟨negative, 0, 0⟩)
  | .whole m => .ok m.integer
  | .long m | .fraction m | .rest m => m.float
  | .power m down value =>
    { m with exponent := if down then m.exponent - value else m.exponent + value }.float
  | .vanished negative => .ok (.float (if negative then -0.0 else 0.0))
  | .start _ | .point _ | .mark _ | .sign _ _ => .error .endInValue

def stop (scan : NumberScan) : Except Halt (Stage NumberScan Number) :=
  match scan.value with
  | .ok n => .ok (.finished n)
  | .error .endInValue => halt .invalidNumber 1
  | .error fault => halt fault 0

def afterWhole (scan : NumberScan) (m : Mantissa) (c : Char) :
    Except Halt (Stage NumberScan Number) :=
  if c = '.' then .ok (.going (.point m))
  else if c = 'e' ∨ c = 'E' then .ok (.going (.mark m))
  else scan.stop

def afterFraction (scan : NumberScan) (m : Mantissa) (c : Char) :
    Except Halt (Stage NumberScan Number) :=
  if c = 'e' ∨ c = 'E' then .ok (.going (.mark m)) else scan.stop

def fractionDigit (m : Mantissa) (d : Nat) : NumberScan :=
  match m.push? d with
  | some longer => .fraction { longer with exponent := longer.exponent - 1 }
  | none => .rest m

def step (scan : NumberScan) (c : Char) : Except Halt (Stage NumberScan Number) :=
  match scan, digit? c with
  | .start negative, some d =>
    .ok (.going (if d = 0 then .zero negative else .whole ⟨negative, d, 0⟩))
  | .zero _, some _ => halt .invalidNumber 1
  | .whole m, some d =>
    match m.push? d with
    | some longer => .ok (.going (.whole longer))
    | none => .ok (.going (.long { m with exponent := 1 }))
  | .long m, some _ => .ok (.going (.long { m with exponent := m.exponent + 1 }))
  | .point m, some d | .fraction m, some d => .ok (.going (fractionDigit m d))
  | .rest m, some _ => .ok (.going (.rest m))
  | .mark m, some d => .ok (.going (.power m false d))
  | .sign m down, some d => .ok (.going (.power m down d))
  | .power m down value, some d =>
    if value * 10 + d ≤ largestPower then .ok (.going (.power m down (value * 10 + d)))
    else if m.significand ≠ 0 ∧ !down then halt .numberOutOfRange 1
    else .ok (.going (.vanished m.negative))
  | .vanished negative, some _ => .ok (.going (.vanished negative))
  | .zero negative, none => afterWhole (.zero negative) ⟨negative, 0, 0⟩ c
  | .whole m, none => afterWhole (.whole m) m c
  | .long m, none => afterWhole (.long m) m c
  | .fraction m, none => afterFraction (.fraction m) m c
  | .rest m, none => afterFraction (.rest m) m c
  | .mark m, none =>
    if c = '+' then .ok (.going (.sign m false))
    else if c = '-' then .ok (.going (.sign m true))
    else NumberScan.stop (.mark m)
  | .start negative, none => NumberScan.stop (.start negative)
  | .point m, none => NumberScan.stop (.point m)
  | .sign m down, none => NumberScan.stop (.sign m down)
  | .power m down value, none => NumberScan.stop (.power m down value)
  | .vanished negative, none => NumberScan.stop (.vanished negative)

def run? (scan : NumberScan) : List Char → Option Number
  | [] => scan.value.toOption
  | c :: later =>
    match scan.step c with
    | .ok (.going next) => next.run? later
    | _ => none

end NumberScan

def Number.ofText? (text : String) : Option Number :=
  match text.toList with
  | '-' :: rest => NumberScan.run? (.start true) rest
  | chars => NumberScan.run? (.start false) chars

inductive NumberSkim where
  | start | zero | whole | point | fraction | mark | sign | power
  deriving DecidableEq, Repr

namespace NumberSkim

def canEnd : NumberSkim → Bool
  | .zero | .whole | .fraction | .power => true
  | _ => false

def step (skim : NumberSkim) (c : Char) : Except Halt (Stage NumberSkim Unit) :=
  match skim, digit? c with
  | .start, some d => .ok (.going (if d = 0 then .zero else .whole))
  | .zero, some _ => halt .invalidNumber 1
  | .whole, some _ => .ok (.going .whole)
  | .point, some _ | .fraction, some _ => .ok (.going .fraction)
  | .mark, some _ | .sign, some _ | .power, some _ => .ok (.going .power)
  | .zero, none | .whole, none =>
    if c = '.' then .ok (.going .point)
    else if c = 'e' ∨ c = 'E' then .ok (.going .mark)
    else .ok (.finished ())
  | .fraction, none =>
    if c = 'e' ∨ c = 'E' then .ok (.going .mark) else .ok (.finished ())
  | .mark, none =>
    if c = '+' ∨ c = '-' then .ok (.going .sign) else halt .invalidNumber 1
  | .start, none | .point, none | .sign, none => halt .invalidNumber 1
  | .power, none => .ok (.finished ())

end NumberSkim

end OperationTree.Json
