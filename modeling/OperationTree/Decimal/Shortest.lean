/-!
The shortest decimal that reads back as a given double: the fewest digits, and of those the
decimal nearest to the double.
-/

namespace OperationTree.Decimal

/-- A number that a double stands for, with the digits of `d.ddd · 10 ^ exponent`. Zero has the
single digit 0. -/
inductive Reading where
  | undefined
  | infinite (negative : Bool)
  | finite (negative : Bool) (digits : List Char) (exponent : Int)
  deriving DecidableEq, Repr

/-- The reals that round to a double, as fractions over one denominator. -/
structure Interval where
  low : Nat
  middle : Nat
  high : Nat
  denominator : Nat
  closed : Bool
  deriving Repr

/-- `significand · 2 ^ exponent`; below a power of two the doubles lie twice as close. -/
def interval (significand : Nat) (exponent : Int) (edge : Bool) : Interval :=
  let scale := exponent - 2
  let up : Nat := Nat.pow 2 scale.toNat
  { low := (4 * significand - (if edge then 1 else 2)) * up
    middle := 4 * significand * up
    high := (4 * significand + 2) * up
    denominator := Nat.pow 2 (-scale).toNat
    closed := significand % 2 == 0 }

def magnitude (numerator denominator : Nat) : Int :=
  if denominator ≤ numerator then
    ((Nat.toDigits 10 (numerator / denominator)).length : Int) - 1
  else
    let places := (Nat.toDigits 10 (denominator / numerator)).length
    if numerator * Nat.pow 10 (places - 1) = denominator then 1 - (places : Int)
    else -(places : Int)

def Interval.holds (i : Interval) (numerator : Nat) : Bool :=
  if i.closed then i.low ≤ numerator && numerator ≤ i.high
  else i.low < numerator && numerator < i.high

/-- Which of two decimals is taken when the double lies midway between them. -/
inductive Tie where
  | toEven
  | away
  deriving DecidableEq, Repr

def Tie.keeps (tie : Tie) (below : Nat) : Bool := tie == .toEven && below % 2 == 0

/-- The multiple of `10 ^ grid` in the interval that is nearest to the middle. -/
def nearest? (tie : Tie) (i : Interval) (grid : Int) : Option Nat :=
  let up : Nat := Nat.pow 10 (-grid).toNat
  let unit : Nat := i.denominator * Nat.pow 10 grid.toNat
  let j := { i with low := i.low * up, middle := i.middle * up, high := i.high * up }
  let below := j.middle / unit
  let above := below + 1
  match j.holds (below * unit), j.holds (above * unit) with
  | false, false => none
  | true, false => some below
  | false, true => some above
  | true, true =>
    let down := j.middle - below * unit
    let rise := above * unit - j.middle
    if down < rise || (down == rise && tie.keeps below) then some below else some above

/-- Tries one digit, then two, and so on; seventeen are always enough. -/
def search (tie : Tie) (i : Interval) (top : Int) : (tries : Nat) → (count : Nat) → Nat × Int
  | 0, _ => (0, 0)
  | tries + 1, count =>
    let grid := top - (count : Int)
    match nearest? tie i grid with
    | some digits => (digits, grid)
    | none => search tie i top tries (count + 1)

def dropZeros (digits : List Char) : List Char :=
  (digits.reverse.dropWhile (· == '0')).reverse

def fractions : Nat := 0x10000000000000

def halfPatterns : Nat := 0x8000000000000000

def ofBits (tie : Tie) (bits : UInt64) : Reading :=
  let negative := bits.toNat / halfPatterns == 1
  let field : Nat := bits.toNat % halfPatterns / fractions
  let fraction : Nat := bits.toNat % fractions
  if field == 2047 then
    if fraction == 0 then .infinite negative else .undefined
  else if field == 0 && fraction == 0 then .finite negative ['0'] 0
  else
    let significand : Nat := if field == 0 then fraction else fractions + fraction
    let exponent : Int := (if field == 0 then 1 else (field : Int)) - 1075
    let i := interval significand exponent (fraction == 0 && field > 1)
    let (digits, grid) := search tie i (magnitude i.middle i.denominator) 18 0
    let all := Nat.toDigits 10 digits
    .finite negative (dropZeros all) (grid + (all.length : Int) - 1)

def ofFloat (tie : Tie) (x : Float) : Reading := ofBits tie x.toBits

def positional (digits : List Char) (exponent : Int) : List Char :=
  if exponent < 0 then
    '0' :: '.' :: List.replicate (-exponent - 1).toNat '0' ++ digits
  else
    let whole := exponent.toNat + 1
    let lead := digits.take whole ++ List.replicate (whole - digits.length) '0'
    let rest := digits.drop whole
    lead ++ '.' :: (if rest.isEmpty then ['0'] else rest)

def scientific (digits : List Char) (exponent : Int) : List Char :=
  let mantissa :=
    match digits with
    | [] => []
    | [d] => [d]
    | d :: rest => d :: '.' :: rest
  let sign := if exponent < 0 then '-' else '+'
  mantissa ++ 'e' :: sign :: Nat.toDigits 10 exponent.natAbs

structure Style where
  positionalFrom : Option Int
  positionalTo : Option Int
  tie : Tie

def Style.isPositional (s : Style) (exponent : Int) : Bool :=
  s.positionalFrom.all (· ≤ exponent) && s.positionalTo.all (exponent ≤ ·)

def write (s : Style) : Reading → String
  | .undefined => "NaN"
  | .infinite negative => if negative then "-inf" else "inf"
  | .finite negative digits exponent =>
    let text := if s.isPositional exponent then positional digits exponent
      else scientific digits exponent
    (if negative then "-" else "") ++ String.ofList text

def spell (s : Style) (x : Float) : String := write s (ofFloat s.tie x)

end OperationTree.Decimal
