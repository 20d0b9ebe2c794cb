import OperationTree.Text.Alphanumeric

/-!
Patterns that a directive gives for the value of a field. No pattern is ever matched here; what
counts is which texts are patterns at all. A pattern may not hold what needs tables of characters
(named classes and properties, word boundaries, a flag that ignores case), and it cannot hold a
count in braces, because the brace would end the field.
-/

namespace OperationTree.Log

inductive PatternScan where
  | item (groups : Nat) (repeatable : Bool)
  | escape (groups : Nat)
  | code (groups : Nat) (missing value : Nat)
  | opened (groups : Nat)
  | special (groups : Nat)
  | flags (groups : Nat) (dangling : Bool)
  | label (groups : Nat)
  | name (groups : Nat) (started : Bool)
  /-- Where a bracket closes nothing, at the start of a class; `depth` counts open classes. -/
  | classStart (groups depth : Nat) (negated : Bool)
  | members (groups depth : Nat) (low : Option Char)
  | classEscape (groups depth : Nat) (low : Option Char)
  | range (groups depth : Nat) (low : Char)
  deriving DecidableEq, Repr

namespace PatternScan

def isScalar (code : Nat) : Bool := code < 0xd800 || (0xe000 ≤ code && code < 0x110000)

def hexValue? (c : Char) : Option Nat :=
  if c.isDigit then some (c.toNat - '0'.toNat)
  else if 'a' ≤ c ∧ c ≤ 'f' then some (c.toNat - 'a'.toNat + 10)
  else if 'A' ≤ c ∧ c ≤ 'F' then some (c.toNat - 'A'.toNat + 10)
  else none

def isSign (c : Char) : Bool :=
  c.toNat < 0x80 && !c.isAlphanum && c != '<' && c != '>'

def escaped? (c : Char) : Option Char :=
  match c with
  | 'a' => some '\x07'
  | 'f' => some '\x0c'
  | 't' => some '\t'
  | 'n' => some '\n'
  | 'r' => some '\r'
  | 'v' => some '\x0b'
  | c => if isSign c then some c else none

def codeDigits? (c : Char) : Option Nat :=
  match c with
  | 'x' => some 2
  | 'u' => some 4
  | 'U' => some 8
  | _ => none

def isFlag (c : Char) : Bool := ['m', 's', 'U', 'u', 'R', 'x'].contains c

def itemStep (groups : Nat) (repeatable : Bool) (c : Char) : Option PatternScan :=
  match c with
  | '\\' => some (.escape groups)
  | '(' => some (.opened (groups + 1))
  | ')' => if groups = 0 then none else some (.item (groups - 1) true)
  | '|' => some (.item groups false)
  | '[' => some (.classStart groups 1 false)
  | '?' | '*' | '+' => if repeatable then some (.item groups true) else none
  | '{' => none
  | _ => some (.item groups true)

def memberStep (groups depth : Nat) (low : Option Char) (c : Char) : Option PatternScan :=
  match low with
  | none => some (.members groups depth (some c))
  | some low => if low ≤ c then some (.members groups depth none) else none

def closeClass (groups depth : Nat) : PatternScan :=
  if depth = 1 then .item groups true else .members groups (depth - 1) none

def membersStep (groups depth : Nat) (low : Option Char) (c : Char) : Option PatternScan :=
  match c with
  | ']' => some (closeClass groups depth)
  | '[' => some (.classStart groups (depth + 1) false)
  | '\\' => some (.classEscape groups depth none)
  | '-' =>
    match low with
    | some low => some (.range groups depth low)
    | none => some (.members groups depth none)
  | _ => some (.members groups depth (some c))

def step (scan : PatternScan) (c : Char) : Option PatternScan :=
  match scan with
  | .item groups repeatable => itemStep groups repeatable c
  | .escape groups =>
    match codeDigits? c with
    | some digits => some (.code groups digits 0)
    | none =>
      if c = 'A' ∨ c = 'z' then some (.item groups true)
      else (escaped? c).map fun _ => .item groups true
  | .code groups missing value =>
    (hexValue? c).bind fun d =>
      if missing ≤ 1 then
        if isScalar (value * 16 + d) then some (.item groups true) else none
      else some (.code groups (missing - 1) (value * 16 + d))
  | .opened groups => if c = '?' then some (.special groups) else itemStep groups false c
  | .special groups =>
    if c = 'P' then some (.label groups)
    else if c = '<' then some (.name groups false)
    else if c = ':' then some (.item groups false)
    else if c = '-' then some (.flags groups true)
    else if isFlag c then some (.flags groups false)
    else none
  | .flags groups dangling =>
    if isFlag c then some (.flags groups false)
    else if dangling then none
    else if c = '-' then some (.flags groups true)
    else if c = ':' then some (.item groups false)
    else if c = ')' then some (.item (groups - 1) false)
    else none
  | .label groups => if c = '<' then some (.name groups false) else none
  | .name groups started =>
    if c = '>' then if started then some (.item groups false) else none
    else if c = '_' ∨ (Text.isAlphanumeric c ∧ (started ∨ !c.isDigit)) then
      some (.name groups true)
    else if started ∧ (c = '.' ∨ c = '[' ∨ c = ']') then some (.name groups true)
    else none
  | .classStart groups depth negated =>
    if c = '^' ∧ !negated then some (.classStart groups depth true)
    else if c = '-' ∨ c = ']' then some (.members groups depth none)
    else membersStep groups depth none c
  | .members groups depth low => membersStep groups depth low c
  | .classEscape groups depth low => (escaped? c).bind (memberStep groups depth low)
  | .range groups depth low =>
    match c with
    | ']' => some (closeClass groups depth)
    | '-' => some (.members groups depth none)
    | '[' => none
    | '\\' => some (.classEscape groups depth (some low))
    | c => memberStep groups depth (some low) c

def canEnd : PatternScan → Bool
  | .item groups _ => groups = 0
  | _ => false

end PatternScan

def isDecimal (text : List Char) : Bool :=
  let whole := text.takeWhile Char.isDigit
  let (fraction, tail) :=
    match text.dropWhile Char.isDigit with
    | '.' :: rest => (rest.takeWhile Char.isDigit, rest.dropWhile Char.isDigit)
    | rest => ([], rest)
  let power :=
    match tail with
    | [] => true
    | _ :: '+' :: digits | _ :: '-' :: digits => !digits.isEmpty && digits.all Char.isDigit
    | _ :: digits => !digits.isEmpty && digits.all Char.isDigit
  !(whole.isEmpty && fraction.isEmpty) && power &&
    (tail.head?.all fun c => c == 'e' || c == 'E')

/-- A number with a plus sign is no pattern, yet it can be compared with. -/
def isPattern (text : List Char) : Bool :=
  (text.head? == some '+' && isDecimal text.tail) ||
    ((text.foldlM PatternScan.step (.item 0 false)).any PatternScan.canEnd)

end OperationTree.Log
