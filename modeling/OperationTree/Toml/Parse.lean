import OperationTree.Text.Basic
import OperationTree.Toml.Table

namespace OperationTree.Toml

structure Input where
  rest : List Char
  offset : Nat := 0

abbrev Rule (α : Type) : Type := StateT Input Option α

namespace Rule

def peek : Rule (Option Char) := do return (← get).rest.head?

def remaining : Rule Nat := do return (← get).rest.length

def next : Rule Char := do
  match (← get).rest with
  | [] => failure
  | c :: rest =>
    modify fun input => ⟨rest, input.offset + c.utf8Size⟩
    return c

def satisfying (p : Char → Bool) : Rule Char := do
  let c ← next
  if p c then return c else failure

def char (expected : Char) : Rule Unit := do
  let _ ← satisfying (· == expected)

def word : List Char → Rule Unit
  | [] => pure ()
  | c :: rest => do
    char c
    word rest

def startsWith (expected : List Char) : Rule Bool := do
  return expected.isPrefixOf (← get).rest

def many (p : Char → Bool) : Rule (List Char) := do
  let taken := (← get).rest.takeWhile p
  modify fun input => ⟨input.rest.dropWhile p, input.offset + Text.byteCount taken⟩
  return taken

def many1 (p : Char → Bool) : Rule (List Char) := do
  let taken ← many p
  if taken.isEmpty then failure else return taken

def exactly (p : Char → Bool) : Nat → Rule (List Char)
  | 0 => return []
  | n + 1 => do
    let c ← satisfying p
    return c :: (← exactly p n)

def placed {α : Type} (p : Rule α) : Rule (α × Extent) := do
  let start := (← get).offset
  let a ← p
  return (a, ⟨start, (← get).offset⟩)

end Rule

open Rule

def isControl (c : Char) : Bool := (c.toNat < 0x20 && c != '\t') || c.toNat == 0x7f

def blanks : Rule Unit := do
  let _ ← many fun c => c == ' ' || c == '\t'

def lineBreak : Rule Unit := do
  if (← startsWith ['\r', '\n']) then word ['\r', '\n'] else char '\n'

def comment : Rule Unit := do
  char '#'
  let _ ← many fun c => !isControl c

def lineBreakOrEnd : Rule Unit := do
  if (← peek).isSome then lineBreak

def lineEnd : Rule Unit := do
  blanks
  let _ ← optional comment
  lineBreakOrEnd

def spacing : (fuel : Nat) → Rule Unit
  | 0 => pure ()
  | fuel + 1 => do
    blanks
    match ← peek with
    | some '#' => do
      comment
      lineBreak
      spacing fuel
    | some '\n' | some '\r' => do
      lineBreak
      spacing fuel
    | _ => pure ()

def spaced : Rule Unit := do spacing ((← remaining) + 1)

def hexValue (digits : List Char) : Nat :=
  digits.foldl
    (fun n c =>
      let digit := if c.isDigit then c.toNat - '0'.toNat else c.toLower.toNat - 'a'.toNat + 10
      n * 16 + digit)
    0

def isHexDigit (c : Char) : Bool :=
  c.isDigit || ('a' ≤ c && c ≤ 'f') || ('A' ≤ c && c ≤ 'F')

def codeChar (length : Nat) : Rule Char := do
  let n := hexValue (← exactly isHexDigit length)
  if n.isValidChar then return Char.ofNat n else failure

def escaped : Rule Char := do
  match ← next with
  | 'b' => return '\x08'
  | 't' => return '\t'
  | 'n' => return '\n'
  | 'f' => return '\x0c'
  | 'r' => return '\r'
  | '"' => return '"'
  | '\\' => return '\\'
  | 'u' => codeChar 4
  | 'U' => codeChar 8
  | _ => failure

def oneLine (quote : Char) : (fuel : Nat) → String → Rule String
  | 0, _ => failure
  | fuel + 1, read => do
    let c ← next
    if c == quote then return read
    else if c == '\\' && quote == '"' then oneLine quote fuel (read.push (← escaped))
    else if isControl c then failure
    else oneLine quote fuel (read.push c)

/-- A backslash at the end of a line joins it to the next text. -/
def joinsLines : Rule Bool := do
  match (← get).rest.dropWhile fun c => c == ' ' || c == '\t' with
  | '\n' :: _ => return true
  | '\r' :: '\n' :: _ => return true
  | _ => return false

def skipLines : (fuel : Nat) → Rule Unit
  | 0 => pure ()
  | fuel + 1 => do
    blanks
    match ← optional lineBreak with
    | some _ => skipLines fuel
    | none => pure ()

/-- The rest of a text over several lines. It may end in up to two quotes of its own. -/
def manyLines (quote : Char) : (fuel : Nat) → String → Rule String
  | 0, _ => failure
  | fuel + 1, read => do
    if (← peek) == some quote then
      let run ← many (· == quote)
      let own := if run.length < 3 then run.length else run.length - 3
      let read := (run.take own).foldl String.push read
      if run.length < 3 then manyLines quote fuel read
      else if own ≤ 2 then return read
      else failure
    else
      match ← next with
      | '\r' => do
        char '\n'
        manyLines quote fuel (read.push '\n')
      | '\n' => manyLines quote fuel (read.push '\n')
      | '\\' =>
        if quote != '"' then manyLines quote fuel (read.push '\\')
        else if (← joinsLines) then do
          skipLines ((← remaining) + 1)
          manyLines quote fuel read
        else do manyLines quote fuel (read.push (← escaped))
      | c => if isControl c then failure else manyLines quote fuel (read.push c)

def quotedKey (quote : Char) : Rule String := do
  char quote
  oneLine quote ((← remaining) + 1) ""

def quotedText (quote : Char) : Rule String := do
  if (← startsWith [quote, quote, quote]) then
    word [quote, quote, quote]
    let _ ← optional lineBreak
    manyLines quote ((← remaining) + 1) ""
  else quotedKey quote

def isBareKeyChar (c : Char) : Bool := c.isAlphanum || c == '_' || c == '-'

def simpleKey : Rule Key := do
  let (text, extent) ← placed do
    match ← peek with
    | some '"' => quotedKey '"'
    | some '\'' => quotedKey '\''
    | _ => return String.ofList (← many1 isBareKeyChar)
  return ⟨text, extent⟩

def dottedKeys : (fuel : Nat) → Rule (List Key)
  | 0 => failure
  | fuel + 1 => do
    blanks
    let key ← simpleKey
    blanks
    if (← peek) == some '.' then
      char '.'
      return key :: (← dottedKeys fuel)
    else return [key]

/-- Keys with this many parts, and values nested this deep, are refused. -/
def nestingLimit : Nat := 80

def dottedKey : Rule (List Key × Key) := do
  let keys ← dottedKeys ((← remaining) + 1)
  if keys.length ≥ nestingLimit then failure
  match keys.getLast? with
  | some key => return (keys.dropLast, key)
  | none => failure

def digitGroups (p : Char → Bool) : Rule (List Char) := do
  let digits ← many fun c => p c || c == '_'
  let doubled := (digits.zip digits.tail).any fun (a, b) => a == '_' && b == '_'
  if digits.isEmpty || digits.head? == some '_' || digits.getLast? == some '_' || doubled then
    failure
  return digits.filter (· != '_')

def sign : Rule Bool := do
  match ← peek with
  | some '-' => do
    char '-'
    return true
  | some '+' => do
    char '+'
    return false
  | _ => return false

def decimalValue (digits : List Char) : Nat :=
  digits.foldl (fun n c => n * 10 + (c.toNat - '0'.toNat)) 0

def wholeDigits : Rule (List Char) := do
  if (← peek) == some '0' then
    char '0'
    return ['0']
  digitGroups Char.isDigit

def fits64 (n : Int) : Bool := Int64.minValue.toInt ≤ n && n ≤ Int64.maxValue.toInt

def radixInteger (letter : Char) (radix : Nat) (p : Char → Bool) : Rule Scalar := do
  word ['0', letter]
  let digits ← digitGroups p
  let n := digits.foldl (fun n c => n * radix + hexValue [c]) 0
  if fits64 n then return .integer n else failure

def decimalInteger : Rule Scalar := do
  let negative ← sign
  let size : Int := decimalValue (← wholeDigits)
  let n := if negative then -size else size
  if fits64 n then return .integer n else failure

def integer : Rule Scalar := do
  if (← startsWith ['0', 'x']) then radixInteger 'x' 16 isHexDigit
  else if (← startsWith ['0', 'o']) then radixInteger 'o' 8 fun c => '0' ≤ c && c ≤ '7'
  else if (← startsWith ['0', 'b']) then radixInteger 'b' 2 fun c => c == '0' || c == '1'
  else decimalInteger

def nearestFloat (digits : List Char) (exponent : Int) : Float :=
  let significand := decimalValue digits
  let magnitude := exponent + (Nat.toDigits 10 significand).length
  if significand = 0 ∨ magnitude < -400 then 0.0
  else if magnitude > 400 then Float.ofScientific 1 false 400
  else Float.ofScientific significand (exponent < 0) exponent.natAbs

def exponentPart : Rule Int := do
  let _ ← satisfying fun c => c == 'e' || c == 'E'
  let negative ← sign
  let size : Int := decimalValue (← digitGroups Char.isDigit)
  return if negative then -size else size

def fractionPart : Rule (List Char) := do
  char '.'
  digitGroups Char.isDigit

/-- A number too large for a double is refused, unless it is negative. -/
def decimalFloat : Rule Scalar := do
  let negative ← sign
  let whole ← wholeDigits
  let fraction ← optional fractionPart
  let exponent ← match fraction with
    | some _ => (·.getD 0) <$> optional exponentPart
    | none => exponentPart
  let digits := fraction.getD []
  let size := nearestFloat (whole ++ digits) (exponent - digits.length)
  if size.isInf && !negative then failure
  return .float (if negative then -size else size)

def specialFloat : Rule Scalar := do
  let negative ← sign
  if (← startsWith ['i', 'n', 'f']) then
    word ['i', 'n', 'f']
    let infinity : Float := 1.0 / 0.0
    return .float (if negative then -infinity else infinity)
  word ['n', 'a', 'n']
  return .float (0.0 / 0.0)

def number (digits : Nat) (greatest : Nat) : Rule Nat := do
  let n := decimalValue (← exactly Char.isDigit digits)
  if n ≤ greatest then return n else failure

def daysInMonth (year month : Nat) : Nat :=
  if month = 2 then
    if year % 4 = 0 ∧ (year % 100 ≠ 0 ∨ year % 400 = 0) then 29 else 28
  else if month = 4 ∨ month = 6 ∨ month = 9 ∨ month = 11 then 30
  else 31

def date : Rule Unit := do
  let year ← number 4 9999
  char '-'
  let month ← number 2 12
  char '-'
  let day ← number 2 31
  if month = 0 ∨ day = 0 ∨ daysInMonth year month < day then failure

def timeOfDay : Rule Unit := do
  let _ ← number 2 23
  char ':'
  let _ ← number 2 59
  char ':'
  let _ ← number 2 60
  if (← peek) == some '.' then
    char '.'
    let _ ← many1 Char.isDigit

def zone : Rule Unit := do
  match ← next with
  | 'Z' | 'z' => pure ()
  | '+' | '-' => do
    let _ ← number 2 23
    char ':'
    let _ ← number 2 59
  | _ => failure

def moment : Rule Scalar := do
  let dated : Rule Unit := do
    date
    let _ ← optional do
      let _ ← satisfying fun c => c == 'T' || c == 't' || c == ' '
      timeOfDay
      optional zone
  dated <|> timeOfDay
  return .moment

def scalar : Rule Scalar := do
  match ← peek with
  | some '"' => return .text (← quotedText '"')
  | some '\'' => return .text (← quotedText '\'')
  | some 't' => do
    word ['t', 'r', 'u', 'e']
    return .bool true
  | some 'f' => do
    word ['f', 'a', 'l', 's', 'e']
    return .bool false
  | _ => moment <|> decimalFloat <|> specialFloat <|> integer

mutual
/-- `depth` counts the brackets and braces around the value. -/
def value (depth : Nat) : (fuel : Nat) → Rule Item
  | 0 => failure
  | fuel + 1 => do
    match ← peek with
    | some '[' => do
      if depth + 1 ≥ nestingLimit then failure
      let (listed, extent) ← placed do
        char '['
        items (depth + 1) fuel
      return .array listed extent
    | some '{' => do
      if depth + 1 ≥ nestingLimit then failure
      let (members, extent) ← placed do
        char '{'
        blanks
        if (← peek) == some '}' then
          char '}'
          return []
        else inBraces (depth + 1) fuel []
      return .table ⟨false, false, true⟩ members (some extent)
    | _ => do
      let (read, extent) ← placed scalar
      return .scalar read extent
def items (depth : Nat) : (fuel : Nat) → Rule (List Item)
  | 0 => failure
  | fuel + 1 => do
    spaced
    if (← peek) == some ']' then
      char ']'
      return []
    let item ← value depth fuel
    spaced
    if (← peek) == some ',' then
      char ','
      return item :: (← items depth fuel)
    char ']'
    return [item]
def inBraces (depth : Nat) : (fuel : Nat) → Members → Rule Members
  | 0, _ => failure
  | fuel + 1, members => do
    let (path, key) ← dottedKey
    char '='
    blanks
    let item ← value depth fuel
    blanks
    match members.define? true path key item with
    | none => failure
    | some members =>
      match ← next with
      | ',' => inBraces depth fuel members
      | '}' => return members
      | _ => failure
end

def memberLine : Rule Line := do
  let (path, key) ← dottedKey
  char '='
  blanks
  let item ← value 0 ((← remaining) + 1)
  lineEnd
  return .member path key item

def headerLine : Rule Line := do
  let repeated ← startsWith ['[', '[']
  let (opening, closing) := if repeated then (['[', '['], [']', ']']) else (['['], [']'])
  let ((path, key), extent) ← placed do
    word opening
    let keys ← dottedKey
    word closing
    return keys
  lineEnd
  return if repeated then .repeatedHeader path key extent else .header path key extent

def line : Rule (Option Line) := do
  blanks
  match ← peek with
  | none => return none
  | some '\n' | some '\r' => do
    lineBreak
    return none
  | some '#' => do
    comment
    lineBreakOrEnd
    return none
  | some '[' => return some (← headerLine)
  | some _ => return some (← memberLine)

def lines : (fuel : Nat) → Rule (List Line)
  | 0 => return []
  | fuel + 1 => do
    if (← remaining) = 0 then return []
    let first ← line
    return first.toList ++ (← lines fuel)

def document : Rule (List Line) := do
  if (← startsWith ['\ufeff']) then word ['\ufeff']
  lines ((← remaining) + 1)

def parse? (text : String) : Option Members := do
  let (all, _) ← document.run { rest := text.toList }
  tableOf? all

end OperationTree.Toml
