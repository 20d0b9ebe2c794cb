import OperationTree.Json.Scan

namespace OperationTree.Json

inductive TextScan where
  | plain (read : String)
  | escape (read : String)
  /-- Inside the four bytes of a code; `high` is the first half of a surrogate pair. -/
  | code (read : String) (high : Option Nat) (digits : List Char) (bytes : Nat)
  /-- After the first half of a pair: a backslash must follow, then a `u`. -/
  | pairMark (read : String) (high : Nat)
  | pairLetter (read : String) (high : Nat)
  deriving DecidableEq, Repr

namespace TextScan

def hexValue? (digits : List Char) : Option Nat :=
  digits.foldl (fun value c => do return (← value) * 16 + (← hexDigit? c)) (some 0)

def isHigh (code : Nat) : Bool := 0xD800 ≤ code && code ≤ 0xDBFF

def isLow (code : Nat) : Bool := 0xDC00 ≤ code && code ≤ 0xDFFF

def joinPair (high low : Nat) : Char :=
  Char.ofNat (0x10000 + (high - 0xD800) * 0x400 + (low - 0xDC00))

def simpleEscape? : Char → Option Char
  | '"' => some '"'
  | '\\' => some '\\'
  | '/' => some '/'
  | 'b' => some '\x08'
  | 'f' => some '\x0c'
  | 'n' => some '\n'
  | 'r' => some '\r'
  | 't' => some '\t'
  | _ => none

/-- Takes the value of a whole code. When `strict` is off the text is skipped and any code will
do. -/
def takeCode (strict : Bool) (read : String) (high : Option Nat) (code : Nat) :
    Except Halt TextScan :=
  if !strict then .ok (.plain read)
  else
    match high with
    | none =>
      if isLow code then halt .loneSurrogate 1
      else if isHigh code then .ok (.pairMark read code)
      else .ok (.plain (read.push (Char.ofNat code)))
    | some first =>
      if isLow code then .ok (.plain (read.push (joinPair first code)))
      else halt .loneSurrogate 1

def step (strict : Bool) (scan : TextScan) (c : Char) :
    Except Halt (Stage TextScan String) :=
  match scan with
  | .plain read =>
    if c = '"' then .ok (.finished read)
    else if c = '\\' then .ok (.going (.escape read))
    else if c.toNat < 0x20 then halt .controlCharacter (if strict then 1 else 0)
    else .ok (.going (.plain (read.push c)))
  | .escape read =>
    if c = 'u' then .ok (.going (.code read none [] 0))
    else
      match simpleEscape? c with
      | some meant => .ok (.going (.plain (read.push meant)))
      | none => halt .invalidEscape 1
  | .code read high digits bytes =>
    if bytes + c.utf8Size < 4 then
      .ok (.going (.code read high (digits ++ [c]) (bytes + c.utf8Size)))
    else
      match hexValue? (digits ++ [c]) with
      | none => halt .invalidEscape (4 - bytes)
      | some value => Stage.going <$> takeCode strict read high value
  | .pairMark read high =>
    if c = '\\' then .ok (.going (.pairLetter read high)) else halt .escapeCutShort 1
  | .pairLetter read high =>
    if c = 'u' then .ok (.going (.code read (some high) [] 0)) else halt .escapeCutShort 1

end TextScan

end OperationTree.Json
