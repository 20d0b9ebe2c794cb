import OperationTree.ContentFault

namespace OperationTree.Json

inductive SyntaxFault where
  | endInList | endInObject | endInString | endInValue
  | expectedColon | expectedListCommaOrEnd | expectedObjectCommaOrEnd
  | expectedWord | expectedValue | keyNotText
  | invalidEscape | invalidNumber | numberOutOfRange | controlCharacter
  | loneSurrogate | escapeCutShort
  | trailingComma | trailingCharacters
  deriving DecidableEq, Repr, Inhabited

namespace SyntaxFault

def message : SyntaxFault → String
  | .endInList => "EOF while parsing a list"
  | .endInObject => "EOF while parsing an object"
  | .endInString => "EOF while parsing a string"
  | .endInValue => "EOF while parsing a value"
  | .expectedColon => "expected `:`"
  | .expectedListCommaOrEnd => "expected `,` or `]`"
  | .expectedObjectCommaOrEnd => "expected `,` or `\x7d`"
  | .expectedWord => "expected ident"
  | .expectedValue => "expected value"
  | .keyNotText => "key must be a string"
  | .invalidEscape => "invalid escape"
  | .invalidNumber => "invalid number"
  | .numberOutOfRange => "number out of range"
  | .controlCharacter => "control character (\\u0000-\\u001F) found while parsing a string"
  | .loneSurrogate => "lone leading surrogate in hex escape"
  | .escapeCutShort => "unexpected end of hex escape"
  | .trailingComma => "trailing comma"
  | .trailingCharacters => "trailing characters"

def isEnd : SyntaxFault → Bool
  | .endInList | .endInObject | .endInString | .endInValue => true
  | _ => false

end SyntaxFault

inductive Fault where
  | syntactic (fault : SyntaxFault)
  | data (fault : ContentFault)
  deriving DecidableEq, Repr, Inhabited

inductive FaultClass where
  | data | cutShort | malformed
  deriving DecidableEq, Repr

namespace Fault

def message : Fault → String
  | .syntactic f => f.message
  | .data f => f.message

def category : Fault → FaultClass
  | .data _ => .data
  | .syntactic f => if f.isEnd then .cutShort else .malformed

end Fault

/-- The line, counted from 1, and the bytes of it that have been read. -/
structure Position where
  line : Nat := 1
  column : Nat := 0
  deriving DecidableEq, Repr, Inhabited

namespace Position

def into (p : Position) (c : Char) (bytes : Nat) : Position :=
  if bytes = 0 then p
  else if c = '\n' then ⟨p.line + 1, 0⟩
  else ⟨p.line, p.column + bytes⟩

def after (p : Position) (c : Char) : Position := p.into c c.utf8Size

end Position

structure LocatedFault where
  fault : Fault
  position : Position
  deriving DecidableEq, Repr, Inhabited

def LocatedFault.message (f : LocatedFault) : String :=
  f.fault.message ++ " at line " ++ toString f.position.line ++ " column " ++
    toString f.position.column

end OperationTree.Json
