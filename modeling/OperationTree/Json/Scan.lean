import OperationTree.Json.Fault

namespace OperationTree.Json

/-- A fault found at a character, with the bytes of it that count as read. -/
structure Halt where
  fault : Fault
  bytes : Nat
  deriving DecidableEq, Repr

def halt {α : Type} (fault : SyntaxFault) (bytes : Nat) : Except Halt α :=
  .error ⟨.syntactic fault, bytes⟩

inductive Stage (σ α : Type) where
  | going (scan : σ)
  | finished (value : α)

def isBlank (c : Char) : Bool := c == ' ' || c == '\t' || c == '\n' || c == '\r'

def digit? (c : Char) : Option Nat :=
  if '0' ≤ c ∧ c ≤ '9' then some (c.toNat - '0'.toNat) else none

def hexDigit? (c : Char) : Option Nat :=
  if '0' ≤ c ∧ c ≤ '9' then some (c.toNat - '0'.toNat)
  else if 'a' ≤ c ∧ c ≤ 'f' then some (c.toNat - 'a'.toNat + 10)
  else if 'A' ≤ c ∧ c ≤ 'F' then some (c.toNat - 'A'.toNat + 10)
  else none

structure WordScan (α : Type) where
  rest : List Char
  value : α

def WordScan.step {α : Type} (w : WordScan α) (c : Char) :
    Except Halt (Stage (WordScan α) α) :=
  match w.rest with
  | [] => .ok (.finished w.value)
  | expected :: rest =>
    if c = expected then
      if rest.isEmpty then .ok (.finished w.value) else .ok (.going { w with rest })
    else halt .expectedWord 1

end OperationTree.Json
