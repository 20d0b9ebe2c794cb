import OperationTree.Decimal.Shortest
import OperationTree.Text.Quoted

namespace OperationTree.Json

/-- Literals without sign, fraction or exponent that fit 64 bits are kept exactly, and so are
negative ones; every other number is a double. -/
inductive Number where
  | natural (n : UInt64)
  | negative (n : Int64)
  | float (x : Float)
  deriving Repr, Inhabited

/-- Members stand in text order, and repeated keys are kept. -/
inductive Value where
  | null
  | bool (b : Bool)
  | number (n : Number)
  | text (s : String)
  | array (items : List Value)
  | object (members : List (String × Value))
  deriving Repr, Inhabited

/-- The member that counts: the last one under the key. -/
def member? (key : String) (members : List (String × Value)) : Option Value :=
  (members.reverse.find? (·.1 == key)).map (·.2)

/-- Doubles are written positionally while their first digit stands between the fifth place
after the point and the sixteenth before it; a half goes to the even neighbour. -/
def floatStyle : Decimal.Style := ⟨some (-5), some 15, .toEven⟩

def Number.describe : Number → String
  | .natural n => "integer `" ++ toString n.toNat ++ "`"
  | .negative n => "integer `" ++ toString n.toInt ++ "`"
  | .float x => "floating point `" ++ Decimal.spell floatStyle x ++ "`"

def Value.describe : Value → String
  | .null => "null"
  | .bool b => "boolean `" ++ (if b then "true" else "false") ++ "`"
  | .number n => n.describe
  | .text s => "string " ++ Text.quoted s
  | .array _ => "sequence"
  | .object _ => "map"

end OperationTree.Json
