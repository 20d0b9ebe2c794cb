namespace OperationTree

/-- Faults of content. `met` names what was found, `wanted` what could have stood there. -/
inductive ContentFault where
  | wrongType (met wanted : String)
  | wrongValue (met wanted : String)
  | wrongLength (length : Nat) (wanted : String)
  | missingField (key : String)
  | duplicateField (key : String)
  | unknownField (key : String) (known : List String)
  | unknownVariant (key : String) (known : List String)
  | strayField (key kind : String)
  deriving DecidableEq, Repr, Inhabited

namespace ContentFault

def ticked (key : String) : String := "`" ++ key ++ "`"

def choices : List String → String
  | [] => "nothing"
  | [a] => ticked a
  | [a, b] => ticked a ++ " or " ++ ticked b
  | many => "one of " ++ ", ".intercalate (many.map ticked)

def message : ContentFault → String
  | .wrongType met wanted => "invalid type: " ++ met ++ ", expected " ++ wanted
  | .wrongValue met wanted => "invalid value: " ++ met ++ ", expected " ++ wanted
  | .wrongLength length wanted =>
    "invalid length " ++ toString length ++ ", expected " ++ wanted
  | .missingField key => "missing field " ++ ticked key
  | .duplicateField key => "duplicate field " ++ ticked key
  | .unknownField key known => "unknown field " ++ ticked key ++ ", expected " ++ choices known
  | .unknownVariant key known =>
    "unknown variant " ++ ticked key ++ ", expected " ++ choices known
  | .strayField key kind => "unexpected field " ++ ticked key ++ " on " ++ kind ++ " operation"

end ContentFault

end OperationTree
