import OperationTree.Operation
import OperationTree.Depth

namespace OperationTree.Log

inductive Level where
  | error | warn | info | debug | trace
  deriving DecidableEq, Repr, Inhabited

namespace Level

def name : Level → String
  | .error => "ERROR"
  | .warn => "WARN"
  | .info => "INFO"
  | .debug => "DEBUG"
  | .trace => "TRACE"

def rank : Level → Nat
  | .error => 1
  | .warn => 2
  | .info => 3
  | .debug => 4
  | .trace => 5

end Level

structure Entry where
  level : Level
  target : String
  message : String
  fields : List (String × String)
  deriving DecidableEq, Repr, Inhabited

namespace Entry

def line (e : Entry) : String :=
  e.level.name ++ " " ++ e.target ++ ": " ++ e.message ++
    String.join (e.fields.map fun (name, value) => " " ++ name ++ "=" ++ value)

def hasField (e : Entry) (name : String) : Bool :=
  name == "message" || e.fields.any fun f => f.1 == name

end Entry

def kindField (t : Operation) : String × String := ("kind", "\"" ++ t.kind.name ++ "\"")

def tripped (t : Operation) (e : DepthExceeded) : Entry :=
  ⟨.debug, "opwalk::visit", "stack guard tripped",
    [kindField t, ("depth", toString e.depth.toNat), ("limit", toString e.limit.toNat)]⟩

def dispatched (t : Operation) (depth : Depth) : Entry :=
  ⟨.trace, "opwalk::pretty", "dispatch",
    [kindField t, ("depth", toString depth.current.toNat)]⟩

def loadingConfig (path : String) : Entry :=
  ⟨.debug, "opwalk::config", "loading walker config", [("path", path)]⟩

def configResolved (maxDepth : UInt32) : Entry :=
  ⟨.debug, "opwalk", "walker config resolved", [("max_depth", toString maxDepth.toNat)]⟩

end OperationTree.Log
