import OperationTree.Depth
import OperationTree.Span

namespace OperationTree

inductive WalkError where
  | tooDeep (trip : DepthExceeded) (span : Option Span)
  | load (reason path : String)
  | config (reason path : String)
  deriving DecidableEq, Repr, Inhabited

namespace WalkError

def ofGuard (trip : DepthExceeded) : WalkError := .tooDeep trip none

/-- Says which operation could not be entered. A span that is known already stays. -/
def withSpan (e : WalkError) (span : Span) : WalkError :=
  match e with
  | .tooDeep trip none => .tooDeep trip (some span)
  | e => e

def isExhaustion : WalkError → Bool
  | .tooDeep _ _ => true
  | _ => false

def message : WalkError → String
  | .tooDeep trip _ => trip.message
  | .load reason _ => "Load error: " ++ reason
  | .config reason _ => "Config error: " ++ reason

end WalkError

end OperationTree
