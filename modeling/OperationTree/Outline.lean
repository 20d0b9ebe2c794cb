import OperationTree.Log
import OperationTree.Walk.Walker
import OperationTree.WalkError

namespace OperationTree

inductive OutlineStyle where
  | outline | trace
  deriving DecidableEq, Repr

namespace Outline

def label : Kind → String
  | .variableDeclaration name => "VariableDeclaration " ++ name
  | .literal value => "Literal " ++ value
  | .localReference name => "LocalReference " ++ name
  | .fieldReference field => "FieldReference ." ++ field
  | .unary op => "Unary " ++ op.symbol
  | .binary op => "Binary " ++ op.symbol
  | .invocation method => "Invocation " ++ method ++ "()"
  | kind => kind.name

def spanSuffix (span : Span) : String :=
  if span.isEmpty then ""
  else " @" ++ toString span.start.toNat ++ ".." ++ toString span.stop.toNat

def heading (style : OutlineStyle) (t : Operation) : String :=
  match style with
  | .trace => t.kind.name
  | .outline => label t.kind ++ spanSuffix t.span

def indent (level : Nat) : String := String.ofList (List.replicate (2 * (level - 1)) ' ')

def line (style : OutlineStyle) (t : Operation) (level : Nat) : String :=
  indent level ++ heading style t ++ "\n"

/-- The text so far and the log, latest entry first. -/
structure Page where
  text : String := ""
  log : List Log.Entry := []

def walker (style : OutlineStyle) (limit : UInt32) : Walker Page WalkError where
  limit := limit
  ofGuard := WalkError.ofGuard
  tripped t e page := { page with log := Log.tripped t e :: page.log }
  around t run := ExceptT.adapt (fun e => e.withSpan t.span) run
  hook _ t depth children := do
    modify fun page =>
      { text := page.text ++ line style t depth.current.toNat
        log := Log.dispatched t depth :: page.log }
    visitAll children depth

def print (style : OutlineStyle) (limit : UInt32) (root : Operation) :
    Except WalkError String × List Log.Entry :=
  let (outcome, page) := (walker style limit).run (some root) {}
  (outcome.map fun _ => page.text, page.log.reverse)

end Outline

namespace Operation

def outline (limit : UInt32) (t : Operation) : Except WalkError String :=
  (Outline.print .outline limit t).1

def trace (limit : UInt32) (t : Operation) : Except WalkError String :=
  (Outline.print .trace limit t).1

end Operation

end OperationTree
