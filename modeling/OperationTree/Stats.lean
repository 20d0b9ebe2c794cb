import OperationTree.Log
import OperationTree.Walk.Walker

namespace OperationTree

structure Stats where
  nodes : Nat := 0
  maxDepth : UInt32 := 0
  placeholders : Nat := 0
  /-- How often each kind occurs, by ascending name. -/
  kinds : List (String × Nat) := []
  deriving DecidableEq, Repr, Inhabited

namespace Stats

def increment (name : String) : List (String × Nat) → List (String × Nat)
  | [] => [(name, 1)]
  | (other, count) :: rest =>
    if name = other then (other, count + 1) :: rest
    else if name < other then (name, 1) :: (other, count) :: rest
    else (other, count) :: increment name rest

def add (t : Operation) (depth : Depth) (s : Stats) : Stats where
  nodes := s.nodes + 1
  maxDepth := max s.maxDepth depth.current
  placeholders := if t.kind.isPlaceholder then s.placeholders + 1 else s.placeholders
  kinds := increment t.kind.name s.kinds

structure Survey where
  stats : Stats := {}
  log : List Log.Entry := []

def walker (limit : UInt32) : Walker Survey DepthExceeded where
  limit := limit
  ofGuard := id
  tripped t e s := { s with log := Log.tripped t e :: s.log }
  hook _ t depth children := do
    modify fun s => { s with stats := s.stats.add t depth }
    visitAll children depth

def survey (limit : UInt32) (root : Operation) :
    Except DepthExceeded Stats × List Log.Entry :=
  let (outcome, s) := (walker limit).run (some root) {}
  (outcome.map fun _ => s.stats, s.log.reverse)

def gather (limit : UInt32) (root : Operation) : Except DepthExceeded Stats :=
  (survey limit root).1

def toText (s : Stats) : String :=
  "nodes: " ++ toString s.nodes ++ "\n" ++
  "max depth: " ++ toString s.maxDepth.toNat ++ "\n" ++
  "placeholders: " ++ toString s.placeholders ++ "\n" ++
  "kinds:\n" ++
  String.join (s.kinds.map fun (name, count) => "  " ++ name ++ ": " ++ toString count ++ "\n")

def toDocument (s : Stats) : String :=
  let entries := s.kinds.map fun (name, count) =>
    "    \"" ++ name ++ "\": " ++ toString count
  let kinds :=
    if entries.isEmpty then "\x7b\x7d"
    else "\x7b\n" ++ ",\n".intercalate entries ++ "\n  \x7d"
  "\x7b\n" ++
  "  \"nodes\": " ++ toString s.nodes ++ ",\n" ++
  "  \"max_depth\": " ++ toString s.maxDepth.toNat ++ ",\n" ++
  "  \"placeholders\": " ++ toString s.placeholders ++ ",\n" ++
  "  \"kinds\": " ++ kinds ++ "\n\x7d\n"

end Stats

end OperationTree
