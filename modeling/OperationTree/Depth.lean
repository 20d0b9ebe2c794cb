namespace OperationTree

structure DepthExceeded where
  depth : UInt32
  limit : UInt32
  deriving DecidableEq, Repr, Inhabited

def DepthExceeded.message (e : DepthExceeded) : String :=
  "insufficient execution stack: operation nesting depth " ++ toString e.depth.toNat ++
    " exceeds limit " ++ toString e.limit.toNat

/-- The root operation is dispatched at depth 1, its children at depth 2, and so on. -/
structure Depth where
  current : UInt32
  limit : UInt32
  deriving DecidableEq, Repr, Inhabited

namespace Depth

def defaultLimit : UInt32 := 256

def root (limit : UInt32) : Depth := ⟨0, limit⟩

def remaining (d : Depth) : UInt32 :=
  if d.current ≤ d.limit then d.limit - d.current else 0

def check (d : Depth) : Except DepthExceeded Unit :=
  if d.current ≤ d.limit then .ok () else .error ⟨d.current, d.limit⟩

/-- One level further down; the count stays at its largest value once it is there. -/
def below (d : Depth) : Depth :=
  { d with current := if d.current = 0xFFFFFFFF then d.current else d.current + 1 }

def enter (d : Depth) : Except DepthExceeded Depth := do
  d.below.check
  return d.below

/-- Enters `n` levels and stops at the first that fails, with the last depth reached. -/
def descend : Nat → Depth → Depth × Option DepthExceeded
  | 0, d => (d, none)
  | n + 1, d =>
    match d.enter with
    | .ok next => descend n next
    | .error e => (d, some e)

end Depth

end OperationTree
