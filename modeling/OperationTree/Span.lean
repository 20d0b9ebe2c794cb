namespace OperationTree

structure Span where
  start : UInt64 := 0
  stop : UInt64 := 0
  deriving DecidableEq, Repr, Inhabited

namespace Span

def absent : Span := {}

def length (s : Span) : UInt64 :=
  if s.start ≤ s.stop then s.stop - s.start else 0

def isEmpty (s : Span) : Bool := s.length == 0

def cover (s t : Span) : Span := ⟨min s.start t.start, max s.stop t.stop⟩

def covers (s : Span) (offset : UInt64) : Bool := s.start ≤ offset && offset < s.stop

end Span

end OperationTree
