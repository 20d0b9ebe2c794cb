import OperationTree.Log.Directive

namespace OperationTree.Log

abbrev Filter : Type := List Directive

namespace Filter

/-- Of the directives that apply to an entry, the one that says most decides, the latest of
equals. -/
def decisive? (filter : Filter) (e : Entry) : Option Directive :=
  (filter.filter (·.applies e)).foldl
    (fun best d => if best.all d.saysAsMuchAs then some d else best) none

def shows (filter : Filter) (e : Entry) : Bool :=
  (filter.decisive? e).any fun d => e.level.rank ≤ d.rank

def upTo (level : Level) : Filter := [{ rank := level.rank }]

def ofText? (text : String) : Option Filter :=
  let parts := (text.splitOn ",").filter fun part => !part.isEmpty
  if parts.isEmpty then some (upTo .error) else parts.mapM Directive.ofText?

end Filter

end OperationTree.Log
