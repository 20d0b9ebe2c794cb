namespace OperationTree

/-- The innermost segment comes first. The root alone has none. -/
structure Path where
  absolute : Bool
  segments : List String
  deriving DecidableEq, Repr, Inhabited

namespace Path

def splitSlashes : List Char → List (List Char)
  | [] => [[]]
  | c :: rest =>
    match splitSlashes rest with
    | [] => [[c]]
    | part :: parts => if c = '/' then [] :: part :: parts else (c :: part) :: parts

def ofText (text : String) : Path :=
  match (splitSlashes text.toList).map String.ofList with
  | "" :: "" :: [] => ⟨true, []⟩
  | "" :: first :: rest => ⟨true, (first :: rest).reverse⟩
  | parts => ⟨false, parts.reverse⟩

def text (p : Path) : String :=
  (if p.absolute then "/" else "") ++ "/".intercalate p.segments.reverse

/-- An absolute path stands for itself. A base that ends in a slash needs no other. -/
def join (base p : Path) : Path :=
  if p.absolute then p
  else
    let segments := if base.segments.head? = some "" then base.segments.tail else base.segments
    { base with segments := p.segments ++ segments }

/-- A segment that stays in the directory it stands in. -/
def isIdle (segment : String) : Bool := segment == "" || segment == "."

def above : List String → List (List String)
  | [] => []
  | segment :: rest =>
    if isIdle segment then above rest else rest.dropWhile isIdle :: above rest

def ancestors (p : Path) : List Path :=
  p :: (above p.segments).map fun segments => { p with segments }

def clean (p : Path) : Path :=
  let walk (kept : List String) (segment : String) : List String :=
    if isIdle segment then kept
    else if segment == ".." then kept.tail
    else segment :: kept
  { p with segments := p.segments.reverse.foldl walk [] }

end Path

end OperationTree
