import OperationTree.Text.Basic
import OperationTree.Toml.Table

namespace OperationTree.Toml

open Text (byteCount)

def splitBytes : (bytes : Nat) → List Char → List Char × List Char
  | _, [] => ([], [])
  | 0, chars => ([], chars)
  | bytes, c :: rest =>
    if bytes < c.utf8Size then ([], c :: rest)
    else
      let (before, after) := splitBytes (bytes - c.utf8Size) rest
      (c :: before, after)

structure Spot where
  line : Nat
  column : Nat
  content : List Char
  deriving DecidableEq, Repr

/-- Columns count characters, but bytes where the character at the place has several. -/
def spot (text : String) (offset : Nat) : Spot :=
  let (before, after) := splitBytes offset text.toList
  let lead := (before.reverse.takeWhile (· != '\n')).reverse
  let wide := after.head?.any fun c => c.utf8Size > 1
  { line := before.count '\n'
    column := if wide then byteCount lead else lead.length
    content := lead ++ after.takeWhile (· != '\n') }

def spaces (n : Nat) : String := String.ofList (List.replicate n ' ')

/-- The marks end with the line, and there is at least one. -/
def excerpt (text : String) (extent : Extent) (message : String) : String :=
  let s := spot text extent.start
  let number := toString (s.line + 1)
  let gutter := spaces (number.length + 1) ++ "|"
  let marks := max 1 (min (extent.stop - extent.start) (byteCount s.content - s.column))
  "TOML parse error at line " ++ number ++ ", column " ++ toString (s.column + 1) ++ "\n" ++
  gutter ++ "\n" ++
  number ++ " | " ++ String.ofList s.content ++ "\n" ++
  gutter ++ spaces (s.column + 1) ++ String.ofList (List.replicate marks '^') ++ "\n" ++
  message ++ "\n"

end OperationTree.Toml
