import OperationTree.Log
import OperationTree.Log.Pattern
import OperationTree.Text.Basic

/-!
Directives: which entries are shown, by target, field and level. The written form is
`target[span{field=value}]=level`, of which every part may be left out.
-/

namespace OperationTree.Log

/-- A field that entries must have. A value is looked for in the spans around an entry. -/
structure FieldTest where
  name : String
  value : Option String
  deriving DecidableEq, Repr

/-- Entries up to `rank` are shown where the target begins with `target`. -/
structure Directive where
  target : Option String := none
  span : Option String := none
  field : Option FieldTest := none
  rank : Nat := Level.trace.rank
  deriving DecidableEq, Repr

/-- No entry lies in a span, so a directive that asks for one applies to none. -/
def Directive.applies (d : Directive) (e : Entry) : Bool :=
  d.span.isNone && (d.field.all fun f => f.value.isNone && e.hasField f.name) &&
    d.target.all fun target => target.toList.isPrefixOf e.target.toList

def startsAfter : List Char → List Char → Bool
  | _, [] => true
  | [], _ :: _ => false
  | a :: as, b :: bs => b.toNat < a.toNat || (a == b && startsAfter as bs)

/-- A longer target says more than a shorter one, a field more than none, and of two fields the
one that is later by code points. -/
def Directive.saysAsMuchAs (a b : Directive) : Bool :=
  let reach (d : Directive) : Nat := d.target.elim 0 fun target => target.length + 1
  if reach a ≠ reach b then reach b < reach a
  else
    match a.field, b.field with
    | _, none => true
    | none, some _ => false
    | some f, some g => startsAfter f.name.toList g.name.toList

def levelName? (text : String) : Option Nat :=
  match String.ofList (text.toList.map Char.toLower) with
  | "off" => some 0
  | "error" => some 1
  | "warn" => some 2
  | "info" => some 3
  | "debug" => some 4
  | "trace" => some 5
  | _ => none

def levelNumber? (text : List Char) : Option Nat :=
  let digits : List Char := if text.head? == some '+' then text.tail else text
  let size := digits.foldl (fun n c => n * 10 + (c.toNat - '0'.toNat)) 0
  if digits.isEmpty ∨ !digits.all Char.isDigit ∨ Level.trace.rank < size then none
  else some size

def rank? (text : String) : Option Nat := levelNumber? text.toList <|> levelName? text

def FieldTest.ofText? (text : List Char) : Option FieldTest :=
  let name := String.ofList (text.takeWhile (· != '='))
  match text, text.dropWhile (· != '=') with
  | [], _ => none
  | _, [] => some ⟨name, none⟩
  | _, _ :: rest =>
    let value := rest.takeWhile (· != '=')
    if isPattern value then some ⟨name, some (String.ofList value)⟩ else none

/-- A directive is told apart by the characters left when white space around it is dropped, but
its parts are cut out of the text as written, by position. Each character is paired with the one
written at its place; what is written past the last of them belongs to a part that is still open
at the end. -/
structure Cutting where
  cells : List (Char × Char)
  beyond : List Char

namespace Cutting

def ofText (text : String) : Cutting :=
  let written := text.toList
  let bare := Text.dropBlankEnd (written.dropWhile Text.isBlank)
  ⟨bare.zip written, written.drop bare.length⟩

def before (cut : Cutting) (ends : Char → Bool) : List Char :=
  (cut.cells.takeWhile fun cell => !ends cell.1).map (·.2)

def mark? (cut : Cutting) (ends : Char → Bool) : Option (Char × Cutting) :=
  match cut.cells.dropWhile fun cell => !ends cell.1 with
  | [] => none
  | (c, _) :: cells => some (c, { cut with cells })

def toEnd (cut : Cutting) : List Char := cut.cells.map (·.2) ++ cut.beyond

end Cutting

namespace Directive

def readLevel (d : Directive) (cut : Cutting) : Option Directive :=
  match cut.toEnd with
  | [] => some d
  | text => (rank? (String.ofList text)).map fun rank => { d with rank }

def readAfterSpan (d : Directive) (cut : Cutting) : Option Directive :=
  match cut.cells with
  | [] => some d
  | ('=', _) :: cells => d.readLevel { cut with cells }
  | _ => none

def readField (d : Directive) (cut : Cutting) : Option Directive := do
  let field ← FieldTest.ofText? (cut.before (· == '}'))
  let (_, cut) ← cut.mark? (· == '}')
  match cut.cells with
  | (']', _) :: cells => readAfterSpan { d with field := some field } { cut with cells }
  | _ => none

def readSpan (d : Directive) (cut : Cutting) : Option Directive := do
  let ends (c : Char) : Bool := c == ']' || c == '{'
  let span := String.ofList (cut.before ends)
  let (mark, cut) ← cut.mark? ends
  if mark = ']' then readAfterSpan { d with span := some span } cut
  else readField { d with span := if span.isEmpty then none else some span } cut

def isTargetStart (c : Char) : Bool :=
  Text.isAlphanumeric c || c == '-' || c == ':' || c == '_'

/-- A word alone is a level if it can be one, else a target that is shown in full. -/
def ofText? (text : String) : Option Directive :=
  let cut := Cutting.ofText text
  match cut.cells with
  | [] => none
  | ('[', _) :: cells => readSpan {} { cut with cells }
  | (c, _) :: _ =>
    let ends (c : Char) : Bool := c == '=' || c == '['
    let target := String.ofList (cut.before ends)
    if !isTargetStart c then none
    else
      match cut.mark? ends with
      | none =>
        match rank? text with
        | some rank => some { rank }
        | none => some { target := some text }
      | some ('=', cut) => readLevel { target := some target } cut
      | some (_, cut) => readSpan { target := some target } cut

end Directive

end OperationTree.Log
