import OperationTree.Text.Basic
import OperationTree.Text.Width
import OperationTree.WalkError

namespace OperationTree.Report

/-- A line with the characters that end it, and the number of characters before it. -/
structure SourceLine where
  offset : Nat
  chars : List Char
  deriving DecidableEq, Repr

def isLineEnd (c : Char) : Bool :=
  c == '\r' || c == '\n' || c == '\x0b' || c == '\x0c' || c == '\u0085' || c == '\u2028' ||
    c == '\u2029'

def splitLines : List Char → List (List Char)
  | [] => []
  | '\r' :: '\n' :: rest => ['\r', '\n'] :: splitLines rest
  | c :: rest =>
    if isLineEnd c then [c] :: splitLines rest
    else
      match splitLines rest with
      | [] => [[c]]
      | line :: lines => (c :: line) :: lines

def placeLines : (offset : Nat) → List (List Char) → List SourceLine
  | _, [] => []
  | offset, line :: lines => ⟨offset, line⟩ :: placeLines (offset + line.length) lines

def sourceLines (source : List Char) : List SourceLine :=
  if source.isEmpty then [⟨0, []⟩] else placeLines 0 (splitLines source)

namespace SourceLine

def stop (l : SourceLine) : Nat := l.offset + l.chars.length

def contains (l : SourceLine) (offset : Nat) : Bool := l.offset ≤ offset && offset < l.stop

def shown (l : SourceLine) : List Char := Text.dropBlankEnd l.chars

end SourceLine

/-- The number of the line that an offset falls on, from 0, and the line. The end of the text
falls on the last line. -/
def lineAt? (lines : List SourceLine) (offset : Nat) : Option (Nat × SourceLine) :=
  let total := (lines.getLast?.map SourceLine.stop).getD 0
  if total < offset then none
  else ((lines.zipIdx.filter fun (line, _) => line.offset ≤ offset).getLast?).map
    fun (line, index) => (index, line)

def cells (c : Char) (column : Nat) : Nat :=
  if c = '\t' then 4 - column % 4 else if Text.isBlank c then 1 else Text.width c

def showChar (c : Char) (column : Nat) : List Char :=
  if Text.isBlank c then List.replicate (cells c column) ' ' else [c]

def showLine (l : SourceLine) : List Char :=
  (l.shown.zipIdx.map fun (c, column) => showChar c column).flatten

def marks (l : SourceLine) (length : Nat) (mark : Nat → Char × Char) : List Char :=
  let columns := (List.range length).map fun column =>
    let width := (l.shown[column]?).elim 1 fun c => cells c column
    let (first, other) := mark column
    (first :: List.replicate (width - 1) other).take width
  columns.flatten

structure Label where
  start : Nat
  stop : Nat
  message : String

namespace Label

def last (label : Label) : Nat := max (label.stop - 1) label.start

end Label

structure Margin where
  width : Nat

namespace Margin

def blank (m : Margin) : List Char := List.replicate (m.width + 2) ' '

def plain (m : Margin) (rest : List Char) : List Char := m.blank ++ '│' :: ' ' :: rest

def gap (m : Margin) (rest : List Char) : List Char := m.blank ++ '┆' :: ' ' :: rest

def numbered (m : Margin) (index : Nat) (rest : List Char) : List Char :=
  let number := Nat.toDigits 10 (index + 1)
  ' ' :: List.replicate (m.width - number.length) ' ' ++ number ++ ' ' :: '│' :: ' ' :: rest

end Margin

/-- A label on one line: the line, the marked part below it, and the message. A label that
reaches beyond its line is not drawn. -/
def inlineRows (m : Margin) (label : Label) (index : Nat) (l : SourceLine) : List (List Char) :=
  if l.stop < label.stop then [m.plain []]
  else
    let start := label.start - l.offset
    let stop := label.stop - l.offset
    let stem := (label.start + label.stop) / 2 - l.offset
    let under (column : Nat) : Char × Char :=
      if column = stem then ('┬', '─')
      else if start ≤ column ∧ column < stop then ('─', '─')
      else (' ', ' ')
    let arm (column : Nat) : Char × Char :=
      if column = stem then ('╰', '─') else if stem < column then ('─', '─') else (' ', ' ')
    [m.numbered index (showLine l),
      m.plain (marks l (stop + 2) under),
      m.plain (marks l (stop + 2) arm ++ ' ' :: label.message.toList)]

def spreadRows (m : Margin) (label : Label) : (gapShown : Bool) → List (Nat × SourceLine) →
    List (List Char)
  | _, [] => []
  | gapShown, (index, l) :: rest =>
    if l.contains label.start then
      m.numbered index ('╭' :: '─' :: '▶' :: ' ' :: showLine l) :: spreadRows m label false rest
    else if l.contains label.last then
      let arm := marks l (l.chars.length + 2) fun _ => ('─', '─')
      [m.numbered index ('├' :: '─' :: '▶' :: ' ' :: showLine l),
        m.plain ['│'],
        m.plain ('╰' :: '─' :: '─' :: '─' :: arm ++ ' ' :: label.message.toList)] ++
        spreadRows m label false rest
    else if gapShown then spreadRows m label true rest
    else m.gap ['┆'] :: spreadRows m label true rest

def noteBar (lines : List SourceLine) (label : Label) : List Char :=
  if (lines.head?.map SourceLine.stop) = some label.start then ['│', ' ', ' ', ' ']
  else [' ', ' ', ' ', ' ']

def note : String := "raise [walker] max-depth in opwalk.toml or pass --max-depth"

def excerptRows (source : List Char) (label : Label) : List (List Char) :=
  let lines := sourceLines source
  match lineAt? lines label.start, lineAt? lines label.last with
  | some (first, firstLine), some (last, _) =>
    let m : Margin := ⟨(Nat.toDigits 10 (last + 1)).length⟩
    let place := ":" ++ toString (first + 1) ++ ":" ++ toString (label.start - firstLine.offset + 1)
    let opening := m.blank ++ ("╭─[<unknown>" ++ place ++ "]").toList
    let covered := (lines.zipIdx.map fun (l, index) => (index, l)).filter
      fun (index, _) => first ≤ index && index ≤ last
    let (body, bar) :=
      if first = last then (inlineRows m label first firstLine, [])
      else (spreadRows m label false covered, noteBar lines label)
    [opening, m.plain []] ++ body ++
      [m.plain bar, m.plain (bar ++ ("Note: " ++ note).toList),
        List.replicate (m.width + 2) '─' ++ ['╯']]
  | _, _ => []

def row (chars : List Char) : String := String.ofList (Text.dropBlankEnd chars) ++ "\n"

def located (source filename message : String) (span : Span) : String :=
  let label : Label := ⟨span.start.toNat, span.stop.toNat, message⟩
  "Error: operation tree too deep (" ++ filename ++ ")\n" ++
    String.join ((excerptRows source.toList label).map row)

def usableSpan? (source : String) : WalkError → Option Span
  | .tooDeep _ (some span) =>
    if !span.isEmpty && span.stop.toNat ≤ source.utf8ByteSize then some span else none
  | _ => none

def plain : WalkError → String
  | .load reason path => "error[load]: " ++ reason ++ "\n  --> " ++ path ++ "\n"
  | .config reason path => "error[config]: " ++ reason ++ "\n  --> " ++ path ++ "\n"
  | e => "error: " ++ e.message ++ "\n"

def render (source : Option String) (filename : String) (e : WalkError) : String :=
  match source with
  | none => plain e
  | some source =>
    match usableSpan? source e with
    | some span => located source filename e.message span
    | none => plain e

end OperationTree.Report
