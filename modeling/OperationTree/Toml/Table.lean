import OperationTree.Decimal.Shortest
import OperationTree.Text.Quoted

/-!
Tables of a settings file, with the place of every key and value in the text, and the rules by
which lines add to them: nothing is defined twice, and a table is opened in one way only.
-/

namespace OperationTree.Toml

structure Extent where
  start : Nat
  stop : Nat
  deriving DecidableEq, Repr, Inhabited

structure Key where
  text : String
  extent : Extent
  deriving DecidableEq, Repr, Inhabited

structure Form where
  /-- Only mentioned, as a part of a longer key. -/
  implicit : Bool := false
  /-- By a dotted key, and not by a header. -/
  dotted : Bool := false
  inBraces : Bool := false
  deriving DecidableEq, Repr, Inhabited

inductive Scalar where
  | text (s : String)
  | integer (n : Int)
  | float (x : Float)
  | bool (b : Bool)
  | moment
  deriving Repr, Inhabited

inductive Item where
  | scalar (value : Scalar) (extent : Extent)
  | array (items : List Item) (extent : Extent)
  | table (form : Form) (members : List (Key × Item)) (extent : Option Extent)
  | tables (items : List Item)
  deriving Repr, Inhabited

/-- Members in the order of their first mention. -/
abbrev Members : Type := List (Key × Item)

def Item.extent? : Item → Option Extent
  | .scalar _ extent => some extent
  | .array _ extent => some extent
  | .table _ _ extent => extent
  | .tables items =>
    match items.head?, items.getLast? with
    | some (.table _ _ (some first)), some (.table _ _ (some last)) => some ⟨first.start, last.stop⟩
    | _, _ => none

/-- Doubles are always written positionally, and a half goes away from zero. -/
def floatStyle : Decimal.Style := ⟨none, none, .away⟩

def Scalar.describe : Scalar → String
  | .text s => "string " ++ Text.quoted s
  | .integer n => "integer `" ++ toString n ++ "`"
  | .float x => "floating point `" ++ Decimal.spell floatStyle x ++ "`"
  | .bool b => "boolean `" ++ (if b then "true" else "false") ++ "`"
  | .moment => "map"

def Item.describe : Item → String
  | .scalar value _ => value.describe
  | .array _ _ => "sequence"
  | .tables _ => "sequence"
  | .table _ _ _ => "map"

namespace Members

def find? (text : String) (members : Members) : Option Item :=
  (List.find? (fun member => member.1.text == text) members).map (·.2)

def remove (text : String) (members : Members) : Members :=
  members.filter fun member => member.1.text != text

def replace (text : String) (item : Item) (members : Members) : Members :=
  members.map fun member => if member.1.text == text then (member.1, item) else member

def add? (key : Key) (item : Item) (members : Members) : Option Members :=
  if (members.find? key.text).isSome then none else some (members ++ [(key, item)])

/-- Which keys lead the way: those before the last of a line in the document or in braces, or
those of a header. -/
structure Route where
  dotted : Bool
  inBraces : Bool := false

/-- Changes the table at the end of a path, and opens tables on the way where there are none.
`change` is told whether the table it gets was made by dotted keys. -/
def update {β : Type} (route : Route) (change : Bool → Members → Option (β × Members)) :
    List Key → Bool → Members → Option (β × Members)
  | [], dotted, members => change dotted members
  | key :: path, _, members =>
    match members.find? key.text with
    | none => do
      let form := ⟨true, route.dotted, route.inBraces⟩
      let (answer, inner) ← update route change path route.dotted []
      return (answer, members ++ [(key, .table form inner none)])
    | some (.table form inner extent) =>
      if (route.dotted && !form.implicit) || (form.inBraces && !route.inBraces) then none
      else do
        let (answer, inner) ← update route change path form.dotted inner
        return (answer, members.replace key.text (.table form inner extent))
    | some (.tables items) =>
      match items.getLast? with
      | some (.table form inner extent) => do
        let (answer, inner) ← update route change path form.dotted inner
        return (answer,
          members.replace key.text (.tables (items.dropLast ++ [.table form inner extent])))
      | _ => none
    | some _ => none

/-- Adds one line of a table. A dotted key may only add to tables that dotted keys made. -/
def define? (inBraces : Bool) (path : List Key) (key : Key) (item : Item) (members : Members) :
    Option Members := do
  let change (dotted : Bool) (inner : Members) : Option (Unit × Members) :=
    if dotted == path.isEmpty then none else (inner.add? key item).map ((), ·)
  let (_, changed) ← update ⟨!path.isEmpty, inBraces⟩ change path false members
  return changed

end Members

inductive Line where
  | member (path : List Key) (key : Key) (item : Item)
  | header (path : List Key) (key : Key) (extent : Extent)
  | repeatedHeader (path : List Key) (key : Key) (extent : Extent)
  deriving Repr, Inhabited

structure Section where
  repeated : Bool
  path : List Key
  key : Key

structure Draft where
  root : Members := []
  place : Option Section := none
  current : Members := []
  extent : Option Extent := none

namespace Draft

def headerRoute : Members.Route := ⟨false, false⟩

def settle? (d : Draft) : Option Members :=
  match d.place with
  | none => some d.current
  | some place => do
    let table := Item.table {} d.current d.extent
    let change (_ : Bool) (members : Members) : Option (Unit × Members) :=
      if place.repeated then
        match members.find? place.key.text with
        | some (.tables items) =>
          some ((), members.replace place.key.text (.tables (items ++ [table])))
        | _ => none
      else (members.add? place.key table).map ((), ·)
    let (_, root) ← Members.update headerRoute change place.path false d.root
    return root

/-- A header may reopen a table that was only mentioned so far; it then stands at the end. -/
def openTable? (root : Members) (path : List Key) (key : Key) (extent : Extent) :
    Option Draft := do
  let change (_ : Bool) (members : Members) : Option (Members × Members) :=
    match members.find? key.text with
    | none => some ([], members)
    | some (.table form inner _) =>
      if form.implicit && !form.dotted && !form.inBraces then
        some (inner, members.remove key.text)
      else none
    | some _ => none
  let (current, root) ← Members.update headerRoute change path false root
  return ⟨root, some ⟨false, path, key⟩, current, some extent⟩

def openRepeated? (root : Members) (path : List Key) (key : Key) (extent : Extent) :
    Option Draft := do
  let change (_ : Bool) (members : Members) : Option (Unit × Members) :=
    match members.find? key.text with
    | none => some ((), members ++ [(key, .tables [])])
    | some (.tables _) => some ((), members)
    | some _ => none
  let (_, root) ← Members.update headerRoute change path false root
  return ⟨root, some ⟨true, path, key⟩, [], some extent⟩

def take? (d : Draft) : Line → Option Draft
  | .member path key item => do
    let current ← d.current.define? false path key item
    let stop := item.extent?.map Extent.stop
    return { d with
      current := current
      extent := d.extent.map fun extent => { extent with stop := stop.getD extent.stop } }
  | .header path key extent => do openTable? (← d.settle?) path key extent
  | .repeatedHeader path key extent => do openRepeated? (← d.settle?) path key extent

end Draft

def tableOf? (lines : List Line) : Option Members := do
  (← lines.foldlM Draft.take? {}).settle?

end OperationTree.Toml
