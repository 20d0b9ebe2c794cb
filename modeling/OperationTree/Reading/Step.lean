import OperationTree.Reading.State

namespace OperationTree.Reading

open Json (Value SyntaxFault Fault Halt Position LocatedFault TextScan NumberScan
  NumberSkim WordScan halt isBlank digit?)

def dataHalt {α : Type} (fault : ContentFault) (bytes : Nat) : Except Halt α :=
  .error ⟨.data fault, bytes⟩

def placed {α : Type} (bytes : Nat) : Except ContentFault α → Except Halt α
  | .ok a => .ok a
  | .error fault => dataHalt fault bytes

def deliver : (goal : Goal) → Awaiting goal → Value → Except ContentFault State
  | .value, k, v => .ok (k.resume v)
  | .skipped, k, _ => .ok (k.resume ())
  | .bound, k, .number (.natural n) => .ok (k.resume n)
  | .bound, _, .number (.negative n) =>
    .error (.wrongValue (Value.number (.negative n)).describe "usize")
  | .bound, _, v => .error (.wrongType v.describe "usize")
  | .operation, _, v => .error (.wrongType v.describe "an operation object")
  | .children, _, v => .error (.wrongType v.describe "a sequence")
  | .span, _, v => .error (.wrongType v.describe "struct Span")

def openRecord : (goal : Goal) → Awaiting goal → Except ContentFault State
  | .operation, k => .ok (.record .opened (.operation {} k))
  | .span, k => .ok (.record .opened (.span {} k))
  | .value, k => .ok (.record .opened (.object [] k))
  | .skipped, k => .ok (.record .opened (.skipped k))
  | .children, _ => .error (.wrongType "map" "a sequence")
  | .bound, _ => .error (.wrongType "map" "usize")

def openRow : (goal : Goal) → Awaiting goal → Except ContentFault State
  | .children, k => .ok (.row .opened (.children [] k))
  | .span, k => .ok (.row .opened (.noBound k))
  | .value, k => .ok (.row .opened (.array [] k))
  | .skipped, k => .ok (.row .opened (.skipped k))
  | .operation, _ => .error (.wrongType "sequence" "an operation object")
  | .bound, _ => .error (.wrongType "sequence" "usize")

def startNumber : (goal : Goal) → Awaiting goal → NumberScan → NumberSkim → State
  | .skipped, k, _, skim => .skippedNumber k skim
  | goal, k, scan, _ => .number goal k scan

def begin (goal : Goal) (k : Awaiting goal) (c : Char) : Except Halt State :=
  match digit? c with
  | some 0 => .ok (startNumber goal k (.zero false) .zero)
  | some d => .ok (startNumber goal k (.whole ⟨false, d, 0⟩) .whole)
  | none =>
    match c with
    | '-' => .ok (startNumber goal k (.start true) .start)
    | '"' => .ok (.text goal k (.plain ""))
    | 'n' => .ok (.word goal k ⟨['u', 'l', 'l'], .null⟩)
    | 't' => .ok (.word goal k ⟨['r', 'u', 'e'], .bool true⟩)
    | 'f' => .ok (.word goal k ⟨['a', 'l', 's', 'e'], .bool false⟩)
    | '{' => placed 0 (openRecord goal k)
    | '[' => placed 0 (openRow goal k)
    | _ => halt .expectedValue 1

namespace Record

def isSkipped : Record → Bool
  | .skipped _ => true
  | _ => false

/-- What follows a key. A repeated or unknown key is a fault before its value is looked at,
except that the tag and the payload are read first. -/
def afterKey : Record → String → State
  | .operation draft outer, key =>
    match Field.ofText? key with
    | none => .closing (.unknownField key (Field.all.map Field.text))
    | some .kind => .colon .value (.tag draft outer)
    | some (.payload payload) => .colon .value (.payload draft payload outer)
    | some .span =>
      if draft.span.isSome then .closing (.duplicateField "span")
      else .colon .span (.span draft outer)
    | some .children =>
      if draft.children.isSome then .closing (.duplicateField "children")
      else .colon .children (.children draft outer)
  | .span bounds outer, key =>
    match BoundField.ofText? key with
    | none => .colon .skipped (.foreign bounds outer)
    | some field =>
      if (bounds.get field).isSome then .closing (.duplicateField field.text)
      else .colon .bound (.bound bounds field outer)
  | .object done outer, key => .colon .value (.member done key outer)
  | .skipped outer, _ => .colon .skipped (.skippedMember outer)

def close : Record → Except ContentFault State
  | .operation draft outer => outer.resume <$> draft.finish
  | .span bounds outer => outer.resume <$> bounds.finish
  | .object done outer => .ok (outer.resume (.object done.reverse))
  | .skipped outer => .ok (outer.resume ())

def step (phase : Phase) (r : Record) (c : Char) : Except Halt State :=
  match phase with
  | .opened =>
    if c = '}' then placed 1 r.close
    else if c = '"' then .ok (.key r (.plain ""))
    else halt .keyNotText 1
  | .filled =>
    if c = '}' then placed 1 r.close
    else if c = ',' then .ok (.record .separated r)
    else halt .expectedObjectCommaOrEnd 1
  | .separated =>
    if c = '"' then .ok (.key r (.plain ""))
    else if c = '}' ∧ !r.isSkipped then halt .trailingComma 1
    else halt .keyNotText 1

def atEnd (phase : Phase) (r : Record) : SyntaxFault :=
  if phase = .separated ∧ !r.isSkipped then .endInValue else .endInObject

end Record

namespace Row

def isSkipped : Row → Bool
  | .skipped _ => true
  | _ => false

def beginElement (r : Row) (c : Char) : Except Halt State :=
  match r with
  | .children done outer => begin .operation (.child done outer) c
  | .noBound outer => begin .bound (.firstBound outer) c
  | .oneBound start outer => begin .bound (.secondBound start outer) c
  | .array done outer => begin .value (.item done outer) c
  | .skipped outer => begin .skipped (.skippedItem outer) c

def close : Row → Except ContentFault State
  | .children done outer => .ok (outer.resume done.reverse)
  | .noBound _ => .error (.wrongLength 0 "struct Span with 2 elements")
  | .oneBound _ _ => .error (.wrongLength 1 "struct Span with 2 elements")
  | .array done outer => .ok (outer.resume (.array done.reverse))
  | .skipped outer => .ok (outer.resume ())

def step (phase : Phase) (r : Row) (c : Char) : Except Halt State :=
  match phase with
  | .opened => if c = ']' then placed 1 r.close else r.beginElement c
  | .filled =>
    if c = ']' then placed 1 r.close
    else if c = ',' then .ok (.row .separated r)
    else halt .expectedListCommaOrEnd 1
  | .separated =>
    if c = ']' ∧ !r.isSkipped then halt .trailingComma 1 else r.beginElement c

def atEnd (phase : Phase) : SyntaxFault :=
  if phase = .separated then .endInValue else .endInList

end Row

namespace State

def punctuate (state : State) (c : Char) : Except Halt State :=
  match state with
  | .value goal k => begin goal k c
  | .colon goal k => if c = ':' then .ok (.value goal k) else halt .expectedColon 1
  | .record phase r => r.step phase c
  | .row phase r => r.step phase c
  | .pair span outer =>
    if c = ']' then .ok (outer.resume span)
    else if c = ',' then .ok .surplus
    else halt .trailingCharacters 1
  | .surplus => halt (if c = ']' then .trailingComma else .trailingCharacters) 1
  | .closing fault => dataHalt fault (if c = '}' then 1 else 0)
  | .complete _ => halt .trailingCharacters 1
  | state => .ok state

/-- Takes a character, unless a number is being read that it might go on with. -/
def advance (state : State) (c : Char) : Except Halt State :=
  match state with
  | .key r scan => do
    match ← scan.step (!r.isSkipped) c with
    | .going scan => return .key r scan
    | .finished read => return r.afterKey read
  | .text goal k scan => do
    match ← scan.step (goal != .skipped) c with
    | .going scan => return .text goal k scan
    | .finished read => placed 1 (deliver goal k (.text read))
  | .word goal k scan => do
    match ← scan.step c with
    | .going scan => return .word goal k scan
    | .finished read => placed 1 (deliver goal k read)
  | state => if isBlank c then .ok state else state.punctuate c

def step (state : State) (c : Char) : Except Halt State :=
  match state with
  | .number goal k scan => do
    match ← scan.step c with
    | .going scan => return .number goal k scan
    | .finished n => (← placed 0 (deliver goal k (.number n))).advance c
  | .skippedNumber k skim => do
    match ← skim.step c with
    | .going skim => return .skippedNumber k skim
    | .finished () => (k.resume ()).advance c
  | state => state.advance c

def atEnd : State → Except Fault Operation
  | .complete t => .ok t
  | .closing fault => .error (.data fault)
  | .value _ _ | .word _ _ _ | .number _ _ _ => .error (.syntactic .endInValue)
  | .colon _ _ => .error (.syntactic .endInObject)
  | .record phase r => .error (.syntactic (r.atEnd phase))
  | .row phase _ => .error (.syntactic (Row.atEnd phase))
  | .pair _ _ => .error (.syntactic .endInList)
  | .surplus => .error (.syntactic .trailingCharacters)
  | .key _ _ | .text _ _ _ => .error (.syntactic .endInString)
  | .skippedNumber _ _ => .error (.syntactic .invalidNumber)

def finish : State → Except Fault Operation
  | .number goal k scan =>
    match scan.value with
    | .error fault => .error (.syntactic fault)
    | .ok n =>
      match deliver goal k (.number n) with
      | .error fault => .error (.data fault)
      | .ok state => state.atEnd
  | .skippedNumber k skim =>
    if skim.canEnd then (k.resume ()).atEnd else .error (.syntactic .invalidNumber)
  | state => state.atEnd

end State

def read (state : State) (position : Position) : List Char → Except LocatedFault Operation
  | [] => state.finish.mapError (⟨·, position⟩)
  | c :: rest =>
    match state.step c with
    | .ok next => read next (position.after c) rest
    | .error stopped => .error ⟨stopped.fault, position.into c stopped.bytes⟩

end OperationTree.Reading

namespace OperationTree.Operation

def ofText (text : String) : Except Json.LocatedFault Operation :=
  Reading.read Reading.State.initial {} text.toList

end OperationTree.Operation
