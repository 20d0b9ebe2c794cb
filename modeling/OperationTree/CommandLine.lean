import OperationTree.Text.Basic

/-!
The command line, read one word at a time. A fault ends the reading where it stands, and so does a
request for help or for the version.
-/

namespace OperationTree

inductive Command where
  | walk | outline
  | stats (document : Bool)
  deriving DecidableEq, Repr

structure Request where
  command : Command
  file : String
  config : Option String := none
  maxDepth : Option UInt32 := none
  source : Option String := none
  verbose : Bool := false
  deriving DecidableEq, Repr

namespace CommandLine

inductive Answer where
  | refused | help | version
  | accepted (request : Request)
  deriving DecidableEq, Repr

inductive Subcommand where
  | walk | outline | stats
  deriving DecidableEq, Repr

def Subcommand.all : List Subcommand := [.walk, .outline, .stats]

def Subcommand.name : Subcommand → String
  | .walk => "walk"
  | .outline => "outline"
  | .stats => "stats"

def Subcommand.ofName? (name : String) : Option Subcommand := all.find? (·.name == name)

inductive Setting where
  | config | maxDepth | source
  deriving DecidableEq, Repr

def Setting.ofName? : String → Option Setting
  | "config" => some .config
  | "max-depth" => some .maxDepth
  | "source" => some .source
  | _ => none

inductive Flag where
  | verbose | document | help | version
  deriving DecidableEq, Repr

/-- Where on the line a word stands: before the subcommand, or after it. -/
abbrev Scope : Type := Option Subcommand

def Flag.ofName? (scope : Scope) : String → Option Flag
  | "verbose" => some .verbose
  | "help" => some .help
  | "version" => if scope = none then some .version else none
  | "json" => if scope = some .stats then some .document else none
  | _ => none

def Flag.ofLetter? (scope : Scope) : Char → Option Flag
  | 'v' => some .verbose
  | 'h' => some .help
  | 'V' => if scope = none then some .version else none
  | _ => none

/-- A word by its form. Of flags that are written together some may be unknown. -/
inductive Word where
  | separator
  | plain (text : String)
  | flags (flags : List (Option Flag))
  | option (setting : Setting) (value : Option String)
  deriving DecidableEq, Repr

def Word.ofLong (scope : Scope) (chars : List Char) : Word :=
  let name := String.ofList (chars.takeWhile (· != '='))
  let value := (chars.dropWhile (· != '=')).tail?.map String.ofList
  match Setting.ofName? name with
  | some setting => .option setting value
  | none => .flags [if value.isSome then none else Flag.ofName? scope name]

def Word.ofText (scope : Scope) (text : String) : Word :=
  match text.toList with
  | ['-', '-'] => .separator
  | '-' :: '-' :: chars => .ofLong scope chars
  | '-' :: c :: chars => .flags ((c :: chars).map (Flag.ofLetter? scope))
  | _ => .plain text

def depth? (text : String) : Option UInt32 := do
  let n ← Text.integer64? text
  if 1 ≤ n.toInt ∧ n.toInt < UInt32.size then return UInt32.ofNat n.toInt.toNat else none

def path? (text : String) : Option String := if text.isEmpty then none else some text

/-- The options of one scope. Each may be given once. -/
structure Given where
  config : Option String := none
  maxDepth : Option UInt32 := none
  source : Option String := none
  verbose : Bool := false
  document : Bool := false
  deriving DecidableEq, Repr

namespace Given

def set? (g : Given) (setting : Setting) (text : String) : Option Given :=
  match setting with
  | .config => if g.config.isSome then none else (path? text).map fun p => { g with config := p }
  | .maxDepth =>
    if g.maxDepth.isSome then none else (depth? text).map fun n => { g with maxDepth := n }
  | .source => if g.source.isSome then none else (path? text).map fun p => { g with source := p }

def raise (g : Given) : List (Option Flag) → Except Answer Given
  | [] => .ok g
  | none :: _ => .error .refused
  | some .help :: _ => .error .help
  | some .version :: _ => .error .version
  | some .verbose :: rest =>
    if g.verbose then .error .refused else raise { g with verbose := true } rest
  | some .document :: rest =>
    if g.document then .error .refused else raise { g with document := true } rest

end Given

structure Progress where
  scope : Scope := none
  given : Given := {}
  outer : Given := {}
  file : Option String := none
  pending : Option Setting := none
  /-- After the separator nothing is an option. -/
  separated : Bool := false
  deriving DecidableEq, Repr

namespace Progress

def set (p : Progress) (setting : Setting) (text : String) : Except Answer Progress :=
  match p.given.set? setting text with
  | some given => .ok { p with given, pending := none }
  | none => .error .refused

def canFollow (text : String) : Bool := text == "-" || text.toList.head? != some '-'

def place (p : Progress) (text : String) : Except Answer Progress :=
  match p.scope with
  | none =>
    match Subcommand.ofName? text with
    | some subcommand =>
      if p.separated then .error .refused
      else .ok { p with scope := some subcommand, outer := p.given, given := {} }
    | none => .error .refused
  | some _ =>
    match p.file, path? text with
    | none, some file => .ok { p with file }
    | _, _ => .error .refused

def step (p : Progress) (text : String) : Except Answer Progress :=
  match p.pending with
  | some setting => if canFollow text then p.set setting text else .error .refused
  | none =>
    if p.separated then p.place text
    else
      match Word.ofText p.scope text with
      | .separator => .ok { p with separated := true }
      | .plain text => p.place text
      | .flags flags => (p.given.raise flags).map fun given => { p with given }
      | .option setting (some value) => p.set setting value
      | .option setting none => .ok { p with pending := setting }

/-- Options after the subcommand go before those in front of it. -/
def finish (p : Progress) : Answer :=
  match p.pending, p.scope, p.file with
  | none, some subcommand, some file => .accepted {
      command := match subcommand with
        | .walk => .walk
        | .outline => .outline
        | .stats => .stats p.given.document
      file := file
      config := p.given.config.or p.outer.config
      maxDepth := p.given.maxDepth.or p.outer.maxDepth
      source := p.given.source.or p.outer.source
      verbose := p.given.verbose || p.outer.verbose }
  | _, _, _ => .refused

def read (p : Progress) : List String → Answer
  | [] => p.finish
  | word :: rest =>
    if p.scope.isNone ∧ p.pending.isNone ∧ !p.separated ∧ word = "help" then
      match rest with
      | [] => .help
      | [name] => if name = "help" ∨ (Subcommand.ofName? name).isSome then .help else .refused
      | _ => .refused
    else
      match p.step word with
      | .ok next => next.read rest
      | .error answer => answer

end Progress

def read (args : List String) : Answer := Progress.read {} args

def versionText : String := "opwalk 0.1.0\n"

def helpText : String :=
  "Walk semantic operation trees\n\n" ++
  "Usage: opwalk [OPTIONS] <COMMAND>\n\n" ++
  "Commands:\n" ++
  "  walk     Print the pre-order dispatch sequence of a JSON operation tree\n" ++
  "  stats    Summarize the shape of a JSON operation tree\n" ++
  "  outline  Print an outline of a JSON operation tree with payloads and spans\n" ++
  "  help     Print this message or the help of the given subcommand(s)\n\n" ++
  "Options:\n" ++
  "      --config <CONFIG>        Config file (defaults to the nearest opwalk.toml)\n" ++
  "      --max-depth <MAX_DEPTH>  Maximum operation nesting depth before the walk is aborted\n" ++
  "      --source <SOURCE>        Source text of the tree, used to render error locations\n" ++
  "  -v, --verbose                Log debug events to stderr\n" ++
  "  -h, --help                   Print help\n" ++
  "  -V, --version                Print version\n"

end CommandLine

end OperationTree
