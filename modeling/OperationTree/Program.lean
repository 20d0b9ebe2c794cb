import OperationTree.CommandLine
import OperationTree.Files.Load
import OperationTree.Log.Filter
import OperationTree.Outline
import OperationTree.Report
import OperationTree.Stats

namespace OperationTree.Program

inductive Outcome where
  | refused
  | told (text : String)
  | finished (log : List Log.Entry) (output : String)
  | failed (log : List Log.Entry) (exhausted : Bool) (report : String)
  deriving Repr

namespace Outcome

def exitCode : Outcome → UInt8
  | .refused => 2
  | .told _ | .finished _ _ => 0
  | .failed _ exhausted _ => if exhausted then 2 else 1

def output : Outcome → String
  | .told text | .finished _ text => text
  | _ => ""

def log : Outcome → List Log.Entry
  | .finished log _ | .failed log _ _ => log
  | _ => []

def report : Outcome → String
  | .failed _ _ report => report
  | _ => ""

end Outcome

abbrev Act (α : Type) : Type := Run (List Log.Entry) WalkError α

def tell (entries : List Log.Entry) : Act Unit := modify (· ++ entries)

/-- Carries on from work that kept a log of its own. -/
def continueWith {α : Type} (work : Except WalkError α × List Log.Entry) : Act α := do
  tell work.2
  match work.1 with
  | .ok a => return a
  | .error e => throw e

def readConfig (fs : FileSystem) (file : Option String) : Act Config := do
  match file with
  | some file => continueWith (Config.load fs (Path.ofText file), [])
  | none =>
    match Config.locate fs fs.directory with
    | some path => continueWith (Config.load fs path, [Log.loadingConfig path.text])
    | none => return {}

/-- A depth on the command line goes before the one in a file. -/
def limit (fs : FileSystem) (request : Request) : Act UInt32 := do
  let config ← readConfig fs request.config
  let limit := request.maxDepth.getD config.maxDepth
  tell [Log.configResolved limit]
  return limit

def render (command : Command) (limit : UInt32) (t : Operation) :
    Except WalkError String × List Log.Entry :=
  match command with
  | .walk => Outline.print .trace limit t
  | .outline => Outline.print .outline limit t
  | .stats document =>
    let (outcome, log) := Stats.survey limit t
    let text (s : Stats) : String := if document then s.toDocument else s.toText
    ((outcome.mapError WalkError.ofGuard).map text, log)

def perform (fs : FileSystem) (request : Request) : Act String := do
  let limit ← limit fs request
  let t ← continueWith (Operation.load fs (Path.ofText request.file), [])
  continueWith (render request.command limit t)

def places (directory : Path) (request : Request) : List Path :=
  let given := [request.config, request.source, some request.file].reduceOption
  let nearby := directory.ancestors.flatMap fun place =>
    [place.join ⟨false, [Config.fileName]⟩, place.join ⟨false, [".git"]⟩]
  given.map (fun text => directory.join (Path.ofText text)) ++ nearby

def report (fs : FileSystem) (source : Option String) (e : WalkError) : String :=
  let text := source.bind fun path => (fs.read (Path.ofText path)).toOption
  Report.render text (source.getD "<source>") e

/-- The filter from the environment goes before the command line's. -/
def filter (setting : Option String) (verbose : Bool) : Log.Filter :=
  (setting.bind Log.Filter.ofText?).getD (Log.Filter.upTo (if verbose then .debug else .warn))

def execute (fs : FileSystem) (logSetting : Option String) (request : Request) : Outcome :=
  let (outcome, entries) := (perform fs request).run.run []
  let log := entries.filter (filter logSetting request.verbose).shows
  match outcome with
  | .ok output => .finished log output
  | .error e => .failed log e.isExhaustion (report fs request.source e)

def run (fs : FileSystem) (logSetting : Option String) (args : List String) : Outcome :=
  match CommandLine.read args with
  | .refused => .refused
  | .help => .told CommandLine.helpText
  | .version => .told CommandLine.versionText
  | .accepted request => execute fs logSetting request

end OperationTree.Program
