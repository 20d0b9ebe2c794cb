import OperationTree.Program

namespace OperationTree

structure Observation where
  text : Except ReadError String
  regular : Bool := false
  present : Bool := true

namespace Observation

def ofBytes (bytes : ByteArray) (regular : Bool) : Observation where
  text := (String.fromUTF8? bytes).elim (.error .notText) .ok
  regular := regular

def ofError : IO.Error → Observation
  | .noFileOrDirectory .. => ⟨.error .notFound, false, false⟩
  | .permissionDenied .. => ⟨.error .denied, false, false⟩
  | _ => ⟨.error .notDirectory, false, false⟩

end Observation

def observe (place : Path) : IO Observation := do
  let path := (← IO.currentDir) / place.text
  try
    match (← path.metadata).type with
    | .dir => return ⟨.error .isDirectory, false, true⟩
    | type => return .ofBytes (← IO.FS.readBinFile path) (type matches .file)
  catch e => return .ofError e

def FileSystem.ofObservations (directory : Path) (seen : List (Path × Observation)) :
    FileSystem where
  directory := directory
  readText place := (seen.lookup place).elim (.error .notFound) Observation.text
  isRegular place := (seen.lookup place).any Observation.regular
  isPresent place := (seen.lookup place).any Observation.present

def observeAll (args : List String) : IO FileSystem := do
  let directory := Path.ofText (← IO.currentDir).toString
  let places := match CommandLine.read args with
    | .accepted request => Program.places directory request
    | _ => []
  let seen ← places.mapM fun place => do return (place, ← observe place)
  return .ofObservations directory seen

end OperationTree

def main (args : List String) : IO UInt32 := do
  let files ← OperationTree.observeAll args
  let outcome := OperationTree.Program.run files (← IO.getEnv "RUST_LOG") args
  for entry in outcome.log do IO.eprintln entry.line
  IO.eprint outcome.report
  if outcome matches .refused then IO.eprint OperationTree.CommandLine.helpText
  IO.print outcome.output
  return outcome.exitCode.toUInt32
