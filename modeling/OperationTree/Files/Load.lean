import OperationTree.Config
import OperationTree.Files.FileSystem
import OperationTree.Reading.Step

namespace OperationTree

open FileSystem

def Operation.load (fs : FileSystem) (path : Path) : Except WalkError Operation :=
  match fs.read path with
  | .error e => .error (.load ("cannot read tree: " ++ e.message) path.text)
  | .ok text =>
    (Operation.ofText text).mapError fun fault =>
      .load ("invalid operation tree: " ++ fault.message) path.text

namespace Config

def load (fs : FileSystem) (path : Path) : Except WalkError Config :=
  match fs.read path with
  | .error e => .error (.config ("cannot read " ++ fileName ++ ": " ++ e.message) path.text)
  | .ok text => Config.read text path.text

/-- The settings file of the nearest directory that has one. The search ends with a directory
that holds a repository, after that directory itself. -/
def search (fs : FileSystem) : List Path → Option Path
  | [] => none
  | directory :: above =>
    let candidate := directory.join ⟨false, [fileName]⟩
    if fs.isFile candidate then some candidate
    else if fs.holds (directory.join ⟨false, [".git"]⟩) then none
    else search fs above

def locate (fs : FileSystem) (start : Path) : Option Path := search fs start.ancestors

def discover (fs : FileSystem) (start : Path) : Except WalkError Config :=
  match locate fs start with
  | some path => load fs path
  | none => .ok {}

end Config

end OperationTree
