import OperationTree.Files.Path

namespace OperationTree

inductive ReadError where
  | notFound | notDirectory | isDirectory | denied
  | notText
  deriving DecidableEq, Repr, Inhabited

def ReadError.message : ReadError → String
  | .notFound => "No such file or directory (os error 2)"
  | .notDirectory => "Not a directory (os error 20)"
  | .isDirectory => "Is a directory (os error 21)"
  | .denied => "Permission denied (os error 13)"
  | .notText => "stream did not contain valid UTF-8"

structure FileSystem where
  directory : Path
  readText : Path → Except ReadError String
  isRegular : Path → Bool
  isPresent : Path → Bool

namespace FileSystem

def read (fs : FileSystem) (p : Path) : Except ReadError String :=
  fs.readText (fs.directory.join p)

def isFile (fs : FileSystem) (p : Path) : Bool := fs.isRegular (fs.directory.join p)

def holds (fs : FileSystem) (p : Path) : Bool := fs.isPresent (fs.directory.join p)

end FileSystem

inductive FileTree where
  | file (bytes : ByteArray)
  | directory (entries : List (String × FileTree))
  deriving Inhabited

namespace FileTree

/-- Puts a tree at a place and makes the directories on the way. A directory that is there
already stays as it is. -/
def insert (tree : FileTree) (path : List String) (new : FileTree) : FileTree :=
  match path with
  | [] =>
    match new, tree with
    | .directory [], .directory entries => .directory entries
    | new, _ => new
  | name :: path =>
    let entries := match tree with
      | .directory entries => entries
      | .file _ => []
    let inner := (entries.lookup name).getD (.directory [])
    .directory ((name, inner.insert path new) :: entries.filter fun entry => entry.1 != name)

/-- Follows segments from the outermost on; `outer` holds the directories passed, the latest
first. -/
def resolve (outer : List FileTree) (tree : FileTree) : List String → Except ReadError FileTree
  | [] => .ok tree
  | segment :: rest =>
    match tree with
    | .file _ => .error .notDirectory
    | .directory entries =>
      if Path.isIdle segment then resolve outer tree rest
      else if segment = ".." then
        match outer with
        | [] => resolve [] tree rest
        | above :: outer => resolve outer above rest
      else
        match entries.lookup segment with
        | none => .error .notFound
        | some inner => resolve (tree :: outer) inner rest

def find (tree : FileTree) (p : Path) : Except ReadError FileTree :=
  resolve [] tree p.segments.reverse

def read (tree : FileTree) (p : Path) : Except ReadError String := do
  match ← tree.find p with
  | .directory _ => .error .isDirectory
  | .file bytes =>
    match String.fromUTF8? bytes with
    | some text => .ok text
    | none => .error .notText

def isFile (tree : FileTree) (p : Path) : Bool :=
  match tree.find p with
  | .ok (.file _) => true
  | _ => false

def fileSystem (tree : FileTree) (directory : Path) : FileSystem where
  directory := directory
  readText := tree.read
  isRegular := tree.isFile
  isPresent p := (tree.find p).isOk

end FileTree

end OperationTree
