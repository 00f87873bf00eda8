import PolicyTrial.Files.Path
import PolicyTrial.Text.Utf8

/-!
# A tree of files

The files that a run can see, as a value. A relative path starts at the working directory.

* `FileTree.read`, `FileTree.readText`: the content of a file.
* `FileTree.write`: a file gets a content.
* `FileTree.makeDirs`: a directory and all that lead to it.
* `FileError`: why an operation does not work, with its wording.
-/

namespace PolicyTrial

/-- Why an operation on a file does not work. -/
inductive FileError
  | notFound
  | exists
  | notDirectory
  | isDirectory
  | nameTooLong
  | invalidText
  | nulInPath
  deriving Repr, DecidableEq

/-- The wording of a file error. -/
def FileError.message : FileError → String
  | .notFound => "No such file or directory (os error 2)"
  | .exists => "File exists (os error 17)"
  | .notDirectory => "Not a directory (os error 20)"
  | .isDirectory => "Is a directory (os error 21)"
  | .nameTooLong => "File name too long (os error 36)"
  | .invalidText => "stream did not contain valid UTF-8"
  | .nulInPath => "file name contained an unexpected NUL byte"

/-- What stands at a place of the tree. -/
inductive FileNode
  | file (content : Bytes) (executable : Bool)
  | directory
  deriving Repr, DecidableEq

/-- A place: the names on the way from the root. -/
abbrev Place := List String

/-- The places of the tree with what stands there. The root and the directories above the working
directory stand there without being listed. -/
structure FileTree where
  entries : List (Place × FileNode)
  workingDir : Place
  deriving Repr

namespace FileTree

/-- A tree with an empty working directory. -/
def empty : FileTree := ⟨[], ["work"]⟩

/-- What stands at a place. -/
def at? (t : FileTree) (p : Place) : Option FileNode :=
  if p.isPrefixOf t.workingDir then some .directory else t.entries.lookup p

/-- The longest name, in octets. -/
def nameLimit : Nat := 255

/-- The longest path, in octets, its end mark included. -/
def pathLimit : Nat := 4096

/-- Follows the parts of a path from a directory: the place they lead to and what stands there. Only
the last part may lead to nothing. -/
def follow (t : FileTree) : Place → List String → Except FileError (Place × Option FileNode)
  | here, [] => .ok (here, some .directory)
  | here, part :: rest =>
    if part = "" ∨ part = "." then follow t here rest
    else if part = ".." then follow t here.dropLast rest
    else if part.utf8ByteSize > nameLimit then .error .nameTooLong
    else
      let there := here ++ [part]
      match t.at? there with
      | some .directory => follow t there rest
      | some (.file c x) =>
        if rest = [] then .ok (there, some (.file c x)) else .error .notDirectory
      | none => if rest = [] then .ok (there, none) else .error .notFound

/-- The place a path leads to and what stands there. -/
def resolve (t : FileTree) (path : String) : Except FileError (Place × Option FileNode) :=
  if path.toList.contains '\x00' then .error .nulInPath
  else if path = "" then .error .notFound
  else if path.utf8ByteSize ≥ pathLimit then .error .nameTooLong
  else
    t.follow (if Path.isAbsolute path then [] else t.workingDir)
      ((Path.split path.toList).map String.ofList)

/-- Whether a path leads to a file. -/
def isFile (t : FileTree) (path : String) : Bool :=
  match t.resolve path with
  | .ok (_, some (.file ..)) => true
  | _ => false

/-- Whether a path leads to a directory. -/
def isDir (t : FileTree) (path : String) : Bool :=
  match t.resolve path with
  | .ok (_, some .directory) => true
  | _ => false

/-- The content of a file. -/
def read (t : FileTree) (path : String) : Except FileError Bytes := do
  match (← t.resolve path).2 with
  | none => .error .notFound
  | some .directory => .error .isDirectory
  | some (.file content _) => .ok content

/-- The content of a file as text. -/
def readText (t : FileTree) (path : String) : Except FileError String := do
  match Text.Utf8.decode? (← t.read path) with
  | some s => .ok (String.ofList s)
  | none => .error .invalidText

/-- A place gets a node, in its old position if it had one. -/
def put (p : Place) (n : FileNode) : List (Place × FileNode) → List (Place × FileNode)
  | [] => [(p, n)]
  | (q, m) :: rest => if q = p then (p, n) :: rest else (q, m) :: put p n rest

/-- A file gets a content; a new file cannot be executed. -/
def write (t : FileTree) (path : String) (content : Bytes) : Except FileError FileTree := do
  let (place, node) ← t.resolve path
  match node with
  | some .directory => .error .isDirectory
  | some (.file _ executable) =>
    .ok { t with entries := put place (.file content executable) t.entries }
  | none => .ok { t with entries := put place (.file content false) t.entries }

/-- A path without the slashes at its end. -/
def withoutEndSlash (path : String) : String :=
  match (path.toList.reverse.dropWhile (· = '/')).reverse with
  | [] => path
  | cs => String.ofList cs

/-- A new directory. -/
def makeDir (t : FileTree) (path : String) : Except FileError FileTree := do
  match ← t.resolve (withoutEndSlash path) with
  | (_, some _) => .error .exists
  | (place, none) => .ok { t with entries := put place .directory t.entries }

/-- A directory at a path, made or already there. -/
def ensureDir (t : FileTree) (path : String) : Except FileError FileTree :=
  match t.makeDir path with
  | .ok t' => .ok t'
  | .error e => if t.isDir path then .ok t else .error e

/-- A directory and the directories that lead to it, at most `fuel` of them. -/
def makeDirsWithin : Nat → FileTree → String → Except FileError FileTree
  | 0, t, path => t.ensureDir path
  | fuel + 1, t, path =>
    if path = "" then .ok t
    else
      match t.makeDir path with
      | .ok t' => .ok t'
      | .error .notFound => do
        match Path.parent? path with
        | some parent => (← makeDirsWithin fuel t parent).ensureDir path
        | none => .error .notFound
      | .error e => if t.isDir path then .ok t else .error e

/-- A directory and all that lead to it. Directories that are there already are left alone, and
nothing is to be done for the empty path. -/
def makeDirs (t : FileTree) (path : String) : Except FileError FileTree :=
  makeDirsWithin (path.length + 1) t path

/-- A path leads to nothing afterwards, nor do the paths below it. -/
def remove (t : FileTree) (path : String) : FileTree :=
  match t.resolve path with
  | .ok (place, some _) =>
    if place.isPrefixOf t.workingDir then t
    else { t with entries := t.entries.filter fun (p, _) => !place.isPrefixOf p }
  | _ => t

/-- The files below a directory with their paths below it; none if it is no directory. -/
def filesBelow (t : FileTree) (path : String) : List (String × Bytes) :=
  match t.resolve path with
  | .ok (place, some .directory) =>
    t.entries.filterMap fun (p, n) =>
      match n with
      | .file content _ =>
        if place.isPrefixOf p then some ("/".intercalate (p.drop place.length), content) else none
      | .directory => none
  | _ => []

/-- A file with everything that leads to it, for setting up a tree. -/
def place (t : FileTree) (path : String) (content : Bytes) (executable : Bool) : FileTree :=
  let t := match Path.parent? path with
    | some parent => (t.makeDirs parent).toOption.getD t
    | none => t
  match t.resolve path with
  | .ok (p, _) => { t with entries := put p (.file content executable) t.entries }
  | .error _ => t

end FileTree

end PolicyTrial
