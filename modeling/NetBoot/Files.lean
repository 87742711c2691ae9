/-
# Files

A small file system as a value.  A file is known by its place below the home
directory, the working directory or the top of the file system.  Every place above
a file is a folder, and so are the three roots and all folders above them.

What lies above a root is not known: from there, no path leads back.
-/
import NetBoot.Bytes

namespace NetBoot

/-- Where a path starts. -/
inductive FileRoot
  | home | working | top
  deriving DecidableEq, Repr

/-- A place in the file system.  Steps up from the root come first, and no other
part is a dot or two dots. -/
structure FilePath where
  root : FileRoot
  parts : List String
  deriving DecidableEq, Repr

namespace FilePath

/-- The part of a path that leads to the folder above. -/
def upPart : String := ".."

/-- A place inside a folder. -/
def child (path : FilePath) (name : String) : FilePath :=
  { path with parts := path.parts ++ [name] }

/-- The folder above a place.  The top has none. -/
def above (path : FilePath) : FilePath :=
  if path.parts.all (· = upPart) then
    if path.root = .top then path else path.child upPart
  else { path with parts := path.parts.dropLast }

/-- Follow one part of a path from a place. -/
def step (path : FilePath) (part : String) : FilePath :=
  if part = "" ∨ part = "." then path
  else if part = upPart then path.above
  else path.child part

/-- A place as text. -/
def toText (path : FilePath) : String :=
  let start := match path.root with
    | .home => "~/"
    | .working => "./"
    | .top => "/"
  start ++ "/".intercalate path.parts

/-- A place whose last part has something appended. -/
def extended (path : FilePath) (suffix : String) : FilePath :=
  { path with parts := path.parts.dropLast ++ [path.parts.getLast?.getD "" ++ suffix] }

/-- Does a place lie below another one? -/
def isBelow (path above : FilePath) : Bool :=
  path.root = above.root && path ≠ above && above.parts.isPrefixOf path.parts

/-- Does a place lie outside its root? -/
def isOutside (path : FilePath) : Bool := path.parts.head? = some upPart

end FilePath

/-- Files with their contents, and folders. -/
structure Files where
  contents : List (FilePath × Bytes) := []
  folders : List FilePath := []
  deriving DecidableEq, Repr

/-- What can be at a place. -/
inductive FileKind
  | file | folder
  deriving DecidableEq, Repr

namespace Files

/-- The content of a file. -/
def read? (files : Files) (path : FilePath) : Option Bytes := files.contents.lookup path

/-- Is there a file at a place? -/
def isFile (files : Files) (path : FilePath) : Bool := (files.read? path).isSome

/-- Is there a folder at a place? -/
def isFolder (files : Files) (path : FilePath) : Bool :=
  path.parts.all (· = FilePath.upPart) || files.folders.contains path ||
    files.contents.any (fun entry => entry.1.isBelow path) ||
    files.folders.any fun folder => folder.isBelow path

/-- What is at a place. -/
def kind? (files : Files) (path : FilePath) : Option FileKind :=
  if files.isFolder path then some .folder
  else if files.isFile path then some .file
  else none

/-- Remove a file. -/
def remove (files : Files) (path : FilePath) : Files :=
  { files with contents := files.contents.filter fun entry => entry.1 ≠ path }

/-- Give a file a content. -/
def write (files : Files) (path : FilePath) (content : Bytes) : Files :=
  { files with contents := (files.remove path).contents ++ [(path, content)] }

/-- Add to the content of a file, which need not exist. -/
def append (files : Files) (path : FilePath) (more : Bytes) : Files :=
  files.write path ((files.read? path).getD [] ++ more)

/-- Rename a file, replacing one of the new name.  A file that does not exist stays
away. -/
def rename (files : Files) (path target : FilePath) : Files :=
  match files.read? path with
  | none => files
  | some content => (files.remove path).write target content

/-- Add a folder. -/
def addFolder (files : Files) (path : FilePath) : Files :=
  { files with folders := files.folders ++ [path] }

end Files
end NetBoot
