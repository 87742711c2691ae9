/-
# Paths

A path as it is written, and where it leads.  A path is walked part by part: every
part but the last has to lead to a folder, also one that is followed by a step up.
So a path can fail although the place that it names exists.

A call about a file fails with the text of the path that it was given.
-/
import NetBoot.Files
import NetBoot.SystemError
import NetBoot.Text.Blank
import NetBoot.Text.Utf8

namespace NetBoot

/-- A path as it is written: where it starts, and its parts between slashes. -/
structure Route where
  root : FileRoot
  parts : List String
  deriving DecidableEq, Repr

/-- Why a path cannot be used. -/
inductive PathError
  /-- It holds the character that ends a text for the operating system. -/
  | nul
  /-- A call to the operating system failed. -/
  | system (cause : SystemError)
  deriving DecidableEq, Repr

/-- What is said of a path that cannot be used. -/
def PathError.message : PathError → String
  | nul => "embedded null byte"
  | system cause => cause.message

namespace Route

/-- Read a path; one that does not start with a slash starts at the working
directory. -/
def ofText (text : String) : Route :=
  match (Text.splitAt '/' text.toList).map String.ofList with
  | "" :: part :: rest => ⟨.top, part :: rest⟩
  | parts => ⟨.working, parts⟩

/-- A path as text. -/
def toText (route : Route) : String :=
  let body := "/".intercalate route.parts
  match route.root with
  | .home => "~/" ++ body
  | .working => if route.parts.isEmpty then "." else body
  | .top => "/" ++ body

/-- A path without empty parts and dots. -/
def tidy (route : Route) : Route :=
  { route with parts := route.parts.filter fun part => part ≠ "" ∧ part ≠ "." }

/-- A path without its last part. -/
def parent (route : Route) : Route := { route with parts := route.parts.dropLast }

/-- A path followed by another one, which counts alone if it starts with a slash. -/
def join (route : Route) (text : String) : Route :=
  let next := ofText text
  if next.root = .top then next else { route with parts := route.parts ++ next.parts }

/-- The place that a path names, whether or not it can be walked. -/
def place (route : Route) : FilePath := route.parts.foldl FilePath.step ⟨route.root, []⟩

/-- The places on the way, the last one included. -/
def places (route : Route) : List FilePath :=
  (List.range (route.parts.length + 1)).map fun count =>
    place { route with parts := route.parts.take count }

/-- The path that leads straight to a place. -/
def ofPlace (path : FilePath) : Route := ⟨path.root, path.parts⟩

end Route

namespace Files

/-- The most bytes in a part of a path. -/
def partLimit : Nat := 255

/-- No path has this many bytes. -/
def pathLimit : Nat := 4096

/-- Follow one part of a path.  Only a folder leads on. -/
def follow (files : Files) (route : Route) (path : FilePath) (part : String) :
    Except SystemError FilePath :=
  match files.kind? path with
  | none => .error (.noFile route.toText)
  | some .file => .error (.notFolder route.toText)
  | some .folder =>
    if partLimit < (Text.Utf8.encode part).length then .error (.nameTooLong route.toText)
    else .ok (path.step part)

/-- Walk a path.  There need not be anything where it leads. -/
def walk (files : Files) (route : Route) : Except PathError FilePath :=
  let text := route.toText
  if text.toList.contains (Char.ofNat 0) then .error .nul
  else if text = "" then .error (.system (.noFile text))
  else if pathLimit ≤ (Text.Utf8.encode text).length then .error (.system (.nameTooLong text))
  else (route.parts.foldlM (files.follow route) ⟨route.root, []⟩).mapError .system

/-- Find what is at the end of a path. -/
def find (files : Files) (route : Route) : Except PathError (FilePath × FileKind) := do
  let path ← files.walk route
  match files.kind? path with
  | some kind => pure (path, kind)
  | none => throw (.system (.noFile route.toText))

/-- Does a path lead to a folder? -/
def leadsToFolder (files : Files) (route : Route) : Bool :=
  match files.find route with
  | .ok (_, .folder) => true
  | _ => false

/-- Read the file at the end of a path. -/
def read (files : Files) (route : Route) : Except PathError Bytes := do
  match ← files.find route with
  | (path, .file) => pure ((files.read? path).getD [])
  | (_, .folder) => throw (.system (.isFolder route.toText))

/-- Make a folder at the end of a path, unless there is one. -/
def ensureFolder (files : Files) (route : Route) : Except PathError Files :=
  if files.leadsToFolder route then .ok files
  else do
    let path ← files.walk route
    match files.kind? path with
    | some _ => throw (.system (.fileExists route.toText))
    | none => pure (files.addFolder path)

/-- Keep the files as they are if a change failed. -/
def settle (files : Files) : Except PathError Files → Except PathError Unit × Files
  | .ok changed => (.ok (), changed)
  | .error cause => (.error cause, files)

/-- Make the folder with the given parts, last part first, and the folders above it
that are missing.  Folders that were made before a failure stay. -/
def makeFoldersTo (root : FileRoot) : (reversed : List String) → Files →
    Except PathError Unit × Files
  | [], files => files.settle (files.ensureFolder ⟨root, []⟩)
  | last :: above, files =>
    let route : Route := ⟨root, (last :: above).reverse⟩
    match files.ensureFolder route with
    | .error (.system cause) =>
      if cause.isMissing then
        match makeFoldersTo root above files with
        | (.ok _, made) => made.settle (made.ensureFolder route)
        | failed => failed
      else (.error (.system cause), files)
    | outcome => files.settle outcome

/-- Make the folder at the end of a path and the folders above it that are missing. -/
def makeFolders (files : Files) (route : Route) : Except PathError Unit × Files :=
  makeFoldersTo route.root route.parts.reverse files

/-- Open a file for appending, making it if need be. -/
def openToAppend (files : Files) (path : FilePath) : Except PathError Files := do
  let route := Route.ofPlace path
  let found ← files.walk route
  match files.kind? found with
  | some .folder => throw (.system (.isFolder route.toText))
  | _ => pure (files.append found [])

end Files
end NetBoot
