/-
# The settings tree

All settings blocks of a program, linked into a tree whose root is block 0.  Blocks
that are not registered are kept too, without a parent; they may have children.

`register` refuses a block that has a parent and a name that a sibling has.
`replace` first takes the sibling of the same name out, so it can leave the tree
changed even when it fails.  Neither looks at whether a block becomes its own
ancestor; `path` and `walk` follow links only as far as there are blocks, which is
far enough unless there is such a circle.

The program follows links up until there is no parent, which on a circle never comes.
`path?` and the operations with a question mark have no value where it does not return.
That matters to `register?`: it says the path of the block that it has just linked.
-/
import NetBoot.Setting.Catalog
import NetBoot.Settings.Block

namespace NetBoot

/-- Blocks by number. -/
structure SettingsTree where
  blocks : List Block
  deriving DecidableEq, Repr

namespace SettingsTree

/-- The root of the tree. -/
def root : BlockId := 0

/-- A tree with nothing but a root. -/
def empty : SettingsTree := ⟨[.plain ""]⟩

/-- Why a block could not be registered. -/
inductive Error
  /-- The block is already registered. -/
  | registered (path : String)
  /-- The parent has a child of this name. -/
  | nameTaken (name parentPath : String)
  /-- The tree was told to refuse. -/
  | refused (reason : String)
  deriving DecidableEq, Repr

/-- What is said of a block that could not be registered. -/
def Error.message : Error → String
  | registered path => "settings " ++ Text.Quoted.ofText path ++ " already registered"
  | nameTaken name parentPath =>
    "settings " ++ Text.Quoted.ofText name ++ " already exists under " ++
      Text.Quoted.ofText (if parentPath = "" then "root" else parentPath)
  | refused reason => reason

/-- Add a block and say which number it has. -/
def add (tree : SettingsTree) (block : Block) : SettingsTree × BlockId :=
  (⟨tree.blocks ++ [block]⟩, tree.blocks.length)

/-- The block of a number. -/
def block? (tree : SettingsTree) (block : BlockId) : Option Block :=
  tree.blocks[block]?

/-- Change one block. -/
def modify (tree : SettingsTree) (block : BlockId) (change : Block → Block) : SettingsTree :=
  ⟨tree.blocks.modify block change⟩

/-- The name of a block. -/
def nameOf (tree : SettingsTree) (block : BlockId) : String :=
  ((tree.block? block).map Block.name).getD ""

/-- The parent of a block. -/
def parentOf (tree : SettingsTree) (block : BlockId) : Option BlockId :=
  (tree.block? block).bind Block.parent

/-- The children of a block, in order. -/
def childrenOf (tree : SettingsTree) (block : BlockId) : List BlockId :=
  ((tree.block? block).map Block.children).getD []

/-- Give a block another name. -/
def rename (tree : SettingsTree) (block : BlockId) (name : String) : SettingsTree :=
  tree.modify block fun found => { found with name }

/-- The names from a block up to but not including the topmost block. -/
def namesUp (tree : SettingsTree) : (steps : Nat) → BlockId → List String
  | 0, _ => []
  | steps + 1, block =>
    match tree.parentOf block with
    | none => []
    | some parent => tree.nameOf block :: tree.namesUp steps parent

/-- The names on the way from the topmost block down to a block, joined by dots. -/
def path (tree : SettingsTree) (block : BlockId) : String :=
  ".".intercalate (tree.namesUp tree.blocks.length block).reverse

/-- The topmost block above a block, if it is found within some steps. -/
def topWithin? (tree : SettingsTree) : (steps : Nat) → BlockId → Option BlockId
  | 0, _ => none
  | steps + 1, block =>
    match tree.parentOf block with
    | none => some block
    | some parent => tree.topWithin? steps parent

/-- The path of a block, if the way up has an end.  Whoever has passed more blocks than
there are has passed one of them twice, and goes on forever. -/
def path? (tree : SettingsTree) (block : BlockId) : Option String :=
  (tree.topWithin? (tree.blocks.length + 1) block).map fun _ => tree.path block

/-- A block and its descendants down to a depth, each block before its children. -/
def walkDown (tree : SettingsTree) : (depth : Nat) → BlockId → List BlockId
  | 0, _ => []
  | depth + 1, block => block :: (tree.childrenOf block).flatMap (tree.walkDown depth)

/-- A block and all its descendants, depth first. -/
def walk (tree : SettingsTree) (block : BlockId) : List BlockId :=
  tree.walkDown tree.blocks.length block

/-- The first child of a name. -/
def findChild? (tree : SettingsTree) (parent : BlockId) (name : String) : Option BlockId :=
  (tree.childrenOf parent).find? fun child => tree.nameOf child == name

/-- The names in a dotted path; empty ones do not count. -/
def pathParts (path : String) : List String :=
  ((Text.splitAt '.' path.toList).map String.ofList).filter (· ≠ "")

/-- The block that is reached from the root by a dotted path. -/
def find? (tree : SettingsTree) (path : String) : Option BlockId :=
  (pathParts path).foldlM tree.findChild? root

/-- Make a block the last child of a parent. -/
def attach (tree : SettingsTree) (block parent : BlockId) : SettingsTree :=
  (tree.modify block fun found => { found with parent := some parent }).modify parent
    fun found => { found with children := found.children ++ [block] }

/-- Register a block under a parent. -/
def register (tree : SettingsTree) (block parent : BlockId) : Except Error SettingsTree :=
  if (tree.parentOf block).isSome then .error (.registered (tree.path block))
  else if (tree.findChild? parent (tree.nameOf block)).isSome then
    .error (.nameTaken (tree.nameOf block) (tree.path parent))
  else .ok (tree.attach block parent)

/-- Register a block under a parent and say its path, or that of what is in the way. -/
def register? (tree : SettingsTree) (block parent : BlockId) :
    Option (Except Error SettingsTree) :=
  let outcome := tree.register block parent
  let said := match outcome with
    | .ok registered => registered.path? block
    | .error (.nameTaken _ _) => tree.path? parent
    | .error _ => tree.path? block
  said.map fun _ => outcome

/-- Take a block with all below it out of the tree.  A block without a parent is
left as it is. -/
def unregister (tree : SettingsTree) (block : BlockId) : SettingsTree :=
  match tree.parentOf block with
  | none => tree
  | some parent =>
    (tree.modify parent fun found => { found with children := found.children.erase block }).modify
      block fun found => { found with parent := none }

/-- Say the path of a block that has a parent, and take it out of the tree. -/
def unregister? (tree : SettingsTree) (block : BlockId) : Option SettingsTree :=
  match tree.parentOf block with
  | none => some tree
  | some _ => (tree.path? block).map fun _ => tree.unregister block

/-- The tree without the child of a parent that has a given name. -/
def vacate (tree : SettingsTree) (parent : BlockId) (name : String) : SettingsTree :=
  match tree.findChild? parent name with
  | some old => tree.unregister old
  | none => tree

/-- Say the path of the child of a parent that has a given name, and take it out. -/
def vacate? (tree : SettingsTree) (parent : BlockId) (name : String) : Option SettingsTree :=
  match tree.findChild? parent name with
  | some old => tree.unregister? old
  | none => some tree

/-- Register a block in the place of a sibling of the same name.  That sibling is
gone even if the registration then fails. -/
def replace (tree : SettingsTree) (block parent : BlockId) : SettingsTree × Except Error Unit :=
  let vacated := tree.vacate parent (tree.nameOf block)
  match vacated.register block parent with
  | .ok registered => (registered, .ok ())
  | .error cause => (vacated, .error cause)

/-- Take the sibling of the same name out and register a block, and say both paths. -/
def replace? (tree : SettingsTree) (block parent : BlockId) :
    Option (SettingsTree × Except Error Unit) := do
  let vacated ← tree.vacate? parent (tree.nameOf block)
  (vacated.register? block parent).map fun _ => tree.replace block parent

/-- The value of an option in one block. -/
def fetchAt (tree : SettingsTree) (block : BlockId) (tag : Tag) : Option Bytes :=
  (tree.block? block).bind fun found => found.fetch tag

/-- The value of an option in the first block that has it, from a block downward. -/
def fetch (tree : SettingsTree) (block : BlockId) (tag : Tag) : Option Bytes :=
  (tree.walk block).findSome? fun found => tree.fetchAt found tag

/-- Set the value of an option in one block. -/
def storeAt (tree : SettingsTree) (block : BlockId) (tag : Tag) (value : Option Bytes) :
    Except Packet.Error SettingsTree :=
  match tree.block? block with
  | none => .ok tree
  | some found => (found.store tag value).map fun changed => tree.modify block fun _ => changed

/-- The paths of all blocks below the root, depth first. -/
def paths (tree : SettingsTree) : List String :=
  ((tree.walk root).drop 1).map tree.path

end SettingsTree

namespace Setting

/-- The text of a setting, given the values of options.  An absent value and one
that cannot be shown have no text; only a rule that does not exist is an error. -/
def fetchText (setting : Setting) (fetch : Tag → Option Bytes) :
    Except ShowError (Option String) :=
  match fetch setting.tag with
  | none => .ok none
  | some data =>
    match setting.showData data with
    | .ok shown => .ok (some shown)
    | .error (.unknownFormat name) => .error (.unknownFormat name)
    | .error _ => .ok none

/-- What is wrong with a value that has no text, if there is a value. -/
def complaint? (setting : Setting) (fetch : Tag → Option Bytes) : Option String :=
  match fetch setting.tag with
  | none => none
  | some data =>
    match setting.showData data with
    | .ok _ => none
    | .error (.unknownFormat _) => none
    | .error cause => some cause.message

/-- The text of the setting of a name in the catalogue. -/
def textOf? (name : String) (fetch : Tag → Option Bytes) : Option String :=
  match named? name with
  | none => none
  | some setting => (setting.fetchText fetch).toOption.join

end Setting
end NetBoot
