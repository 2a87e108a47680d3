import SoundDevices.Error
import SoundDevices.Text.Utf8

set_option autoImplicit false

namespace SoundDevices

/-- What a disk answers about a path: whether it leads to something, what is read there, and
whether changes there can be watched for. Something may be there that cannot be read. -/
structure Disk where
  present : String → Bool
  contents : String → Except OsError Bytes
  watch : String → Except OsError Unit

namespace Disk

def readText (disk : Disk) (path : String) : Except OsError String :=
  match disk.contents path with
  | .error failure => .error failure
  | .ok contents =>
    match Text.decode? contents with
    | none => .error .notUtf8
    | some text => .ok text

end Disk

/-- A place: the names on the way to it from the root. -/
abbrev Place := List String

/-- A file, or a folder with all that is in it. Each has a number of its own, which it keeps when it
is moved. No two entries of a folder have one name. -/
inductive FileNode where
  | file (number : Nat) (contents : Bytes)
  | folder (number : Nat) (entries : List (String × FileNode))

namespace FileNode

def number : FileNode → Nat
  | file number _ => number
  | folder number _ => number

/-- What is in a folder. There is nothing in a file. -/
def entries : FileNode → List (String × FileNode)
  | file .. => []
  | folder _ entries => entries

def contents : FileNode → Except OsError Bytes
  | file _ contents => .ok contents
  | folder .. => .error .isADirectory

def child? (node : FileNode) (name : String) : Option FileNode := node.entries.lookup name

def at? : FileNode → Place → Option FileNode
  | node, [] => some node
  | node, name :: place => (node.child? name).bind fun child => at? child place

@[simp] theorem at?_nil (node : FileNode) : node.at? [] = some node := rfl

def setEntry (entries : List (String × FileNode)) (name : String) (node : FileNode) :
    List (String × FileNode) :=
  if (entries.lookup name).isNone then (name, node) :: entries
  else entries.map fun entry => if entry.1 == name then (name, node) else entry

/-- Changes the entries of the folder at a place below it. Nothing is changed if no folder is
there. -/
def edit (change : List (String × FileNode) → List (String × FileNode)) :
    FileNode → Place → FileNode
  | .file number contents, _ => .file number contents
  | .folder number entries, [] => .folder number (change entries)
  | .folder number entries, name :: place =>
    match entries.lookup name with
    | none => .folder number entries
    | some child => .folder number (setEntry entries name (edit change child place))

end FileNode

/-- All files and folders from the root on, the working directory, and the next number that no file
or folder has had. -/
structure FileTree where
  root : FileNode := .folder 0 []
  home : Place := []
  nextNumber : Nat := 1

namespace FileTree

def at? (tree : FileTree) (place : Place) : Option FileNode := tree.root.at? place

/-- The tree with something new in a folder, under a name that is free. Its number is the next. -/
def add (tree : FileTree) (folder : Place) (name : String) (make : Nat → FileNode) : FileTree :=
  { tree with
    root := tree.root.edit ((name, make tree.nextNumber) :: ·) folder
    nextNumber := tree.nextNumber + 1 }

def set (tree : FileTree) (folder : Place) (name : String) (node : FileNode) : FileTree :=
  { tree with root := tree.root.edit (FileNode.setEntry · name node) folder }

def erase (tree : FileTree) (folder : Place) (name : String) : FileTree :=
  { tree with root := tree.root.edit (·.filter (·.1 != name)) folder }

def ensure (tree : FileTree) (make : Nat → FileNode) (place : Place) : FileTree :=
  if (tree.at? place).isSome then tree else tree.add place.dropLast (place.getLastD "") make

/-- The tree with a folder at a place, and folders on the way to it. -/
def withFolder (tree : FileTree) (place : Place) : FileTree :=
  (List.range place.length).foldl
    (fun tree n => tree.ensure (.folder · []) (place.take (n + 1))) tree

/-- The tree with a file at a place that is free, and folders on the way to it. -/
def withFile (tree : FileTree) (place : Place) (contents : Bytes) : FileTree :=
  (tree.withFolder place.dropLast).ensure (.file · contents) place

/-- Parts of a path that stay where they are. -/
def staysHere (part : String) : Bool := part == "" || part == "."

/-- The longest name that a file may have, in bytes. -/
def maxNameLength : Nat := 255

/-- Walks from a place along the parts of a path, up to the first that is not there. The way up from
the root leads to the root. -/
def walk (tree : FileTree) : Place → List String → Except OsError Place
  | place, [] => .ok place
  | place, part :: parts =>
    match tree.at? place with
    | none => .error .notFound
    | some (.file ..) => .error .notADirectory
    | some (.folder _ entries) =>
      if staysHere part then walk tree place parts
      else if part == ".." then walk tree place.dropLast parts
      else if maxNameLength < part.utf8ByteSize then .error .nameTooLong
      else if (entries.lookup part).isSome then walk tree (place ++ [part]) parts
      else .error .notFound

/-- The longest path that the system takes, in bytes. -/
def maxPathLength : Nat := 4095

def parts (path : String) : List String := path.splitOn "/"

def pathParts (path : String) : Except OsError (List String) :=
  if path.isEmpty then .error .notFound
  else if path.toList.contains '\x00' then .error .nulInPath
  else if maxPathLength < path.utf8ByteSize then .error .nameTooLong
  else .ok (parts path)

def origin (tree : FileTree) (path : String) : Place :=
  if path.toList.head? == some '/' then [] else tree.home

def place (tree : FileTree) (path : String) : Except OsError Place := do
  let parts ← pathParts path
  tree.walk (tree.origin path) parts

def node (tree : FileTree) (path : String) : Except OsError FileNode := do
  let place ← tree.place path
  match tree.at? place with
  | none => .error .notFound
  | some node => .ok node

/-- The disk with these files and folders, all of which can be read. -/
def disk (tree : FileTree) : Disk where
  present := fun path => (tree.node path).toOption.isSome
  contents := fun path => tree.node path >>= FileNode.contents
  watch := fun path => (tree.node path).map fun _ => ()

end FileTree

end SoundDevices
