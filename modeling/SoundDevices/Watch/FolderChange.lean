import SoundDevices.FileTree
import SoundDevices.Watch.RecordQueue

set_option autoImplicit false

namespace SoundDevices

inductive EntryKind where
  | file
  | folder
  deriving DecidableEq, Repr, Inhabited

def FileNode.kind : FileNode → EntryKind
  | file .. => .file
  | folder .. => .folder

/-- A new entry of a kind, with nothing in it. -/
def EntryKind.make : EntryKind → Nat → FileNode
  | file, number => .file number []
  | folder, number => .folder number []

/-- What can be done to the file or folder that a path names. -/
inductive FileAction where
  | touch (path : String)
  | makeFolder (path : String)
  | remove (path : String)
  | removeFolder (path : String)
  | rename (source target : String)
  | moveIn (path : String)
  deriving DecidableEq, Repr

/-- An entry of a folder was made or removed: the number of the folder, and the record of it. A
watch tells of nothing else. -/
structure FolderChange where
  folder : Nat
  record : QueuedRecord
  deriving DecidableEq, Repr

/-- Where an entry stands or may stand: the folder with its number, and the name in it. -/
structure Spot where
  folder : Place
  number : Nat
  name : String
  entry : EntryName

namespace Spot

def place (spot : Spot) : Place := spot.folder ++ [spot.name]

/-- An entry here was made or removed. -/
def change (spot : Spot) (mask : UInt32) (kind : EntryKind) : FolderChange where
  folder := spot.number
  record := .change (match kind with | .file => mask | .folder => mask ||| maskDirectory) spot.entry

end Spot

namespace FileTree

def withoutEnd (parts : List String) : List String :=
  (parts.reverse.dropWhile (·.isEmpty)).reverse

/-- The spot that a path names. Only the path of a folder may end in slashes. -/
def spot? (tree : FileTree) (kind : EntryKind) (path : String) : Option Spot := do
  let parts ← (pathParts path).toOption
  let parts := match kind with
    | .file => parts
    | .folder => withoutEnd parts
  let name ← parts.getLast?
  let entry ← EntryName.ofString? name
  let folder ← (tree.walk (tree.origin path) parts.dropLast).toOption
  match tree.at? folder with
  | some (.folder number _) => return ⟨folder, number, name, entry⟩
  | _ => none

/-- Something may take the place of what stands there: nothing, or one of its kind that has nothing
in it. -/
def mayReplace (kind : EntryKind) (there : Option FileNode) : Bool :=
  there.all fun node => node.kind == kind && node.entries.isEmpty

/-- Makes an entry, if its name is free. -/
def create (tree : FileTree) (kind : EntryKind) (path : String) : FileTree × List FolderChange :=
  match tree.spot? kind path with
  | none => (tree, [])
  | some spot =>
    match tree.at? spot.place with
    | some _ => (tree, [])
    | none => (tree.add spot.folder spot.name kind.make, [spot.change maskCreate kind])

/-- Removes an entry of one kind. A folder must have nothing in it. -/
def delete (tree : FileTree) (kind : EntryKind) (path : String) : FileTree × List FolderChange :=
  match tree.spot? kind path with
  | none => (tree, [])
  | some spot =>
    match tree.at? spot.place with
    | none => (tree, [])
    | some node =>
      if mayReplace kind (some node) then
        (tree.erase spot.folder spot.name, [spot.change maskDelete kind])
      else (tree, [])

/-- What a path leads to, and where it stands, if that is of one kind. -/
def entry? (tree : FileTree) (kind : EntryKind) (path : String) : Option (Spot × FileNode) := do
  let spot ← tree.spot? kind path
  let node ← tree.at? spot.place
  if node.kind = kind then some (spot, node) else none

/-- Moves an entry to another spot. A folder cannot be moved into itself. -/
def rename (tree : FileTree) (source target : String) : FileTree :=
  match tree.entry? .file source <|> tree.entry? .folder source with
  | none => tree
  | some (spot, node) =>
    match tree.spot? node.kind target with
    | none => tree
    | some free =>
      if spot.place.isPrefixOf free.place then tree
      else if mayReplace node.kind (tree.at? free.place) then
        (tree.erase spot.folder spot.name).set free.folder free.name node
      else tree

/-- Moves an empty file from elsewhere to a spot. -/
def moveIn (tree : FileTree) (path : String) : FileTree :=
  match tree.spot? .file path with
  | none => tree
  | some spot =>
    if mayReplace .file (tree.at? spot.place) then
      (tree.erase spot.folder spot.name).add spot.folder spot.name EntryKind.file.make
    else tree

/-- The tree after an action, and which entries were made or removed. An action that cannot be done
changes nothing. -/
def perform (tree : FileTree) : FileAction → FileTree × List FolderChange
  | .touch path => tree.create .file path
  | .makeFolder path => tree.create .folder path
  | .remove path => tree.delete .file path
  | .removeFolder path => tree.delete .folder path
  | .rename source target => (tree.rename source target, [])
  | .moveIn path => (tree.moveIn path, [])

/-- The tree after some actions, one after the other, and all changes in order. -/
def performAll (tree : FileTree) : List FileAction → FileTree × List FolderChange
  | [] => (tree, [])
  | action :: actions =>
    let (tree, changes) := tree.perform action
    let (last, more) := performAll tree actions
    (last, changes ++ more)

end FileTree

end SoundDevices
