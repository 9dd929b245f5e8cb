import FormulaDiagram.Drawing.Error
import FormulaDiagram.Text.Character

/-!
Trees of files and folders. A path is followed name by name from the root of the tree; every name but the last has to
be that of a folder, and so has the last one if a slash stands behind it. A path may lead out of the tree, above its
root or by a slash at its beginning. Nothing is known of what is there: the folders outside hold nothing, no path leads
back, and what is written there is not kept.
-/

namespace FormulaDiagram

/-- The names on the way from the root to a file or folder. -/
abbrev Place := List String

/-- Files with their contents, and folders that may be empty. Every place above a file or folder is a folder,
whether it is listed or not. -/
structure FileTree where
  files : List (Place × ByteArray)
  folders : List Place

/-- What stands at a place. -/
inductive FileEntry where
  | file (contents : ByteArray)
  | folder

/-- Where a path leads: to a place in the tree, to a folder outside of it, or to what such a folder would hold. -/
inductive Location where
  | inside (place : Place)
  | outside
  | nowhere

namespace Location

/-- Where the folder of a location is. -/
def parent : Location → Location
  | .inside [] => .outside
  | .inside (name :: place) => .inside (name :: place).dropLast
  | _ => .outside

/-- Where a name in a folder leads. -/
def child (name : String) : Location → Location
  | .inside place => .inside (place ++ [name])
  | _ => .nowhere

end Location

/-- The number of bytes that a name may have. -/
def maxName : Nat := 255

/-- The number of bytes that a path may have. -/
def maxPath : Nat := 4095

/-- What is wrong with a path wherever it leads. -/
def checkPath (path : String) : Except SystemError Unit :=
  if path.toList.contains '\x00' then .error .nulInName
  else if maxPath < path.utf8ByteSize then .error .nameTooLong
  else .ok ()

namespace FileTree

/-- The names of a path, which are empty where no name stands before or behind a slash. -/
def names (path : String) : List String := (Text.segments '/' path.toList).map String.ofList

/-- The place that a path leads to if the tree has what it says. A place names only files and folders. -/
def placeOf (path : String) : Place := (names path).filter (!·.isEmpty)

variable (tree : FileTree)

/-- What stands at a place, if anything does. -/
def entry? (place : Place) : Option FileEntry :=
  match tree.files.lookup place with
  | some contents => some (.file contents)
  | none =>
    if place.isEmpty || (tree.files.map (·.1) ++ tree.folders).any place.isPrefixOf then some .folder else none

/-- What stands at a location, if anything does. -/
def entryAt? : Location → Option FileEntry
  | .inside place => tree.entry? place
  | .outside => some .folder
  | .nowhere => none

/-- Follows names from a location on, which has to be that of a folder if there are any. -/
def follow (location : Location) : List String → Except SystemError Location
  | [] => .ok location
  | name :: later =>
    match tree.entryAt? location with
    | none => .error .noSuchFile
    | some (.file _) => .error .notDirectory
    | some .folder =>
      if name.isEmpty || name == "." then follow location later
      else if name == ".." then follow location.parent later
      else if maxName < name.utf8ByteSize then .error .nameTooLong
      else follow (location.child name) later

/-- Follows the names of a path. The first one is empty if the path is, or if it begins with a slash. -/
def locate : List String → Except SystemError Location
  | [] => .error .noSuchFile
  | name :: later =>
    if !name.isEmpty then tree.follow (.inside []) (name :: later)
    else if later.isEmpty then .error .noSuchFile
    else tree.follow .outside later

/-- Does the path lead to anything? -/
def holds (path : String) : Bool :=
  match checkPath path >>= fun _ => tree.locate (names path) with
  | .ok location => (tree.entryAt? location).isSome
  | .error _ => false

/-- The bytes of the file that a path leads to. -/
def contents (path : String) : Except SystemError ByteArray := do
  checkPath path
  match tree.entryAt? (← tree.locate (names path)) with
  | none => .error .noSuchFile
  | some .folder => .error .isDirectory
  | some (.file contents) => .ok contents

/-- Gives a place contents, whether it was a file already or not. -/
def put (place : Place) (contents : ByteArray) : FileTree :=
  { tree with files := tree.files.filter (·.1 != place) ++ [(place, contents)] }

/-- Writes a text to the file that a path leads to, which need not be there if its folder is. A path with a slash at
its end is never that of a file. -/
def write (path : String) (text : String) : Except SystemError FileTree := do
  checkPath path
  match (names path).reverse with
  | last :: before =>
    if last.isEmpty && !before.isEmpty then
      match (before.dropWhile (·.isEmpty)).drop 1 with
      | [] => .error .isDirectory
      | folder => do
        let _ ← tree.locate (folder.reverse ++ [""])
        .error .isDirectory
    else
      let location ← tree.locate (names path)
      match tree.entryAt? location, location with
      | some .folder, _ => .error .isDirectory
      | _, .inside place => .ok (tree.put place text.toUTF8)
      | _, _ => .ok tree
  | [] => .error .noSuchFile

end FileTree

end FormulaDiagram
