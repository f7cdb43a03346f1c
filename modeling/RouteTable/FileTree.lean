/-
**A tree of files.**

The tree lists its files and directories by the names that lead to them from the root. Relative
paths start in a directory of the tree, its base. A name with a null character leads nowhere.

* `entryAt_put`: after a write, the written place has its entry and every other place keeps its own.
-/

import RouteTable.Assoc
import RouteTable.Path
import RouteTable.ReadFault

namespace RouteTable

/-- What a name leads to. -/
inductive Entry
  | file (content : ByteArray)
  | directory

instance : DecidableEq Entry
  | .file first, .file second =>
    decidable_of_iff (first.data = second.data) <| by
      rw [Entry.file.injEq, ByteArray.ext_iff]
  | .directory, .directory => .isTrue rfl
  | .file _, .directory => .isFalse nofun
  | .directory, .file _ => .isFalse nofun

/-- A tree of files with the directory that relative paths start in and the size that directories
are said to have. A place in the tree is the list of the names that lead to it from the root. -/
structure FileTree where
  base : List String := []
  entries : Assoc (List String) Entry := []
  directorySize : Nat := 4096

namespace FileTree

/-- The entry at a place; the root is a directory. -/
def entryAt (tree : FileTree) : List String → Option Entry
  | [] => some .directory
  | names => tree.entries.get? names

/-- Puts an entry at a place. -/
def put (tree : FileTree) (names : List String) (entry : Entry) : FileTree :=
  { tree with entries := tree.entries.put names entry }

theorem entryAt_put (tree : FileTree) (names wanted : List String) (entry : Entry)
    (below : wanted ≠ []) :
    (tree.put names entry).entryAt wanted =
      if names = wanted then some entry else tree.entryAt wanted := by
  cases wanted with
  | nil => contradiction
  | cons head rest => exact Assoc.get?_put _ _ _ _

/-- How many directories the tree lists. No directory lies deeper below another one than that. -/
def directoryCount (tree : FileTree) : Nat :=
  tree.entries.countP fun entry => entry.2 = .directory

/-- The names in a directory with their entries. -/
def children (tree : FileTree) (directory : List String) : List (String × Entry) :=
  tree.entries.filterMap fun entry =>
    match entry.1.getLast? with
    | some name => if entry.1.dropLast = directory then some (name, entry.2) else none
    | none => none

/-! ## Following a path -/

/-- The place where a path starts. -/
def start (tree : FileTree) (path : Path) : List String := if path.root = "" then tree.base else []

/-- Whether a name has a null character. -/
def hasNull (name : String) : Bool := name.toList.contains '\x00'

/-- The place that a name leads to from another place, which must be a directory. -/
def step (tree : FileTree) (place : List String) (name : String) :
    Except OpenFault (List String) :=
  match tree.entryAt place with
  | none => .error .missing
  | some (.file _) => .error .throughFile
  | some .directory =>
    if hasNull name then .error .nullCharacter
    else if name = "." then .ok place
    else if name = ".." then .ok place.dropLast
    else .ok (place ++ [name])

/-- The place that names lead to, one after the other. A null character in any of them is found
before the first name is looked up. -/
def locate (tree : FileTree) (start names : List String) : Except OpenFault (List String) :=
  if names.any hasNull then .error .nullCharacter else names.foldlM tree.step start

/-- The entry at a place that must be there. -/
def entryOf (tree : FileTree) (place : List String) : Except OpenFault Entry :=
  match tree.entryAt place with
  | some entry => .ok entry
  | none => .error .missing

/-- The entry that a path leads to. -/
def find (tree : FileTree) (path : Path) : Except OpenFault Entry := do
  tree.entryOf (← tree.locate (tree.start path) path.names)

/-- The entry that a text leads to; unlike a path, a text may ask for a directory. -/
def findText (tree : FileTree) (text : String) : Except OpenFault Entry := do
  if text = "" then throw .missing
  tree.entryOf (← tree.locate (tree.start (Path.ofText text)) (Path.steps text))

/-- Whether a path leads to a file. -/
def isFile (tree : FileTree) (path : Path) : Bool :=
  match tree.find path with
  | .ok (.file _) => true
  | _ => false

/-- Whether a path leads to a directory. -/
def isDirectory (tree : FileTree) (path : Path) : Bool :=
  match tree.find path with
  | .ok .directory => true
  | _ => false

/-- The names in the directory that a path leads to. -/
def childrenOf (tree : FileTree) (path : Path) : List (String × Entry) :=
  match tree.locate (tree.start path) path.names with
  | .ok place => tree.children place
  | .error _ => []

/-! ## Reading -/

/-- The size of what a path leads to. -/
def size (tree : FileTree) (path : Path) : Except OpenFault Nat := do
  match ← tree.find path with
  | .file content => return content.size
  | .directory => return tree.directorySize

/-- Line ends of every kind become line feeds. -/
def unifyLineEnds : List Char → List Char
  | '\r' :: '\n' :: rest => '\n' :: unifyLineEnds rest
  | '\r' :: rest => '\n' :: unifyLineEnds rest
  | char :: rest => char :: unifyLineEnds rest
  | [] => []

/-- The text of an entry. -/
def textOf (name : String) (found : Except OpenFault Entry) : Except ReadFault String :=
  match found with
  | .error fault => .error (.unopened name fault)
  | .ok .directory => .error (.unopened name .isDirectory)
  | .ok (.file content) =>
    match Text.Utf8.decode content with
    | .ok text => .ok (String.ofList (unifyLineEnds text.toList))
    | .error fault => .error (.undecodable fault)

/-- The text of the file that a path leads to. -/
def readText (tree : FileTree) (path : Path) : Except ReadFault String :=
  textOf path.text (tree.find path)

/-! ## Writing -/

/-- Makes the directories on the way to a place. -/
def withParents (tree : FileTree) (names : List String) : FileTree :=
  (List.range names.length).foldl
    (fun tree count =>
      let names := names.take count
      if tree.entryAt names = some .directory then tree else tree.put names .directory) tree

/-- Puts a file or a directory at a place and makes the directories on the way to it. -/
def write (tree : FileTree) (names : List String) (entry : Entry) : FileTree :=
  (tree.withParents names).put names entry

/-- Takes away what is at a place and below it. -/
def remove (tree : FileTree) (names : List String) : FileTree :=
  { tree with entries := tree.entries.filter fun entry => !names.isPrefixOf entry.1 }

/-- The tree with nothing but the directory that relative paths start in. -/
def startingIn (base : List String) : FileTree := ({ base } : FileTree).write base .directory

/-- The place that a path is written for, every pair of dots taking away the name before it. -/
def placeOf (tree : FileTree) (path : Path) : List String :=
  Path.withoutDots (tree.start path ++ path.names)

/-- The files of a later tree that this one does not have or has with another content. -/
def changes (tree later : FileTree) : List (List String × ByteArray) :=
  later.entries.filterMap fun entry =>
    match entry.2 with
    | .directory => none
    | .file content =>
      if tree.entryAt entry.1 = some (.file content) then none else some (entry.1, content)

/-- The place of a name in a directory, if a file may be written there. -/
def writableIn (tree : FileTree) (directory : List String) (name : String) :
    Except OpenFault (List String) := do
  if (← tree.entryOf directory) ≠ .directory then throw .throughFile
  let place := directory ++ [name]
  if tree.entryAt place = some .directory then throw .isDirectory
  return place

/-- The place that a text names, if a file may be written there. -/
def writable (tree : FileTree) (text : String) : Except OpenFault (List String) := do
  if text = "" then throw .missing
  let words := (Text.words (· = '/') text.toList).map String.ofList
  if words.any hasNull then throw .nullCharacter
  match words.getLast? with
  | none => throw .isDirectory
  | some last =>
    let directory ← tree.locate (tree.start (Path.ofText text)) words.dropLast
    let place ← tree.writableIn directory last
    if last = "." ∨ last = ".." ∨ text.toList.getLast? = some '/' then throw .isDirectory
    return place

end FileTree

end RouteTable
