/-
**File patterns.**

A pattern is a list of parts, one for each name of a path: a name, a name with wildcards, or `**`
for any number of directories. In a part, `*` stands for any text, `?` for any character and
brackets for one of several characters.

* `matchesPieces_star`: a lone `*` matches every name;
* `matchesPieces_literal`: a part without wildcards matches itself only.
-/

import RouteTable.FileTree

namespace RouteTable.Glob

/-- What one character of a name may be. -/
inductive Member
  | range (first last : Char)
deriving DecidableEq, Repr

/-- A piece of a part. -/
inductive Piece
  | star
  | any
  | literal (char : Char)
  | oneOf (negated : Bool) (members : List Member)
deriving DecidableEq, Repr

/-- A part of a pattern. -/
inductive Part
  | anyDepth
  | exact (name : String)
  | wild (pieces : List Piece)
deriving DecidableEq, Repr

/-- Why a text is no pattern. -/
inductive Fault
  | empty (shown : String)
  | absolute
  | mixedDepth
  | noParts (directories : Bool)
  | notText
deriving DecidableEq, Repr

/-- The message of a fault. -/
def Fault.message : Fault → String
  | .empty shown => s!"Unacceptable pattern: {shown}"
  | .absolute => "Non-relative patterns are unsupported"
  | .mixedDepth => "Invalid pattern: '**' can only be an entire path component"
  | .noParts _ => "pattern has no parts"
  | .notText => "pattern is not a text"

/-! ## Reading -/

/-- The members between brackets: ranges and single characters. -/
def membersOf : List Char → List Member
  | first :: '-' :: last :: rest => .range first last :: membersOf rest
  | single :: rest => .range single single :: membersOf rest
  | [] => []

/-- The content of brackets and what follows them; a closing bracket right after the opening one
belongs to the content. -/
def cutBrackets (text : List Char) : Option (Bool × List Char × List Char) :=
  let (negated, body) := match text with
    | '!' :: rest => (true, rest)
    | rest => (false, rest)
  let (first, body) := match body with
    | ']' :: rest => ([']'], rest)
    | rest => ([], rest)
  (Text.cutAt ']' body).map fun parts => (negated, first ++ parts.1, parts.2)

/-- The pieces of a part. -/
def piecesOf : Nat → List Char → List Piece
  | 0, _ => []
  | _, [] => []
  | fuel + 1, '*' :: rest => .star :: piecesOf fuel rest
  | fuel + 1, '?' :: rest => .any :: piecesOf fuel rest
  | fuel + 1, '[' :: rest =>
    match cutBrackets rest with
    | some (negated, body, after) => .oneOf negated (membersOf body) :: piecesOf fuel after
    | none => .literal '[' :: piecesOf fuel rest
  | fuel + 1, char :: rest => .literal char :: piecesOf fuel rest

/-- A part of a pattern. -/
def partOf (name : String) : Except Fault Part :=
  let chars := name.toList
  if name = "**" then .ok .anyDepth
  else if Text.hasInside ['*', '*'] chars then .error .mixedDepth
  else if chars.any fun char => char = '*' || char = '?' || char = '[' then
    .ok (.wild (piecesOf chars.length chars))
  else .ok (.exact name)

/-- The parts of a pattern, and whether it asks for directories. -/
def partsOf (text : String) : Except Fault (List Part × Bool) := do
  if text = "" then throw (.empty (Text.quoted ""))
  let path := Path.ofText text
  if path.root ≠ "" then throw .absolute
  let directories := text.toList.getLast? = some '/'
  if path.names.isEmpty then throw (.noParts directories)
  return (← path.names.mapM partOf, directories)

/-! ## Matching names -/

/-- Whether a character is a member. -/
def Member.has (char : Char) : Member → Bool
  | .range first last => first ≤ char && char ≤ last

/-- Whether a character is one that a piece stands for. -/
def Piece.has (char : Char) : Piece → Bool
  | .star => false
  | .any => true
  | .literal wanted => char = wanted
  | .oneOf negated members => members.any (Member.has char) != negated

/-- The ends of a text, from the whole text to the empty one. -/
def endings : List Char → List (List Char)
  | [] => [[]]
  | char :: rest => (char :: rest) :: endings rest

/-- Whether pieces stand for a text. -/
def matchesPieces : List Piece → List Char → Bool
  | [], text => text.isEmpty
  | .star :: rest, text => (endings text).any (matchesPieces rest)
  | piece :: rest, text =>
    match text with
    | [] => false
    | char :: after => piece.has char && matchesPieces rest after

theorem matchesPieces_star (text : List Char) : matchesPieces [.star] text = true := by
  rw [matchesPieces, List.any_eq_true]
  refine ⟨[], ?_, rfl⟩
  induction text with
  | nil => simp [endings]
  | cons char rest ih => simp [endings, ih]

theorem matchesPieces_literal (name text : List Char) :
    matchesPieces (name.map Piece.literal) text = true ↔ text = name := by
  induction name generalizing text with
  | nil => simp [matchesPieces]
  | cons char rest ih =>
    cases text with
    | nil => simp [matchesPieces]
    | cons head after => simp [matchesPieces, Piece.has, ih]

/-! ## Matching files -/

/-- The directories under a path with the path itself. -/
def directoriesUnder (tree : FileTree) : Nat → Path → List Path
  | 0, path => [path]
  | depth + 1, path =>
    path :: (tree.childrenOf path).flatMap fun entry =>
      if entry.2 = .directory then directoriesUnder tree depth (path.child entry.1) else []

/-- The names in a directory that pieces stand for; `deeper` asks for directories. -/
def matchingNames (tree : FileTree) (pieces : List Piece) (deeper : Bool) (path : Path) :
    List String :=
  ((tree.childrenOf path).filter fun entry =>
    (!deeper || entry.2 = .directory) && matchesPieces pieces entry.1.toList).map Prod.fst

/-- The paths under a directory that the parts of a pattern stand for. -/
def select (tree : FileTree) : List Part → Path → List Path
  | [], path => [path]
  | .anyDepth :: rest, path =>
    ((directoriesUnder tree tree.directoryCount path).flatMap (select tree rest)).eraseDups
  | .exact name :: rest, path =>
    let next := path.child name
    let found := if rest.isEmpty then (tree.find next).isOk else tree.isDirectory next
    if found then select tree rest next else []
  | .wild pieces :: rest, path =>
    (matchingNames tree pieces (!rest.isEmpty) path).flatMap fun name =>
      select tree rest (path.child name)

/-- The files under a directory that a pattern stands for, ordered by their names. -/
def files (tree : FileTree) (target : Path) (pattern : String) : Except Fault (List Path) := do
  let (parts, directories) ← partsOf pattern
  if directories ∨ !tree.isDirectory target then return []
  return ((select tree parts target).filter tree.isFile).mergeSort
    fun first second => Path.precedes first.names second.names

end RouteTable.Glob
