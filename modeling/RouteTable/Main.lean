/-
**The command line.**

What a command asks for is gathered from the disk into a tree of files, the command is run on the
tree, and what it printed and wrote is carried out. The files of the target are listed, and only
the routing files among them are read.
-/

import RouteTable.Command.Run
import RouteTable.Log.Time

namespace RouteTable.Command

/-- The name of a place on the disk. -/
def diskName (place : List String) : String := "/" ++ "/".intercalate place

/-- The entry at a place of the disk; the content of a file is left out unless it is wanted. -/
def diskEntry? (wanted : Bool) (place : List String) : IO (Option Entry) := do
  try
    let path ← IO.FS.realPath (diskName place)
    if ← path.isDir then return some .directory
    else if wanted then return some (.file (← IO.FS.readBinFile path))
    else return some (.file .empty)
  catch _ => return none

/-- Adds what stands at a place of the disk and on the way to it. -/
def gather (wanted : Bool) (tree : FileTree) (place : List String) : IO FileTree :=
  (List.range place.length).foldlM (fun (tree : FileTree) count => do
    let reached := place.take (count + 1)
    return match ← diskEntry? (wanted && reached = place) reached with
      | some entry => tree.put reached entry
      | none => tree) tree

/-- Adds the names of all that stands below a directory of the disk. -/
def gatherBelow (tree : FileTree) (place : List String) : IO FileTree := do
  if tree.entryAt place ≠ some .directory then return tree
  let top ← IO.FS.realPath (diskName place)
  let found ← top.walkDir fun path => return (← path.symlinkMetadata).type == .dir
  let entries ← found.toList.mapM fun path => do
    let names := path.components.drop top.components.length
    let entry : Entry := if ← path.isDir then .directory else .file .empty
    return (place ++ names, entry)
  return { tree with entries := tree.entries ++ entries }

/-- Adds the routing files of a target. -/
def gatherTarget (tree : FileTree) (settings : Settings) (target : String) : IO FileTree := do
  let path := Path.ofText target
  let listed ← gatherBelow (← gather false tree (tree.placeOf path)) (tree.placeOf path)
  let (discovery, _) := Discovery.ofTarget listed settings path
  discovery.found.foldlM (fun tree file => gather true tree (tree.placeOf file)) listed

/-- Adds everything that a command needs. -/
def gatherAll (around : Surroundings) (arguments : Arguments) : IO FileTree := do
  let start := around.tree
  let add (wanted : Bool) (tree : FileTree) (name : Option String) : IO FileTree :=
    match name with
    | some name => gather wanted tree (tree.placeOf (Path.ofText name))
    | none => pure tree
  let configured ← add true start arguments.config
  match startingSettings { around with tree := configured } arguments with
  | .error _ => return configured
  | .ok read =>
    let settings := override arguments read
    let logged ← match Log.setup settings with
      | .ok log => add true configured (logFileOf log)
      | .error _ => pure configured
    let written ← add false logged arguments.output
    if isRepository arguments.target then return written
    else gatherTarget written settings arguments.target

/-- The time of the clock: the seconds since the start of 1970 and the microseconds after them. -/
def clock : IO (Int × Nat) := do
  let (_, path) ← IO.FS.createTempFile
  let time := (← path.metadata).modified
  IO.FS.removeFile path
  return (time.sec, time.nsec.toNat / 1000)

/-- Runs a command line on the disk. -/
def runOnDisk (words : List String) : IO UInt32 := do
  let base := (← IO.FS.realPath ".").components.filter (· ≠ "")
  let environment ← Settings.variableNames.filterMapM fun name => do
    return (← IO.getEnv name).map (name, ·)
  let (seconds, micros) ← clock
  let recordTime := Log.timestamp seconds
  let bare : Surroundings :=
    { tree := .startingIn base
      environment
      reportTime := recordTime ++ "." ++ String.ofList (Log.padded 6 micros)
      recordTime
      cloneDirectory := "clone"
      repository := fun _ => none }
  let tree ← match Arguments.read words with
    | .ok arguments => gatherAll bare arguments
    | .error _ => pure bare.tree
  match run { bare with tree } words with
  | .error fault =>
    IO.eprintln fault.message
    return 1
  | .ok outcome =>
    outcome.outputs.forM fun output => IO.print output.text
    outcome.complaints.forM fun complaint => IO.eprintln complaint
    (tree.changes outcome.tree).forM fun file => IO.FS.writeBinFile (diskName file.1) file.2
    return outcome.exit.toUInt32

end RouteTable.Command

/-- Prints the routes of a project. -/
def main (words : List String) : IO UInt32 := RouteTable.Command.runOnDisk words
