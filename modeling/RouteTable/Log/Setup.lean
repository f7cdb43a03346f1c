/-
**Where a log goes.**

Records of the log's level and above reach its handlers: the console, which shows warnings or, if
asked for, more, and perhaps a file, which takes every record.

* `setup_console`: a log always reaches the console.
-/

import RouteTable.Log.Record
import RouteTable.Settings
import RouteTable.Text.Uppercase

namespace RouteTable.Log

/-- Why a log cannot be set up. -/
inductive SetupFault
  | levelIsNoText
  | levelIsTemplate
  | levelIsTable
  | fileIsNoText
deriving DecidableEq, Repr

/-- The message of a fault, where it has one. -/
def SetupFault.message? : SetupFault → Option String
  | .levelIsTemplate => some "Unknown level: '%(levelname)s:%(name)s:%(message)s'"
  | _ => none

/-- Where the records go. -/
inductive Target
  | console
  | file (path : String)
deriving DecidableEq, Repr

/-- A receiver of records with the least level that it takes. -/
structure Handler where
  target : Target
  level : Int
deriving DecidableEq, Repr

/-- A log with its level and its handlers. -/
structure Setup where
  level : Int
  handlers : List Handler
deriving DecidableEq, Repr

/-- The levels by their words. -/
def levels : List (String × Int) :=
  [ ("CRITICAL", 50), ("FATAL", 50), ("ERROR", 40), ("WARNING", 30), ("WARN", 30), ("INFO", 20),
    ("DEBUG", 10), ("NOTSET", 0) ]

/-- The level for a word of either case; an unknown word stands for `INFO`. Two words are taken for
something else than a level. -/
def levelOf (word : String) : Except SetupFault Int :=
  let upper := String.ofList (word.toList.flatMap Text.uppercase)
  if upper = "BASIC_FORMAT" then .error .levelIsTemplate
  else if upper = "_STYLES" then .error .levelIsTable
  else match levels.find? (·.1 = upper) with
    | some (_, level) => .ok level
    | none => .ok 20

/-- The level of the log that settings ask for. -/
def levelFor (settings : Settings) : Except SetupFault Int :=
  if settings.verbose.isTruthy then .ok 10
  else match settings.logLevel with
    | .text word => levelOf word
    | _ => .error .levelIsNoText

/-- The file that settings ask for. -/
def fileFor (settings : Settings) : Except SetupFault (Option String) :=
  if !settings.logFile.isTruthy then .ok none
  else match settings.logFile with
    | .text path => .ok (some path)
    | _ => .error .fileIsNoText

/-- The log that settings ask for. -/
def setup (settings : Settings) : Except SetupFault Setup := do
  let level ← levelFor settings
  let console : Handler := ⟨.console, if settings.verbose.isTruthy then 20 else 30⟩
  match ← fileFor settings with
  | none => return ⟨level, [console]⟩
  | some path => return ⟨level, [console, ⟨.file path, 10⟩]⟩

/-- The least level of the records that reach the handlers; a log without a level of its own takes
warnings. -/
def Setup.threshold (log : Setup) : Int := if log.level = 0 then 30 else log.level

theorem setup_console {settings : Settings} {log : Setup} (done : setup settings = .ok log) :
    log.handlers.head?.map Handler.target = some .console := by
  simp only [setup, bind, Except.bind] at done
  split at done
  · contradiction
  · split at done
    · contradiction
    · split at done <;> (cases done; rfl)

end RouteTable.Log
