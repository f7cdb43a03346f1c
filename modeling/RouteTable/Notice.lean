/-
**What a run reports on the way.**

Every step that leaves something out, and every step that is done, has a notice of its own. A
notice has a severity, a channel and a message.
-/

import RouteTable.Action
import RouteTable.Call
import RouteTable.Number.Double
import RouteTable.ReadFault
import RouteTable.Route

namespace RouteTable

/-- How much a notice matters. -/
inductive Severity
  | debug
  | info
  | warning
  | error
deriving DecidableEq, Repr

namespace Severity

/-- The rank by which severities are compared. -/
def rank : Severity → Int
  | .debug => 10
  | .info => 20
  | .warning => 30
  | .error => 40

/-- The name of a severity. -/
def name : Severity → String
  | .debug => "DEBUG"
  | .info => "INFO"
  | .warning => "WARNING"
  | .error => "ERROR"

end Severity

/-- Why a call gives no route. -/
inductive SkipReason
  | noResourceName
  | defaultRoute (path : String)
  | redirect
  | malformedMapping (target : String)
  | foreignTarget
  | patternController
  | noController
  | noAction
  | redirectRoot
  | malformedRoot
  | template
deriving DecidableEq, Repr

/-- What a run reports. -/
inductive Notice
  | skipped (reason : SkipReason) (name : String) (line : Int)
  | abandoned (name : String) (line : Int) (fault : ShapeFault)
  | routeFound (route : Route)
  | actionsListed (kind : ResourceKind) (actions : List String)
  | fileRead (routes : Nat) (file : Option String)
  | syntaxErrors (source : String)
  | nothingFound (target : String)
  | fileTooLarge (file : String) (size : Nat) (limit : String)
  | fileUnreadable (file : String) (fault : ReadFault)
  | runFinished (routes files : Nat)
deriving DecidableEq, Repr

/-- The message of a missing part: a missing option list has no entries, another missing part
cannot be gone through. -/
def ShapeFault.message : ShapeFault → String
  | .options => "'NoneType' object has no attribute 'items'"
  | _ => "'NoneType' object is not iterable"

/-- The message for a call that is skipped. -/
def SkipReason.message (reason : SkipReason) (name : String) (line : Int) : String :=
  match reason with
  | .noResourceName => s!"No resource name in '{name}' at line {line}"
  | .defaultRoute path => s!"Skipping default route '{path}' at line {line}"
  | .redirect => s!"Skipping redirect at line {line}"
  | .malformedMapping target => s!"Skipping malformed mapping '{target}' at line {line}"
  | .foreignTarget => s!"Skipping non-controller target at line {line}"
  | .patternController => s!"Skipping pattern controller at line {line}"
  | .noController => s!"No controller for '{name}' at line {line}"
  | .noAction => s!"No action for '{name}' at line {line}"
  | .redirectRoot => s!"Skipping redirect root at line {line}"
  | .malformedRoot => s!"Skipping malformed root at line {line}"
  | .template => s!"Skipping {name} block at line {line}"

/-- A file size in units of `2 ^ 20` bytes with one decimal place, ties to the even digit. -/
def sizeInMegabytes (size : Nat) : String :=
  let tenths := roundDiv (size * 10) (1024 * 1024)
  s!"{tenths / 10}.{tenths % 10}"

namespace Notice

/-- How much a notice matters. -/
def severity : Notice → Severity
  | .runFinished _ _ => .info
  | .syntaxErrors _ | .nothingFound _ | .fileTooLarge _ _ _ => .warning
  | .fileUnreadable _ _ => .error
  | _ => .debug

/-- The channel that a notice goes through. -/
def channel : Notice → String
  | .actionsListed _ _ => "route_prepare.actions"
  | .syntaxErrors _ => "route_prepare.parser"
  | .nothingFound _ | .fileTooLarge _ _ _ | .fileUnreadable _ _ | .runFinished _ _ =>
    "route_prepare.runner"
  | _ => "route_prepare.recognizer"

/-- The message of a notice. -/
def message : Notice → String
  | .skipped reason name line => reason.message name line
  | .abandoned name line fault =>
    s!"Ignoring unrecognized '{name}' call at line {line}: {fault.message}"
  | .routeFound route => s!"Route {route.text} (line {route.line})"
  | .actionsListed kind actions =>
    s!"Synthesized {actions.length} actions for {kind.word}: {Text.quotedList actions}"
  | .fileRead routes file =>
    let shown := (file.filter (· ≠ "")).getD "<memory>"
    s!"Prepared {routes} routes from {shown}"
  | .syntaxErrors source => s!"Syntax errors in {source}, continuing with recovered tree"
  | .nothingFound target => s!"No routing files found under {target}"
  | .fileTooLarge file size limit =>
    s!"Skipping large file {file}: {sizeInMegabytes size}MB > {limit}MB"
  | .fileUnreadable file fault => s!"File read error {file}: {fault.message}"
  | .runFinished routes files => s!"Prepared {routes} routes from {files} files"

end Notice

end RouteTable
