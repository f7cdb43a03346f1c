/-
**The words of a command line.**

A word that begins with a dash is an option, unless it is a lone dash, a negative number or has a
space in it. A long option may be cut short as long as it stays clear which one is meant, and its
value may follow an equals sign. Short options may be written together, the last one with its value
attached. After a lone pair of dashes every word is a value. The only value that belongs to no
option is the target.

* `read_nothing`: a command line needs a target;
* `named_spelling`: a spelling in full is never ambiguous.
-/

import RouteTable.Number.Numeral
import RouteTable.Settings

namespace RouteTable.Command

/-- What a command line asks for. -/
structure Arguments where
  target : String
  output : Option String := none
  format : Option OutputFormat := none
  config : Option String := none
  sizeLimit : Option Int := none
  logFile : Option String := none
  verbose : Bool := false
  quiet : Bool := false
deriving DecidableEq, Repr

/-- Why there is nothing to run: the help or the version is asked for, or the command line cannot
be understood. -/
inductive Stop
  | help
  | version
  | misuse
deriving DecidableEq, Repr

/-- The options. -/
inductive Flag
  | help
  | output
  | format
  | config
  | sizeLimit
  | logFile
  | verbose
  | version
  | quiet
deriving DecidableEq, Repr

namespace Flag

/-- The spellings of the options. -/
def spellings : List (String × Flag) :=
  [ ("-h", .help), ("--help", .help), ("-o", .output), ("--output", .output), ("--format", .format),
    ("--config", .config), ("--max-file-size", .sizeLimit), ("--log-file", .logFile),
    ("-v", .verbose), ("--verbose", .verbose), ("--version", .version), ("--quiet", .quiet),
    ("-q", .quiet) ]

/-- The option with a spelling. -/
def named? (spelling : String) : Option Flag :=
  (spellings.find? (·.1 = spelling)).map Prod.snd

/-- Whether an option has a value. -/
def takesValue : Flag → Bool
  | .output | .format | .config | .sizeLimit | .logFile => true
  | _ => false

/-- The options whose long spelling begins with a text. -/
def beginningWith (start : List Char) : List Flag :=
  (spellings.filter fun spelling => start.isPrefixOf spelling.1.toList).map Prod.snd

theorem named_spelling : ∀ entry ∈ spellings, named? entry.1 = some entry.2 := by decide

end Flag

/-! ## Words -/

/-- A word of a command line. -/
inductive Word
  | value (text : String)
  | separator
  | long (flag : Flag) (attached : Option (List Char))
  | short (flag : Flag) (rest : List Char)
  | unknown
deriving DecidableEq, Repr

/-- Digits of any script. -/
def isDigits (text : List Char) : Bool := text.all fun char => (Text.digitValue? char).isSome

/-- Whether a text after a dash makes it a negative number; a line feed may end it. -/
def isNumber (text : List Char) : Bool :=
  let text := if text.getLast? = some '\n' then text.dropLast else text
  match Text.cutAt '.' text with
  | none => !text.isEmpty && isDigits text
  | some (whole, fraction) => isDigits whole && !fraction.isEmpty && isDigits fraction

/-- A word that begins with a dash and is no option. -/
def Word.ofUnknown (text : String) (rest : List Char) : Word :=
  if isNumber rest ∨ rest.contains ' ' then .value text else .unknown

/-- A word that begins with two dashes, if it is clear what it means. -/
def Word.ofLong? (text : String) (rest : List Char) : Option Word :=
  let (start, attached) := match Text.cutAt '=' rest with
    | some (start, after) => (start, some after)
    | none => (rest, none)
  let start := '-' :: '-' :: start
  match Flag.named? text with
  | some flag => some (.long flag none)
  | none =>
    match Flag.named? (String.ofList start) with
    | some flag => some (.long flag attached)
    | none =>
      match Flag.beginningWith start with
      | [] => some (.ofUnknown text ('-' :: rest))
      | [flag] => some (.long flag attached)
      | _ => none

/-- A word that begins with a dash and a letter. -/
def Word.ofShort (text : String) (letter : Char) (rest : List Char) : Word :=
  match Flag.named? (String.ofList ['-', letter]) with
  | some flag => .short flag rest
  | none => .ofUnknown text (letter :: rest)

/-- A word, if it is clear what it means. -/
def Word.of? (text : String) : Option Word :=
  match text.toList with
  | '-' :: '-' :: rest => Word.ofLong? text rest
  | '-' :: letter :: rest => some (Word.ofShort text letter rest)
  | _ => some (.value text)

/-- The words of a command line, if it is clear what each of them means. -/
def wordsOf : List String → Option (List Word)
  | [] => some []
  | "--" :: rest => some (.separator :: rest.map .value)
  | text :: rest => do return (← Word.of? text) :: (← wordsOf rest)

/-! ## Options written together -/

/-- How a word of short options ends. -/
inductive Ending
  | complete
  | valued (flag : Flag) (value : List Char)
  | wanting (flag : Flag)
  | unknown
deriving DecidableEq, Repr

/-- The options in a word of short options before its end, and its end. An option with a value
takes the rest of the word, after an equals sign if there is one. -/
def together (flag : Flag) : List Char → Option (List Flag × Ending)
  | [] => some (if flag.takesValue then ([], .wanting flag) else ([flag], .complete))
  | '=' :: rest => if flag.takesValue then some ([], .valued flag rest) else none
  | letter :: rest =>
    if flag.takesValue then some ([], .valued flag (letter :: rest))
    else if letter = '-' then none
    else
      match Flag.named? (String.ofList ['-', letter]) with
      | none => some ([flag], .unknown)
      | some next => (together next rest).map fun found => (flag :: found.1, found.2)

/-! ## Reading -/

/-- What is read so far. -/
structure Progress where
  target : Option String := none
  arguments : Arguments := { target := "" }
  surplus : Bool := false
deriving Repr

namespace Progress

/-- Takes a value that belongs to no option. -/
def place (progress : Progress) (text : String) : Progress :=
  match progress.target with
  | none => { progress with target := some text }
  | some _ => { progress with surplus := true }

/-- Takes an option without a value. -/
def set (progress : Progress) : Flag → Except Stop Progress
  | .help => .error .help
  | .version => .error .version
  | .verbose => .ok { progress with arguments := { progress.arguments with verbose := true } }
  | .quiet => .ok { progress with arguments := { progress.arguments with quiet := true } }
  | _ => .error .misuse

/-- Takes an option with its value. -/
def give (progress : Progress) (flag : Flag) (value : String) : Except Stop Progress :=
  let arguments := progress.arguments
  match flag with
  | .output => .ok { progress with arguments := { arguments with output := some value } }
  | .config => .ok { progress with arguments := { arguments with config := some value } }
  | .logFile => .ok { progress with arguments := { arguments with logFile := some value } }
  | .format =>
    match OutputFormat.ofWord? value with
    | some format => .ok { progress with arguments := { arguments with format := some format } }
    | none => .error .misuse
  | .sizeLimit =>
    match Numeral.read 10 value with
    | .ok limit => .ok { progress with arguments := { arguments with sizeLimit := some limit } }
    | .error _ => .error .misuse
  | _ => .error .misuse

/-- Takes a word of short options, whose value may be the next word. -/
def setTogether (progress : Progress) (found : List Flag × Ending) (next : Option String) :
    Except Stop Progress := do
  match found.2, next with
  | .complete, _ => found.1.foldlM set progress
  | .unknown, _ => return { ← found.1.foldlM set progress with surplus := true }
  | .valued flag value, _ => (← found.1.foldlM set progress).give flag (String.ofList value)
  | .wanting flag, some value => (← found.1.foldlM set progress).give flag value
  | .wanting _, none => throw .misuse

/-- The arguments, if all words have a place and there is a target. -/
def finish (progress : Progress) : Except Stop Arguments :=
  match progress.target with
  | some target =>
    if progress.surplus then .error .misuse else .ok { progress.arguments with target }
  | none => .error .misuse

end Progress

/-- The options of a word, if it has any that can be taken. -/
def Word.options? : Word → Option (List Flag × Ending)
  | .value _ | .separator => none
  | .unknown => some ([], .unknown)
  | .long flag none => some (if flag.takesValue then ([], .wanting flag) else ([flag], .complete))
  | .long flag (some after) => if flag.takesValue then some ([], .valued flag after) else none
  | .short flag rest => together flag rest

/-- Takes words in order. The separator may stand right before or right after the target. -/
def takeWords (progress : Progress) : List Word → Except Stop Progress
  | [] => .ok progress
  | .value text :: .separator :: rest =>
    let placed := progress.place text
    takeWords { placed with surplus := placed.surplus || progress.target.isSome } rest
  | .value text :: rest => takeWords (progress.place text) rest
  | .separator :: rest =>
    takeWords { progress with surplus := progress.surplus || progress.target.isSome } rest
  | word :: rest =>
    match word.options? with
    | none => .error .misuse
    | some (flags, .wanting flag) =>
      match rest with
      | .value value :: others => do
        takeWords (← progress.setTogether (flags, .wanting flag) (some value)) others
      | _ => .error .misuse
    | some found => do takeWords (← progress.setTogether found none) rest

/-- The arguments that words stand for. -/
def Arguments.read (words : List String) : Except Stop Arguments :=
  match wordsOf words with
  | none => .error .misuse
  | some words => do (← takeWords {} words).finish

theorem read_nothing : Arguments.read [] = .error .misuse := rfl

end RouteTable.Command
