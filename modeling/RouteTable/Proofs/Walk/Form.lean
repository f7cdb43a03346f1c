/-
**The forms of a call.**

A call is read in one of eight forms. Which one is decided by the name of the call, by whether it
has a block, and by two facts about its surroundings: whether a resource block is open, and which
parameters the enclosing blocks have.

* `Call.form_eq`: the name of a call decides its form, or else its receiver does;
* `Call.frame?_namespace`, `Call.frame?_scope`, `Call.frame?_withOptions`: the frames of blocks;
* `Plan.ofCall_form`: the form of a call decides which reading gives its plan.
-/

import RouteTable.Plan

namespace RouteTable

/-- The forms in which a call is read. -/
inductive Form
  | resource (kind : ResourceKind)
  | frame
  | grouping (grouping : Grouping)
  | verb
  | root
  | template
  | named
  | unknown
deriving DecidableEq, Repr

/-- Whether a value is a text, with or without interpolation. -/
def Value.isText : Value → Bool
  | .atom (.text _) | .atom (.interpolated _) => true
  | _ => false

/-- The name of an identifier. -/
def Value.identifier? : Value → Option String
  | .atom (.identifier name) => some name
  | _ => none

namespace Call

/-- Whether the call is a verb of either dialect. -/
def isVerb (call : Call) : Bool := verbs.contains call.name || call.name = legacyVerb

/-- The form of a call that is neither a resource nor opens a frame or a grouping. -/
def plainForm (call : Call) (parameters : List String) : Form :=
  if call.isVerb then .verb
  else if call.name = "root" then .root
  else if call.name = "concern" then .template
  else if call.isNamedRoute parameters then .named
  else .unknown

/-- The grouping that the block of a call opens; there is none outside of a resource block. -/
def opensGrouping? (call : Call) (around : Surroundings) : Option Grouping :=
  if call.hasBlock && around.grouping.isSome then Grouping.ofWord? call.name else none

/-- The form of a call; the first rule that fits decides. -/
def form (call : Call) (around : Surroundings) : Form :=
  match ResourceKind.ofWord? call.name with
  | some kind => .resource kind
  | none =>
    if call.hasBlock && call.namesFrame then .frame
    else match call.opensGrouping? around with
      | some opened => .grouping opened
      | none => call.plainForm around.parameters

/-- The names that decide the form of a call, some of them only with a block or inside a resource
block. -/
def knownNames : List String :=
  ["resources", "resource", "namespace", "scope", "controller", "with_options", "member",
    "collection", "get", "post", "put", "patch", "delete", "match", "connect", "root", "concern"]

/-- The form that the name of a call decides, together with its block and with whether a resource
block is open. Where it decides nothing, the receiver does. -/
def wordForm? (call : Call) (inResource : Bool) : Option Form :=
  match ResourceKind.ofWord? call.name with
  | some kind => some (.resource kind)
  | none =>
    if call.hasBlock && call.namesFrame then some .frame
    else match if call.hasBlock && inResource then Grouping.ofWord? call.name else none with
      | some opened => some (.grouping opened)
      | none =>
        if call.isVerb then some .verb
        else if call.name = "root" then some .root
        else if call.name = "concern" then some .template
        else none

/-- The form of a call of which the name decides nothing. -/
def receiverForm (call : Call) (parameters : List String) : Form :=
  if call.isNamedRoute parameters then .named else .unknown

/-- The name that a verb adds to the innermost resource: inside a resource block, a bare action. It
belongs where the `:on` of the call says, or else where the block says. -/
def addedName? (call : Call) (around : Surroundings) : Option (Grouping × String) :=
  match around.grouping, extensionAction? call, call.keywordOptions with
  | some enclosing, .ok (some action), .ok own =>
    some (Grouping.ofOption (optionValue own "on") enclosing, action)
  | _, _, _ => none

theorem plainForm_ne_grouping (call : Call) (parameters : List String) (grouping : Grouping) :
    call.plainForm parameters ≠ .grouping grouping := by
  unfold plainForm
  repeat' split
  all_goals exact nofun

/-- A named route is a call on a block parameter with a text as first argument. -/
theorem isNamedRoute_eq (call : Call) (parameters : List String) :
    call.isNamedRoute parameters =
      ((call.receiver.bind Value.identifier?).any parameters.contains &&
        call.firstArgument?.any Value.isText) := by
  unfold isNamedRoute
  cases call.receiver with
  | none => rfl
  | some receiver =>
    cases receiver with
    | array | hash | call => rfl
    | atom receiver =>
      cases receiver with
      | symbol | text | interpolated | pattern | expression | nothing => rfl
      | identifier name =>
        show _ = (parameters.contains name && _)
        cases call.firstArgument? with
        | none => exact (Bool.and_false _).symm
        | some argument =>
          cases argument with
          | array | hash | call => exact (Bool.and_false _).symm
          | atom argument =>
            cases argument with
            | text | interpolated => exact (Bool.and_true _).symm
            | symbol | pattern | identifier | expression | nothing =>
              exact (Bool.and_false _).symm

theorem wordForm?_congr {call twin : Call} (name : twin.name = call.name)
    (block : twin.hasBlock = call.hasBlock) (inResource : Bool) :
    twin.wordForm? inResource = call.wordForm? inResource := by
  unfold wordForm? namesFrame isVerb
  rw [name, block]

/-- Of an unknown name nothing is decided. -/
theorem wordForm?_unknown {call : Call} (unknown : call.name ∉ knownNames) (inResource : Bool) :
    call.wordForm? inResource = none := by
  simp only [knownNames, List.mem_cons, List.not_mem_nil, or_false, not_or] at unknown
  simp [wordForm?, ResourceKind.ofWord?, namesFrame, Grouping.ofWord?, isVerb, verbs, legacyVerb,
    unknown]

/-- A verb is decided to be one by its name alone. -/
theorem wordForm?_of_isVerb {call : Call} (verb : call.isVerb) (inResource : Bool) :
    call.wordForm? inResource = some .verb := by
  have word : call.name ∈ verbs ++ [legacyVerb] := by
    simpa [isVerb] using verb
  simp only [verbs, legacyVerb, List.cons_append, List.nil_append, List.mem_cons, List.not_mem_nil,
    or_false] at word
  rcases word with word | word | word | word | word | word | word
  all_goals
    simp [wordForm?, word, ResourceKind.ofWord?, namesFrame, Grouping.ofWord?, isVerb, verbs,
      legacyVerb]

/-- The name of a call decides its form, or else its receiver does. -/
theorem form_eq (call : Call) (around : Surroundings) :
    call.form around =
      (call.wordForm? around.grouping.isSome).getD (call.receiverForm around.parameters) := by
  unfold form wordForm? opensGrouping? plainForm receiverForm
  cases ResourceKind.ofWord? call.name with
  | some kind => rfl
  | none =>
    dsimp only
    split
    · rfl
    · split
      · rfl
      · repeat' split
        all_goals rfl

/-- A verb is read as one in all surroundings. -/
theorem form_of_isVerb {call : Call} {around : Surroundings} (verb : call.isVerb) :
    call.form around = .verb := by
  rw [form_eq, wordForm?_of_isVerb verb, Option.getD_some]

/-- A call of the name of a root is read as one in all surroundings. -/
theorem form_of_root {call : Call} {around : Surroundings} (root : call.name = "root") :
    call.form around = .root := by
  simp [form_eq, wordForm?, root, ResourceKind.ofWord?, namesFrame, Grouping.ofWord?, isVerb,
    verbs, legacyVerb]

/-- A call with a block and with the name of a frame is read as one in all surroundings. -/
theorem form_of_namesFrame {call : Call} {around : Surroundings} (given : call.hasBlock)
    (word : call.namesFrame) : call.form around = .frame := by
  have other : ResourceKind.ofWord? call.name = none := by
    simp only [namesFrame, List.contains_iff_mem, List.mem_cons, List.not_mem_nil, or_false] at word
    rcases word with word | word | word | word
    all_goals simp [ResourceKind.ofWord?, word]
  simp [form, other, given, word]

section Undecided

variable {call : Call} {around : Surroundings}
  (undecided : call.wordForm? around.grouping.isSome = none)
include undecided

/-- Where nothing is decided by the name, a call on a block parameter may be a named route. -/
theorem form_named (named : call.isNamedRoute around.parameters) : call.form around = .named := by
  rw [form_eq, undecided, Option.getD_none, receiverForm, if_pos named]

/-- Where nothing is decided by the name and the call is no named route, nothing is known of it. -/
theorem form_unknown (unnamed : call.isNamedRoute around.parameters = false) :
    call.form around = .unknown := by
  rw [form_eq, undecided, Option.getD_none, receiverForm, unnamed]
  rfl

end Undecided

/-- A member or collection block stands in a resource block. -/
theorem form_grouping {call : Call} {around : Surroundings} {grouping : Grouping}
    (read : call.form around = .grouping grouping) : around.grouping.isSome := by
  unfold form at read
  split at read
  · cases read
  · split at read
    · cases read
    · split at read
      · next opens =>
        unfold opensGrouping? at opens
        split at opens
        · next inside => exact (Bool.and_eq_true_iff.mp inside).2
        · cases opens
      · exact absurd read (plainForm_ne_grouping _ _ _)

/-- Nothing else is read as a root than a call of that name. -/
theorem form_root {call : Call} {around : Surroundings} (read : call.form around = .root) :
    call.name = "root" := by
  unfold form at read
  split at read
  · cases read
  · split at read
    · cases read
    · split at read
      · cases read
      · unfold plainForm at read
        split at read
        · cases read
        · split at read
          · assumption
          · repeat' split at read
            all_goals cases read

end Call

/-! ## Frames -/

namespace Call

variable {call : Call}

/-- A namespace with a name puts a frame around its block. -/
theorem frame?_namespace (word : call.name = "namespace") :
    call.frame? = .ok ((call.firstLiteral?.filter (· ≠ "")).map .namespaced) := by
  simp [frame?, word, pure, Except.pure]

section Options

variable {own : Assoc String Value} (read : call.keywordOptions = .ok own)
include read

/-- A scope puts a frame around its block, with the module and the controller of its options. -/
theorem frame?_scope (word : call.name = "scope") : call.frame? = .ok (some
    (.scoped (optionValue own "module").literal? (optionValue own "controller"))) := by
  simp [frame?, word, read, bind, Except.bind, pure, Except.pure]

/-- A call of `with_options` hands down its options. -/
theorem frame?_withOptions (word : call.name = "with_options") :
    call.frame? = .ok (some (.withOptions own)) := by
  simp [frame?, word, read, bind, Except.bind, pure, Except.pure]

end Options

end Call

/-! ## Missing parts -/

section Missing

variable {call : Call}

theorem extensionAction?_options (unread : call.options = none) :
    extensionAction? call = .error .options := by
  simp [extensionAction?, Call.keywordOptions, unread, bind, Except.bind]

/-- Only missing options keep a call from being read as an addition to a resource. -/
theorem extensionAction?_ok {entries : List (Atom × Value)} (read : call.options = some entries) :
    ∃ action, extensionAction? call = .ok action := by
  simp only [extensionAction?, Call.keywordOptions, Call.mapping?, read, bind, Except.bind, pure,
    Except.pure]
  split
  · exact ⟨none, rfl⟩
  · split
    · exact ⟨_, rfl⟩
    · exact ⟨none, rfl⟩
    · split
      · exact ⟨none, rfl⟩
      · exact ⟨_, rfl⟩

theorem Call.keywordOptions_ok {entries : List (Atom × Value)}
    (read : call.options = some entries) : ∃ options, call.keywordOptions = .ok options :=
  ⟨_, by rw [Call.keywordOptions, read]⟩

end Missing

namespace Plan

/-- A verb adds a name or is a direct route. -/
theorem ofVerb_eq (around : Surroundings) (call : Call) :
    ofVerb around call = match call.addedName? around with
      | some added => .ok (.extension added.1 added.2)
      | none => (directRoute around.scopes (call.name = Call.legacyVerb) call).map .outcome := by
  unfold ofVerb Call.addedName?
  cases around.grouping with
  | none => rfl
  | some enclosing =>
    cases parts : call.options with
    | none =>
      rw [extensionAction?_options parts, directRoute_options parts]
      rfl
    | some entries =>
      obtain ⟨action, bare⟩ := extensionAction?_ok parts
      obtain ⟨own, read⟩ := Call.keywordOptions_ok parts
      rw [bare, read]
      cases action <;> rfl

/-- The plan of a call that is read in a form. -/
def ofForm (around : Surroundings) (call : Call) : Form → Except ShapeFault Plan
  | .resource kind => (ResourceDeclaration.ofCall around.scopes call).map fun declaration =>
    if declaration.controllers.isEmpty then skip .noResourceName else .resource kind declaration
  | .frame => call.frame?.map fun opened => (opened.map Plan.frame).getD .descend
  | .grouping opened => .ok (.grouping opened)
  | .verb => ofVerb around call
  | .root => (rootRoute around.scopes call).map .outcome
  | .template => .ok (skip .template)
  | .named => (directRoute around.scopes true call).map .outcome
  | .unknown => .ok .descend

/-- What is read of a call besides its form: its arguments, its options, for a frame its name, and
of the name of a verb only whether it is that of the older dialect. -/
theorem ofForm_congr {around other : Surroundings} {call twin : Call} {form : Form}
    (scopes : other.scopes = around.scopes) (grouping : other.grouping = around.grouping)
    (arguments : twin.arguments = call.arguments) (options : twin.options = call.options)
    (frame : form = .frame → twin.name = call.name)
    (verb : form = .verb → (twin.name = Call.legacyVerb ↔ call.name = Call.legacyVerb)) :
    ofForm other twin form = ofForm around call form := by
  obtain ⟨scopes', parameters', grouping'⟩ := other
  obtain ⟨name', line', receiver', arguments', options', block'⟩ := twin
  dsimp only at scopes grouping arguments options frame verb
  subst scopes grouping arguments options
  cases form with
  | frame =>
    rw [frame rfl]
    rfl
  | verb =>
    rw [ofForm, ofForm, ofVerb_eq, ofVerb_eq]
    dsimp only
    rw [decide_eq_decide.mpr (verb rfl)]
    rfl
  | resource kind => rfl
  | grouping opened => rfl
  | root => rfl
  | template => rfl
  | named => rfl
  | unknown => rfl

theorem ofOther_plainForm (around : Surroundings) (call : Call) :
    ofOther around call = ofForm around call (call.plainForm around.parameters) := by
  unfold ofOther Call.plainForm Call.isVerb
  split
  · rfl
  · split
    · rfl
    · split
      · rfl
      · split
        · rfl
        · rfl

/-- **The form of a call decides which reading gives its plan.** -/
theorem ofCall_form (around : Surroundings) (call : Call) :
    ofCall around call = ofForm around call (call.form around) := by
  unfold ofCall Call.form
  cases ResourceKind.ofWord? call.name with
  | some kind => rfl
  | none =>
    dsimp only
    split
    · show _ = call.frame?.map _
      cases call.frame? with
      | error fault => rfl
      | ok opened => cases opened <;> rfl
    · unfold Call.opensGrouping?
      cases Grouping.ofWord? call.name with
      | none => simp only [ite_self]; exact ofOther_plainForm around call
      | some opened =>
        dsimp only
        split
        · rfl
        · exact ofOther_plainForm around call

end Plan

end RouteTable
