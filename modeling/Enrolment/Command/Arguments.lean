import Enrolment.Command.Basic

/-!
# Enrolment.Command.Arguments

Reading a command from the arguments of the program. The first argument names the command, and its
options follow. An option is a word behind two dashes or a letter behind one; its value follows as
an argument of its own, behind an equals sign, or directly behind the letter. A value that is an
argument of its own does not start with a dash, unless it is one. Each option stands at most once,
and two dashes alone end the options. The file of the settings is given by an option, else by the
environment, else it is the standard one; in no case is its path empty.
-/

namespace Enrolment

/-! ## Words -/

inductive ArgumentWord
  /-- Two dashes alone. -/
  | endOfOptions
  /-- A name behind two dashes, and what stands behind the first equals sign. -/
  | long (name : String) (value : Option String)
  /-- A letter behind a dash, and what stands behind it. -/
  | short (letter : Char) (rest : List Char)
  | plain
  deriving DecidableEq, Repr

def ArgumentWord.ofText (text : String) : ArgumentWord :=
  match text.toList with
  | ['-', '-'] => endOfOptions
  | '-' :: '-' :: cs =>
    let name := cs.takeWhile (· ≠ '=')
    match cs.drop name.length with
    | [] => long (String.ofList name) none
    | _ :: value => long (String.ofList name) (some (String.ofList value))
  | '-' :: letter :: rest => short letter rest
  | _ => plain

/-- The value that stands directly behind a letter, if any does. An equals sign before it does not
count. -/
def valueBehindLetter : List Char → Option String
  | [] => none
  | '=' :: cs => some (String.ofList cs)
  | cs => some (String.ofList cs)

/-! ## Options -/

inductive CommandOption
  | settingsPath
  | logLevel
  | dryRun
  | help
  deriving DecidableEq, Repr

namespace CommandOption

def name : CommandOption → String
  | settingsPath => "config"
  | logLevel => "log-level"
  | dryRun => "dry-run"
  | help => "help"

def letter? : CommandOption → Option Char
  | settingsPath => some 'c'
  | help => some 'h'
  | logLevel | dryRun => none

def takesValue : CommandOption → Bool
  | settingsPath | logLevel => true
  | dryRun | help => false

end CommandOption

inductive CommandName
  | provision
  | validate
  | identity
  deriving DecidableEq, Repr

namespace CommandName

def ofWord? (word : String) : Option CommandName :=
  if word = "provision" then some provision
  else if word = "validate" then some validate
  else if word = "show" then some identity
  else none

def options : CommandName → List CommandOption
  | provision => [.settingsPath, .logLevel, .dryRun, .help]
  | validate | identity => [.settingsPath, .help]

end CommandName

inductive UsageError
  | noCommand
  | unexpected (argument : String)
  | repeated (option : CommandOption)
  | valueMissing (option : CommandOption)
  | valueRefused (option : CommandOption)
  | emptyPath
  deriving DecidableEq, Repr

def UsageError.message : UsageError → String
  | noCommand => "a command is required: provision, validate or show"
  | unexpected argument => "unexpected argument '" ++ argument ++ "'"
  | repeated option => "--" ++ option.name ++ " can be given only once"
  | valueMissing option => "--" ++ option.name ++ " requires a value"
  | valueRefused option => "--" ++ option.name ++ " takes no value"
  | emptyPath => "the path of the settings is empty"

structure GivenOptions where
  settingsPath : Option String
  logLevel : Option String
  dryRun : Bool
  deriving DecidableEq, Repr

namespace GivenOptions

def empty : GivenOptions := ⟨none, none, false⟩

def addValue (g : GivenOptions) (option : CommandOption) (value : String) :
    Except UsageError GivenOptions :=
  match option with
  | .settingsPath =>
    if g.settingsPath.isSome then .error (.repeated option)
    else if value = "" then .error .emptyPath
    else .ok { g with settingsPath := some value }
  | .logLevel =>
    if g.logLevel.isSome then .error (.repeated option)
    else .ok { g with logLevel := some value }
  | .dryRun | .help => .error (.valueRefused option)

/-- Adds an option that takes no value. Help ends the options. -/
def addFlag (g : GivenOptions) (option : CommandOption) :
    Except UsageError (Option GivenOptions) :=
  match option with
  | .dryRun => if g.dryRun then .error (.repeated option) else .ok (some { g with dryRun := true })
  | .help => .ok none
  | .settingsPath | .logLevel => .error (.valueMissing option)

end GivenOptions

/-- Reads the arguments of a command: the options given, or none if help is asked for. -/
def readOptions (command : CommandName) :
    List String → GivenOptions → Except UsageError (Option GivenOptions)
  | [], given => .ok (some given)
  | argument :: rest, given => do
    let (option, value) ← match ArgumentWord.ofText argument with
      | .endOfOptions => match rest with
        | [] => return some given
        | next :: _ => throw (.unexpected next)
      | .plain => throw (.unexpected argument)
      | .long name value => match command.options.find? fun o => o.name = name with
        | some option => pure (option, value)
        | none => throw (.unexpected argument)
      | .short letter behind => match command.options.find? fun o => o.letter? = some letter with
        | some option => pure (option, if option.takesValue then valueBehindLetter behind else none)
        | none => throw (.unexpected argument)
    match value with
    | some value => readOptions command rest (← given.addValue option value)
    | none =>
      if option.takesValue then
        match rest with
        | [] => throw (.valueMissing option)
        | value :: rest =>
          if ArgumentWord.ofText value = .plain then
            readOptions command rest (← given.addValue option value)
          else throw (.valueMissing option)
      else match ← given.addFlag option with
        | some given => readOptions command rest given
        | none => return none

/-! ## The arguments of the program -/

/-- What arguments ask for. -/
inductive Invocation
  | command (c : Command)
  | version
  | help
  deriving DecidableEq, Repr

namespace Invocation

def ofOptions (env : Environment) (name : CommandName) (given : GivenOptions) :
    Except UsageError Invocation := do
  let path := (given.settingsPath.or env.settingsPath).getD Settings.standardPath
  if path = "" then throw .emptyPath
  return .command <| match name with
    | .provision => .provision path given.logLevel given.dryRun
    | .validate => .validate path
    | .identity => .identity path

/-- Whether a word has a help text: it names a command, or asks for help. -/
def isHelpTopic (word : String) : Bool := (CommandName.ofWord? word).isSome || word = "help"

/-- Reads what asks for help, and on which command. -/
def ofHelpTopics : List String → Except UsageError Invocation
  | [] => .ok help
  | topic :: rest =>
    if isHelpTopic topic then
      match rest with
      | [] => .ok help
      | next :: _ => .error (.unexpected next)
    else .error (.unexpected topic)

def parse (env : Environment) : List String → Except UsageError Invocation
  | [] => .error .noCommand
  | word :: rest =>
    match ArgumentWord.ofText word with
    | .endOfOptions => match rest with
      | [] => .error .noCommand
      | next :: _ => .error (.unexpected next)
    | .long name value =>
      if name = "version" ∧ value = none then .ok version
      else if name = "help" ∧ value = none then .ok help
      else .error (.unexpected word)
    | .short letter _ =>
      if letter = 'V' then .ok version
      else if letter = 'h' then .ok help
      else .error (.unexpected word)
    | .plain => match CommandName.ofWord? word with
      | none => if word = "help" then ofHelpTopics rest else .error (.unexpected word)
      | some name => do
        match ← readOptions name rest .empty with
        | some given => ofOptions env name given
        | none => return .help

end Invocation

end Enrolment
