import GeoFilter.Number.Decimal

set_option autoImplicit false

/-! # The command line

A command line names one of three commands. Three options may stand before or after the name of
the command; after it they take precedence. An option is given once at each place, and its value
follows it or is attached to it. What starts with a hyphen is an option, a lone hyphen and all
that follows two hyphens excepted. -/

namespace GeoFilter.CommandLine

/-- The name of the program. -/
def programName : String := "geocql"

/-- The version of the program. -/
def version : String := "0.4.2"

/-- What the program is asked to do. -/
inductive Command where
  | check (filter : String)
  | filter (filter : String) (input : Option String)
  | shell (input : Option String)
  deriving DecidableEq

/-- The options that every command takes. -/
structure Options where
  config : Option String
  debug : Bool
  maxDepth : Option Nat
  deriving DecidableEq

/-- What a command line says. -/
inductive Request where
  | run (options : Options) (command : Command)
  | showVersion
  | showHelp
  deriving DecidableEq

/-! ## Names -/

/-- The names of commands. -/
inductive CommandName where
  | check
  | filter
  | shell
  deriving DecidableEq

/-- The command with a name. -/
def commandNamed : String → Option CommandName
  | "check" => some .check
  | "filter" => some .filter
  | "shell" => some .shell
  | _ => none

/-- The options with a value. -/
inductive ValueOption where
  | config
  | maxDepth
  | input
  deriving DecidableEq

/-- The option with a long name; the one for the input belongs to two commands only. -/
def optionNamed (command : Option CommandName) : String → Option ValueOption
  | "config" => some .config
  | "max-depth" => some .maxDepth
  | "input" => if command = some .filter ∨ command = some .shell then some .input else none
  | _ => none

/-! ## Reading arguments -/

/-- What was read at one place, before or after the name of the command. -/
structure Given where
  config : Option String
  maxDepth : Option Nat
  input : Option String
  debug : Bool
  positional : Option String

/-- Nothing was given. -/
def Given.nothing : Given := ⟨none, none, none, false, none⟩

/-- The greatest 64-bit number. -/
def maxSize : Nat := 0xFFFFFFFFFFFFFFFF

/-- Reads a size: digits, after a plus sign if there is one. -/
def size? (text : String) : Option Nat :=
  let digits := match text.toList with
    | '+' :: cs => cs
    | cs => cs
  if digits.isEmpty ∨ ¬ digits.all Char.isDigit then none
  else
    let n := Number.natOfDigits digits
    if n ≤ maxSize then some n else none

/-- Gives an option its value, which it must not have yet. -/
def Given.set (g : Given) (option : ValueOption) (value : String) : Option Given :=
  match option with
  | .config => if g.config.isSome ∨ value = "" then none else some { g with config := some value }
  | .input => if g.input.isSome ∨ value = "" then none else some { g with input := some value }
  | .maxDepth =>
    if g.maxDepth.isSome then none
    else (size? value).map fun n => { g with maxDepth := some n }

/-- Sets the switch for diagnostics, which must not be set yet. -/
def Given.setDebug (g : Given) : Option Given :=
  if g.debug then none else some { g with debug := true }

/-- Gives the command its filter, which it must not have yet. -/
def Given.setPositional (command : CommandName) (g : Given) (value : String) : Option Given :=
  if command = .shell ∨ g.positional.isSome then none
  else some { g with positional := some value }

/-- Whether an argument may be the value of the option before it. -/
def isValue (argument : String) : Bool := argument = "-" || argument.toList.head? != some '-'

/-- One argument, taken apart. -/
inductive Argument where
  | plain (text : String)
  | endOfOptions
  | long (name : String) (value : Option String)
  | short (name : Char) (value : Option String)

/-- Cuts a text at its first equals sign. -/
def cutAtEquals (cs : List Char) : String × Option String :=
  let name := cs.takeWhile (· ≠ '=')
  match cs.drop name.length with
  | _ :: value => (String.ofList name, some (String.ofList value))
  | [] => (String.ofList name, none)

/-- Takes an argument apart. -/
def Argument.of (text : String) : Argument :=
  match text.toList with
  | ['-', '-'] => .endOfOptions
  | '-' :: '-' :: cs =>
    let (name, value) := cutAtEquals cs
    .long name value
  | '-' :: c :: cs =>
    let value := match cs with
      | [] => none
      | '=' :: value => some (String.ofList value)
      | value => some (String.ofList value)
    .short c value
  | _ => .plain text

/-- The outcome of reading the arguments of a command. -/
inductive Outcome where
  | given (g : Given)
  | help

/-- Reads the arguments of a command; `plainOnly` after two hyphens. -/
def readCommand (command : CommandName) (plainOnly : Bool) (g : Given) :
    List String → Option Outcome
  | [] => some (.given g)
  | argument :: rest =>
    if plainOnly then
      match g.setPositional command argument with
      | some g => readCommand command true g rest
      | none => none
    else
      let takeValue (option : ValueOption) (attached : Option String) : Option Outcome :=
        match attached, rest with
        | some value, rest =>
          match g.set option value with
          | some g => readCommand command false g rest
          | none => none
        | none, value :: rest =>
          if isValue value then
            match g.set option value with
            | some g => readCommand command false g rest
            | none => none
          else none
        | none, [] => none
      match Argument.of argument with
      | .endOfOptions => readCommand command true g rest
      | .plain text =>
        match g.setPositional command text with
        | some g => readCommand command false g rest
        | none => none
      | .long "debug" none =>
        match g.setDebug with
        | some g => readCommand command false g rest
        | none => none
      | .long "help" none => some .help
      | .long name value =>
        match optionNamed (some command) name with
        | some option => takeValue option value
        | none => none
      | .short 'i' value =>
        if command = .check then none else takeValue .input value
      | .short 'h' _ => some .help
      | .short _ _ => none

/-- The request that the options at both places and the arguments of a command make. -/
def request (outer : Given) (command : CommandName) (inner : Given) : Option Request :=
  let options : Options :=
    ⟨inner.config <|> outer.config, inner.debug || outer.debug,
      inner.maxDepth <|> outer.maxDepth⟩
  match command, inner.positional with
  | .check, some text => some (.run options (.check text))
  | .filter, some text => some (.run options (.filter text inner.input))
  | .shell, none => some (.run options (.shell inner.input))
  | _, _ => none

/-- Whether there is help on what is named: nothing, a command, or the help itself. -/
def isHelpTopic : List String → Bool
  | [] => true
  | [topic] => topic = "help" || (commandNamed topic).isSome
  | _ => false

/-- Reads arguments up to the name of the command. -/
def readTop (g : Given) : List String → Option Request
  | [] => none
  | argument :: rest =>
    let takeValue (option : ValueOption) (attached : Option String) : Option Request :=
      match attached, rest with
      | some value, rest =>
        match g.set option value with
        | some g => readTop g rest
        | none => none
      | none, value :: rest =>
        if isValue value then
          match g.set option value with
          | some g => readTop g rest
          | none => none
        else none
      | none, [] => none
    match Argument.of argument with
    | .endOfOptions => none
    | .plain "help" => if isHelpTopic rest then some .showHelp else none
    | .plain text =>
      match commandNamed text with
      | some command =>
        match readCommand command false .nothing rest with
        | some (.given inner) => request g command inner
        | some .help => some .showHelp
        | none => none
      | none => none
    | .long "debug" none =>
      match g.setDebug with
      | some g => readTop g rest
      | none => none
    | .long "version" none => some .showVersion
    | .long "help" none => some .showHelp
    | .long name value =>
      match optionNamed none name with
      | some option => takeValue option value
      | none => none
    | .short 'V' _ => some .showVersion
    | .short 'h' _ => some .showHelp
    | .short _ _ => none

/-- Reads a command line; nothing for one that is not understood. -/
def parse (arguments : List String) : Option Request := readTop .nothing arguments

end GeoFilter.CommandLine
