/-! Command lines: what the arguments of the program ask for.
-/

namespace Tablewright.Command

/-- What the program can do with a schema.
-/
inductive Subcommand
  | generate
  | provision
  | plan
  | validate
  deriving DecidableEq, Repr

namespace Subcommand

/-- Every subcommand.
-/
def all : List Subcommand := [generate, provision, plan, validate]

/-- The name of a subcommand.
-/
def name : Subcommand → String
  | generate => "generate"
  | provision => "provision"
  | plan => "plan"
  | validate => "validate"

/-- The subcommand of a name.
-/
def ofName? (text : String) : Option Subcommand :=
  all.find? fun subcommand => subcommand.name == text

end Subcommand

/-- The options of the command line.
-/
inductive Switch
  | config
  | verbose
  | out
  | dryRun
  | help
  | version
  deriving DecidableEq, Repr

namespace Switch

/-- The option is followed by a value.
-/
def takesValue : Switch → Bool
  | config => true
  | out => true
  | _ => false

/-- The name of an option behind two dashes.
-/
def long : Switch → String
  | config => "config"
  | verbose => "verbose"
  | out => "out"
  | dryRun => "dry-run"
  | help => "help"
  | version => "version"

/-- The letter of an option behind one dash.
-/
def short? : Switch → Option Char
  | config => some 'c'
  | verbose => some 'v'
  | out => some 'o'
  | dryRun => none
  | help => some 'h'
  | version => some 'V'

/-- The options that can be given before a subcommand, or after it.
-/
def allowed : Option Subcommand → List Switch
  | none => [config, verbose, help, version]
  | some .generate => [out, config, verbose, help]
  | some .provision => [dryRun, config, verbose, help]
  | some _ => [config, verbose, help]

end Switch

/-- What a run is asked to do.
-/
inductive Action
  | generate (schema : String) (directory : Option String)
  | provision (schema : String) (isDryRun : Bool)
  | plan (schema : String)
  | validate (schema : String)
  deriving DecidableEq, Repr

/-- A run: the settings file that it names and what it is asked to do.
-/
structure Invocation where
  config : Option String
  action : Action
  deriving DecidableEq, Repr

/-- Why there is nothing to run: the arguments are wrong, or they ask about the program.
-/
inductive Ending
  | usage
  | version
  | help (subcommand : Option Subcommand)
  deriving DecidableEq, Repr

/-- The arguments that were read so far, before or after a subcommand.
-/
structure Given where
  config : Option String := none
  isVerbose : Bool := false
  directory : Option String := none
  isDryRun : Bool := false
  schema : Option String := none
  deriving DecidableEq, Repr

namespace Given

/-- Sets a path, which must not be empty nor be given before.
-/
def path (old : Option String) (value : String) : Except Ending (Option String) :=
  if value = "" ∨ old.isSome then .error .usage else .ok (some value)

/-- Sets the value of an option.
-/
def set (given : Given) (switch : Switch) (value : String) : Except Ending Given :=
  match switch with
  | .config => do return { given with config := ← path given.config value }
  | .out => do return { given with directory := ← path given.directory value }
  | _ => .error .usage

/-- Sets the path of the schema.
-/
def setSchema (given : Given) (value : String) : Except Ending Given := do
  return { given with schema := ← path given.schema value }

/-- Notes an option without a value. Questions about the program end the reading at once.
-/
def flag (given : Given) (subcommand : Option Subcommand) : Switch → Except Ending Given
  | .help => .error (.help subcommand)
  | .version => .error .version
  | .verbose =>
    if given.isVerbose then .error .usage else .ok { given with isVerbose := true }
  | .dryRun => if given.isDryRun then .error .usage else .ok { given with isDryRun := true }
  | _ => .error .usage

end Given

/-- The option of a name, where it is allowed.
-/
def longSwitch? (subcommand : Option Subcommand) (name : String) : Option Switch :=
  (Switch.allowed subcommand).find? fun switch => switch.long == name

/-- The option of a letter, where it is allowed.
-/
def shortSwitch? (subcommand : Option Subcommand) (letter : Char) : Option Switch :=
  (Switch.allowed subcommand).find? fun switch => switch.short? == some letter

/-- Reads an argument behind two dashes. An option that still needs its value is given back.
-/
def readLong (subcommand : Option Subcommand) (given : Given) (text : List Char)
    : Except Ending (Given × Option Switch) :=
  let name := String.ofList (text.takeWhile (· != '='))
  match longSwitch? subcommand name, text.dropWhile (· != '=') with
  | none, _ => .error .usage
  | some switch, '=' :: value => do
    if switch.takesValue then
      return (← given.set switch (String.ofList value), none)
    else
      .error .usage
  | some switch, _ => do
    if switch.takesValue then
      return (given, some switch)
    else
      return (← given.flag subcommand switch, none)

/-- Reads letters behind one dash. What follows the letter of an option with a value is the value,
and an equals sign between them does not belong to it.
-/
def readShort (subcommand : Option Subcommand) (given : Given)
    : List Char → Except Ending (Given × Option Switch)
  | [] => .ok (given, none)
  | letter :: rest =>
    match shortSwitch? subcommand letter with
    | none => .error .usage
    | some switch => do
      if switch.takesValue then
        match rest with
        | [] => return (given, some switch)
        | '=' :: value => return (← given.set switch (String.ofList value), none)
        | value => return (← given.set switch (String.ofList value), none)
      else
        readShort subcommand (← given.flag subcommand switch) rest

/-- The sorts of arguments: the mark after which no option follows, options by name or by letters,
and all others.
-/
inductive Argument
  | endOfOptions
  | long (text : List Char)
  | short (text : List Char)
  | plain (text : String)
  deriving DecidableEq, Repr

/-- The sort of an argument. A dash alone is not an option.
-/
def Argument.ofText (text : String) : Argument :=
  match text.toList with
  | ['-', '-'] => endOfOptions
  | '-' :: '-' :: rest => long rest
  | ['-'] => plain text
  | '-' :: rest => short rest
  | _ => plain text

/-- What follows an option: fewer arguments than there were, or as many.
-/
abbrev Remaining (rest : List String) :=
  { after : List String // after.length ≤ rest.length }

/-- Reads the value of an option from the next argument, which must not be an option.
-/
def readValue (given : Given) (switch : Switch)
    : (rest : List String) → Except Ending (Given × Remaining rest)
  | [] => .error .usage
  | value :: after =>
    match Argument.ofText value with
    | .plain value => do return (← given.set switch value, ⟨after, Nat.le_succ _⟩)
    | _ => .error .usage

/-- Reads an option, whose value may be the next argument. Gives the arguments behind it.
-/
def readSwitch (subcommand : Option Subcommand) (given : Given) (argument : Argument)
    (rest : List String)
    : Except Ending (Given × Remaining rest) := do
  let (given, pending) ← match argument with
    | .long text => readLong subcommand given text
    | .short text => readShort subcommand given text
    | _ => .error .usage
  match pending with
  | none => return (given, ⟨rest, Nat.le_refl _⟩)
  | some switch => readValue given switch rest

/-- Reads arguments that are no options: the schema and nothing else.
-/
def readPlain (given : Given) : List String → Except Ending Given
  | [] => .ok given
  | value :: rest => do readPlain (← given.setSchema value) rest

/-- Reads the arguments behind a subcommand.
-/
def readRest (subcommand : Subcommand) (given : Given) (arguments : List String)
    : Except Ending Given :=
  match arguments with
  | [] => .ok given
  | argument :: rest =>
    match Argument.ofText argument with
    | .endOfOptions => readPlain given rest
    | .plain value => do readRest subcommand (← given.setSchema value) rest
    | option => do
      let (given, ⟨after, _⟩) ← readSwitch (some subcommand) given option rest
      readRest subcommand given after
termination_by arguments.length
decreasing_by all_goals (simp only [List.length_cons]; omega)

/-- What a subcommand is asked to do.
-/
def Subcommand.action (subcommand : Subcommand) (given : Given) (schema : String) : Action :=
  match subcommand with
  | generate => .generate schema given.directory
  | provision => .provision schema given.isDryRun
  | plan => .plan schema
  | validate => .validate schema

/-- The question that follows the word `help`.
-/
def readHelp : List String → Ending
  | [] => .help none
  | ["help"] => .help none
  | [name] =>
    match Subcommand.ofName? name with
    | some subcommand => .help (some subcommand)
    | none => .usage
  | _ => .usage

/-- Reads all arguments. An option behind the subcommand counts more than one before it.
-/
def read (given : Given) (arguments : List String) : Except Ending Invocation :=
  match arguments with
  | [] => .error .usage
  | argument :: rest =>
    match Argument.ofText argument with
    | .endOfOptions => .error .usage
    | .plain "help" => .error (readHelp rest)
    | .plain name =>
      match Subcommand.ofName? name with
      | none => .error .usage
      | some subcommand => do
        let inner ← readRest subcommand {} rest
        match inner.schema with
        | none => .error .usage
        | some schema =>
          return ⟨inner.config <|> given.config, subcommand.action inner schema⟩
    | option => do
      let (given, ⟨after, _⟩) ← readSwitch none given option rest
      read given after
termination_by arguments.length
decreasing_by simp only [List.length_cons]; omega

end Tablewright.Command
