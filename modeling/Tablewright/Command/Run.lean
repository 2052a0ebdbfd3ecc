import Tablewright.Command.Help
import Tablewright.Package.Digest
import Tablewright.Package.Write
import Tablewright.Provision.Preview
import Tablewright.Schema.Load
import Tablewright.Settings.Load
import Tablewright.Store.WebApi

/-! The program as its user sees it: arguments in, an exit code and two texts out.
-/

namespace Tablewright.Command

/-- What a run leaves behind: its exit code, what it says and what it complains about.
-/
structure Output where
  exitCode : Nat
  text : String
  complaint : String
  deriving DecidableEq, Repr

namespace Output

/-- The output of a run that did what it was asked for.
-/
def success (lines : List String) : Output :=
  ⟨0, textOfLines lines, ""⟩

/-- The output of a run that failed.
-/
def failure (complaint : String) : Output :=
  ⟨1, "", complaint ++ "\n"⟩

/-- The output where there is nothing to run.
-/
def ofEnding : Ending → Output
  | .usage => ⟨2, "", usageText⟩
  | .version => ⟨0, versionText, ""⟩
  | .help none => ⟨0, generalHelp, ""⟩
  | .help (some subcommand) => ⟨0, subcommand.help, ""⟩

end Output

/-- The compiled schema of a file, or the complaint about it.
-/
def compileFile (path : String) (settings : Settings)
    : Host.Session (Except String CompiledSchema) := do
  match ← Schema.load path with
  | .error error =>
    return .error ("Error loading schema '" ++ path ++ "': " ++ error.message)
  | .ok schema =>
    match schema.compile settings.publisher.namePrefix with
    | .error error => return .error ("Schema error: " ++ error.message)
    | .ok compiled => return .ok compiled

/-- Writes the package of a schema into a directory.
-/
def generate (compiled : CompiledSchema) (settings : Settings) (directory : String)
    : Host.Session Output := do
  let package := compiled.package settings
  match ← package.write directory with
  | .error error => return .failure ("Error writing package: " ++ error.message)
  | .ok _ =>
    return .success [
      "Package written to " ++ directory,
      "  Tables:        " ++ toString compiled.entities.length,
      "  Relationships: " ++ toString compiled.relationships.length,
      "  Documents:     " ++ toString package.size,
      "  Digest:        " ++ package.digest
    ]

/-- The line on an item of a report.
-/
def itemLine (item : ReportItem) : String :=
  let name := item.kind.name ++ " " ++ item.name
  match item.outcome with
  | .created => "  + " ++ name
  | .skipped => "  = " ++ name
  | .failed cause =>
    match cause.status? with
    | some status =>
      "  ! " ++ name ++ " (HTTP " ++ toString status ++ ": " ++ cause.detail ++ ")"
    | none => "  ! " ++ name ++ " (" ++ cause.detail ++ ")"
  | .blocked obstacle => "  - " ++ name ++ " (" ++ obstacle.message ++ ")"

/-- The lines on a report.
-/
def reportLines (report : Report) (isDryRun : Bool) : List String :=
  (if isDryRun then ["Dry run against an empty store:"] else [])
    ++ report.items.map itemLine
    ++ ["", "Provisioning: " ++ report.summary]

/-- The report of a run on the environment of the settings.
-/
def provisionLive (compiled : CompiledSchema) (settings : Settings)
    : Host.Session (Except PreconditionError Report) := do
  let credential := Credential.variableNamed settings.environment.tokenVariable
  match ← Store.WebApi.connect Host.valueOf settings.environment credential
      settings.package.languageCode with
  | .error error => return .error error
  | .ok connection =>
    Host.exchange (Store.WebApi.exchange connection (Provision.run compiled settings))

/-- Brings a store to what a schema asks for, or shows what that would do.
-/
def provision (compiled : CompiledSchema) (settings : Settings) (isDryRun : Bool)
    : Host.Session Output := do
  let result ←
    if isDryRun then
      pure (Provision.preview compiled settings)
    else
      provisionLive compiled settings
  match result with
  | .ok report => return .success (reportLines report isDryRun)
  | .error error => return .failure ("Provisioning aborted: " ++ error.message)

/-- The lines on a plan.
-/
def planLines (plan : Plan) : List String :=
  let tiers := plan.tiers.flatMap fun (tier, tables) =>
    ("Tier " ++ toString tier ++ ":") :: tables.map ("  " ++ ·)
  let deferred :=
    if plan.deferred.isEmpty then
      []
    else
      "" :: "Deferred relationships:" :: plan.deferred.map ("  " ++ ·)
  tiers ++ deferred

/-- The lines on a schema without faults.
-/
def validLines (path : String) (compiled : CompiledSchema) : List String :=
  [
    "OK: " ++ path ++ " is valid",
    "  Tables:        " ++ toString compiled.entities.length,
    "  Relationships: " ++ toString compiled.relationships.length,
    "  Deferred:      " ++ toString compiled.plan.deferred.length
  ]

/-- The schema file of an action.
-/
def Action.schema : Action → String
  | generate schema _ => schema
  | provision schema _ => schema
  | plan schema => schema
  | validate schema => schema

/-- Does what was asked for with a compiled schema.
-/
def perform (compiled : CompiledSchema) (settings : Settings) : Action → Host.Session Output
  | .generate _ directory =>
    Command.generate compiled settings (directory.getD settings.package.outputDirectory)
  | .provision _ isDryRun => Command.provision compiled settings isDryRun
  | .plan _ => return .success (planLines compiled.plan)
  | .validate path => return .success (validLines path compiled)

/-- The settings that a run works with.
-/
def settingsFor (config : Option String) : Host.Session (Except SettingsError Settings) :=
  match config with
  | some path => Settings.fromFile path
  | none => Settings.load

/-- Runs what was asked for: settings first, then the schema.
-/
def invoke (invocation : Invocation) : Host.Session Output := do
  match ← settingsFor invocation.config with
  | .error error => return .failure ("Settings error: " ++ error.message)
  | .ok settings =>
    match ← compileFile invocation.action.schema settings with
    | .error complaint => return .failure complaint
    | .ok compiled => perform compiled settings invocation.action

/-- Runs the program.
-/
def run (arguments : List String) : Host.Session Output :=
  match read {} arguments with
  | .ok invocation => invoke invocation
  | .error ending => return .ofEnding ending

end Tablewright.Command
