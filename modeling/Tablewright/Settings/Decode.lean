import Tablewright.Document.Decode
import Tablewright.Settings.Basic

/-! Reading settings out of a document. Every section and every field may be missing, and unknown
members are passed over.
-/

namespace Tablewright

/-- A whole number below `2 ^ 32`.
-/
def natural32 : Document → Decoded Nat :=
  Document.natural 32

/-- A whole number below `2 ^ 64`.
-/
def natural64 : Document → Decoded Nat :=
  Document.natural 64

/-- The publisher's members that have been met.
-/
structure PublisherFields where
  uniqueName : Option String := none
  displayName : Option String := none
  namePrefix : Option String := none
  optionValuePrefix : Option Nat := none

/-- Takes note of one member of the publisher.
-/
def PublisherFields.set (fields : PublisherFields) (key : String) (value : Document)
    : Decoded PublisherFields := do
  match key with
  | "unique_name" =>
    return { fields with uniqueName := ← value.fill key fields.uniqueName Document.text }
  | "display_name" =>
    return { fields with displayName := ← value.fill key fields.displayName Document.text }
  | "prefix" =>
    return { fields with namePrefix := ← value.fill key fields.namePrefix Document.text }
  | "option_value_prefix" =>
    return { fields with
      optionValuePrefix := ← value.fill key fields.optionValuePrefix natural32 }
  | _ =>
    value.ignore
    return fields

/-- The publisher, with defaults for what has not been met.
-/
def PublisherFields.settings (fields : PublisherFields) : PublisherSettings :=
  let default : PublisherSettings := {}
  {
    uniqueName := fields.uniqueName.getD default.uniqueName
    displayName := fields.displayName.getD default.displayName
    namePrefix := fields.namePrefix.getD default.namePrefix
    optionValuePrefix := fields.optionValuePrefix.getD default.optionValuePrefix
  }

/-- The publisher section.
-/
def PublisherSettings.ofDocument (conventions : Conventions) : Document → Decoded PublisherSettings
  | .mapping members => do return (← members.collect PublisherFields.set {}).settings
  | .sequence items => do
    let (uniqueName, items) ← items.next Document.text
    let (displayName, items) ← items.next Document.text
    let (namePrefix, items) ← items.next Document.text
    let (optionValuePrefix, items) ← items.next natural32
    items.finish conventions
    return PublisherFields.settings { uniqueName, displayName, namePrefix, optionValuePrefix }
  | other => .error (other.unexpected (.record "PublisherSettings"))

/-- The solution's members that have been met.
-/
structure SolutionFields where
  uniqueName : Option String := none
  displayName : Option String := none
  description : Option String := none
  version : Option String := none

/-- Takes note of one member of the solution.
-/
def SolutionFields.set (fields : SolutionFields) (key : String) (value : Document)
    : Decoded SolutionFields := do
  match key with
  | "unique_name" =>
    return { fields with uniqueName := ← value.fill key fields.uniqueName Document.text }
  | "display_name" =>
    return { fields with displayName := ← value.fill key fields.displayName Document.text }
  | "description" =>
    return { fields with description := ← value.fill key fields.description Document.text }
  | "version" => return { fields with version := ← value.fill key fields.version Document.text }
  | _ =>
    value.ignore
    return fields

/-- The solution, with defaults for what has not been met.
-/
def SolutionFields.settings (fields : SolutionFields) : SolutionSettings :=
  let default : SolutionSettings := {}
  {
    uniqueName := fields.uniqueName.getD default.uniqueName
    displayName := fields.displayName.getD default.displayName
    description := fields.description.getD default.description
    version := fields.version.getD default.version
  }

/-- The solution section.
-/
def SolutionSettings.ofDocument (conventions : Conventions) : Document → Decoded SolutionSettings
  | .mapping members => do return (← members.collect SolutionFields.set {}).settings
  | .sequence items => do
    let (uniqueName, items) ← items.next Document.text
    let (displayName, items) ← items.next Document.text
    let (description, items) ← items.next Document.text
    let (version, items) ← items.next Document.text
    items.finish conventions
    return SolutionFields.settings { uniqueName, displayName, description, version }
  | other => .error (other.unexpected (.record "SolutionSettings"))

/-- The package's members that have been met.
-/
structure PackageFields where
  languageCode : Option Nat := none
  outputDirectory : Option String := none

/-- Takes note of one member of the package.
-/
def PackageFields.set (fields : PackageFields) (key : String) (value : Document)
    : Decoded PackageFields := do
  match key with
  | "language_code" =>
    return { fields with languageCode := ← value.fill key fields.languageCode natural32 }
  | "output_dir" =>
    return { fields with
      outputDirectory := ← value.fill key fields.outputDirectory Document.text }
  | _ =>
    value.ignore
    return fields

/-- The package, with defaults for what has not been met.
-/
def PackageFields.settings (fields : PackageFields) : PackageSettings :=
  let default : PackageSettings := {}
  {
    languageCode := fields.languageCode.getD default.languageCode
    outputDirectory := fields.outputDirectory.getD default.outputDirectory
  }

/-- The package section.
-/
def PackageSettings.ofDocument (conventions : Conventions) : Document → Decoded PackageSettings
  | .mapping members => do return (← members.collect PackageFields.set {}).settings
  | .sequence items => do
    let (languageCode, items) ← items.next natural32
    let (outputDirectory, items) ← items.next Document.text
    items.finish conventions
    return PackageFields.settings { languageCode, outputDirectory }
  | other => .error (other.unexpected (.record "PackageSettings"))

/-- The environment's members that have been met.
-/
structure EnvironmentFields where
  url : Option (Option String) := none
  apiVersion : Option String := none
  tokenVariable : Option String := none
  requestTimeoutSeconds : Option Nat := none

/-- Takes note of one member of the environment.
-/
def EnvironmentFields.set (fields : EnvironmentFields) (key : String) (value : Document)
    : Decoded EnvironmentFields := do
  match key with
  | "url" =>
    return { fields with url := ← value.fill key fields.url (Document.optional Document.text) }
  | "api_version" =>
    return { fields with apiVersion := ← value.fill key fields.apiVersion Document.text }
  | "token_env" =>
    return { fields with tokenVariable := ← value.fill key fields.tokenVariable Document.text }
  | "request_timeout_secs" =>
    return { fields with
      requestTimeoutSeconds := ← value.fill key fields.requestTimeoutSeconds natural64 }
  | _ =>
    value.ignore
    return fields

/-- The environment, with defaults for what has not been met.
-/
def EnvironmentFields.settings (fields : EnvironmentFields) : EnvironmentSettings :=
  let default : EnvironmentSettings := {}
  {
    url := fields.url.getD default.url
    apiVersion := fields.apiVersion.getD default.apiVersion
    tokenVariable := fields.tokenVariable.getD default.tokenVariable
    requestTimeoutSeconds := fields.requestTimeoutSeconds.getD default.requestTimeoutSeconds
  }

/-- The environment section.
-/
def EnvironmentSettings.ofDocument (conventions : Conventions)
    : Document → Decoded EnvironmentSettings
  | .mapping members => do return (← members.collect EnvironmentFields.set {}).settings
  | .sequence items => do
    let (url, items) ← items.next (Document.optional Document.text)
    let (apiVersion, items) ← items.next Document.text
    let (tokenVariable, items) ← items.next Document.text
    let (requestTimeoutSeconds, items) ← items.next natural64
    items.finish conventions
    return EnvironmentFields.settings { url, apiVersion, tokenVariable, requestTimeoutSeconds }
  | other => .error (other.unexpected (.record "EnvironmentSettings"))

/-- The provisioning members that have been met.
-/
structure ProvisionFields where
  visibilityAttempts : Option Nat := none
  visibilityIntervalMilliseconds : Option Nat := none

/-- Takes note of one provisioning member.
-/
def ProvisionFields.set (fields : ProvisionFields) (key : String) (value : Document)
    : Decoded ProvisionFields := do
  match key with
  | "visibility_attempts" =>
    return { fields with
      visibilityAttempts := ← value.fill key fields.visibilityAttempts natural32 }
  | "visibility_interval_ms" =>
    return { fields with
      visibilityIntervalMilliseconds :=
        ← value.fill key fields.visibilityIntervalMilliseconds natural64 }
  | _ =>
    value.ignore
    return fields

/-- The provisioning settings, with defaults for what has not been met.
-/
def ProvisionFields.settings (fields : ProvisionFields) : ProvisionSettings :=
  let default : ProvisionSettings := {}
  {
    visibilityAttempts := fields.visibilityAttempts.getD default.visibilityAttempts
    visibilityIntervalMilliseconds :=
      fields.visibilityIntervalMilliseconds.getD default.visibilityIntervalMilliseconds
  }

/-- The provisioning section.
-/
def ProvisionSettings.ofDocument (conventions : Conventions)
    : Document → Decoded ProvisionSettings
  | .mapping members => do return (← members.collect ProvisionFields.set {}).settings
  | .sequence items => do
    let (visibilityAttempts, items) ← items.next natural32
    let (visibilityIntervalMilliseconds, items) ← items.next natural64
    items.finish conventions
    return ProvisionFields.settings { visibilityAttempts, visibilityIntervalMilliseconds }
  | other => .error (other.unexpected (.record "ProvisionSettings"))

/-- The sections that have been met.
-/
structure SettingsFields where
  publisher : Option PublisherSettings := none
  solution : Option SolutionSettings := none
  package : Option PackageSettings := none
  environment : Option EnvironmentSettings := none
  provision : Option ProvisionSettings := none

/-- Takes note of one section.
-/
def SettingsFields.set (conventions : Conventions) (fields : SettingsFields) (key : String)
    (value : Document)
    : Decoded SettingsFields := do
  match key with
  | "publisher" =>
    return { fields with
      publisher := ← value.fill key fields.publisher (PublisherSettings.ofDocument conventions) }
  | "solution" =>
    return { fields with
      solution := ← value.fill key fields.solution (SolutionSettings.ofDocument conventions) }
  | "package" =>
    return { fields with
      package := ← value.fill key fields.package (PackageSettings.ofDocument conventions) }
  | "environment" =>
    return { fields with
      environment :=
        ← value.fill key fields.environment (EnvironmentSettings.ofDocument conventions) }
  | "provision" =>
    return { fields with
      provision := ← value.fill key fields.provision (ProvisionSettings.ofDocument conventions) }
  | _ =>
    value.ignore
    return fields

/-- The settings, with defaults for the sections that have not been met.
-/
def SettingsFields.settings (fields : SettingsFields) : Settings :=
  {
    publisher := fields.publisher.getD {}
    solution := fields.solution.getD {}
    package := fields.package.getD {}
    environment := fields.environment.getD {}
    provision := fields.provision.getD {}
  }

/-- Settings.
-/
def Settings.ofDocument (conventions : Conventions) : Document → Decoded Settings
  | .mapping members => do
    return (← members.collect (SettingsFields.set conventions) {}).settings
  | .sequence items => do
    let (publisher, items) ← items.next (PublisherSettings.ofDocument conventions)
    let (solution, items) ← items.next (SolutionSettings.ofDocument conventions)
    let (package, items) ← items.next (PackageSettings.ofDocument conventions)
    let (environment, items) ← items.next (EnvironmentSettings.ofDocument conventions)
    let (provision, items) ← items.next (ProvisionSettings.ofDocument conventions)
    items.finish conventions
    return SettingsFields.settings { publisher, solution, package, environment, provision }
  | other => .error (other.unexpected (.record "Settings"))

end Tablewright
