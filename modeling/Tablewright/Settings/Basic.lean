/-! Settings: who publishes the tables, into which solution, and how they get there.
-/

namespace Tablewright

/-- The publisher of a solution. Its prefix starts the names of what it publishes.
-/
structure PublisherSettings where
  uniqueName : String := "Resus_EDucation_Initiative"
  displayName : String := "REdI"
  namePrefix : String := "redi"
  optionValuePrefix : Nat := 91352
  deriving DecidableEq

/-- The solution that tables are registered in.
-/
structure SolutionSettings where
  uniqueName : String := "SimQuipTables"
  displayName : String := "SimQuip Tables"
  description : String := "SimQuip equipment management tables"
  version : String := "1.0.0.0"
  deriving DecidableEq

/-- The package on disk.
-/
structure PackageSettings where
  languageCode : Nat := 1033
  outputDirectory : String := "solution_output"
  deriving DecidableEq

/-- The environment of the live store. The address may refer to environment variables.
-/
structure EnvironmentSettings where
  url : Option String := none
  apiVersion : String := "v9.2"
  tokenVariable : String := "TRELLIS_TOKEN"
  requestTimeoutSeconds : Nat := 30
  deriving DecidableEq

/-- How long to wait for a new table.
-/
structure ProvisionSettings where
  visibilityAttempts : Nat := 10
  visibilityIntervalMilliseconds : Nat := 1000
  deriving DecidableEq

/-- All settings; what is not given has a default.
-/
structure Settings where
  publisher : PublisherSettings := {}
  solution : SolutionSettings := {}
  package : PackageSettings := {}
  environment : EnvironmentSettings := {}
  provision : ProvisionSettings := {}
  deriving DecidableEq

/-- What makes readable settings unusable.
-/
inductive InvalidSetting
  | emptyPrefix
  | noAttempts
  | noUrl
  deriving DecidableEq, Repr

/-- The wording of an invalid setting.
-/
def InvalidSetting.message : InvalidSetting → String
  | emptyPrefix => "publisher.prefix must not be empty"
  | noAttempts => "provision.visibility_attempts must be at least 1"
  | noUrl => "environment.url is not set"

/-- The first setting that cannot be used.
-/
def Settings.invalid? (settings : Settings) : Option InvalidSetting :=
  if settings.publisher.namePrefix = "" then
    some .emptyPrefix
  else if settings.provision.visibilityAttempts = 0 then
    some .noAttempts
  else
    none

end Tablewright
