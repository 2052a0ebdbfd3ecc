import Tablewright.Settings.Error

/-! What goes wrong between a program and a metadata store.
-/

namespace Tablewright

/-- Why a call to a store does not succeed.
-/
inductive StoreError
  | remote (status : Nat) (message : String)
  | transport (message : String)
  | decode (message : String)
  | notVisible (table : String) (attempts : Nat)
  deriving DecidableEq, Repr

namespace StoreError

/-- The wording of an error.
-/
def message : StoreError → String
  | remote status text => "HTTP " ++ toString status ++ ": " ++ text
  | transport text => "Transport error: " ++ text
  | decode text => "Unexpected response: " ++ text
  | notVisible table attempts =>
    "Table '" ++ table ++ "' not visible after " ++ toString attempts ++ " attempts"

/-- The status that a store answered with.
-/
def status? : StoreError → Option Nat
  | remote status _ => some status
  | _ => none

/-- The wording of an error beside its status.
-/
def detail : StoreError → String
  | remote _ text => text
  | other => other.message

/-- The store has no such record.
-/
def isNotFound (error : StoreError) : Bool :=
  error.status? == some 404

end StoreError

/-- Why there is no credential.
-/
inductive CredentialError
  | emptyToken
  | unsetVariable (name : String)
  deriving DecidableEq, Repr

/-- The wording of a missing credential.
-/
def CredentialError.message : CredentialError → String
  | emptyToken => "empty token"
  | unsetVariable name => "environment variable " ++ name ++ " is not set"

/-- What keeps a run from creating anything at all.
-/
inductive PreconditionError
  | missingCredential (cause : CredentialError)
  | unreachable (cause : StoreError)
  | publisherNotFound (namePrefix : String)
  | publisherLookup (cause : StoreError)
  | configuration (cause : SettingsError)
  deriving DecidableEq

/-- The wording of an unmet precondition.
-/
def PreconditionError.message : PreconditionError → String
  | missingCredential cause => "No credential available: " ++ cause.message
  | unreachable cause => "Store unreachable: " ++ cause.message
  | publisherNotFound namePrefix =>
    "No publisher found with customization prefix '" ++ namePrefix ++ "'"
  | publisherLookup cause => "Publisher lookup failed: " ++ cause.message
  | configuration cause => "Invalid environment configuration: " ++ cause.message

end Tablewright
