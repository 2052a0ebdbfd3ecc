import Tablewright.Store.Error
import Tablewright.Text.Blank

/-! Credentials: the token that every request to a store carries.
-/

namespace Tablewright

/-- Where a token comes from: it is given, or an environment variable holds it.
-/
inductive Credential
  | given (token : String)
  | variableNamed (name : String)
  deriving DecidableEq, Repr

/-- The token of a credential. Blanks around the value of a variable do not belong to it.
-/
def Credential.token {m : Type → Type} [Monad m] (lookup : String → m (Option String))
    : Credential → m (Except CredentialError String)
  | given token =>
    return if token = "" then .error .emptyToken else .ok token
  | variableNamed name => do
    match ← lookup name with
    | none => return .error (.unsetVariable name)
    | some value =>
      let token := Text.trim value
      return if token = "" then .error (.unsetVariable name) else .ok token

end Tablewright
