import Tablewright.Settings.Error

/-! The addresses that settings lead to.
-/

namespace Tablewright

namespace EnvironmentSettings

/-- A text without the slashes at its end.
-/
def trimSlashes (text : String) : String :=
  String.ofList (text.toList.reverse.dropWhile (· == '/')).reverse

/-- The address of the environment, with its variables replaced and without slashes at its end.
-/
def resolveUrl {m : Type → Type} [Monad m] (lookup : String → m (Option String))
    (settings : EnvironmentSettings)
    : m (Except SettingsError String) := do
  match settings.url with
  | none => return .error (.invalid .noUrl)
  | some url =>
    match ← Variables.expandM lookup url with
    | .ok text => return .ok (trimSlashes text)
    | .error cause => return .error (.unexpanded cause)

/-- The address that all resources of the environment start with.
-/
def apiBase {m : Type → Type} [Monad m] (lookup : String → m (Option String))
    (settings : EnvironmentSettings)
    : m (Except SettingsError String) := do
  match ← settings.resolveUrl lookup with
  | .ok url => return .ok (url ++ "/api/data/" ++ settings.apiVersion)
  | .error cause => return .error cause

end EnvironmentSettings

end Tablewright
