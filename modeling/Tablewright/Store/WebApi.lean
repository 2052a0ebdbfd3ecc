import Tablewright.Http
import Tablewright.Http.Address
import Tablewright.Settings.Address
import Tablewright.Store.Call
import Tablewright.Store.Credential
import Tablewright.Store.Payload

/-! A metadata store behind a web service. Each call becomes requests, and what comes back becomes
the answer: a record that is not found is absent, and every other refusal is an error.
-/

namespace Tablewright.Store.WebApi

/-- The way to a store: the address that all resources start with, the token that every request
carries, and the language of labels.
-/
structure Connection where
  base : String
  token : String
  language : Nat
  deriving DecidableEq, Repr

/-- The connection to an environment. The address is settled before the credential.
-/
def connect {m : Type → Type} [Monad m] (lookup : String → m (Option String))
    (environment : EnvironmentSettings) (credential : Credential) (language : Nat)
    : m (Except PreconditionError Connection) := do
  match ← environment.apiBase lookup with
  | .error cause => return .error (.configuration cause)
  | .ok base =>
    match ← credential.token lookup with
    | .error cause => return .error (.missingCredential cause)
    | .ok token => return .ok ⟨base, token, language⟩

/-- A text as a literal of a query: apostrophes around it, and every apostrophe inside twice.
-/
def quote (text : String) : String :=
  let body := text.toList.flatMap fun c => if c = '\'' then ['\'', '\''] else [c]
  String.ofList ('\'' :: (body ++ ['\'']))

/-- The headers of a request.
-/
def headers (connection : Connection) (hasBody : Bool) : List (String × String) :=
  [
    ("odata-maxversion", "4.0"),
    ("odata-version", "4.0"),
    ("accept", "application/json"),
    ("authorization", "Bearer " ++ connection.token)
  ] ++ if hasBody then [("content-type", "application/json")] else []

/-- Sends a request to a resource, if it can be written at all.
-/
def send (connection : Connection) (method : Http.Method) (path : String)
    (query : List (String × String)) (body : Option Json.Value)
    : Http.Exchange (Except StoreError Http.Response) := do
  let url := connection.base ++ "/" ++ path
  if Http.isAddress url && Http.isHeaderText connection.token then
    match ← Http.send ⟨method, url, query, headers connection body.isSome, body⟩ with
    | some response => return .ok response
    | none => return .error (.transport "error sending request")
  else
    return .error (.transport "builder error")

/-- What a refusal says: the message in its body, or else the start of the body.
-/
def refusalMessage (body : String) : String :=
  let message := do
    let value ← (Json.parse body).toOption
    let error ← value.get? "error"
    let message ← error.get? "message"
    message.text?
  message.getD (String.ofList (body.toList.take 300))

/-- The error of a response that does not report success.
-/
def refusal (response : Http.Response) : StoreError :=
  .remote response.status (refusalMessage response.body)

/-- The value that a response carries; none where the resource is not found.
-/
def valueOf (response : Http.Response) : Except StoreError (Option Json.Value) :=
  if response.status = 404 then
    .ok none
  else if response.isSuccess then
    match Json.parse response.body with
    | .ok value => .ok (some value)
    | .error _ => .error (.decode "error decoding response body")
  else
    .error (refusal response)

/-- The value of a resource.
-/
def get (connection : Connection) (path : String) (query : List (String × String))
    : Http.Exchange (Except StoreError (Option Json.Value)) := do
  match ← send connection .get path query none with
  | .ok response => return valueOf response
  | .error error => return .error error

/-- Posts a body to a resource.
-/
def post (connection : Connection) (path : String) (body : Json.Value)
    : Http.Exchange (Except StoreError Unit) := do
  match ← send connection .post path [] (some body) with
  | .ok response => return if response.isSuccess then .ok () else .error (refusal response)
  | .error error => return .error error

/-- The text under a key of a record.
-/
def textField (record : Json.Value) (key : String) : Except StoreError String :=
  match (record.get? key).bind Json.Value.text? with
  | some text => .ok text
  | none => .error (.decode ("response has no '" ++ key ++ "' field"))

/-- The first record of a collection.
-/
def firstRecord? (value : Json.Value) : Option Json.Value := do
  let records ← (← value.get? "value").items?
  records.head?

/-- The text under a key of the first record, if there is a record.
-/
def firstText (key : String)
    : Except StoreError (Option Json.Value) → Except StoreError (Option String)
  | .error error => .error error
  | .ok value =>
    match value.bind firstRecord? with
    | some record => some <$> textField record key
    | none => .ok none

/-- The text under a key of a value, if there is a value.
-/
def textOf (key : String)
    : Except StoreError (Option Json.Value) → Except StoreError (Option String)
  | .error error => .error error
  | .ok none => .ok none
  | .ok (some value) => some <$> textField value key

/-- Whether there is a value.
-/
def isFound : Except StoreError (Option Json.Value) → Except StoreError Bool
  | .error error => .error error
  | .ok value => .ok value.isSome

/-- The resource of a table.
-/
def tablePath (table : String) : String :=
  "EntityDefinitions(LogicalName=" ++ quote table ++ ")"

/-- The resource of a column.
-/
def columnPath (table column : String) : String :=
  tablePath table ++ "/Attributes(LogicalName=" ++ quote column ++ ")"

/-- A query for one field of the records that pass a filter.
-/
def select (filter field : String) : List (String × String) :=
  [("$filter", filter), ("$select", field)]

/-- The identifier of the user.
-/
def userId (connection : Connection) : Http.Exchange (Except StoreError String) := do
  match ← get connection "WhoAmI" [] with
  | .error error => return .error error
  | .ok none => return .error (.remote 404 "WhoAmI not found")
  | .ok (some value) => return textField value "UserId"

/-- The identifier of the publisher with a prefix.
-/
def publisherId (connection : Connection) (namePrefix : String)
    : Http.Exchange (Except StoreError (Option String)) := do
  let filter := "customizationprefix eq " ++ quote namePrefix
  return firstText "publisherid" (← get connection "publishers" (select filter "publisherid"))

/-- The identifier of a solution.
-/
def solutionId (connection : Connection) (name : String)
    : Http.Exchange (Except StoreError (Option String)) := do
  let filter := "uniquename eq " ++ quote name
  return firstText "solutionid" (← get connection "solutions" (select filter "solutionid"))

/-- Whether a solution is there.
-/
def solutionExists (connection : Connection) (name : String)
    : Http.Exchange (Except StoreError Bool) := do
  match ← solutionId connection name with
  | .error error => return .error error
  | .ok id => return .ok id.isSome

/-- Whether a solution has something among its components.
-/
def solutionContains (connection : Connection) (solution id : String)
    : Http.Exchange (Except StoreError Bool) := do
  match ← solutionId connection solution with
  | .error error => return .error error
  | .ok none => return .ok false
  | .ok (some solution) =>
    let filter := "_solutionid_value eq " ++ solution ++ " and objectid eq " ++ id
    match ← get connection "solutioncomponents" (select filter "solutioncomponentid") with
    | .error error => return .error error
    | .ok value => return .ok (value.bind firstRecord?).isSome

/-- The answer to a call.
-/
def answer (connection : Connection) : (call : Call) → Http.Exchange (Answer call)
  | .whoAmI => userId connection
  | .findPublisher namePrefix => publisherId connection namePrefix
  | .solutionExists name => solutionExists connection name
  | .createSolution solution publisher =>
    post connection "solutions" (Payload.solutionBody solution publisher)
  | .tableExists table =>
    isFound <$> get connection (tablePath table) [("$select", "LogicalName")]
  | .columnExists table column =>
    isFound <$> get connection (columnPath table column) [("$select", "LogicalName")]
  | .createTable entity primary =>
    post connection "EntityDefinitions"
      (Payload.tableBody entity primary connection.language)
  | .createColumn table attr =>
    post connection (tablePath table ++ "/Attributes")
      (Payload.attributeBody attr connection.language)
  | .createRelationship relationship lookup =>
    post connection "RelationshipDefinitions"
      (Payload.relationshipBody relationship lookup connection.language)
  | .tableId table =>
    textOf "MetadataId" <$> get connection (tablePath table) [("$select", "MetadataId")]
  | .solutionContains solution id => solutionContains connection solution id
  | .addComponent solution id =>
    post connection "AddSolutionComponent" (Payload.componentBody solution id)
  | .pause milliseconds => .ok <$> Http.pause milliseconds

/-- Runs a program on the store behind a connection.
-/
def exchange {α : Type} (connection : Connection) (program : Protocol α) : Http.Exchange α :=
  program.interpret (m := Http.Exchange) (answer connection)

end Tablewright.Store.WebApi
