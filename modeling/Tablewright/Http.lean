import Tablewright.Dialogue
import Tablewright.Json.Value

/-! Requests to a web service and what can come back.
-/

namespace Tablewright.Http

/-- What a request asks of a resource.
-/
inductive Method
  | get
  | post
  deriving DecidableEq, Repr

/-- The name of a method in a request.
-/
def Method.name : Method → String
  | get => "GET"
  | post => "POST"

/-- One request. The query is not yet encoded.
-/
structure Request where
  method : Method
  url : String
  query : List (String × String)
  headers : List (String × String)
  body : Option Json.Value

/-- One response.
-/
structure Response where
  status : Nat
  body : String
  deriving DecidableEq, Repr

/-- The response reports success.
-/
def Response.isSuccess (response : Response) : Bool :=
  200 ≤ response.status && response.status < 300

/-- What a connection is asked: to send a request, or to let time pass.
-/
inductive Question
  | send (request : Request)
  | pause (milliseconds : Nat)

/-- A request is answered by a response, unless the connection fails.
-/
abbrev Answer : Question → Type
  | .send _ => Option Response
  | .pause _ => Unit

/-- A program that talks to a web service.
-/
abbrev Exchange := Dialogue Question Answer

/-- Sends one request.
-/
def send (request : Request) : Exchange (Option Response) :=
  .ask (.send request) .done

/-- Lets time pass.
-/
def pause (milliseconds : Nat) : Exchange Unit :=
  .ask (.pause milliseconds) .done

end Tablewright.Http
