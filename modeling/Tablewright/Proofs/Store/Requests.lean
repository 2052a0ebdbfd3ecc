import Tablewright.Proofs.Runs
import Tablewright.Store.WebApi

/-! Requests of a store behind a web service: what is sent for each call, and how every response to
it is taken.
-/

namespace Tablewright.Store.WebApi

open Dialogue (Course)

/-- Exchanges with a web service in their order.
-/
abbrev Traffic := List (Dialogue.Exchange Http.Question Http.Answer)

variable {connection : Connection} {traffic : Traffic} {path key : String}
variable {query : List (String × String)} {body : Json.Value}

-----------------------------------------------------------------------------------------
-- Requests and what comes back
-----------------------------------------------------------------------------------------

/-- The request for a resource.
-/
def getRequest (connection : Connection) (path : String) (query : List (String × String))
    : Http.Request :=
  ⟨.get, connection.base ++ "/" ++ path, query, headers connection false, none⟩

/-- The request that posts a body to a resource.
-/
def postRequest (connection : Connection) (path : String) (body : Json.Value) : Http.Request :=
  ⟨.post, connection.base ++ "/" ++ path, [], headers connection true, some body⟩

/-- A request cannot be written, or it is sent; then the connection fails or there is a response.
-/
inductive Sent (connection : Connection) (request : Http.Request)
    : Traffic → Except StoreError Http.Response → Prop
  | unwritable
    (unfit : (Http.isAddress request.url && Http.isHeaderText connection.token) = false)
    : Sent connection request [] (.error (.transport "builder error"))
  | lost
    : Sent connection request [⟨.send request, none⟩]
        (.error (.transport "error sending request"))
  | answered (response : Http.Response)
    : Sent connection request [⟨.send request, some response⟩] (.ok response)

/-- What a request for a resource comes to: a status of 404 says that the resource is not there, a
success has to carry a value, and everything else is an error.
-/
inductive Fetched (connection : Connection) (path : String) (query : List (String × String))
    : Traffic → Except StoreError (Option Json.Value) → Prop
  | unanswered {traffic : Traffic} {cause : StoreError}
    (sent : Sent connection (getRequest connection path query) traffic (.error cause))
    : Fetched connection path query traffic (.error cause)
  | missing {response : Http.Response} (status : response.status = 404)
    : Fetched connection path query
        [⟨.send (getRequest connection path query), some response⟩] (.ok none)
  | found {response : Http.Response} {value : Json.Value} (success : response.isSuccess = true)
    (parsed : Json.parse response.body = .ok value)
    : Fetched connection path query
        [⟨.send (getRequest connection path query), some response⟩] (.ok (some value))
  | unreadable {response : Http.Response} (success : response.isSuccess = true)
    (unparsed : ∀ value, Json.parse response.body ≠ .ok value)
    : Fetched connection path query
        [⟨.send (getRequest connection path query), some response⟩]
        (.error (.decode "error decoding response body"))
  | refused {response : Http.Response} (other : response.status ≠ 404)
    (unsuccessful : response.isSuccess = false)
    : Fetched connection path query
        [⟨.send (getRequest connection path query), some response⟩] (.error (refusal response))

/-- A value has no array of records, or that is empty.
-/
def HasNoRecord (value : Json.Value) : Prop :=
  ∀ records, (value.get? "value").bind Json.Value.items? = some records → records = []

/-- What a request for a collection comes to, when a text of its first record is asked for.
-/
inductive Listed (connection : Connection) (path : String) (query : List (String × String))
    (key : String)
    : Traffic → Except StoreError (Option String) → Prop
  | failed {traffic : Traffic} {cause : StoreError}
    (fetched : Fetched connection path query traffic (.error cause))
    : Listed connection path query key traffic (.error cause)
  | missing {traffic : Traffic} (fetched : Fetched connection path query traffic (.ok none))
    : Listed connection path query key traffic (.ok none)
  | empty {traffic : Traffic} {value : Json.Value}
    (fetched : Fetched connection path query traffic (.ok (some value)))
    (bare : HasNoRecord value)
    : Listed connection path query key traffic (.ok none)
  | incomplete {traffic : Traffic} {value record : Json.Value} {cause : StoreError}
    (fetched : Fetched connection path query traffic (.ok (some value)))
    (first : firstRecord? value = some record) (lacks : textField record key = .error cause)
    : Listed connection path query key traffic (.error cause)
  | named {traffic : Traffic} {value record : Json.Value} {text : String}
    (fetched : Fetched connection path query traffic (.ok (some value)))
    (first : firstRecord? value = some record) (has : textField record key = .ok text)
    : Listed connection path query key traffic (.ok (some text))

/-- What a request for a text of a resource comes to.
-/
inductive Described (connection : Connection) (path : String) (query : List (String × String))
    (key : String)
    : Traffic → Except StoreError (Option String) → Prop
  | failed {traffic : Traffic} {cause : StoreError}
    (fetched : Fetched connection path query traffic (.error cause))
    : Described connection path query key traffic (.error cause)
  | missing {traffic : Traffic} (fetched : Fetched connection path query traffic (.ok none))
    : Described connection path query key traffic (.ok none)
  | incomplete {traffic : Traffic} {value : Json.Value} {cause : StoreError}
    (fetched : Fetched connection path query traffic (.ok (some value)))
    (lacks : textField value key = .error cause)
    : Described connection path query key traffic (.error cause)
  | named {traffic : Traffic} {value : Json.Value} {text : String}
    (fetched : Fetched connection path query traffic (.ok (some value)))
    (has : textField value key = .ok text)
    : Described connection path query key traffic (.ok (some text))

/-- What posting a body to a resource comes to.
-/
inductive Posted (connection : Connection) (path : String) (body : Json.Value)
    : Traffic → Except StoreError Unit → Prop
  | unanswered {traffic : Traffic} {cause : StoreError}
    (sent : Sent connection (postRequest connection path body) traffic (.error cause))
    : Posted connection path body traffic (.error cause)
  | accepted {response : Http.Response} (success : response.isSuccess = true)
    : Posted connection path body
        [⟨.send (postRequest connection path body), some response⟩] (.ok ())
  | refused {response : Http.Response} (unsuccessful : response.isSuccess = false)
    : Posted connection path body
        [⟨.send (postRequest connection path body), some response⟩] (.error (refusal response))

/-- A request that could be sent is sent.
-/
theorem course_send {method : Http.Method} {content : Option Json.Value}
    {result : Except StoreError Http.Response}
    (course : Course (send connection method path query content) traffic result)
    : Sent connection
        ⟨method, connection.base ++ "/" ++ path, query, headers connection content.isSome, content⟩
        traffic result := by
  rw [send] at course
  split at course
  · obtain ⟨answer, later, continued, rfl⟩ := Dialogue.course_ask_iff.mp course
    cases answer with
    | none =>
        obtain ⟨rfl, rfl⟩ := Dialogue.course_pure_iff.mp continued
        exact .lost
    | some response =>
        obtain ⟨rfl, rfl⟩ := Dialogue.course_pure_iff.mp continued
        exact .answered response
  · rename_i unfit
    obtain ⟨rfl, rfl⟩ := Dialogue.course_pure_iff.mp course
    exact .unwritable (Bool.not_eq_true _ ▸ unfit)

/-- Getting a resource comes to one of these ends.
-/
theorem course_get {result : Except StoreError (Option Json.Value)}
    (course : Course (get connection path query) traffic result)
    : Fetched connection path query traffic result := by
  rw [get] at course
  obtain ⟨first, answer, later, sent, continued, rfl⟩ := Dialogue.course_bind_iff.mp course
  have sent : Sent connection (getRequest connection path query) first answer := course_send sent
  cases answer with
  | error cause =>
      obtain ⟨rfl, rfl⟩ := Dialogue.course_pure_iff.mp continued
      rw [List.append_nil]
      exact .unanswered sent
  | ok response =>
      obtain ⟨rfl, rfl⟩ := Dialogue.course_pure_iff.mp continued
      cases sent
      rw [List.append_nil, valueOf]
      split
      · next status => exact .missing status
      · next other =>
        split
        · next success =>
          split
          · next parsed => exact .found success parsed
          · next unparsed =>
            exact .unreadable success fun value parsed => by cases unparsed.symm.trans parsed
        · next unsuccessful => exact .refused other (Bool.not_eq_true _ ▸ unsuccessful)

/-- Posting to a resource comes to one of these ends.
-/
theorem course_post {result : Except StoreError Unit}
    (course : Course (post connection path body) traffic result)
    : Posted connection path body traffic result := by
  rw [post] at course
  obtain ⟨first, answer, later, sent, continued, rfl⟩ := Dialogue.course_bind_iff.mp course
  have sent : Sent connection (postRequest connection path body) first answer := course_send sent
  cases answer with
  | error cause =>
      obtain ⟨rfl, rfl⟩ := Dialogue.course_pure_iff.mp continued
      rw [List.append_nil]
      exact .unanswered sent
  | ok response =>
      obtain ⟨rfl, rfl⟩ := Dialogue.course_pure_iff.mp continued
      cases sent
      rw [List.append_nil]
      split
      · next success => exact .accepted success
      · next unsuccessful => exact .refused (Bool.not_eq_true _ ▸ unsuccessful)

-----------------------------------------------------------------------------------------
-- Records of values
-----------------------------------------------------------------------------------------

/-- A value has no first record exactly when it has no array of records or that is empty.
-/
theorem hasNoRecord_iff {value : Json.Value} : HasNoRecord value ↔ firstRecord? value = none := by
  simp only [HasNoRecord, firstRecord?, Option.bind_eq_bind, ← Option.bind_assoc]
  cases (value.get? "value").bind Json.Value.items? with
  | none => simp
  | some records => simp [List.head?_eq_none_iff]

/-- The first text of a collection, read from what a request for it came to.
-/
theorem listed_of_fetched {found : Except StoreError (Option Json.Value)}
    (fetched : Fetched connection path query traffic found) (key : String)
    : Listed connection path query key traffic (firstText key found) := by
  rcases found with cause | _ | value
  · exact .failed fetched
  · exact .missing fetched
  · simp only [firstText, Option.bind_some]
    cases first : firstRecord? value with
    | none => exact .empty fetched (hasNoRecord_iff.mpr first)
    | some record =>
        dsimp only
        cases field : textField record key with
        | error cause => exact .incomplete fetched first field
        | ok text => exact .named fetched first field

/-- The text of a resource, read from what a request for it came to.
-/
theorem described_of_fetched {found : Except StoreError (Option Json.Value)}
    (fetched : Fetched connection path query traffic found) (key : String)
    : Described connection path query key traffic (textOf key found) := by
  rcases found with cause | _ | value
  · exact .failed fetched
  · exact .missing fetched
  · simp only [textOf]
    cases field : textField value key with
    | error cause => exact .incomplete fetched field
    | ok text => exact .named fetched field

-----------------------------------------------------------------------------------------
-- The answers to calls
-----------------------------------------------------------------------------------------

/-- What looking for a solution comes to.
-/
abbrev SolutionListed (connection : Connection) (name : String)
    : Traffic → Except StoreError (Option String) → Prop :=
  Listed connection "solutions" (select ("uniquename eq " ++ quote name) "solutionid") "solutionid"

/-- What looking for a publisher comes to.
-/
abbrev PublisherListed (connection : Connection) (namePrefix : String)
    : Traffic → Except StoreError (Option String) → Prop :=
  Listed connection "publishers"
    (select ("customizationprefix eq " ++ quote namePrefix) "publisherid") "publisherid"

/-- What looking for something among the components of a solution comes to.
-/
abbrev ComponentFetched (connection : Connection) (solution id : String)
    : Traffic → Except StoreError (Option Json.Value) → Prop :=
  Fetched connection "solutioncomponents"
    (select ("_solutionid_value eq " ++ solution ++ " and objectid eq " ++ id)
      "solutioncomponentid")

/-- The query for the name of a table or a column.
-/
def nameQuery : List (String × String) :=
  [("$select", "LogicalName")]

/-- What asking for the number of a table comes to.
-/
abbrev TableDescribed (connection : Connection) (table : String)
    : Traffic → Except StoreError (Option String) → Prop :=
  Described connection (tablePath table) [("$select", "MetadataId")] "MetadataId"

/-- What checking a solution for a component comes to. A solution that is not there has none.
-/
inductive Contained (connection : Connection) (solution id : String)
    : Traffic → Except StoreError Bool → Prop
  | failed {traffic : Traffic} {cause : StoreError}
    (looked : SolutionListed connection solution traffic (.error cause))
    : Contained connection solution id traffic (.error cause)
  | unsolved {traffic : Traffic}
    (looked : SolutionListed connection solution traffic (.ok none))
    : Contained connection solution id traffic (.ok false)
  | unanswered {first later : Traffic} {number : String} {cause : StoreError}
    (looked : SolutionListed connection solution first (.ok (some number)))
    (fetched : ComponentFetched connection number id later (.error cause))
    : Contained connection solution id (first ++ later) (.error cause)
  | missing {first later : Traffic} {number : String}
    (looked : SolutionListed connection solution first (.ok (some number)))
    (fetched : ComponentFetched connection number id later (.ok none))
    : Contained connection solution id (first ++ later) (.ok false)
  | empty {first later : Traffic} {number : String} {value : Json.Value}
    (looked : SolutionListed connection solution first (.ok (some number)))
    (fetched : ComponentFetched connection number id later (.ok (some value)))
    (bare : HasNoRecord value)
    : Contained connection solution id (first ++ later) (.ok false)
  | present {first later : Traffic} {number : String} {value : Json.Value}
    (looked : SolutionListed connection solution first (.ok (some number)))
    (fetched : ComponentFetched connection number id later (.ok (some value)))
    (listed : ¬ HasNoRecord value)
    : Contained connection solution id (first ++ later) (.ok true)

/-- The user has to be there.
-/
def userOf : Except StoreError (Option String) → Except StoreError String
  | .error cause => .error cause
  | .ok none => .error (.remote 404 "WhoAmI not found")
  | .ok (some user) => .ok user

/-- Who the user is is told from what asking for it comes to.
-/
theorem course_userId {result : Except StoreError String}
    (course : Course (userId connection) traffic result)
    : ∃ found, Described connection "WhoAmI" [] "UserId" traffic found
        ∧ result = userOf found := by
  obtain ⟨first, found, _, fetched, continued, rfl⟩ := Dialogue.course_bind_iff.mp course
  have described := described_of_fetched (course_get fetched) "UserId"
  refine ⟨textOf "UserId" found, ?_⟩
  rcases found with cause | _ | value
  · obtain ⟨rfl, rfl⟩ := Dialogue.course_pure_iff.mp continued
    exact ⟨(List.append_nil first).symm ▸ described, rfl⟩
  · obtain ⟨rfl, rfl⟩ := Dialogue.course_pure_iff.mp continued
    exact ⟨(List.append_nil first).symm ▸ described, rfl⟩
  · obtain ⟨rfl, rfl⟩ := Dialogue.course_pure_iff.mp continued
    refine ⟨(List.append_nil first).symm ▸ described, ?_⟩
    rw [textOf]
    cases textField value "UserId" with
    | _ => rfl

/-- Looking for a solution comes to one of these ends.
-/
theorem course_solutionId {name : String} {result : Except StoreError (Option String)}
    (course : Course (solutionId connection name) traffic result)
    : SolutionListed connection name traffic result := by
  obtain ⟨found, fetched, rfl⟩ := Dialogue.course_bind_pure_iff.mp course
  exact listed_of_fetched (course_get fetched) _

/-- Whether a solution is there is told from looking for it.
-/
theorem course_solutionExists {name : String} {result : Except StoreError Bool}
    (course : Course (solutionExists connection name) traffic result)
    : ∃ found, SolutionListed connection name traffic found
        ∧ result = found.map Option.isSome := by
  obtain ⟨first, found, later, looked, continued, rfl⟩ := Dialogue.course_bind_iff.mp course
  refine ⟨found, ?_⟩
  cases found with
  | error cause =>
      obtain ⟨rfl, rfl⟩ := Dialogue.course_pure_iff.mp continued
      exact ⟨(List.append_nil first).symm ▸ course_solutionId looked, rfl⟩
  | ok id =>
      obtain ⟨rfl, rfl⟩ := Dialogue.course_pure_iff.mp continued
      exact ⟨(List.append_nil first).symm ▸ course_solutionId looked, rfl⟩

/-- Looking for a publisher comes to one of these ends.
-/
theorem course_publisherId {namePrefix : String} {result : Except StoreError (Option String)}
    (course : Course (publisherId connection namePrefix) traffic result)
    : PublisherListed connection namePrefix traffic result := by
  obtain ⟨found, fetched, rfl⟩ := Dialogue.course_bind_pure_iff.mp course
  exact listed_of_fetched (course_get fetched) _

/-- Whether a table is there is told from what getting its name comes to.
-/
theorem course_tableExists {table : String} {result : Except StoreError Bool}
    (course : Course (answer connection (.tableExists table)) traffic result)
    : ∃ found, Fetched connection (tablePath table) nameQuery traffic found
        ∧ result = isFound found := by
  obtain ⟨found, fetched, same⟩ := Dialogue.course_bind_pure_iff.mp course
  exact ⟨found, course_get fetched, same⟩

/-- Whether a column is there is told from what getting its name comes to.
-/
theorem course_columnExists {table column : String} {result : Except StoreError Bool}
    (course : Course (answer connection (.columnExists table column)) traffic result)
    : ∃ found, Fetched connection (columnPath table column) nameQuery traffic found
        ∧ result = isFound found := by
  obtain ⟨found, fetched, same⟩ := Dialogue.course_bind_pure_iff.mp course
  exact ⟨found, course_get fetched, same⟩

/-- Asking for the number of a table comes to one of these ends.
-/
theorem course_tableId {table : String} {result : Except StoreError (Option String)}
    (course : Course (answer connection (.tableId table)) traffic result)
    : TableDescribed connection table traffic result := by
  obtain ⟨found, fetched, rfl⟩ := Dialogue.course_bind_pure_iff.mp course
  exact described_of_fetched (course_get fetched) _

/-- Checking a solution for a component comes to one of these ends.
-/
theorem course_solutionContains {solution id : String} {result : Except StoreError Bool}
    (course : Course (solutionContains connection solution id) traffic result)
    : Contained connection solution id traffic result := by
  obtain ⟨first, found, _, looked, continued, rfl⟩ := Dialogue.course_bind_iff.mp course
  have looked := course_solutionId looked
  rcases found with cause | _ | number
  · obtain ⟨rfl, rfl⟩ := Dialogue.course_pure_iff.mp continued
    rw [List.append_nil]
    exact .failed looked
  · obtain ⟨rfl, rfl⟩ := Dialogue.course_pure_iff.mp continued
    rw [List.append_nil]
    exact .unsolved looked
  · obtain ⟨second, listing, _, fetched, ended, rfl⟩ := Dialogue.course_bind_iff.mp continued
    have fetched := course_get fetched
    rcases listing with cause | _ | value
    · obtain ⟨rfl, rfl⟩ := Dialogue.course_pure_iff.mp ended
      rw [List.append_nil]
      exact .unanswered looked fetched
    · obtain ⟨rfl, rfl⟩ := Dialogue.course_pure_iff.mp ended
      rw [List.append_nil]
      exact .missing looked fetched
    · obtain ⟨rfl, rfl⟩ := Dialogue.course_pure_iff.mp ended
      rw [List.append_nil, Option.bind_some]
      cases record : firstRecord? value with
      | none => exact .empty looked fetched (hasNoRecord_iff.mpr record)
      | some first =>
          refine .present looked fetched fun bare => ?_
          cases record.symm.trans (hasNoRecord_iff.mp bare)

-----------------------------------------------------------------------------------------
-- What is sent
-----------------------------------------------------------------------------------------

/-- Nothing but one request is sent in a stretch of traffic.
-/
def SendsOnly (request : Http.Request) (traffic : Traffic) : Prop :=
  ∀ exchange ∈ traffic, exchange.question = .send request

/-- A request that could be sent is the only one.
-/
theorem Sent.sendsOnly {request : Http.Request} {result : Except StoreError Http.Response}
    (sent : Sent connection request traffic result)
    : SendsOnly request traffic := by
  cases sent with
  | unwritable => exact List.forall_mem_nil _
  | lost | answered => exact List.forall_mem_singleton.mpr rfl

/-- Getting a resource sends one request for it.
-/
theorem Fetched.sendsOnly {found : Except StoreError (Option Json.Value)}
    (fetched : Fetched connection path query traffic found)
    : SendsOnly (getRequest connection path query) traffic := by
  cases fetched with
  | unanswered sent => exact sent.sendsOnly
  | missing | found | unreadable | refused => exact List.forall_mem_singleton.mpr rfl

/-- Looking for the first record of a collection sends one request for it.
-/
theorem Listed.sendsOnly {found : Except StoreError (Option String)}
    (listed : Listed connection path query key traffic found)
    : SendsOnly (getRequest connection path query) traffic := by
  cases listed with
  | failed fetched | missing fetched | empty fetched | incomplete fetched | named fetched =>
      exact fetched.sendsOnly

/-- Looking for a text of a resource sends one request for it.
-/
theorem Described.sendsOnly {found : Except StoreError (Option String)}
    (described : Described connection path query key traffic found)
    : SendsOnly (getRequest connection path query) traffic := by
  cases described with
  | failed fetched | missing fetched | incomplete fetched | named fetched => exact fetched.sendsOnly

/-- Posting to a resource sends one request to it.
-/
theorem Posted.sendsOnly {result : Except StoreError Unit}
    (posted : Posted connection path body traffic result)
    : SendsOnly (postRequest connection path body) traffic := by
  cases posted with
  | unanswered sent => exact sent.sendsOnly
  | accepted | refused => exact List.forall_mem_singleton.mpr rfl

-----------------------------------------------------------------------------------------
-- Requests that create nothing
-----------------------------------------------------------------------------------------

/-- A question that posts something.
-/
def IsPost : Http.Question → Prop
  | .send request => request.method = .post
  | .pause _ => False

/-- Nothing is posted in a stretch of traffic.
-/
def Quiet (traffic : Traffic) : Prop :=
  ∀ exchange ∈ traffic, ¬ IsPost exchange.question

/-- Stretches of traffic in a row are quiet when each of them is.
-/
theorem Quiet.append {first later : Traffic} (before : Quiet first) (after : Quiet later)
    : Quiet (first ++ later) :=
  List.forall_mem_append.mpr ⟨before, after⟩

/-- Nothing is posted when nothing is sent.
-/
theorem quiet_nil : Quiet [] :=
  List.forall_mem_nil _

/-- Getting something posts nothing.
-/
theorem SendsOnly.quiet (sendsOnly : SendsOnly (getRequest connection path query) traffic)
    : Quiet traffic := by
  intro exchange member
  rw [sendsOnly exchange member]
  exact Http.Method.noConfusion

/-- Getting a resource posts nothing.
-/
theorem Fetched.quiet {found : Except StoreError (Option Json.Value)}
    (fetched : Fetched connection path query traffic found)
    : Quiet traffic :=
  fetched.sendsOnly.quiet

/-- Looking for the first record of a collection posts nothing.
-/
theorem Listed.quiet {found : Except StoreError (Option String)}
    (listed : Listed connection path query key traffic found)
    : Quiet traffic :=
  listed.sendsOnly.quiet

/-- Looking for a text of a resource posts nothing.
-/
theorem Described.quiet {found : Except StoreError (Option String)}
    (described : Described connection path query key traffic found)
    : Quiet traffic :=
  described.sendsOnly.quiet

/-- Checking a solution for a component posts nothing.
-/
theorem Contained.quiet {solution id : String} {found : Except StoreError Bool}
    (contained : Contained connection solution id traffic found)
    : Quiet traffic := by
  cases contained with
  | failed looked | unsolved looked => exact looked.quiet
  | unanswered looked fetched | missing looked fetched | empty looked fetched
  | present looked fetched =>
      exact looked.quiet.append fetched.quiet

/-- The answer to a call that creates nothing posts nothing.
-/
theorem quiet_of_course_answer {query : Call} {result : Answer query}
    (creates : query.isCreate = false)
    (course : Course (answer connection query) traffic result)
    : Quiet traffic := by
  cases query with
  | createSolution | createTable | createColumn | createRelationship | addComponent =>
      cases creates
  | whoAmI => exact (course_userId course).choose_spec.1.quiet
  | findPublisher namePrefix => exact (course_publisherId course).quiet
  | tableExists table => exact (course_tableExists course).choose_spec.1.quiet
  | columnExists table column => exact (course_columnExists course).choose_spec.1.quiet
  | tableId table => exact (course_tableId course).quiet
  | solutionExists name => exact (course_solutionExists course).choose_spec.1.quiet
  | solutionContains solution id => exact (course_solutionContains course).quiet
  | pause milliseconds =>
      obtain ⟨_, _, continued, rfl⟩ := Dialogue.course_ask_iff.mp course
      obtain ⟨rfl, _⟩ := Dialogue.course_pure_iff.mp continued
      exact List.forall_mem_singleton.mpr id

-----------------------------------------------------------------------------------------
-- Programs on the store behind a connection
-----------------------------------------------------------------------------------------

variable {α β : Type}

/-- A call is dealt with by its answer.
-/
theorem exchange_call (connection : Connection) (query : Call)
    : exchange connection (call query) = answer connection query :=
  Dialogue.interpret_question _ _

/-- Programs in a row are dealt with in a row.
-/
theorem exchange_bind (connection : Connection) (program : Protocol α) (next : α → Protocol β)
    : exchange connection (program >>= next)
      = exchange connection program >>= fun found => exchange connection (next found) :=
  Dialogue.interpret_bind _ _ _

/-- Courses of programs in a row.
-/
theorem course_exchange_bind_iff {program : Protocol α} {next : α → Protocol β} {result : β}
    : Course (exchange connection (program >>= next)) traffic result
      ↔ ∃ first found later,
          Course (exchange connection program) first found
          ∧ Course (exchange connection (next found)) later result
          ∧ traffic = first ++ later := by
  rw [exchange_bind, Dialogue.course_bind_iff]

/-- The course of a program that is over.
-/
theorem course_exchange_pure_iff {value result : α}
    : Course (exchange connection (pure value : Protocol α)) traffic result
      ↔ traffic = [] ∧ result = value :=
  Dialogue.course_pure_iff

/-- A program that creates nothing posts nothing.
-/
theorem quiet_of_course_exchange {program : Protocol α} {result : α}
    (asks : program.Asks fun query => query.isCreate = false)
    (course : Course (exchange connection program) traffic result)
    : Quiet traffic := by
  induction program generalizing traffic with
  | done found =>
      obtain ⟨rfl, _⟩ := course_exchange_pure_iff.mp course
      exact quiet_nil
  | ask query next ih =>
      obtain ⟨first, found, later, answered, continued, rfl⟩ := Dialogue.course_bind_iff.mp course
      exact (quiet_of_course_answer asks.1 answered).append (ih found (asks.2 found) continued)

end Tablewright.Store.WebApi
