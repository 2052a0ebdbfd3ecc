import Tablewright.Host
import Tablewright.Proofs.Store.Requests

/-! Literals of requests. A reader of literals reads every quoted text back and stops where it ends,
so the paths and filters of all requests name what their calls are about.
-/

namespace Tablewright.Store.WebApi

open Dialogue (Course)

variable {connection : Connection} {text rest value : List Char}

-----------------------------------------------------------------------------------------
-- Single literals
-----------------------------------------------------------------------------------------

/-- What stands in a literal behind the apostrophe that opens it, and what follows the one that
closes it. Two apostrophes in a row stand for one.
-/
def readInside : List Char → Option (List Char × List Char)
  | [] => none
  | '\'' :: '\'' :: rest => (readInside rest).map fun (value, after) => ('\'' :: value, after)
  | '\'' :: rest => some ([], rest)
  | c :: rest => (readInside rest).map fun (value, after) => (c :: value, after)

/-- The literal at the start of a text, and what follows it.
-/
def readLiteral? : List Char → Option (String × List Char)
  | '\'' :: rest => (readInside rest).map fun (value, after) => (String.ofList value, after)
  | _ => none

/-- How a character is written in a literal.
-/
def doubled (c : Char) : List Char :=
  if c = '\'' then ['\'', '\''] else [c]

/-- A literal is its characters between two apostrophes.
-/
theorem quote_toList (text : String)
    : (quote text).toList = '\'' :: (text.toList.flatMap doubled ++ ['\'']) :=
  String.toList_ofList

/-- What is no apostrophe stands for itself.
-/
theorem readInside_cons {c : Char} (other : c ≠ '\'') (rest : List Char)
    : readInside (c :: rest) = (readInside rest).map fun (value, after) => (c :: value, after) := by
  rw [readInside]
  all_goals simp [other]

/-- An apostrophe with no other one behind it closes the literal.
-/
theorem readInside_close (ends : rest.head? ≠ some '\'')
    : readInside ('\'' :: rest) = some ([], rest) := by
  cases rest with
  | nil => rfl
  | cons c rest =>
    have other : c ≠ '\'' := fun same => ends (congrArg some same)
    rw [readInside]
    simp [other]

/-- What is written in a literal is read back up to its end.
Witness: induction on the characters; a doubled apostrophe is passed over as a pair.
-/
theorem readInside_doubled (value : List Char) (ends : rest.head? ≠ some '\'')
    : readInside (value.flatMap doubled ++ '\'' :: rest) = some (value, rest) := by
  induction value with
  | nil => exact readInside_close ends
  | cons c value ih =>
      rw [List.flatMap_cons, List.append_assoc, doubled]
      split
      · next same =>
        subst same
        change readInside ('\'' :: '\'' :: (value.flatMap doubled ++ '\'' :: rest)) = _
        rw [readInside, ih]
        rfl
      · next other =>
        rw [List.cons_append, List.nil_append, readInside_cons other, ih]
        rfl

/-- Nothing else is read than what is written in a literal, up to an apostrophe with no other one
behind it.
-/
theorem eq_of_readInside (read : readInside text = some (value, rest))
    : text = value.flatMap doubled ++ '\'' :: rest ∧ rest.head? ≠ some '\'' := by
  fun_induction readInside text generalizing value rest with
  | case1 => cases read
  | case2 later ih =>
      obtain ⟨⟨inner, after⟩, found, same⟩ := Option.map_eq_some_iff.mp read
      cases same
      obtain ⟨rfl, ends⟩ := ih found
      exact ⟨rfl, ends⟩
  | case3 later single =>
      cases read
      refine ⟨rfl, fun next => ?_⟩
      obtain ⟨others, rfl⟩ := List.head?_eq_some_iff.mp next
      exact single others rfl
  | case4 c later _ other ih =>
      obtain ⟨⟨inner, after⟩, found, same⟩ := Option.map_eq_some_iff.mp read
      cases same
      obtain ⟨rfl, ends⟩ := ih found
      refine ⟨?_, ends⟩
      have apart : c ≠ '\'' := fun same => other same
      simp [doubled, apart]

/-- A literal is read at the start of a text exactly when the text starts with the quoted value and
does not go on with another apostrophe.
-/
theorem readLiteral?_eq_some_iff {value : String}
    : readLiteral? text = some (value, rest)
      ↔ text = (quote value).toList ++ rest ∧ rest.head? ≠ some '\'' := by
  have written : (quote value).toList ++ rest
      = '\'' :: (value.toList.flatMap doubled ++ '\'' :: rest) := by
    simp [quote_toList]
  rw [written]
  constructor
  · fun_cases readLiteral? text with
    | case1 inside =>
        intro read
        obtain ⟨⟨inner, after⟩, found, same⟩ := Option.map_eq_some_iff.mp read
        cases same
        obtain ⟨rfl, ends⟩ := eq_of_readInside found
        rw [String.toList_ofList]
        exact ⟨rfl, ends⟩
    | case2 => exact nofun
  · rintro ⟨rfl, ends⟩
    rw [readLiteral?, readInside_doubled value.toList ends]
    simp

-----------------------------------------------------------------------------------------
-- Paths and filters
-----------------------------------------------------------------------------------------

/-- A part of a path or a filter: a character outside of literals, or a whole literal.
-/
inductive Token
  | plain (c : Char)
  | literal (value : String)
  deriving DecidableEq, Repr

/-- The parts of a text; none where a literal is not closed.
-/
def tokens? : List Char → Option (List Token)
  | [] => some []
  | c :: rest =>
    if c = '\'' then
      match _read : readLiteral? (c :: rest) with
      | some (value, after) => (tokens? after).map (.literal value :: ·)
      | none => none
    else
      (tokens? rest).map (.plain c :: ·)
termination_by text => text.length
decreasing_by
  · rw [(readLiteral?_eq_some_iff.mp _read).1, quote_toList]
    simp only [List.length_cons, List.length_append]
    omega
  · simp only [List.length_cons]
    omega

/-- The parts of a text without literals.
-/
def plainly (text : String) : List Token :=
  text.toList.map .plain

/-- Characters outside of literals are parts of their own.
-/
theorem tokens?_append_plain {plain : String} (free : '\'' ∉ plain.toList) (later : String)
    : tokens? (plain ++ later).toList = (tokens? later.toList).map (plainly plain ++ ·) := by
  rw [String.toList_append, plainly]
  generalize plain.toList = chars at free
  induction chars with
  | nil => simp
  | cons c chars ih =>
      obtain ⟨other, others⟩ := List.ne_and_not_mem_of_not_mem_cons free
      rw [List.cons_append, tokens?, if_neg other.symm, ih others]
      simp [Option.map_map, Function.comp_def]

/-- A quoted text is one part.
-/
theorem tokens?_append_quote (value : String) {later : String}
    (ends : later.toList.head? ≠ some '\'')
    : tokens? (quote value ++ later).toList = (tokens? later.toList).map (.literal value :: ·) := by
  have read : readLiteral? ((quote value).toList ++ later.toList) = some (value, later.toList) :=
    readLiteral?_eq_some_iff.mpr ⟨rfl, ends⟩
  rw [String.toList_append]
  rw [quote_toList, List.cons_append] at read ⊢
  rw [tokens?, if_pos rfl]
  split
  · next found =>
    cases read.symm.trans found
    rfl
  · next nothing => cases read.symm.trans nothing

/-- The parts of a text without apostrophes.
-/
theorem tokens?_plain {plain : String} (free : '\'' ∉ plain.toList)
    : tokens? plain.toList = some (plainly plain) := by
  have read := tokens?_append_plain free ""
  rw [String.append_empty] at read
  rw [read, String.toList_empty, tokens?]
  simp

/-- The parts of a text that ends with a literal.
-/
theorem tokens?_quote {plain : String} (free : '\'' ∉ plain.toList) (value : String)
    : tokens? (plain ++ quote value).toList = some (plainly plain ++ [.literal value]) := by
  have ends : "".toList.head? ≠ some '\'' := by
    simp
  have read := tokens?_append_quote value ends
  rw [String.append_empty] at read
  rw [tokens?_append_plain free, read, String.toList_empty, tokens?]
  rfl

/-- The parts of the path of a table.
-/
def tableTokens (table : String) : List Token :=
  plainly "EntityDefinitions(LogicalName=" ++ .literal table :: plainly ")"

/-- The parts of the path of a column.
-/
def columnTokens (table column : String) : List Token :=
  tableTokens table ++ plainly "/Attributes(LogicalName=" ++ .literal column :: plainly ")"

/-- The path of a table names it, whatever is added to the path.
-/
theorem tokens?_tablePath_append (table later : String)
    : tokens? (tablePath table ++ later).toList
      = (tokens? later.toList).map (tableTokens table ++ ·) := by
  have ends : (")" ++ later).toList.head? ≠ some '\'' := by
    simp
  -- Rewriting with the definition would evaluate the texts in it.
  unfold tablePath
  rw [String.append_assoc, String.append_assoc, tokens?_append_plain (by decide),
    tokens?_append_quote table ends, tokens?_append_plain (by decide)]
  cases tokens? later.toList with
  | none => rfl
  | some parts => simp [tableTokens]

/-- The path of a table names it.
-/
theorem tokens?_tablePath (table : String)
    : tokens? (tablePath table).toList = some (tableTokens table) := by
  have read := tokens?_tablePath_append table ""
  rw [String.append_empty] at read
  rw [read, String.toList_empty, tokens?]
  simp

/-- The path of the columns of a table names it.
-/
theorem tokens?_columnsPath (table : String)
    : tokens? (tablePath table ++ "/Attributes").toList
      = some (tableTokens table ++ plainly "/Attributes") := by
  rw [tokens?_tablePath_append, tokens?_plain (by decide)]
  rfl

/-- The path of a column names it and its table.
-/
theorem tokens?_columnPath (table column : String)
    : tokens? (columnPath table column).toList = some (columnTokens table column) := by
  have ends : ")".toList.head? ≠ some '\'' := by
    decide
  unfold columnPath
  rw [String.append_assoc, String.append_assoc, tokens?_tablePath_append,
    tokens?_append_plain (by decide), tokens?_append_quote column ends, tokens?_plain (by decide)]
  simp [columnTokens]

-----------------------------------------------------------------------------------------
-- The requests of calls
-----------------------------------------------------------------------------------------

/-- The parts of the path that a call leads to.
-/
def pathTokens : Call → List Token
  | .whoAmI => plainly "WhoAmI"
  | .findPublisher _ => plainly "publishers"
  | .solutionExists _ => plainly "solutions"
  | .createSolution _ _ => plainly "solutions"
  | .tableExists table => tableTokens table
  | .columnExists table column => columnTokens table column
  | .createTable _ _ => plainly "EntityDefinitions"
  | .createColumn table _ => tableTokens table ++ plainly "/Attributes"
  | .createRelationship _ _ => plainly "RelationshipDefinitions"
  | .tableId table => tableTokens table
  | .solutionContains _ _ => plainly "solutions"
  | .addComponent _ _ => plainly "AddSolutionComponent"
  | .pause _ => []

/-- The parts of the filter that a call asks with.
-/
def filterTokens : Call → List Token
  | .findPublisher namePrefix => plainly "customizationprefix eq " ++ [.literal namePrefix]
  | .solutionExists name => plainly "uniquename eq " ++ [.literal name]
  | .solutionContains solution _ => plainly "uniquename eq " ++ [.literal solution]
  | _ => []

/-- The filter of a query, which is empty where there is none.
-/
def filterOf (query : List (String × String)) : String :=
  (query.lookup "$filter").getD ""

/-- A request denotes what a call is about. Its path and its filter are read as those of the call,
except that a solution that was found is asked for a component by two numbers, without literals.
-/
inductive Denotes (connection : Connection) : Call → Http.Request → Prop
  | literally {call : Call} {request : Http.Request} {path : String}
    (url : request.url = connection.base ++ "/" ++ path)
    (resource : tokens? path.toList = some (pathTokens call))
    (filter : tokens? (filterOf request.query).toList = some (filterTokens call))
    : Denotes connection call request
  | byNumber {solution id number : String} {request : Http.Request}
    (url : request.url = connection.base ++ "/" ++ "solutioncomponents")
    (filter
      : filterOf request.query = "_solutionid_value eq " ++ number ++ " and objectid eq " ++ id)
    : Denotes connection (.solutionContains solution id) request

/-- Every request in a stretch of traffic denotes what a call is about.
-/
def Speaks (connection : Connection) (call : Call) (traffic : Traffic) : Prop :=
  ∀ exchange ∈ traffic, ∀ request,
    exchange.question = .send request → Denotes connection call request

section Answers

variable {traffic : Traffic} {call : Call} {path : String} {query : List (String × String)}
variable {body : Json.Value}

/-- A query without a filter is read as none.
-/
theorem tokens?_filterOf (unfiltered : query.lookup "$filter" = none)
    : tokens? (filterOf query).toList = some [] := by
  rw [filterOf, unfiltered, Option.getD_none, String.toList_empty, tokens?]

/-- A resource that is asked for a field is that of the call.
-/
theorem denotes_select (resource : tokens? path.toList = some (pathTokens call))
    (unfiltered : filterTokens call = []) (field : String)
    : Denotes connection call (getRequest connection path [("$select", field)]) := by
  refine .literally rfl resource ?_
  rw [unfiltered]
  exact tokens?_filterOf (by simp [getRequest])

/-- Records are asked for by the filter of the call.
-/
theorem denotes_filter {filter : String} (resource : tokens? path.toList = some (pathTokens call))
    (filtered : tokens? filter.toList = some (filterTokens call)) (field : String)
    : Denotes connection call (getRequest connection path (select filter field)) :=
  .literally rfl resource filtered

/-- The filter for the name of a solution names it.
-/
theorem tokens?_solutionFilter (name : String)
    : tokens? ("uniquename eq " ++ quote name).toList
      = some (plainly "uniquename eq " ++ [.literal name]) :=
  tokens?_quote (by decide) name

/-- Traffic with one request speaks of what that request denotes.
-/
theorem SendsOnly.speaks {request : Http.Request} (only : SendsOnly request traffic)
    (denotes : Denotes connection call request)
    : Speaks connection call traffic := by
  intro exchange member other sent
  cases (only exchange member).symm.trans sent
  exact denotes

/-- What is posted for a call without a filter goes to the path of the call.
-/
theorem speaks_of_course_post {result : Except StoreError Unit}
    (course : Course (post connection path body) traffic result)
    (resource : tokens? path.toList = some (pathTokens call)) (unfiltered : filterTokens call = [])
    : Speaks connection call traffic := by
  refine (course_post course).sendsOnly.speaks (.literally rfl resource ?_)
  rw [unfiltered]
  exact tokens?_filterOf rfl

/-- A solution is checked for a component by its name, and then by the numbers of both.
-/
theorem Contained.speaks {solution id : String} {found : Except StoreError Bool}
    (contained : Contained connection solution id traffic found)
    : Speaks connection (.solutionContains solution id) traffic := by
  have byName {found : Except StoreError (Option String)} {traffic : Traffic}
      (looked : SolutionListed connection solution traffic found)
      : Speaks connection (.solutionContains solution id) traffic :=
    looked.sendsOnly.speaks
      (denotes_filter (tokens?_plain (by decide)) (tokens?_solutionFilter solution) _)
  have byNumber {number : String} {found : Except StoreError (Option Json.Value)}
      {traffic : Traffic} (fetched : ComponentFetched connection number id traffic found)
      : Speaks connection (.solutionContains solution id) traffic :=
    fetched.sendsOnly.speaks (.byNumber rfl rfl)
  cases contained with
  | failed looked | unsolved looked => exact byName looked
  | unanswered looked fetched | missing looked fetched | empty looked fetched
  | present looked fetched =>
      exact List.forall_mem_append.mpr ⟨byName looked, byNumber fetched⟩

/-- Whatever comes back for a call, all its requests denote what it is about.
Witness: the calls one by one, each with the path and the filter that it is asked with.
-/
theorem speaks_of_course_answer {result : Answer call}
    (course : Course (answer connection call) traffic result)
    : Speaks connection call traffic := by
  cases call with
  | whoAmI =>
      obtain ⟨_, described, _⟩ := course_userId course
      exact described.sendsOnly.speaks
        (.literally rfl (tokens?_plain (by decide)) (tokens?_filterOf rfl))
  | findPublisher namePrefix =>
      exact (course_publisherId course).sendsOnly.speaks
        (denotes_filter (tokens?_plain (by decide)) (tokens?_quote (by decide) namePrefix) _)
  | solutionExists name =>
      obtain ⟨_, listed, _⟩ := course_solutionExists course
      exact listed.sendsOnly.speaks
        (denotes_filter (tokens?_plain (by decide)) (tokens?_solutionFilter name) _)
  | tableExists table =>
      obtain ⟨_, fetched, _⟩ := course_tableExists course
      exact fetched.sendsOnly.speaks (denotes_select (tokens?_tablePath table) rfl _)
  | columnExists table column =>
      obtain ⟨_, fetched, _⟩ := course_columnExists course
      exact fetched.sendsOnly.speaks (denotes_select (tokens?_columnPath table column) rfl _)
  | tableId table =>
      exact (course_tableId course).sendsOnly.speaks
        (denotes_select (tokens?_tablePath table) rfl _)
  | solutionContains solution id => exact (course_solutionContains course).speaks
  | createColumn table attr =>
      exact speaks_of_course_post course (tokens?_columnsPath table) rfl
  | createSolution | createTable | createRelationship | addComponent =>
      exact speaks_of_course_post course (tokens?_plain (by decide)) rfl
  | pause milliseconds =>
      obtain ⟨_, _, continued, rfl⟩ := Dialogue.course_ask_iff.mp course
      obtain ⟨rfl, _⟩ := Dialogue.course_pure_iff.mp continued
      exact List.forall_mem_singleton.mpr nofun

end Answers

/-- A reader of literals reads exactly the quoted texts, each as its value and up to its end, as long
as no other apostrophe follows. So whatever a service answers, every request for a call is read as
the path and the filter of that call, with the names in it as literals.
-/
theorem literals_denote (connection : Connection)
    : (∀ text value rest,
        readLiteral? text = some (value, rest)
        ↔ text = (quote value).toList ++ rest ∧ rest.head? ≠ some '\'')
      ∧ ∀ call traffic result,
          Course (answer connection call) traffic result → Speaks connection call traffic :=
  ⟨fun _ _ _ => readLiteral?_eq_some_iff, fun _ _ _ => speaks_of_course_answer⟩

/-- A call about names with apostrophes inside and at both ends.
-/
def apostrophes : Call :=
  .columnExists "o'brien" "'n'"

/-- A connection to a service that never answers.
-/
def lostConnection : Connection where
  base := "http://h"
  token := "token"
  language := 1033

/-- What a service that never answers makes of a question.
-/
def lose : Unit → (question : Http.Question) → Http.Answer question × Unit :=
  fun world question => (Host.unreachable question, world)

/-- The traffic of the call with apostrophes.
-/
def apostrophesTraffic : Traffic :=
  (answer lostConnection apostrophes).transcript lose ()

/-- The address that a question goes to.
-/
def addressOf : Http.Question → String
  | .send request => request.url
  | .pause _ => ""

/-- A literal ends before what follows it, and the names with apostrophes are read in the one request
that is sent for the call with them.
-/
theorem literals_denote_apostrophes
    : readLiteral? "'o''brien')".toList = some ("o'brien", ")".toList)
      ∧ Course (answer lostConnection apostrophes) apostrophesTraffic
          ((answer lostConnection apostrophes).run lose ()).1
      ∧ apostrophesTraffic.map (fun exchange => addressOf exchange.question)
        = ["http://h/EntityDefinitions(LogicalName='o''brien')/Attributes(LogicalName='''n''')"]
      ∧ Speaks lostConnection apostrophes apostrophesTraffic := by
  obtain ⟨reads, speaks⟩ := literals_denote lostConnection
  have course := Dialogue.course_transcript lose (answer lostConnection apostrophes) ()
  exact ⟨(reads _ _ _).mpr (by decide +kernel), course, by decide +kernel, speaks _ _ _ course⟩

end Tablewright.Store.WebApi
