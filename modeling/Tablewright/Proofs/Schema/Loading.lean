import Tablewright.Proofs.Files.Places
import Tablewright.Proofs.Machines
import Tablewright.Schema.Load

/-! Reading schema files: nothing changes meanwhile, and a text of markup is no schema.
-/

namespace Tablewright

/-- A text that starts as markup does.
-/
def StartsMarkup (text : String) : Prop :=
  ∃ rest, text.toList = '<' :: rest

/-- What is read in two trees by the same path is the same where the files of the second are those of
the first or markup, and markup cannot be decoded.
-/
theorem eq_of_renewed {ε α : Type} {decode : String → Except ε α} {before after : FileTree}
    {here : List String} {path text other : String} {one two : α}
    (refuses : ∀ {text}, StartsMarkup text → ∀ a, decode text ≠ .ok a)
    (renewed : FileTree.Renewed StartsMarkup before after)
    (read : before.readText here path = .ok text) (reread : after.readText here path = .ok other)
    (decoded : decode text = .ok one) (redecoded : decode other = .ok two)
    : two = one := by
  rcases renewed.eq_or_of_readText read reread with rfl | markup
  · rw [decoded] at redecoded
    exact (Except.ok.inj redecoded).symm
  · exact absurd redecoded (refuses markup two)

namespace Toml

variable (rest : List Char)

/-- Markup stands at the start of a line as it is.
-/
theorem skipLines_markup (fuel : Nat)
    : skipLines (fuel + 1) ('<' :: rest) = some ('<' :: rest) := by
  rw [skipLines]
  simp [skipBlanks, skipComment, lineBreak?]

/-- No key starts as markup does.
-/
theorem readKey_markup : readKey ('<' :: rest) = none := by
  rw [readKey, greatestDepth, readParts]
  simp [skipBlanks, readSimpleKey, isKeyChar]

/-- No statement starts as markup does.
-/
theorem readStatement_markup : readStatement ('<' :: rest) = none := by
  unfold readStatement
  dsimp only
  rw [readKey_markup]
  rfl

/-- No statements start as markup does.
-/
theorem readStatements_markup (fuel : Nat) : readStatements fuel ('<' :: rest) = none := by
  cases fuel with
  | zero => rfl
  | succ fuel => simp [readStatements, skipLines_markup, readStatement_markup]

/-- A text of markup is not a TOML document.
-/
theorem parse_of_startsMarkup {text : String} (markup : StartsMarkup text)
    : parse text = none := by
  obtain ⟨rest, spelled⟩ := markup
  simp [parse, spelled, readStatements_markup]

end Toml

/-- A text of markup is not a JSON document.
-/
theorem Json.readDocument_of_startsMarkup {text : String} (markup : StartsMarkup text)
    : ∃ cause, readDocument text.toList = (.broken cause, none) := by
  obtain ⟨rest, spelled⟩ := markup
  rw [spelled, readDocument, readValue]
  simp [skipBlanks, isBlank]

namespace Schema

variable {network : (question : Http.Question) → Http.Answer question}
variable {machine : Host.Machine} {path text : String} {schema : Schema}

/-- A text of markup is no schema, whatever the format.
-/
theorem ofText_ne_ok_of_startsMarkup (markup : StartsMarkup text) (format : Format)
    (schema : Schema)
    : ofText format text ≠ .ok schema := by
  intro read
  cases format with
  | json =>
      obtain ⟨cause, broken⟩ := Json.readDocument_of_startsMarkup markup
      simp [ofText, Json.decode, broken, ofDocument, bind, Except.bind] at read
  | toml => simp [ofText, Toml.decode, Toml.parse_of_startsMarkup markup] at read

/-- Loading a schema only looks.
-/
theorem looks_load (path : String) : (load path).Asks Host.Question.Looks := by
  refine Dialogue.Asks.bind (Host.looks_pathExists path) fun there => ?_
  cases there with
  | false => exact Dialogue.asks_pure _
  | true =>
      simp only [if_true]
      split
      · exact Dialogue.asks_pure _
      · refine Dialogue.Asks.bind (Host.looks_readText path) fun text => ?_
        cases text <;> exact Dialogue.asks_pure _

/-- A schema is loaded from the text of a file, in the format of its extension.
-/
theorem exists_text_of_run_load
    (loaded : ((load path).run (Host.Machine.respond network) machine).1 = .ok schema)
    : ∃ format text,
        Format.ofExtension? ((Path.extension? path).getD "") = some format
        ∧ machine.files.readText machine.directory path = .ok text
        ∧ ofText format text = .ok schema := by
  rw [load] at loaded
  simp only [Dialogue.run_bind, Host.pathExists, Host.readText, Dialogue.run,
    Host.Machine.respond] at loaded
  by_cases there : (machine.files.open? machine.directory path).isOk = true
  · cases named : Format.ofExtension? ((Path.extension? path).getD "") with
    | none => simp [there, named] at loaded
    | some format =>
        simp only [there, if_true, named, Dialogue.run_bind, Dialogue.run, Host.Machine.respond]
          at loaded
        cases read : machine.files.readText machine.directory path with
        | error fault => simp [read] at loaded
        | ok text =>
            simp only [read, Dialogue.run_pure] at loaded
            exact ⟨format, text, rfl, rfl, loaded⟩
  · simp [there] at loaded

/-- Where all files are as before or markup, no other schema is loaded than before.
-/
theorem eq_of_run_load {files : FileTree} {other : Schema}
    (renewed : FileTree.Renewed StartsMarkup machine.files files)
    (one : ((load path).run (Host.Machine.respond network) machine).1 = .ok schema)
    (two : ((load path).run (Host.Machine.respond network) { machine with files }).1 = .ok other)
    : other = schema := by
  obtain ⟨format, text, named, read, decoded⟩ := exists_text_of_run_load one
  obtain ⟨_, found, same, reread, redecoded⟩ := exists_text_of_run_load two
  rw [named] at same
  cases same
  exact eq_of_renewed (fun markup => ofText_ne_ok_of_startsMarkup markup format) renewed read reread
    decoded redecoded

end Schema

end Tablewright
