import Tablewright.Proofs.Package.Placement
import Tablewright.Proofs.Settings.Sources

/-! What runs of the program do to files. Only `generate` changes any: it replaces a directory by
the documents of a package, and nothing outside that directory.
-/

namespace Tablewright

/-- Documents are markup.
-/
theorem Xml.Node.startsMarkup_document (node : Xml.Node) : StartsMarkup node.document := by
  refine ⟨"?xml version=\"1.0\" encoding=\"utf-8\"?>\n".toList
    ++ ((node.pieces 0 "").flatMap Piece.chars ++ ['\n']), ?_⟩
  rw [document_toList]
  rfl

namespace Command

variable {network : (question : Http.Question) → Http.Answer question}
variable {machine after : Host.Machine} {config out : Option String} {schema : String}
variable {compiled : CompiledSchema} {settings : Settings} {output : Output}

-----------------------------------------------------------------------------------------
-- Looking only
-----------------------------------------------------------------------------------------

/-- Compiling a schema file only looks.
-/
theorem looks_compileFile (path : String) (settings : Settings)
    : (compileFile path settings).Asks Host.Question.Looks := by
  refine Dialogue.Asks.bind (Schema.looks_load path) fun result => ?_
  cases result with
  | error error => exact Dialogue.asks_pure _
  | ok schema =>
      dsimp only
      split <;> exact Dialogue.asks_pure _

/-- Putting the values of variables into a text only looks.
-/
theorem looks_replace (text done : String) (pieces : List Variables.Piece)
    : (Variables.replace Host.valueOf text done pieces).Asks Host.Question.Looks := by
  induction pieces generalizing done with
  | nil => exact Dialogue.asks_pure _
  | cons piece rest ih =>
      cases piece with
      | literal c => exact ih _
      | unclosed => exact Dialogue.asks_pure _
      | reference name =>
          refine Dialogue.Asks.bind (Host.looks_valueOf name) fun value => ?_
          cases value with
          | some value => exact ih _
          | none => exact Dialogue.asks_pure _

/-- Connecting to an environment only looks.
-/
theorem looks_connect (environment : EnvironmentSettings) (credential : Credential)
    (language : Nat)
    : (Store.WebApi.connect Host.valueOf environment credential language).Asks
        Host.Question.Looks := by
  have address : (environment.resolveUrl Host.valueOf).Asks Host.Question.Looks := by
    rw [EnvironmentSettings.resolveUrl]
    cases environment.url with
    | none => exact Dialogue.asks_pure _
    | some url =>
        refine Dialogue.Asks.bind (looks_replace _ _ _) fun result => ?_
        cases result <;> exact Dialogue.asks_pure _
  have base : (environment.apiBase Host.valueOf).Asks Host.Question.Looks := by
    refine Dialogue.Asks.bind address fun result => ?_
    cases result <;> exact Dialogue.asks_pure _
  have token : (credential.token Host.valueOf).Asks Host.Question.Looks := by
    cases credential with
    | given token => exact Dialogue.asks_pure _
    | variableNamed name =>
        refine Dialogue.Asks.bind (Host.looks_valueOf name) fun value => ?_
        cases value <;> exact Dialogue.asks_pure _
  refine Dialogue.Asks.bind base fun result => ?_
  cases result with
  | error cause => exact Dialogue.asks_pure _
  | ok base =>
      refine Dialogue.Asks.bind token fun result => ?_
      cases result <;> exact Dialogue.asks_pure _

/-- Provisioning only looks, as far as files are concerned.
-/
theorem looks_provision (compiled : CompiledSchema) (settings : Settings) (isDryRun : Bool)
    : (provision compiled settings isDryRun).Asks Host.Question.Looks := by
  have live : (provisionLive compiled settings).Asks Host.Question.Looks := by
    refine Dialogue.Asks.bind (looks_connect _ _ _) fun result => ?_
    cases result with
    | error error => exact Dialogue.asks_pure _
    | ok connection =>
        dsimp only
        generalize Store.WebApi.exchange connection (Provision.run compiled settings) = talk
        exact Host.looks_exchange talk
  rw [provision]
  split
  · refine Dialogue.Asks.bind (Dialogue.asks_pure _) fun result => ?_
    cases result <;> exact Dialogue.asks_pure _
  · refine Dialogue.Asks.bind live fun result => ?_
    cases result <;> exact Dialogue.asks_pure _

/-- Every other subcommand only looks.
-/
theorem looks_perform (compiled : CompiledSchema) (settings : Settings) {action : Action}
    (other : ∀ schema out, action ≠ .generate schema out)
    : (perform compiled settings action).Asks Host.Question.Looks := by
  cases action with
  | generate schema out => exact absurd rfl (other schema out)
  | provision schema isDryRun => exact looks_provision compiled settings isDryRun
  | plan schema => exact Dialogue.asks_pure _
  | validate schema => exact Dialogue.asks_pure _

-----------------------------------------------------------------------------------------
-- Runs
-----------------------------------------------------------------------------------------

/-- A run without settings fails, and nothing changes.
-/
theorem run_invoke_of_settings_error {action : Action} {error : SettingsError}
    (failed : ((settingsFor config).run (Host.Machine.respond network) machine).1 = .error error)
    : (invoke ⟨config, action⟩).run (Host.Machine.respond network) machine
      = (.failure ("Settings error: " ++ error.message), machine) := by
  rw [invoke, Dialogue.run_bind, failed, Host.run_of_looks (Settings.looks_settingsFor config)]
  rfl

section Settled

variable (action : Action)
variable
  (settled : ((settingsFor config).run (Host.Machine.respond network) machine).1 = .ok settings)
include settled

/-- A run with a schema that cannot be compiled fails, and nothing changes.
-/
theorem run_invoke_of_complaint {complaint : String}
    (failed
      : ((compileFile action.schema settings).run (Host.Machine.respond network) machine).1
        = .error complaint)
    : (invoke ⟨config, action⟩).run (Host.Machine.respond network) machine
      = (.failure complaint, machine) := by
  rw [invoke, Dialogue.run_bind, settled, Host.run_of_looks (Settings.looks_settingsFor config)]
  simp only [Dialogue.run_bind, failed, Host.run_of_looks (looks_compileFile _ settings)]
  rfl

variable
  (compiles
    : ((compileFile action.schema settings).run (Host.Machine.respond network) machine).1
      = .ok compiled)
include compiles

/-- A run with settings and a schema that compiles does what was asked for.
-/
theorem run_invoke_of_compiles
    : (invoke ⟨config, action⟩).run (Host.Machine.respond network) machine
      = (perform compiled settings action).run (Host.Machine.respond network) machine := by
  rw [invoke, Dialogue.run_bind, settled, Host.run_of_looks (Settings.looks_settingsFor config)]
  simp only [Dialogue.run_bind, compiles, Host.run_of_looks (looks_compileFile _ settings)]

/-- The exchanges of such a run are those of finding the settings and compiling the schema, and then
those of doing what was asked for.
-/
theorem transcript_invoke_of_compiles
    : (invoke ⟨config, action⟩).transcript (Host.Machine.respond network) machine
      = (settingsFor config).transcript (Host.Machine.respond network) machine
        ++ ((compileFile action.schema settings).transcript (Host.Machine.respond network) machine
          ++ (perform compiled settings action).transcript (Host.Machine.respond network)
              machine) := by
  rw [invoke, Dialogue.transcript_bind, settled,
    Host.run_of_looks (Settings.looks_settingsFor config)]
  simp only [Dialogue.transcript_bind, compiles,
    Host.run_of_looks (looks_compileFile _ settings)]

end Settled

/-- Generating succeeds only when the package is written.
-/
theorem run_write_of_run_generate {directory : String}
    (generated
      : (generate compiled settings directory).run (Host.Machine.respond network) machine
        = (output, after))
    (succeeded : output.exitCode = 0)
    : ((compiled.package settings).write directory).run (Host.Machine.respond network) machine
      = (.ok (), after) := by
  rw [generate, Dialogue.run_bind] at generated
  cases written : ((compiled.package settings).write directory).run
      (Host.Machine.respond network) machine with
  | mk result files =>
      rw [written] at generated
      cases result with
      | error error =>
          cases generated
          cases succeeded
      | ok done =>
          cases generated
          rfl

/-- Generating again succeeds or fails without changing anything.
-/
theorem run_generate_again {directory : String}
    (written
      : ((compiled.package settings).write directory).run (Host.Machine.respond network) machine
        = (.ok (), machine))
    : ((generate compiled settings directory).run (Host.Machine.respond network) machine).2
      = machine := by
  rw [generate, Dialogue.run_bind, written]
  rfl

/-- A schema file that compiles was loaded first.
-/
theorem exists_schema_of_run_compileFile {path : String}
    (compiles
      : ((compileFile path settings).run (Host.Machine.respond network) machine).1
        = .ok compiled)
    : ∃ loaded,
        ((Schema.load path).run (Host.Machine.respond network) machine).1 = .ok loaded
        ∧ loaded.compile settings.publisher.namePrefix = .ok compiled := by
  rw [compileFile, Dialogue.run_bind] at compiles
  cases loads : ((Schema.load path).run (Host.Machine.respond network) machine).1 with
  | error error =>
      rw [loads] at compiles
      cases compiles
  | ok loaded =>
      refine ⟨loaded, rfl, ?_⟩
      simp only [loads] at compiles
      cases accepted : loaded.compile settings.publisher.namePrefix with
      | error error =>
          rw [accepted] at compiles
          cases compiles
      | ok found =>
          rw [accepted] at compiles
          cases compiles
          rfl

/-- What a schema file compiles to is coherent.
-/
theorem coherent_of_run_compileFile {path : String}
    (compiles
      : ((compileFile path settings).run (Host.Machine.respond network) machine).1
        = .ok compiled)
    : compiled.Coherent := by
  obtain ⟨_, _, accepted⟩ := exists_schema_of_run_compileFile compiles
  exact CompiledSchema.coherent_of_compile accepted

/-- Where all files are as before or markup, no other schema is compiled than before.
-/
theorem eq_of_run_compileFile {path : String} {files : FileTree} {other : CompiledSchema}
    (renewed : FileTree.Renewed StartsMarkup machine.files files)
    (one
      : ((compileFile path settings).run (Host.Machine.respond network) machine).1
        = .ok compiled)
    (two
      : ((compileFile path settings).run (Host.Machine.respond network) { machine with files }).1
        = .ok other)
    : other = compiled := by
  obtain ⟨loaded, loads, compiles⟩ := exists_schema_of_run_compileFile one
  obtain ⟨found, reloads, recompiles⟩ := exists_schema_of_run_compileFile two
  obtain rfl := Schema.eq_of_run_load renewed loads reloads
  rw [compiles] at recompiles
  exact (Except.ok.inj recompiles).symm

-----------------------------------------------------------------------------------------
-- Generating
-----------------------------------------------------------------------------------------

/-- All files that a package brings are markup.
-/
theorem renewed_of_replaces {place : List String} {before files : FileTree}
    (coherent : compiled.Coherent)
    (replaces : (compiled.package settings).Replaces place before files)
    : FileTree.Renewed StartsMarkup before files := by
  intro steps content found
  by_cases inside : place <+: steps
  · obtain ⟨rest, rfl⟩ := inside
    obtain ⟨path, text, listed, _, rfl⟩ := (replaces.beneath rest content).mp found
    obtain ⟨node, _, rfl⟩ := (coherent.get?_eq_some_iff settings).mp listed
    exact .inr ⟨_, node.startsMarkup_document, rfl⟩
  · exact .inl (replaces.outside steps inside ▸ found)

/-- What a run is to do with the files of a machine that is asked to put a package into a directory.
All that it changes is in the directory. When it succeeds, there are exactly the documents of the
package at the place of the directory, and nothing else is changed on the machine. The same run
changes nothing then, except that a search for settings may find others among the files of the first
run than it found before.
-/
structure Generates (network : (question : Http.Question) → Http.Answer question)
    (machine : Host.Machine) (invocation : Invocation) (package : Package) (directory : String)
    : Prop where
  confined
    : ∀ exchange ∈ (invoke invocation).transcript (Host.Machine.respond network) machine,
        Package.Confined directory exchange.question
  replaces
    : ∀ output after,
        (invoke invocation).run (Host.Machine.respond network) machine = (output, after)
        → output.exitCode = 0
        → ∃ files,
            after = { machine with files }
            ∧ package.Replaces (Path.place machine.directory directory) machine.files files
  again
    : ∀ output after,
        (invoke invocation).run (Host.Machine.respond network) machine = (output, after)
        → output.exitCode = 0
        → ((invoke invocation).run (Host.Machine.respond network) after).2 = after
          ∨ Settings.Shifts invocation.config machine after

section Generates

variable {directory : String}
variable
  (settled : ((settingsFor config).run (Host.Machine.respond network) machine).1 = .ok settings)
variable
  (compiles
    : ((compileFile schema settings).run (Host.Machine.respond network) machine).1
      = .ok compiled)
variable (asked : out.getD settings.package.outputDirectory = directory)
include settled compiles asked

/-- A run of `generate` that succeeds has written its package.
-/
theorem run_write_of_run_invoke
    (ended
      : (invoke ⟨config, .generate schema out⟩).run (Host.Machine.respond network) machine
        = (output, after))
    (succeeded : output.exitCode = 0)
    : ((compiled.package settings).write directory).run (Host.Machine.respond network) machine
      = (.ok (), after) := by
  rw [run_invoke_of_compiles (.generate schema out) settled compiles, perform, asked] at ended
  exact run_write_of_run_generate ended succeeded

variable (ordinary : Path.Ordinary directory)
include ordinary

/-- All that a run of `generate` changes is in its directory, also when writing fails half-way.
-/
theorem confined_of_compiles
    : ∀ exchange ∈ (invoke ⟨config, .generate schema out⟩).transcript
          (Host.Machine.respond network) machine,
        Package.Confined directory exchange.question := by
  have coherent := coherent_of_run_compileFile compiles
  have harmless (question : Host.Question) (looks : question.Looks)
      : Package.Confined directory question := by
    cases question with
    | clear path => exact looks.elim
    | createDirectories path => exact looks.elim
    | writeText path text => exact looks.elim
    | _ => trivial
  have written : (generate compiled settings directory).Asks (Package.Confined directory) := by
    refine Dialogue.Asks.bind (Package.asks_write ordinary fun document member =>
      coherent.plain_of_mem_entries settings member) fun result => ?_
    cases result <;> exact Dialogue.asks_pure _
  intro exchange member
  rw [transcript_invoke_of_compiles (.generate schema out) settled compiles, List.mem_append,
    List.mem_append] at member
  rcases member with finding | compiling | performing
  · exact ((Settings.looks_settingsFor config).mono harmless).of_course
      (Dialogue.course_transcript _ _ _) exchange finding
  · exact ((looks_compileFile _ settings).mono harmless).of_course
      (Dialogue.course_transcript _ _ _) exchange compiling
  · rw [perform, asked] at performing
    exact written.of_course (Dialogue.course_transcript _ _ _) exchange performing

section Succeeded

variable
  (ended
    : (invoke ⟨config, .generate schema out⟩).run (Host.Machine.respond network) machine
      = (output, after))
variable (succeeded : output.exitCode = 0)
include ended succeeded

/-- A run of `generate` that succeeds has replaced a directory, or made it where nothing was.
-/
theorem replaces_of_run_invoke
    : ∃ files,
        after = { machine with files }
        ∧ (compiled.package settings).Replaces (Path.place machine.directory directory)
            machine.files files := by
  have coherent := coherent_of_run_compileFile compiles
  have plain (document : String × String)
      (member : document ∈ (compiled.package settings).documents.entries)
      : Path.Plain document.1 :=
    coherent.plain_of_mem_entries settings member
  have some := coherent.entries_ne_nil settings
  have written := run_write_of_run_invoke settled compiles asked ended succeeded
  obtain ⟨_, _, _, _, files, _, rfl⟩ :=
    Package.exists_planted_of_run_write ordinary plain some written
  exact ⟨files, rfl, Package.replaces_of_run_write ordinary plain some written⟩

/-- The same run changes nothing after it succeeded, or it finds other settings. It fails before it
changes anything, or it has the settings and the schema that the first one had.
-/
theorem run_invoke_again
    : ((invoke ⟨config, .generate schema out⟩).run (Host.Machine.respond network) after).2 = after
      ∨ Settings.Shifts config machine after := by
  obtain ⟨files, rfl, replaces⟩ :=
    replaces_of_run_invoke settled compiles asked ordinary ended succeeded
  have coherent := coherent_of_run_compileFile compiles
  have renewed := renewed_of_replaces coherent replaces
  cases resettled : ((settingsFor config).run (Host.Machine.respond network)
      { machine with files }).1 with
  | error error =>
      rw [run_invoke_of_settings_error resettled]
      exact .inl rfl
  | ok other =>
      rcases Settings.eq_or_of_run_settingsFor renewed settled resettled with rfl | shifts
      · refine .inl ?_
        cases recompiles : ((compileFile schema other).run (Host.Machine.respond network)
            { machine with files }).1 with
        | error complaint =>
            rw [run_invoke_of_complaint (.generate schema out) resettled recompiles]
        | ok found =>
            obtain rfl := eq_of_run_compileFile renewed compiles recompiles
            have written := run_write_of_run_invoke settled compiles asked ended succeeded
            rw [run_invoke_of_compiles (.generate schema out) resettled recompiles, perform, asked]
            exact run_generate_again (Package.run_write_again ordinary
              (fun document member => coherent.plain_of_mem_entries other member)
              (coherent.entries_ne_nil other) written)
      · exact .inr shifts

end Succeeded

/-- A run of `generate` with settings and a schema that compiles generates its package.
-/
theorem generates_of_compiles
    : Generates network machine ⟨config, .generate schema out⟩ (compiled.package settings)
        directory := by
  refine ⟨confined_of_compiles settled compiles asked ordinary,
    fun output after ended succeeded => ?_, fun output after ended succeeded => ?_⟩
  · exact replaces_of_run_invoke settled compiles asked ordinary ended succeeded
  · exact run_invoke_again settled compiles asked ordinary ended succeeded

end Generates

/-- What runs of the program do to files. Without settings, or without a schema that loads and
compiles, a run fails and nothing changes. A run of `generate` with an ordinary directory puts its
package there; runs of all other subcommands leave the files as they are.
Witness: the settings and the schema are only looked at, so that the directory is cleared when
nothing but writing can fail.
-/
theorem invoke_files (network : (question : Http.Question) → Http.Answer question)
    (machine : Host.Machine) (config : Option String)
    : (∀ action error,
        ((settingsFor config).run (Host.Machine.respond network) machine).1 = .error error
        → (invoke ⟨config, action⟩).run (Host.Machine.respond network) machine
          = (.failure ("Settings error: " ++ error.message), machine))
      ∧ (∀ action settings complaint,
        ((settingsFor config).run (Host.Machine.respond network) machine).1 = .ok settings
        → ((compileFile action.schema settings).run (Host.Machine.respond network) machine).1
          = .error complaint
        → (invoke ⟨config, action⟩).run (Host.Machine.respond network) machine
          = (.failure complaint, machine))
      ∧ (∀ schema out settings compiled,
        ((settingsFor config).run (Host.Machine.respond network) machine).1 = .ok settings
        → ((compileFile schema settings).run (Host.Machine.respond network) machine).1
          = .ok compiled
        → Path.Ordinary (out.getD settings.package.outputDirectory)
        → Generates network machine ⟨config, .generate schema out⟩ (compiled.package settings)
            (out.getD settings.package.outputDirectory))
      ∧ ∀ action,
        (∀ schema out, action ≠ .generate schema out)
        → ((invoke ⟨config, action⟩).run (Host.Machine.respond network) machine).2 = machine := by
  refine ⟨fun action error failed => run_invoke_of_settings_error failed,
    fun action settings complaint settled failed => run_invoke_of_complaint action settled failed,
    fun schema out settings compiled settled compiles ordinary =>
      generates_of_compiles settled compiles rfl ordinary,
    fun action other => ?_⟩
  cases settled : ((settingsFor config).run (Host.Machine.respond network) machine).1 with
  | error error => rw [run_invoke_of_settings_error settled]
  | ok settings =>
      cases compiles : ((compileFile action.schema settings).run
          (Host.Machine.respond network) machine).1 with
      | error complaint => rw [run_invoke_of_complaint action settled compiles]
      | ok compiled =>
          rw [run_invoke_of_compiles action settled compiles]
          exact Host.run_of_looks (looks_perform compiled settings other) machine

/-- A machine whose user works at home, with a schema without tables and with settings that name their
own directory as the output directory.
-/
def homeMachine : Host.Machine where
  environment := .ofVariables [("HOME", "/home/u")]
  directory := ["home", "u"]
  files := .directory [
    ("home", .directory [
      ("u", .directory [
        ("schema.json", .file "\x7b\"tables\":[]\x7d".toUTF8),
        (".config", .directory [
          ("trellis", .directory [
            ("config.toml", .file "[package]\noutput_dir = \".config\"\n".toUTF8)
          ])
        ])
      ])
    ])
  ]

/-- The settings on that machine.
-/
def homeSettings : Settings where
  package := { outputDirectory := ".config" }

/-- A run of `generate` on a machine without a network, with the settings that it finds.
-/
def generateOn (machine : Host.Machine) (out : Option String) : Output × Host.Machine :=
  (invoke ⟨none, .generate "schema.json" out⟩).run (Host.Machine.respond Host.unreachable) machine

/-- A run with another directory generates its package there.
-/
theorem invoke_files_elsewhere
    : ∃ compiled,
        ((settingsFor none).run (Host.Machine.respond Host.unreachable) homeMachine).1
          = .ok homeSettings
        ∧ ((compileFile "schema.json" homeSettings).run (Host.Machine.respond Host.unreachable)
              homeMachine).1
          = .ok compiled
        ∧ Path.Ordinary "out"
        ∧ (generateOn homeMachine (some "out")).1.exitCode = 0
        ∧ Generates Host.unreachable homeMachine ⟨none, .generate "schema.json" (some "out")⟩
            (compiled.package homeSettings) "out" := by
  have settled
      : ((settingsFor none).run (Host.Machine.respond Host.unreachable) homeMachine).1
        = .ok homeSettings := by
    decide +kernel
  have compiles
      : ((compileFile "schema.json" homeSettings).run (Host.Machine.respond Host.unreachable)
            homeMachine).1.isOk
        = true := by
    decide +kernel
  cases found : ((compileFile "schema.json" homeSettings).run
      (Host.Machine.respond Host.unreachable) homeMachine).1 with
  | error complaint =>
      rw [found] at compiles
      cases compiles
  | ok compiled =>
      have ordinary : Path.Ordinary "out" := ⟨by decide, by decide, by decide⟩
      exact ⟨compiled, settled, rfl, ordinary, by decide +kernel,
        (invoke_files Host.unreachable homeMachine none).2.2.1 "schema.json" (some "out")
          homeSettings compiled settled found ordinary⟩

/-- A run that removes the settings it found puts the same package elsewhere when it is repeated, so
that there are files then that were not there before.
-/
theorem generateOn_home_twice
    : ((settingsFor none).run (Host.Machine.respond Host.unreachable) homeMachine).1
        = .ok homeSettings
      ∧ Path.Ordinary homeSettings.package.outputDirectory
      ∧ (generateOn homeMachine none).1.exitCode = 0
      ∧ (generateOn (generateOn homeMachine none).2 none).2.files
          ≠ (generateOn homeMachine none).2.files := by
  refine ⟨by decide +kernel, ⟨by decide, by decide, by decide⟩, by decide +kernel, fun same => ?_⟩
  have before
      : ((generateOn homeMachine none).2.files.contentAt?
            ["home", "u", "solution_output", "[Content_Types].xml"]).isSome
        = false := by
    decide +kernel
  have later
      : ((generateOn (generateOn homeMachine none).2 none).2.files.contentAt?
            ["home", "u", "solution_output", "[Content_Types].xml"]).isSome
        = true := by
    decide +kernel
  rw [same, before] at later
  cases later

end Command

end Tablewright
