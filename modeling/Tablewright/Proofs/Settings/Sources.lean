import Tablewright.Command.Run
import Tablewright.Proofs.Schema.Loading

/-! Where settings come from: the file that a run reads is seen from its arguments, the environment
and which files there are.
-/

namespace Tablewright.Settings

variable {network : (question : Http.Question) → Http.Answer question}
variable {machine : Host.Machine} {config : Option String} {path text : String}
variable {settings other : Settings}

-----------------------------------------------------------------------------------------
-- Files of settings
-----------------------------------------------------------------------------------------

/-- A text of markup has no settings.
-/
theorem ofText_ne_ok_of_startsMarkup (markup : StartsMarkup text) (settings : Settings)
    : ofText text ≠ .ok settings := by
  simp [ofText, Toml.decode, Toml.parse_of_startsMarkup markup]

/-- Reading settings from a file only looks.
-/
theorem looks_fromFile (path : String) : (fromFile path).Asks Host.Question.Looks := by
  refine Dialogue.Asks.bind (Host.looks_pathExists path) fun there => ?_
  cases there with
  | false => exact Dialogue.asks_pure _
  | true =>
      refine Dialogue.Asks.bind (Host.looks_readText path) fun text => ?_
      cases text <;> exact Dialogue.asks_pure _

/-- Settings are read from the text of their file.
-/
theorem exists_text_of_run_fromFile
    (found : ((fromFile path).run (Host.Machine.respond network) machine).1 = .ok settings)
    : ∃ text,
        machine.files.readText machine.directory path = .ok text
        ∧ ofText text = .ok settings := by
  rw [fromFile] at found
  simp only [Dialogue.run_bind, Host.pathExists, Host.readText, Dialogue.run,
    Host.Machine.respond] at found
  by_cases there : (machine.files.open? machine.directory path).isOk = true
  · simp only [there, if_true, Dialogue.run_bind, Dialogue.run, Host.Machine.respond] at found
    cases read : machine.files.readText machine.directory path with
    | error fault => simp [read] at found
    | ok text =>
        simp only [read, Dialogue.run_pure] at found
        exact ⟨text, rfl, found⟩
  · simp [there] at found

/-- Where all files are as before or markup, no other settings are read from a file than before.
-/
theorem eq_of_run_fromFile {files : FileTree}
    (renewed : FileTree.Renewed StartsMarkup machine.files files)
    (one : ((fromFile path).run (Host.Machine.respond network) machine).1 = .ok settings)
    (two : ((fromFile path).run (Host.Machine.respond network) { machine with files }).1 = .ok other)
    : other = settings := by
  obtain ⟨text, read, decoded⟩ := exists_text_of_run_fromFile one
  obtain ⟨found, reread, redecoded⟩ := exists_text_of_run_fromFile two
  exact eq_of_renewed ofText_ne_ok_of_startsMarkup renewed read reread decoded redecoded

-----------------------------------------------------------------------------------------
-- The search for settings
-----------------------------------------------------------------------------------------

/-- The home of a machine's user: the directory that the environment names, or the one on record.
-/
def userHome? (machine : Host.Machine) : Option String :=
  match machine.environment "HOME" with
  | none | some "" => machine.home.filter (· != "")
  | some directory => some directory

/-- The directory of the user's settings on a machine.
-/
def userDirectory? (machine : Host.Machine) : Option String :=
  match machine.environment "XDG_CONFIG_HOME" with
  | some directory => if Path.isAbsolute directory then some directory else below
  | none => below
where
  below : Option String :=
    (userHome? machine).map fun home => Path.join home ".config"

/-- The path of the user's settings on a machine.
-/
def userPath? (machine : Host.Machine) : Option String :=
  (userDirectory? machine).map fun directory =>
    Path.join (Path.join directory "trellis") "config.toml"

/-- The path of the settings that a search finds: in the working directory, or else the user's.
-/
def searched? (machine : Host.Machine) : Option String :=
  if machine.finds "trellis.toml" then
    some "trellis.toml"
  else
    (userPath? machine).filter machine.finds

/-- The path of the settings that a run reads: the one it is given, the one in the environment, or
what a search finds.
-/
def source? (config : Option String) (machine : Host.Machine) : Option String :=
  config <|> machine.environment "TRELLIS_CONFIG" <|> searched? machine

/-- The user's home is read off the environment and the record.
-/
theorem run_userHome (machine : Host.Machine)
    : userHome.run (Host.Machine.respond network) machine = (userHome? machine, machine) := by
  rw [userHome, userHome?, Dialogue.run_bind, Host.run_valueOf]
  cases machine.environment "HOME" with
  | none => rfl
  | some directory =>
      by_cases empty : directory = ""
      · subst empty
        rfl
      · simp

/-- The directory of the user's settings is read off the environment and the record.
-/
theorem run_userDirectory (machine : Host.Machine)
    : userDirectory.run (Host.Machine.respond network) machine
      = (userDirectory? machine, machine) := by
  have below : userDirectory.below.run (Host.Machine.respond network) machine
      = (userDirectory?.below machine, machine) := by
    rw [userDirectory.below, userDirectory?.below, Dialogue.run_bind, run_userHome]
    rfl
  rw [userDirectory, userDirectory?, Dialogue.run_bind, Host.run_valueOf]
  cases machine.environment "XDG_CONFIG_HOME" with
  | none => exact below
  | some directory =>
      by_cases absolute : Path.isAbsolute directory = true
      · simp [absolute]
      · simp [absolute, below]

/-- Settings are those of their source, or the default ones when there is none.
-/
theorem run_settingsFor (config : Option String) (machine : Host.Machine)
    : (Command.settingsFor config).run (Host.Machine.respond network) machine
      = (source? config machine).elim (.ok {}, machine) fun path =>
          (fromFile path).run (Host.Machine.respond network) machine := by
  cases config with
  | some path => rfl
  | none =>
      rw [Command.settingsFor, load, source?, searched?, Dialogue.run_bind, Host.run_valueOf]
      cases machine.environment "TRELLIS_CONFIG" with
      | some path => rfl
      | none =>
          change (Dialogue.run _ (Host.pathExists "trellis.toml" >>= _) machine) = _
          rw [Dialogue.run_bind, Host.run_pathExists]
          by_cases there : machine.finds "trellis.toml" = true
          · rw [if_pos there, if_pos there]
            rfl
          · rw [if_neg there, if_neg there]
            simp only [Dialogue.run_bind, run_userDirectory, userPath?]
            cases userDirectory? machine with
            | none => rfl
            | some directory =>
                change (Dialogue.run _ (Host.pathExists _ >>= _) machine) = _
                rw [Dialogue.run_bind, Host.run_pathExists, Option.map_some]
                by_cases found
                    : machine.finds (Path.join (Path.join directory "trellis") "config.toml") = true
                · rw [if_pos found, Option.filter_some, if_pos found]
                  rfl
                · rw [if_neg found, Option.filter_some, if_neg found]
                  rfl

/-- Finding settings only looks.
-/
theorem looks_settingsFor (config : Option String)
    : (Command.settingsFor config).Asks Host.Question.Looks := by
  have home : userHome.Asks Host.Question.Looks := by
    refine Dialogue.Asks.bind (Host.looks_valueOf "HOME") fun value => ?_
    split
    · exact Host.looks_home.bind fun _ => Dialogue.asks_pure _
    · exact Host.looks_home.bind fun _ => Dialogue.asks_pure _
    · exact Dialogue.asks_pure _
  have below : userDirectory.below.Asks Host.Question.Looks :=
    home.bind fun _ => Dialogue.asks_pure _
  have directory : userDirectory.Asks Host.Question.Looks := by
    refine Dialogue.Asks.bind (Host.looks_valueOf "XDG_CONFIG_HOME") fun value => ?_
    cases value with
    | none => exact below
    | some directory =>
        dsimp only
        split
        · exact Dialogue.asks_pure _
        · exact below
  cases config with
  | some path => exact looks_fromFile path
  | none =>
      refine Dialogue.Asks.bind (Host.looks_valueOf "TRELLIS_CONFIG") fun value => ?_
      cases value with
      | some path => exact looks_fromFile path
      | none =>
          refine Dialogue.Asks.bind (Host.looks_pathExists "trellis.toml") fun there => ?_
          cases there with
          | true => exact looks_fromFile "trellis.toml"
          | false =>
              refine Dialogue.Asks.bind directory fun found => ?_
              cases found with
              | none => exact Dialogue.asks_pure _
              | some directory =>
                  refine Dialogue.Asks.bind (Host.looks_pathExists _) fun there => ?_
                  cases there with
                  | true => exact looks_fromFile _
                  | false => exact Dialogue.asks_pure _

-----------------------------------------------------------------------------------------
-- Searching again
-----------------------------------------------------------------------------------------

/-- The settings are searched for, and the search does not find the same file on two machines.
-/
structure Shifts (config : Option String) (machine after : Host.Machine) : Prop where
  unnamed : config = none
  unset : machine.environment "TRELLIS_CONFIG" = none
  elsewhere : searched? after ≠ searched? machine

section Again

variable {files : FileTree}

/-- Two runs read the same settings, unless a search finds others.
-/
theorem source?_eq_or_shifts
    : source? config { machine with files } = source? config machine
      ∨ Shifts config machine { machine with files } := by
  cases config with
  | some path => exact .inl rfl
  | none =>
      cases named : machine.environment "TRELLIS_CONFIG" with
      | some path =>
          rw [source?, source?, named]
          exact .inl rfl
      | none =>
          by_cases same : searched? { machine with files } = searched? machine
          · rw [source?, source?, same]
            exact .inl rfl
          · exact .inr ⟨rfl, named, same⟩

/-- Where all files are as before or markup, the settings are those of the first run, unless a search
finds others.
-/
theorem eq_or_of_run_settingsFor
    (renewed : FileTree.Renewed StartsMarkup machine.files files)
    (one
      : ((Command.settingsFor config).run (Host.Machine.respond network) machine).1
        = .ok settings)
    (two
      : ((Command.settingsFor config).run (Host.Machine.respond network) { machine with files }).1
        = .ok other)
    : other = settings ∨ Shifts config machine { machine with files } := by
  rcases source?_eq_or_shifts with same | shifts
  · refine .inl ?_
    rw [run_settingsFor] at one two
    rw [same] at two
    cases found : source? config machine with
    | none =>
        rw [found] at one two
        cases one
        cases two
        rfl
    | some path =>
        rw [found] at one two
        exact eq_of_run_fromFile renewed one two
  · exact .inr shifts

end Again

end Tablewright.Settings
