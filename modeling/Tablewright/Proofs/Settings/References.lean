import Mathlib.Data.List.TakeWhile
import Tablewright.Proofs.Machines
import Tablewright.Settings.Variables

/-! References to variables. The grammar of references gives every text exactly one reading, and that
is how a text is taken apart. Expansion puts the values of the variables in the place of the
references of the reading, or it ends at the first part whose place cannot be taken.
-/

namespace Tablewright.Variables

variable {environment : String → Option String} {text done : String} {failure : Failure}
variable {c : Char} {name rest : List Char} {before : List Piece}

-----------------------------------------------------------------------------------------
-- The grammar of references
-----------------------------------------------------------------------------------------

/-- A text read from left to right by the grammar of references. Behind a dollar sign, a brace opens
a name that goes up to the next closing brace, and without a brace a name goes as far as its
characters do. Every other dollar sign and every other character stands for itself.
-/
inductive Reading : List Char → List Piece → Prop
  | done : Reading [] []
  | plain {c : Char} {rest : List Char} {pieces : List Piece} (other : c ≠ '$')
    (onward : Reading rest pieces)
    : Reading (c :: rest) (.literal c :: pieces)
  | dollar {rest : List Char} {pieces : List Piece}
    (alone : ∀ c ∈ rest.head?, c ≠ '\x7b' ∧ isNameChar c = false) (onward : Reading rest pieces)
    : Reading ('$' :: rest) (.literal '$' :: pieces)
  | braced {name rest : List Char} {pieces : List Piece} (first : '\x7d' ∉ name)
    (onward : Reading rest pieces)
    : Reading ('$' :: '\x7b' :: (name ++ '\x7d' :: rest))
        (.reference (String.ofList name) :: pieces)
  | bare {name rest : List Char} {pieces : List Piece} (nonempty : name ≠ [])
    (fits : ∀ c ∈ name, isNameChar c = true) (ends : ∀ c ∈ rest.head?, isNameChar c = false)
    (onward : Reading rest pieces)
    : Reading ('$' :: (name ++ rest)) (.reference (String.ofList name) :: pieces)
  | unclosed {rest : List Char} (never : '\x7d' ∉ rest)
    : Reading ('$' :: '\x7b' :: rest) [.unclosed]

/-- The longest start of characters of a kind, and what follows it.
-/
theorem span_of_ends {kind : Char → Bool} (fits : ∀ c ∈ name, kind c = true)
    (ends : ∀ c ∈ rest.head?, kind c = false)
    : (name ++ rest).takeWhile kind = name ∧ (name ++ rest).dropWhile kind = rest := by
  rw [List.takeWhile_append_of_pos fits, List.dropWhile_append_of_pos fits]
  cases rest with
  | nil => simp
  | cons c rest => simp [ends c rfl]

/-- What follows the longest start of characters of a kind does not go on with one.
-/
theorem ends_dropWhile (kind : Char → Bool) (text : List Char)
    : ∀ c ∈ (text.dropWhile kind).head?, kind c = false := by
  intro c next
  have stops := List.head?_dropWhile_not kind text
  rwa [Option.mem_def.mp next] at stops

/-- A brace belongs to no name without braces.
-/
theorem isNameChar_brace : isNameChar '\x7b' = false := by
  decide +kernel

-----------------------------------------------------------------------------------------
-- The parts of a text
-----------------------------------------------------------------------------------------

/-- What is no dollar sign stands for itself.
-/
theorem pieces_plain (other : c ≠ '$') (rest : List Char)
    : pieces (c :: rest) = .literal c :: pieces rest := by
  rw [pieces.eq_def]
  exact if_neg other

/-- A dollar sign with neither a brace nor a name behind it stands for itself.
-/
theorem pieces_dollar (alone : ∀ c ∈ rest.head?, c ≠ '\x7b' ∧ isNameChar c = false)
    : pieces ('$' :: rest) = .literal '$' :: pieces rest := by
  have unbraced : ∀ inner, rest = '\x7b' :: inner → False := by
    rintro inner rfl
    exact (alone _ rfl).1 rfl
  have nameless : rest.takeWhile isNameChar = [] :=
    (span_of_ends (List.forall_mem_nil _) fun c next => (alone c next).2).1
  rw [pieces.eq_3 _ _ unbraced, if_pos rfl, nameless]

/-- A name in braces is one part.
-/
theorem pieces_braced (first : '\x7d' ∉ name) (rest : List Char)
    : pieces ('$' :: '\x7b' :: (name ++ '\x7d' :: rest))
      = .reference (String.ofList name) :: pieces rest := by
  have fits : ∀ c ∈ name, (c != '\x7d') = true := fun c member =>
    bne_iff_ne.mpr fun same => first (same ▸ member)
  have ends : ∀ c ∈ ('\x7d' :: rest).head?, (c != '\x7d') = false := by
    simp
  obtain ⟨taken, left⟩ := span_of_ends fits ends
  rw [pieces.eq_2, if_pos rfl]
  split
  · next nothing => cases left.symm.trans nothing
  · next found =>
    obtain ⟨-, rfl⟩ := List.cons.inj (left.symm.trans found)
    rw [taken]

/-- A name without braces is one part.
-/
theorem pieces_bare (nonempty : name ≠ []) (fits : ∀ c ∈ name, isNameChar c = true)
    (ends : ∀ c ∈ rest.head?, isNameChar c = false)
    : pieces ('$' :: (name ++ rest)) = .reference (String.ofList name) :: pieces rest := by
  obtain ⟨taken, left⟩ := span_of_ends fits ends
  obtain ⟨c, others, rfl⟩ := List.exists_cons_of_ne_nil nonempty
  have unbraced : ∀ inner, c :: others ++ rest = '\x7b' :: inner → False := by
    intro inner opened
    obtain ⟨rfl, -⟩ := List.cons.inj opened
    exact Bool.false_ne_true (isNameChar_brace.symm.trans (fits _ List.mem_cons_self))
  rw [pieces.eq_3 _ _ unbraced, if_pos rfl, taken, left]

/-- A brace that is never closed is the last part.
-/
theorem pieces_unclosed (never : '\x7d' ∉ rest)
    : pieces ('$' :: '\x7b' :: rest) = [.unclosed] := by
  have nothing : rest.dropWhile (· != '\x7d') = [] :=
    List.dropWhile_eq_nil_iff.mpr fun c member => bne_iff_ne.mpr fun same => never (same ▸ member)
  rw [pieces.eq_2, if_pos rfl]
  split
  · rfl
  · next found => cases nothing.symm.trans found

/-- A reading has no other parts than those that a text is taken apart into.
-/
theorem Reading.eq_pieces {chars : List Char} {found : List Piece} (reading : Reading chars found)
    : found = pieces chars := by
  induction reading with
  | done => rw [pieces.eq_1]
  | plain other _ ih => rw [pieces_plain other, ih]
  | dollar alone _ ih => rw [pieces_dollar alone, ih]
  | braced first _ ih => rw [pieces_braced first, ih]
  | bare nonempty fits ends _ ih => rw [pieces_bare nonempty fits ends, ih]
  | unclosed never => rw [pieces_unclosed never]

/-- The parts of a text are a reading of it.
Witness: induction along the text, with the grammar's rules as the cases.
-/
theorem reading_pieces (chars : List Char) : Reading chars (pieces chars) := by
  fun_induction pieces chars with
  | case1 => exact .done
  | case2 inner nothing =>
      refine .unclosed fun member => ?_
      simpa using List.dropWhile_eq_nil_iff.mp nothing _ member
  | case3 inner c after found ih =>
      have closes := ends_dropWhile (· != '\x7d') inner c (by rw [found]; rfl)
      obtain rfl : c = '\x7d' := by simpa using closes
      -- The text is put together again from the name and what the brace leaves of it.
      have whole := List.takeWhile_append_dropWhile (p := (· != '\x7d')) (l := inner)
      rw [found] at whole
      conv => arg 1; rw [← whole]
      refine .braced (fun member => ?_) ih
      simpa using List.mem_takeWhile_imp member
  | case4 rest unbraced nameless ih =>
      refine .dollar (fun c next => ?_) ih
      obtain ⟨others, rfl⟩ := List.head?_eq_some_iff.mp next
      refine ⟨fun brace => unbraced others (brace ▸ rfl), ?_⟩
      by_contra fits
      rw [List.takeWhile_cons_of_pos (by simpa using fits)] at nameless
      cases nameless
  | case5 rest unbraced named ih =>
      have whole := List.takeWhile_append_dropWhile (p := isNameChar) (l := rest)
      conv => arg 1; rw [← whole]
      exact .bare named (fun c member => List.mem_takeWhile_imp member)
        (ends_dropWhile isNameChar rest) ih
  | case6 c rest other ih => exact .plain other ih

/-- The grammar gives every text one reading, and no other one.
-/
theorem reading_iff {chars : List Char} {found : List Piece}
    : Reading chars found ↔ found = pieces chars :=
  ⟨Reading.eq_pieces, fun same => same ▸ reading_pieces chars⟩

-----------------------------------------------------------------------------------------
-- Putting values in place of references
-----------------------------------------------------------------------------------------

namespace Piece

/-- A part whose place can be taken: it is closed, and the variable that it refers to is defined.
-/
def IsSound (environment : String → Option String) (piece : Piece) : Prop :=
  piece ≠ .unclosed ∧ ∀ name, piece = .reference name → environment name ≠ none

/-- What takes the place of a sound part: the value of a variable as it is.
-/
def replacement (environment : String → Option String) : Piece → String
  | .literal c => String.singleton c
  | .reference name => (environment name).getD ""
  | .unclosed => ""

/-- Why the place of a part of a text cannot be taken.
-/
inductive Fails (environment : String → Option String) (text : String) : Piece → Failure → Prop
  | unclosed : Fails environment text .unclosed (.unterminated text)
  | undefined {name : String} (missing : environment name = none)
    : Fails environment text (.reference name) (.undefined name)

/-- A part is sound unless it fails.
-/
theorem isSound_or_fails (environment : String → Option String) (text : String) (piece : Piece)
    : piece.IsSound environment ∨ ∃ failure, piece.Fails environment text failure := by
  cases piece with
  | literal c => exact .inl ⟨nofun, nofun⟩
  | unclosed => exact .inr ⟨_, .unclosed⟩
  | reference name =>
      cases value : environment name with
      | none => exact .inr ⟨_, .undefined value⟩
      | some found =>
          refine .inl ⟨nofun, fun other same => ?_⟩
          cases same
          simp [value]

end Piece

/-- All parts are sound, or there is a first one that fails.
-/
theorem all_sound_or_exists_first (environment : String → Option String) (text : String)
    (pieces : List Piece)
    : (∀ piece ∈ pieces, piece.IsSound environment)
      ∨ ∃ before faulty after failure,
          pieces = before ++ faulty :: after
          ∧ (∀ piece ∈ before, piece.IsSound environment)
          ∧ faulty.Fails environment text failure := by
  induction pieces with
  | nil => exact .inl nofun
  | cons piece rest ih =>
      rcases piece.isSound_or_fails environment text with sound | ⟨failure, fails⟩
      · rcases ih with others | ⟨before, faulty, after, failure, rfl, others, fails⟩
        · exact .inl (List.forall_mem_cons.mpr ⟨sound, others⟩)
        · exact .inr ⟨piece :: before, faulty, after, failure, rfl,
            List.forall_mem_cons.mpr ⟨sound, others⟩, fails⟩
      · exact .inr ⟨[], piece, rest, failure, rfl, nofun, fails⟩

/-- The value of a variable takes the place of a reference to it.
-/
theorem replace_reference (environment : String → Option String) (text done name : String)
    (later : List Piece)
    : replace (m := Id) environment text done (.reference name :: later)
      = match environment name with
        | some value => replace (m := Id) environment text (done ++ value) later
        | none => .error (.undefined name) :=
  rfl

/-- The place of a sound part is taken, and expansion goes on behind it.
-/
theorem replace_cons_of_sound {piece : Piece} (sound : piece.IsSound environment)
    (text done : String) (later : List Piece)
    : replace (m := Id) environment text done (piece :: later)
      = replace (m := Id) environment text (done ++ piece.replacement environment) later := by
  cases piece with
  | literal c => rw [replace, Piece.replacement, String.append_singleton]
  | unclosed => exact absurd rfl sound.1
  | reference name =>
      obtain ⟨value, found⟩ := Option.ne_none_iff_exists'.mp (sound.2 name rfl)
      rw [replace_reference, Piece.replacement, found, Option.getD_some]

/-- The places of sound parts are taken in their order, and expansion goes on behind them.
-/
theorem replace_append (sound : ∀ piece ∈ before, piece.IsSound environment) (text done : String)
    (later : List Piece)
    : replace (m := Id) environment text done (before ++ later)
      = replace (m := Id) environment text
          (done ++ String.join (before.map (·.replacement environment))) later := by
  induction before generalizing done with
  | nil => simp
  | cons piece before ih =>
      obtain ⟨first, others⟩ := List.forall_mem_cons.mp sound
      rw [List.cons_append, replace_cons_of_sound first, ih others, List.map_cons,
        String.join_cons, String.append_assoc]

/-- A part that fails ends the expansion, whatever follows it.
-/
theorem replace_of_fails {faulty : Piece} (fails : faulty.Fails environment text failure)
    (done : String) (after : List Piece)
    : replace (m := Id) environment text done (faulty :: after) = .error failure := by
  cases fails with
  | unclosed => rfl
  | undefined missing => rw [replace_reference, missing]

/-- A text whose parts are sound is expanded.
-/
theorem expand_of_sound (sound : ∀ piece ∈ pieces text.toList, piece.IsSound environment)
    : expand environment text
      = .ok (String.join ((pieces text.toList).map (·.replacement environment))) := by
  have replaced := replace_append sound text "" []
  rw [List.append_nil, String.empty_append] at replaced
  exact replaced

/-- The first part that fails says why a text cannot be expanded.
-/
theorem expand_of_fails {faulty : Piece} {after : List Piece}
    (split : pieces text.toList = before ++ faulty :: after)
    (sound : ∀ piece ∈ before, piece.IsSound environment)
    (fails : faulty.Fails environment text failure)
    : expand environment text = .error failure := by
  change replace (m := Id) environment text "" (pieces text.toList) = _
  rw [split, replace_append sound, replace_of_fails fails]

/-- A text is expanded exactly when its parts are sound, to what takes their places.
-/
theorem expand_eq_ok_iff {result : String}
    : expand environment text = .ok result
      ↔ (∀ piece ∈ pieces text.toList, piece.IsSound environment)
        ∧ result = String.join ((pieces text.toList).map (·.replacement environment)) := by
  constructor
  · intro expanded
    rcases all_sound_or_exists_first environment text (pieces text.toList) with
      sound | ⟨before, faulty, after, failure, split, sound, fails⟩
    · rw [expand_of_sound sound] at expanded
      exact ⟨sound, (Except.ok.inj expanded).symm⟩
    · rw [expand_of_fails split sound fails] at expanded
      cases expanded
  · rintro ⟨sound, rfl⟩
    exact expand_of_sound sound

/-- A text cannot be expanded exactly when a part behind sound ones fails, which says why.
-/
theorem expand_eq_error_iff
    : expand environment text = .error failure
      ↔ ∃ before faulty after,
          pieces text.toList = before ++ faulty :: after
          ∧ (∀ piece ∈ before, piece.IsSound environment)
          ∧ faulty.Fails environment text failure := by
  constructor
  · intro failed
    rcases all_sound_or_exists_first environment text (pieces text.toList) with
      sound | ⟨before, faulty, after, other, split, sound, fails⟩
    · rw [expand_of_sound sound] at failed
      cases failed
    · rw [expand_of_fails split sound fails] at failed
      cases failed
      exact ⟨before, faulty, after, split, sound, fails⟩
  · rintro ⟨before, faulty, after, split, sound, fails⟩
    exact expand_of_fails split sound fails

/-- A machine looks up the variables in its environment, and stays as it is.
-/
theorem run_replace {network : (question : Http.Question) → Http.Answer question}
    (machine : Host.Machine) (text done : String) (pieces : List Piece)
    : (replace Host.valueOf text done pieces).run (Host.Machine.respond network) machine
      = (replace (m := Id) machine.environment text done pieces, machine) := by
  induction pieces generalizing done with
  | nil => rfl
  | cons piece later ih =>
      cases piece with
      | literal c => exact ih _
      | unclosed => rfl
      | reference name =>
          rw [replace, Dialogue.run_bind, Host.run_valueOf, replace_reference]
          cases machine.environment name with
          | none => rfl
          | some value => exact ih _

/-- Every text has one reading, and its expansion is decided by that alone. It succeeds exactly when
every brace is closed and every variable is defined, with each reference replaced by the value of
its variable as it stands; else the failure is that of the first part that is not sound. A machine
expands the text in the same way.
-/
theorem expand_reading (environment : String → Option String) (text : String)
    : ∃ reading,
        (∀ found, Reading text.toList found ↔ found = reading)
        ∧ (∀ result,
            expand environment text = .ok result
            ↔ (∀ piece ∈ reading, piece.IsSound environment)
              ∧ result = String.join (reading.map (·.replacement environment)))
        ∧ (∀ failure,
            expand environment text = .error failure
            ↔ ∃ before faulty after,
                reading = before ++ faulty :: after
                ∧ (∀ piece ∈ before, piece.IsSound environment)
                ∧ faulty.Fails environment text failure)
        ∧ ∀ network files directory home,
            (expandM Host.valueOf text).run (Host.Machine.respond network)
                ⟨environment, files, directory, home⟩
            = (expand environment text, ⟨environment, files, directory, home⟩) := by
  refine ⟨pieces text.toList, fun found => reading_iff, ?_, ?_, ?_⟩
  · exact fun result => expand_eq_ok_iff
  · exact fun failure => expand_eq_error_iff
  · intro network files directory home
    exact run_replace ⟨environment, files, directory, home⟩ text "" (pieces text.toList)

/-- A dollar sign before another one and one at the end stay, and a value is not read again.
-/
example
    : expand (fun name => if name = "A" then some "$A" else none) "$$A${A}$" = .ok "$$A$A$" := by
  decide +kernel

end Tablewright.Variables
