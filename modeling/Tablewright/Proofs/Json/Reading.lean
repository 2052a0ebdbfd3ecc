import Tablewright.Json.Value

/-! The compact text of a JSON value is read back as the document of that value, whatever follows it,
and that document is read as the value.
-/

namespace Tablewright.Json

-----------------------------------------------------------------------------------------
-- Texts
-----------------------------------------------------------------------------------------

/-- The four digits of an escaped control character give its code.
-/
theorem hexDigits_control {code : Nat} (control : code < 0x20)
    : hexDigits ['0', '0', hexDigit (code / 16), hexDigit code] = some code := by
  revert code
  decide

/-- A character that needs no escape stands for itself.
-/
theorem readText_cons {c : Char} (quote : c ≠ '"') (backslash : c ≠ '\\')
    (printable : ¬ c.toNat < 0x20) (rest : List Char) (text : TextSoFar)
    : readText (c :: rest) text = readText rest (text.push c) := by
  simp [readText, backslash, printable]

/-- One written character is read back as that character.
-/
theorem readText_escapeChar (c : Char) (rest : List Char) {text : TextSoFar}
    (alone : text.pending = none)
    : readText (escapeChar c ++ rest) text = readText rest (text.push c) := by
  unfold escapeChar
  split
  case h_8 =>
    split
    · rename_i control
      have small : isTrailing c.toNat = false ∧ isLeading c.toNat = false := by
        simp only [isTrailing, isLeading, Bool.and_eq_false_iff, decide_eq_false_iff_not]
        omega
      simp only [List.cons_append, List.nil_append]
      rw [readText, hexDigits_control control]
      simp [TextSoFar.pushUnit, TextSoFar.push, alone, small]
    · rename_i quote backslash _ _ _ _ _ printable
      exact readText_cons quote backslash printable rest text
  all_goals simp [readText, shortEscape]

/-- Written characters are read back up to the closing quote, behind what has been read before.
-/
theorem readText_escapes (characters rest read : List Char)
    : readText (characters.flatMap escapeChar ++ '"' :: rest) ⟨read, none, none⟩
      = .ok (.ok (String.ofList (read.reverse ++ characters)), rest) := by
  induction characters generalizing read with
  | nil => simp [readText, TextSoFar.finish]
  | cons c characters ih =>
      rw [List.flatMap_cons, List.append_assoc, readText_escapeChar c _ rfl]
      simpa [TextSoFar.push] using ih (c :: read)

/-- A written text is read back behind its opening quote.
-/
theorem readText_text (text : String) (rest : List Char)
    : readText (text.toList.flatMap escapeChar ++ '"' :: rest) .empty = .ok (.ok text, rest) := by
  simpa [TextSoFar.empty] using readText_escapes text.toList rest []

-----------------------------------------------------------------------------------------
-- Numbers
-----------------------------------------------------------------------------------------

/-- A text that a number in front of it does not go on with.
-/
def EndsNumber (rest : List Char) : Prop :=
  ∀ c ∈ rest.head?, c.isDigit = false ∧ c ≠ '.' ∧ c ≠ 'e' ∧ c ≠ 'E'

/-- Nothing follows a number.
-/
theorem endsNumber_nil : EndsNumber [] :=
  nofun

/-- A comma and the closing brackets end a number.
-/
theorem endsNumber_cons {c : Char} (rest : List Char) (stops : c = ',' ∨ c = ']' ∨ c = '\x7d')
    : EndsNumber (c :: rest) := by
  intro d same
  cases Option.mem_some.mp same
  rcases stops with rfl | rfl | rfl
  all_goals decide

/-- The digits of a number give its value.
-/
theorem digitsValue_toDigits (n : Nat) : digitsValue (Nat.toDigits 10 n) = n :=
  Nat.ofDigitChars_ten_toDigits

/-- Only zero is written with a leading zero.
-/
theorem head?_toDigits_ne_zero {n : Nat} (positive : 0 < n)
    : (Nat.toDigits 10 n).head? ≠ some '0' := by
  induction n using Nat.strongRecOn with
  | ind n ih =>
      rw [Nat.toDigits_eq_if (by decide)]
      split
      · rename_i small
        have nonzero : ∀ d < 10, 0 < d → [Nat.digitChar d].head? ≠ some '0' := by decide
        exact nonzero n small positive
      · have leading := ih (n / 10) (by omega) (by omega)
        cases digits : Nat.toDigits 10 (n / 10) with
        | nil => exact absurd digits Nat.toDigits_ne_nil
        | cons c others => rwa [digits] at leading

/-- All digits in front of what is none are taken together.
-/
theorem spanDigits_append {digits rest : List Char} (all : ∀ c ∈ digits, c.isDigit = true)
    (ends : EndsNumber rest)
    : spanDigits (digits ++ rest) = (digits, rest) := by
  have none : rest.takeWhile Char.isDigit = [] ∧ rest.dropWhile Char.isDigit = rest := by
    cases rest with
    | nil => exact ⟨rfl, rfl⟩
    | cons c rest => simp [(ends c rfl).1]
  rw [spanDigits, List.takeWhile_append_of_pos all, List.dropWhile_append_of_pos all, none.1, none.2,
    List.append_nil]

/-- The digits of a number are its whole part.
-/
theorem readWhole_toDigits (n : Nat) {rest : List Char} (ends : EndsNumber rest)
    : readWhole (Nat.toDigits 10 n ++ rest) = .ok (Nat.toDigits 10 n, rest) := by
  have all : ∀ c ∈ Nat.toDigits 10 n, c.isDigit = true := fun c =>
    Nat.isDigit_of_mem_toDigits (by decide) (by decide)
  rcases Nat.eq_zero_or_pos n with rfl | positive
  · rw [Nat.toDigits_zero]
    cases rest with
    | nil => rfl
    | cons c rest => simp [readWhole, (ends c rfl).1]
  · have leading := head?_toDigits_ne_zero positive
    have taken := spanDigits_append all ends
    cases digits : Nat.toDigits 10 n with
    | nil => exact absurd digits Nat.toDigits_ne_nil
    | cons c others =>
        rw [digits] at all leading taken
        rw [List.cons_append] at taken ⊢
        rw [readWhole]
        · rw [if_pos (all c List.mem_cons_self), taken]
        · rintro rfl
          exact leading rfl

/-- What ends a number has no fraction and no exponent in front.
-/
theorem readFraction_of_ends {rest : List Char} (ends : EndsNumber rest)
    : readFraction rest = .ok (none, rest) ∧ readExponent rest = .ok (none, rest) := by
  cases rest with
  | nil => exact ⟨rfl, rfl⟩
  | cons c rest =>
      obtain ⟨_, point, small, great⟩ := ends c rfl
      refine ⟨?_, ?_⟩
      · rw [readFraction]
        rintro _ ⟨⟩
        exact point rfl
      · simp [readExponent, small, great]

/-- The text of a whole number is read back as its sign and digits.
-/
theorem readNumber_toDigits (n : Nat) {rest : List Char} (ends : EndsNumber rest)
    : readNumber (Nat.toDigits 10 n ++ rest)
        = .ok (⟨false, Nat.toDigits 10 n, none, none⟩, rest)
      ∧ readNumber ('-' :: (Nat.toDigits 10 n ++ rest))
        = .ok (⟨true, Nat.toDigits 10 n, none, none⟩, rest) := by
  obtain ⟨fraction, exponent⟩ := readFraction_of_ends ends
  have whole := readWhole_toDigits n ends
  refine ⟨?_, ?_⟩
  · have unsigned : ∀ others, Nat.toDigits 10 n ++ rest ≠ '-' :: others := by
      intro others same
      cases digits : Nat.toDigits 10 n with
      | nil => exact Nat.toDigits_ne_nil digits
      | cons c more =>
          rw [digits] at same
          cases (List.cons.inj same).1
          have digit := Nat.isDigit_of_mem_toDigits (b := 10) (by decide) (by decide)
            (digits ▸ List.mem_cons_self : '-' ∈ Nat.toDigits 10 n)
          revert digit
          decide
    unfold readNumber
    split
    rename_i found
    split at found
    · rename_i same
      exact absurd same (unsigned _)
    · cases found
      simp [whole, fraction, exponent, bind, Except.bind, pure, Except.pure]
  · simp [readNumber, whole, fraction, exponent, bind, Except.bind, pure, Except.pure]

-----------------------------------------------------------------------------------------
-- Values
-----------------------------------------------------------------------------------------

mutual

/-- The text of a value says all of it: no number in it is a spelling, and every number fits into
64 bits, with or without a sign.
-/
def Value.IsExact : Value → Prop
  | .integer value => Int64.minValue.toInt ≤ value ∧ value < UInt64.size
  | .float _ => False
  | .sequence items => AllExact items
  | .mapping members => MembersExact members
  | _ => True

/-- Every value of a sequence is exact.
-/
def AllExact : List Value → Prop
  | [] => True
  | value :: rest => value.IsExact ∧ AllExact rest

/-- Every value of a mapping is exact.
-/
def MembersExact : List (String × Value) → Prop
  | [] => True
  | (_, value) :: rest => value.IsExact ∧ MembersExact rest

end

/-- The values of a sequence are exact when each of them is.
-/
theorem allExact_iff {items : List Value} : AllExact items ↔ ∀ item ∈ items, item.IsExact := by
  induction items with
  | nil => simp [AllExact]
  | cons item items ih => simp [AllExact, ih]

/-- The values of a mapping are exact when each of them is.
-/
theorem membersExact_iff {members : List (String × Value)}
    : MembersExact members ↔ ∀ member ∈ members, member.2.IsExact := by
  induction members with
  | nil => simp [MembersExact]
  | cons member members ih => simp [MembersExact, ih]

/-- A sign and a digit are not blank.
-/
theorem isBlank_of_number {c : Char} (starts : c = '-' ∨ c.isDigit = true) : isBlank c = false := by
  have other {d : Char} (neither : ¬ (d = '-' ∨ d.isDigit = true)) : c ≠ d := by
    rintro rfl
    exact neither starts
  simp [isBlank, other]

/-- What is not blank is not skipped.
-/
theorem skipBlanks_cons {c : Char} (solid : isBlank c = false) (rest : List Char)
    : skipBlanks (c :: rest) = c :: rest :=
  List.dropWhile_cons_of_neg (by simp [solid])

/-- A sign or a digit starts a number.
-/
theorem readValue_number {c : Char} (starts : c = '-' ∨ c.isDigit = true) (fuel : Nat)
    (rest : List Char)
    : readValue (fuel + 1) (c :: rest) = readNumberValue (c :: rest) := by
  have other {d : Char} (neither : ¬ (d = '-' ∨ d.isDigit = true)) : c ≠ d := by
    rintro rfl
    exact neither starts
  rw [readValue, skipBlanks_cons (isBlank_of_number starts)]
  simp [other, starts]

/-- The text of a whole number: its digits, behind a sign where it is negative.
-/
theorem toList_toString (value : Int)
    : (toString value).toList
      = if value < 0 then '-' :: Nat.toDigits 10 value.natAbs else Nat.toDigits 10 value.natAbs := by
  cases value with
  | ofNat n =>
      rw [if_neg (by simp)]
      exact congrArg String.toList Nat.repr_eq_ofList_toDigits |>.trans String.toList_ofList
  | negSucc n =>
      rw [if_pos (Int.negSucc_lt_zero n)]
      change ("-" ++ Nat.repr (n + 1)).toList = _
      rw [Nat.repr_eq_ofList_toDigits]
      simp

/-- A whole number is read back.
-/
theorem readValue_integer {value : Int} (exact : (Value.integer value).IsExact) (fuel : Nat)
    {rest : List Char} (ends : EndsNumber rest)
    : readValue (fuel + 1) ((toString value).toList ++ rest)
      = (.scalar (.ok (.integer value)), some rest) := by
  obtain ⟨lower, upper⟩ := exact
  obtain ⟨unsigned, signed⟩ := readNumber_toDigits value.natAbs ends
  have least : Int64.minValue.toInt = -(Nat.pow 2 63 : Nat) := by decide
  rw [toList_toString]
  split
  · rename_i negative
    have small : 0 < value.natAbs ∧ value.natAbs ≤ Nat.pow 2 63 := by omega
    have same : -(value.natAbs : Int) = value := by omega
    rw [List.cons_append, readValue_number (.inl rfl), readNumberValue, signed]
    simp only [NumberText.value, Option.isNone_none, and_self, if_true, digitsValue_toDigits,
      small, Nat.pow_eq, Nat.reducePow, same]
  · rename_i positive
    have small : value.natAbs < UInt64.size := by omega
    have same : (value.natAbs : Int) = value := by omega
    cases digits : Nat.toDigits 10 value.natAbs with
    | nil => exact absurd digits Nat.toDigits_ne_nil
    | cons c others =>
        have digit := Nat.isDigit_of_mem_toDigits (b := 10) (by decide) (by decide)
          (digits ▸ List.mem_cons_self : c ∈ Nat.toDigits 10 value.natAbs)
        rw [List.cons_append, readValue_number (.inr digit), readNumberValue, ← List.cons_append,
          ← digits, unsigned]
        simp only [NumberText.value, Option.isNone_none, and_self, if_true, Bool.false_eq_true,
          if_false, digitsValue_toDigits, small, same]

/-- The text of an exact value starts with what is neither blank nor a closing bracket.
-/
theorem exists_compact_eq_cons {value : Value} (exact : value.IsExact)
    : ∃ c rest, value.compact = c :: rest ∧ isBlank c = false ∧ c ≠ ']' := by
  cases value with
  | null | text | sequence | mapping => exact ⟨_, _, rfl, rfl, by decide⟩
  | boolean value =>
      cases value with
      | _ => exact ⟨_, _, rfl, rfl, by decide⟩
  | float => exact exact.elim
  | integer value =>
      rw [Value.compact, toList_toString]
      split
      · exact ⟨_, _, rfl, rfl, by decide⟩
      · cases digits : Nat.toDigits 10 value.natAbs with
        | nil => exact absurd digits Nat.toDigits_ne_nil
        | cons c others =>
            have digit := Nat.isDigit_of_mem_toDigits (b := 10) (by decide) (by decide)
              (digits ▸ List.mem_cons_self : c ∈ Nat.toDigits 10 value.natAbs)
            refine ⟨c, others, rfl, ?_, ?_⟩
            · exact isBlank_of_number (.inr digit)
            · rintro rfl
              revert digit
              decide

/-- What follows a value of a sequence ends a number.
-/
theorem endsNumber_compactItems (items : List Value) (rest : List Char)
    : EndsNumber (compactItems false items ++ rest) := by
  cases items with
  | _ => exact endsNumber_cons _ (by simp)

/-- What follows a value of a mapping ends a number.
-/
theorem endsNumber_compactMembers (members : List (String × Value)) (rest : List Char)
    : EndsNumber (compactMembers false members ++ rest) := by
  cases members with
  | _ => exact endsNumber_cons _ (by simp)

/-- The text of the values that are left ends with a bracket.
-/
theorem length_compactItems_pos (first : Bool) (items : List Value)
    : 0 < (compactItems first items).length := by
  cases items with
  | nil => simp [compactItems]
  | cons value items =>
      have rest := length_compactItems_pos false items
      rw [compactItems, List.length_append, List.length_append]
      omega

mutual

/-- The text of a value is read back, and what follows it is left.
Witness: induction on the value; every three steps of reading pass over a character.
-/
theorem readValue_compact (value : Value) (exact : value.IsExact) (fuel : Nat)
    (enough : 3 * value.compact.length ≤ fuel) {rest : List Char} (ends : EndsNumber rest)
    : readValue fuel (value.compact ++ rest) = (value.document, some rest) := by
  obtain ⟨_, _, starts, _, _⟩ := exists_compact_eq_cons exact
  obtain ⟨fuel, rfl⟩ : ∃ left, fuel = left + 1 :=
    Nat.exists_eq_add_one.mpr (by rw [starts, List.length_cons] at enough; omega)
  cases value with
  | null => rfl
  | boolean value =>
      cases value with
      | _ => rfl
  | integer value => exact readValue_integer exact fuel ends
  | float spelling => exact exact.elim
  | text value =>
      simp [readValue, Value.compact, writeText, skipBlanks_cons, isBlank, readTextValue,
        readText_text, Value.document, Except.map]
  | sequence items =>
      rw [Value.compact, List.length_cons] at enough
      have read := readItems_compact items exact fuel true (by omega) rest
      simp [readValue, Value.compact, skipBlanks_cons, isBlank, read, Value.document]
  | mapping members =>
      rw [Value.compact, List.length_cons] at enough
      have read := readMembers_compact members exact fuel true (by omega) rest
      simp [readValue, Value.compact, skipBlanks_cons, isBlank, read, Value.document]
termination_by structural value

/-- The values of a sequence are read back, at its start and behind a value.
-/
theorem readItems_compact (items : List Value) (exact : AllExact items) (fuel : Nat)
    (first : Bool) (enough : 3 * (compactItems first items).length ≤ fuel) (rest : List Char)
    : readItems fuel first (compactItems first items ++ rest)
      = (itemsDocument items, some rest) := by
  cases items with
  | nil =>
      obtain ⟨fuel, rfl⟩ : ∃ left, fuel = left + 1 :=
        Nat.exists_eq_add_one.mpr (by rw [compactItems, List.length_singleton] at enough; omega)
      simp [compactItems, readItems, skipBlanks_cons, isBlank, itemsDocument]
  | cons value items =>
      obtain ⟨c, others, starts, solid, opens⟩ := exists_compact_eq_cons exact.1
      have closed := length_compactItems_pos false items
      simp only [compactItems, List.length_append, starts, List.length_cons] at enough
      obtain ⟨fuel, rfl⟩ : ∃ left, fuel = left + 2 := Nat.exists_eq_add_of_le' (by omega)
      have head := readValue_compact value exact.1 fuel
        (by rw [starts, List.length_cons]; omega) (endsNumber_compactItems items rest)
      have tail := readItems_compact items exact.2 fuel false (by omega) rest
      rw [starts, List.cons_append] at head
      have comma : isBlank ',' = false := rfl
      cases first with
      | true =>
          simp [compactItems, readItems, readItem, starts, skipBlanks_cons solid, head, tail,
            itemsDocument]
      | false =>
          simp [compactItems, readItems, readItem, starts, skipBlanks_cons comma,
            skipBlanks_cons solid, opens, head, tail, itemsDocument]
termination_by structural items

/-- The members of a mapping are read back, at its start and behind a member.
-/
theorem readMembers_compact (members : List (String × Value)) (exact : MembersExact members)
    (fuel : Nat) (first : Bool) (enough : 3 * (compactMembers first members).length ≤ fuel)
    (rest : List Char)
    : readMembers fuel first (compactMembers first members ++ rest)
      = (membersDocument members, some rest) := by
  cases members with
  | nil =>
      obtain ⟨fuel, rfl⟩ : ∃ left, fuel = left + 1 :=
        Nat.exists_eq_add_one.mpr (by rw [compactMembers, List.length_singleton] at enough; omega)
      simp [compactMembers, readMembers, skipBlanks_cons, isBlank, membersDocument]
  | cons member members =>
      obtain ⟨key, value⟩ := member
      simp only [compactMembers, List.length_append, List.length_cons, writeText] at enough
      obtain ⟨fuel, rfl⟩ : ∃ left, fuel = left + 2 := Nat.exists_eq_add_of_le' (by omega)
      have head := readValue_compact value exact.1 fuel (by omega)
        (endsNumber_compactMembers members rest)
      have tail := readMembers_compact members exact.2 fuel false (by omega) rest
      cases first with
      | _ =>
          simp [compactMembers, readMembers, readMember, writeText, skipBlanks_cons, isBlank,
            readText_text, head, tail, membersDocument]
termination_by structural members

end

/-- The compact text of an exact value is read back as the document of that value, and nothing is
left of it.
-/
theorem readDocument_render {value : Value} (exact : value.IsExact)
    : readDocument value.render.toList = (value.document, some []) := by
  rw [Value.render, String.toList_ofList]
  have read := readValue_compact value exact _ (Nat.le_add_right _ 3) endsNumber_nil
  rwa [List.append_nil] at read

-----------------------------------------------------------------------------------------
-- Values of documents
-----------------------------------------------------------------------------------------

mutual

/-- The value of a value's document is that value.
Witness: induction on the value.
-/
theorem ofDocument_document (value : Value) : ofDocument value.document = value := by
  cases value with
  | null | boolean | integer | float | text => rfl
  | sequence items => exact congrArg Value.sequence (ofItems_itemsDocument items)
  | mapping members => exact congrArg Value.mapping (ofMembers_membersDocument members)
termination_by structural value

/-- The values of a sequence are those that it is the document of.
-/
theorem ofItems_itemsDocument (items : List Value) : ofItems (itemsDocument items) = items := by
  cases items with
  | nil => rfl
  | cons value items =>
      rw [itemsDocument, ofItems, ofDocument_document value, ofItems_itemsDocument items]
termination_by structural items

/-- The members of a mapping are those that it is the document of.
-/
theorem ofMembers_membersDocument (members : List (String × Value))
    : ofMembers (membersDocument members) = members := by
  cases members with
  | nil => rfl
  | cons member members =>
      obtain ⟨key, value⟩ := member
      rw [membersDocument, ofMembers, ofDocument_document value,
        ofMembers_membersDocument members]
termination_by structural members

end

/-- An exact value that does not nest too deeply is the value of its compact text.
-/
theorem parse_render {value : Value} (exact : value.IsExact)
    (shallow : value.document.check conventions.depth = .ok ())
    : parse value.render = .ok value := by
  simp [parse, decode, readDocument_render exact, shallow, ofDocument_document, skipBlanks, bind,
    Except.bind, pure, Except.pure]

end Tablewright.Json
