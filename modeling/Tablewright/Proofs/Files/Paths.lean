import Mathlib.Data.List.Basic
import Tablewright.Files.Path
import Tablewright.Proofs.Text.Pieces

/-! Paths of ordinary names: where a path leads when one more name is put behind it, and that the
path above it leads there without that name.
-/

namespace Tablewright.Path

/-- The pieces of a path between its slashes.
-/
def pieces (path : String) : List String :=
  (Text.pieces '/' path.toList).map String.ofList

/-- A name that a step of a path can have: it does not stand for a directory by its place.
-/
structure IsName (name : String) : Prop where
  notEmpty : name ≠ ""
  notHere : name ≠ "."
  notAbove : name ≠ ".."
  unbroken : '/' ∉ name.toList

instance (name : String) : Decidable (IsName name) :=
  decidable_of_iff (name ≠ "" ∧ name ≠ "." ∧ name ≠ ".." ∧ '/' ∉ name.toList)
    ⟨fun ⟨notEmpty, notHere, notAbove, unbroken⟩ => ⟨notEmpty, notHere, notAbove, unbroken⟩,
      fun named => ⟨named.notEmpty, named.notHere, named.notAbove, named.unbroken⟩⟩

/-- A path of ordinary names. Slashes may be doubled or stand at its ends.
-/
structure Ordinary (path : String) : Prop where
  named : ∃ piece ∈ pieces path, piece ≠ ""
  notHere : "." ∉ pieces path
  notAbove : ".." ∉ pieces path

/-- A path of nothing but names.
-/
def Plain (path : String) : Prop :=
  ∀ piece ∈ pieces path, IsName piece

/-- A path leads into a directory, or to it, by nothing but names.
-/
structure Within (directory path : String) : Prop where
  begins : isAbsolute path = isAbsolute directory
  leads : ∃ names, (∀ name ∈ names, IsName name) ∧ steps path = steps directory ++ names

/-- The steps from the root to what a path names that does not lead upwards.
-/
def place (here : List String) (path : String) : List String :=
  start here path ++ steps path

-----------------------------------------------------------------------------------------
-- Slashes at the end
-----------------------------------------------------------------------------------------

/-- The pieces of a text are those of its characters.
-/
theorem pieces_ofList (chars : List Char)
    : pieces (String.ofList chars) = (Text.pieces '/' chars).map String.ofList := by
  rw [pieces, String.toList_ofList]

/-- A path has at least one piece.
-/
theorem pieces_ne_nil (path : String) : pieces path ≠ [] := by
  rw [pieces, Ne, List.map_eq_nil_iff]
  exact Text.pieces_ne_nil _ _

/-- Paths with the same pieces are the same.
-/
theorem pieces_injective : Function.Injective pieces := by
  intro path other same
  have texts : Function.Injective String.ofList := fun _ _ equal => String.ofList_inj.mp equal
  exact String.toList_inj.mp (Text.pieces_injective '/' (List.map_injective_iff.mpr texts same))

/-- The pieces before a slash and those behind it.
-/
theorem pieces_ofList_append_cons (before after : List Char)
    : pieces (String.ofList (before ++ '/' :: after))
      = pieces (String.ofList before) ++ pieces (String.ofList after) := by
  simp only [pieces_ofList, Text.pieces_append_cons, List.map_append]

/-- The pieces of two texts with a slash between them.
-/
theorem pieces_append_slash (before after : String)
    : pieces (before ++ "/" ++ after) = pieces before ++ pieces after := by
  have spelled : before ++ "/" ++ after = String.ofList (before.toList ++ '/' :: after.toList) := by
    rw [← String.toList_inj]
    simp
  rw [spelled, pieces_ofList_append_cons, String.ofList_toList, String.ofList_toList]

/-- Slashes at the end of a path make empty pieces.
-/
theorem pieces_ofList_append_replicate (before : List Char) (count : Nat)
    : pieces (String.ofList (before ++ List.replicate count '/'))
      = pieces (String.ofList before) ++ List.replicate count "" := by
  simp only [pieces_ofList, Text.pieces_append_replicate, List.map_append, List.map_replicate,
    String.ofList_nil]

/-- A name is the only piece of itself.
-/
theorem IsName.pieces {name : String} (named : IsName name) : pieces name = [name] := by
  rw [Path.pieces, Text.pieces_of_notMem named.unbroken, List.map_singleton, String.ofList_toList]

/-- The steps of a path are its pieces that lead somewhere.
-/
theorem steps_eq (path : String)
    : steps path = (pieces path).filter fun piece => piece != "" && piece != "." :=
  rfl

/-- The steps of an ordinary path do not lead upwards.
-/
theorem Ordinary.notMem_steps {path : String} (ordinary : Ordinary path)
    : ".." ∉ steps path := by
  intro member
  exact ordinary.notAbove (List.mem_filter.mp member).1

/-- An ordinary path has steps.
-/
theorem Ordinary.steps_ne_nil {path : String} (ordinary : Ordinary path) : steps path ≠ [] := by
  obtain ⟨piece, member, filled⟩ := ordinary.named
  have different : piece ≠ "." := fun same => ordinary.notHere (same ▸ member)
  refine List.ne_nil_of_mem (List.mem_filter.mpr ⟨member, ?_⟩)
  simp [filled, different]

/-- An ordinary path names something below the root.
-/
theorem Ordinary.place_ne_nil {path : String} (ordinary : Ordinary path) (here : List String)
    : place here path ≠ [] :=
  List.append_ne_nil_of_right_ne_nil _ ordinary.steps_ne_nil

/-- The steps of a path of names are its pieces.
-/
theorem Plain.steps_eq {path : String} (plain : Plain path) : steps path = pieces path := by
  rw [Path.steps_eq, List.filter_eq_self]
  intro piece member
  simp [(plain piece member).notEmpty, (plain piece member).notHere]

/-- An ordinary path is not empty.
-/
theorem Ordinary.ne_empty {path : String} (ordinary : Ordinary path) : path ≠ "" := by
  rintro rfl
  exact ordinary.steps_ne_nil rfl

/-- A path that begins with another one starts where that one does.
-/
theorem isAbsolute_eq_of_isPrefix {path longer : String} (filled : path ≠ "")
    (begins : path.toList <+: longer.toList)
    : isAbsolute longer = isAbsolute path := by
  obtain ⟨rest, whole⟩ := begins
  obtain ⟨c, more, spelled⟩ := List.exists_cons_of_ne_nil (mt String.toList_eq_nil_iff.mp filled)
  rw [isAbsolute, isAbsolute, Bool.eq_iff_iff, String.startsWith_string_iff,
    String.startsWith_string_iff, ← whole, spelled]
  simp

/-- Slashes at the end of a path do not lead anywhere.
-/
theorem steps_append_replicate (before : List Char) (count : Nat)
    : steps (String.ofList (before ++ List.replicate count '/'))
      = steps (String.ofList before) := by
  rw [steps_eq, steps_eq, pieces_ofList_append_replicate, List.filter_append,
    List.filter_replicate]
  simp

-----------------------------------------------------------------------------------------
-- One more name
-----------------------------------------------------------------------------------------

section Join

variable {directory name : String}

/-- A name is put behind a path and a slash, which the path may end with already.
-/
theorem exists_toList_join (filled : directory ≠ "") (named : IsName name)
    : ∃ base count,
        (join directory name).toList = base ++ '/' :: name.toList
        ∧ base ++ ['/'] = directory.toList ++ List.replicate count '/' := by
  have relative : ¬ isAbsolute name = true := by
    rw [isAbsolute, String.startsWith_string_iff]
    rintro ⟨rest, same⟩
    exact named.unbroken (same ▸ List.mem_cons_self)
  rw [join, if_neg relative]
  split
  · next closed =>
    have ends : ['/'] <:+ directory.toList := by
      simp only [beq_iff_eq, filled, Bool.or_eq_true, false_or] at closed
      rwa [String.endsWith_eq_endsWith_toSlice, String.Slice.endsWith_string_iff,
        String.copy_toSlice] at closed
    obtain ⟨base, same⟩ := ends
    exact ⟨base, 0, by rw [String.toList_append, ← same]; simp, by simpa using same⟩
  · exact ⟨directory.toList, 1, by simp, rfl⟩

/-- The pieces of a path with one more name are those of the path, up to slashes at its end, and
that name.
-/
theorem exists_pieces_join (filled : directory ≠ "") (named : IsName name)
    : ∃ before count,
        pieces (join directory name) = before ++ [name]
        ∧ before ++ [""] = pieces directory ++ List.replicate count "" := by
  obtain ⟨base, count, joined, closed⟩ := exists_toList_join filled named
  refine ⟨pieces (String.ofList base), count, ?_, ?_⟩
  · rw [← String.ofList_toList (s := join directory name), joined, pieces_ofList_append_cons,
      String.ofList_toList, named.pieces]
  · have same := congrArg (fun chars => pieces (String.ofList chars)) closed
    rwa [pieces_ofList_append_cons, pieces_ofList_append_replicate, String.ofList_toList] at same

/-- A path with one more name leads one step further.
-/
theorem steps_join (filled : directory ≠ "") (named : IsName name)
    : steps (join directory name) = steps directory ++ [name] := by
  obtain ⟨before, count, cut, ended⟩ := exists_pieces_join filled named
  have kept : before.filter (fun piece => piece != "" && piece != ".")
      = (pieces directory).filter fun piece => piece != "" && piece != "." := by
    have same := congrArg (List.filter fun piece => piece != "" && piece != ".") ended
    simpa [List.filter_append, List.filter_replicate] using same
  have keeps : (name != "" && name != ".") = true := by
    simp [named.notEmpty, named.notHere]
  rw [steps_eq, steps_eq directory, cut, List.filter_append, kept]
  simp [keeps]

/-- An ordinary path with one more name is ordinary.
-/
theorem Ordinary.join (ordinary : Ordinary directory) (named : IsName name)
    : Ordinary (join directory name) := by
  obtain ⟨before, count, cut, ended⟩ := exists_pieces_join ordinary.ne_empty named
  have known {piece : String} (member : piece ∈ before)
      : piece ∈ pieces directory ∨ piece = "" := by
    have either : piece ∈ pieces directory ++ List.replicate count "" :=
      ended ▸ List.mem_append_left _ member
    exact (List.mem_append.mp either).imp id List.eq_of_mem_replicate
  refine ⟨⟨name, by simp [cut], named.notEmpty⟩, ?_, ?_⟩
  · rw [cut, List.mem_append, List.mem_singleton]
    rintro (member | same)
    · exact (known member).elim ordinary.notHere (by decide)
    · exact named.notHere same.symm
  · rw [cut, List.mem_append, List.mem_singleton]
    rintro (member | same)
    · exact (known member).elim ordinary.notAbove (by decide)
    · exact named.notAbove same.symm

/-- A path that ends with a name can name a file.
-/
theorem isDirectoryOnly_join (filled : directory ≠ "") (named : IsName name)
    : isDirectoryOnly (join directory name) = false := by
  obtain ⟨base, _, joined, _⟩ := exists_toList_join filled named
  have last : (Text.pieces '/' (Path.join directory name).toList).getLast? = some name.toList := by
    rw [joined, Text.pieces_append_cons, Text.pieces_of_notMem named.unbroken,
      List.getLast?_concat]
  rw [isDirectoryOnly, last]
  split
  · next empty => exact absurd (by simpa using empty) named.notEmpty
  · next here =>
    have same : name = "." := by
      rw [← String.ofList_toList (s := name), Option.some.inj here]
    exact absurd same named.notHere
  · rfl

/-- A path is the beginning of itself with one more name.
-/
theorem isPrefix_join (filled : directory ≠ "") (named : IsName name)
    : directory.toList <+: (join directory name).toList := by
  obtain ⟨base, count, joined, closed⟩ := exists_toList_join filled named
  refine ⟨List.replicate count '/' ++ name.toList, ?_⟩
  rw [joined, ← List.append_assoc, ← closed, List.append_assoc, List.singleton_append]

/-- A path with one more name leads to a place in the one of the path.
-/
theorem place_join (filled : directory ≠ "") (named : IsName name) (here : List String)
    : place here (join directory name) = place here directory ++ [name] := by
  rw [place, place, start, start,
    isAbsolute_eq_of_isPrefix filled (isPrefix_join filled named), steps_join filled named,
    List.append_assoc]

/-- An ordinary path with more names behind it is ordinary, begins with that path, and leads
further by these names.
-/
theorem Ordinary.foldl_join {names : List String} (ordinary : Ordinary directory)
    (named : ∀ name ∈ names, IsName name)
    : Ordinary (names.foldl Path.join directory)
      ∧ directory.toList <+: (names.foldl Path.join directory).toList
      ∧ steps (names.foldl Path.join directory) = steps directory ++ names := by
  induction names generalizing directory with
  | nil => exact ⟨ordinary, List.prefix_rfl, (List.append_nil _).symm⟩
  | cons name rest ih =>
      obtain ⟨first, others⟩ := List.forall_mem_cons.mp named
      obtain ⟨further, starts, leads⟩ := ih (ordinary.join first) others
      refine ⟨further, (isPrefix_join ordinary.ne_empty first).trans starts, ?_⟩
      rw [List.foldl_cons, leads, steps_join ordinary.ne_empty first, List.append_assoc]
      rfl

end Join

-----------------------------------------------------------------------------------------
-- One name less
-----------------------------------------------------------------------------------------

/-- A path without single dots loses only slashes at its end, and not all that it consists of.
-/
theorem exists_trimEnd {fuel : Nat} {chars : List Char} (enough : chars.length ≤ fuel)
    (plain : "." ∉ pieces (String.ofList chars)) (filled : chars ≠ [])
    : ∃ rest count,
        trimEnd fuel chars.reverse = rest.reverse
        ∧ chars = rest ++ List.replicate count '/'
        ∧ rest ≠ [] := by
  induction fuel generalizing chars with
  | zero => exact absurd (List.length_eq_zero_iff.mp (Nat.le_zero.mp enough)) filled
  | succ fuel ih =>
      obtain ⟨init, last, rfl⟩ := (List.eq_nil_or_concat' chars).resolve_left filled
      rw [List.reverse_append, List.reverse_singleton, List.singleton_append]
      unfold trimEnd
      split
      · next left c more step same =>
        obtain rfl := Nat.succ.inj step
        -- The text ends with a slash behind other characters.
        obtain ⟨rfl, inner⟩ := List.cons.inj same
        have shorter : init.length ≤ fuel := by simpa using enough
        have plainer : "." ∉ pieces (String.ofList init) := by
          rw [pieces_ofList_append_cons] at plain
          exact fun member => plain (List.mem_append_left _ member)
        have nonempty : init ≠ [] := by
          rintro rfl
          cases inner
        obtain ⟨rest, count, trimmed, whole, kept⟩ := ih shorter plainer nonempty
        refine ⟨rest, count + 1, ?_, ?_, kept⟩
        · rw [← inner, trimmed]
        · rw [whole, List.append_assoc, List.replicate_succ']
      · next more _ same =>
        -- A single dot behind a slash would be a piece of its own.
        obtain ⟨rfl, inner⟩ := List.cons.inj same
        have split : init = more.reverse ++ ['/'] := by
          rw [← List.reverse_reverse init, inner, List.reverse_cons]
        refine absurd ?_ plain
        rw [split, List.append_assoc, List.singleton_append, pieces_ofList_append_cons]
        exact List.mem_append_right _ (by decide)
      · exact ⟨init ++ [last], 0, by simp, by simp, by simp⟩

section Parent

variable {directory name : String}

/-- A path with a name at its end loses nothing there: it does not end with a slash or a dot.
-/
theorem trimEnd_reverse_join (ordinary : Ordinary directory) (named : IsName name)
    : trimEnd (join directory name).length (join directory name).toList.reverse
      = (join directory name).toList.reverse := by
  obtain ⟨base, _, joined, _⟩ := exists_toList_join ordinary.ne_empty named
  have enough : (join directory name).toList.length ≤ (join directory name).length :=
    String.length_toList.le
  have plain : "." ∉ pieces (String.ofList (join directory name).toList) := by
    rw [String.ofList_toList]
    exact (ordinary.join named).notHere
  obtain ⟨rest, count, trimmed, same, _⟩ := exists_trimEnd enough plain (by simp [joined])
  cases count with
  | zero => rw [trimmed, same, List.replicate_zero, List.append_nil]
  | succ count =>
      obtain ⟨init, last, spelled⟩ :=
        (List.eq_nil_or_concat' name.toList).resolve_left (by simpa using named.notEmpty)
      rw [joined, spelled, List.replicate_succ', ← List.append_assoc, ← List.cons_append,
        ← List.append_assoc] at same
      have slash := (List.append_inj' same rfl).2
      refine absurd ?_ named.unbroken
      rw [spelled, List.singleton_inj.mp slash]
      exact List.mem_append_right _ (List.mem_singleton_self _)

/-- A path with a name at its end has a path above it.
-/
theorem not_climbs_join (ordinary : Ordinary directory) (named : IsName name)
    : ¬ (!(join directory name).startsWith "." && (steps (join directory name)).isEmpty) = true := by
  simp [(ordinary.join named).steps_ne_nil]

/-- The path above one with a name at its end leads where that one leads without the name.
-/
theorem exists_parent?_join (ordinary : Ordinary directory) (named : IsName name)
    : ∃ parent,
        parent? (join directory name) = some parent
        ∧ parent ≠ ""
        ∧ isAbsolute parent = isAbsolute directory
        ∧ steps parent = steps directory := by
  obtain ⟨base, count, joined, closed⟩ := exists_toList_join ordinary.ne_empty named
  have inner : "." ∉ pieces (String.ofList (base ++ ['/'])) := by
    rw [closed, pieces_ofList_append_replicate, String.ofList_toList, List.mem_append]
    rintro (member | empty)
    · exact ordinary.notHere member
    · exact absurd (List.eq_of_mem_replicate empty) (by decide)
  have cut : (join directory name).toList.reverse.dropWhile (· != '/')
      = (base ++ ['/']).reverse := by
    have passed : ∀ c ∈ name.toList.reverse, (c != '/') = true := by
      intro c member
      simp only [bne_iff_ne]
      rintro rfl
      exact named.unbroken (List.mem_reverse.mp member)
    rw [joined]
    simp [List.dropWhile_append_of_pos passed]
  have enough : (base ++ ['/']).length ≤ (join directory name).length := by
    rw [← String.length_toList, joined]
    simp
  obtain ⟨rest, extra, trimmed, same, filled⟩ := exists_trimEnd enough inner (by simp)
  have nonempty : String.ofList rest ≠ "" := by simpa using filled
  have whole : directory.toList <+: (String.ofList (base ++ ['/'])).toList := by
    rw [String.toList_ofList, closed]
    exact List.prefix_append _ _
  have part : (String.ofList rest).toList <+: (String.ofList (base ++ ['/'])).toList := by
    rw [String.toList_ofList, String.toList_ofList, same]
    exact List.prefix_append _ _
  refine ⟨String.ofList rest, ?_, nonempty, ?_, ?_⟩
  · rw [parent?, if_neg (not_climbs_join ordinary named)]
    simp only [trimEnd_reverse_join ordinary named, cut, trimmed, List.reverse_reverse]
  · rw [← isAbsolute_eq_of_isPrefix nonempty part,
      isAbsolute_eq_of_isPrefix ordinary.ne_empty whole]
  · rw [← steps_append_replicate rest extra, ← same, closed, steps_append_replicate,
      String.ofList_toList]

/-- The last piece of an ordinary path does not stand for a directory by its place.
-/
theorem Ordinary.splitEnd {path : String} (ordinary : Ordinary path)
    : (splitEnd path).2 ≠ "." ∧ (Path.splitEnd path).2 ≠ ".." := by
  have whole := List.takeWhile_append_dropWhile (p := (· == '/')) (l := path.toList.reverse)
  have slashes : path.toList.reverse.takeWhile (· == '/')
      = List.replicate (path.toList.reverse.takeWhile (· == '/')).length '/' :=
    List.eq_replicate_iff.mpr ⟨rfl, fun c member => by
      simpa using List.mem_takeWhile_imp member⟩
  generalize (path.toList.reverse.takeWhile (· == '/')).length = count at slashes
  have split : path.toList
      = (path.toList.reverse.dropWhile (· == '/')).reverse ++ List.replicate count '/' := by
    rw [slashes] at whole
    simpa using (congrArg List.reverse whole).symm
  have member : (Path.splitEnd path).2 ∈ pieces path := by
    have last := Text.takeWhile_reverse_mem_pieces '/'
      (path.toList.reverse.dropWhile (· == '/')).reverse
    rw [List.reverse_reverse] at last
    rw [← String.ofList_toList (s := path), split, pieces_ofList_append_replicate, ← split,
      String.ofList_toList, pieces_ofList]
    exact List.mem_append_left _ (List.mem_map_of_mem last)
  exact ⟨fun same => ordinary.notHere (same ▸ member),
    fun same => ordinary.notAbove (same ▸ member)⟩

end Parent

end Tablewright.Path
