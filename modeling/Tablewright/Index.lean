/-! Entries by name: one entry a name, in ascending order of the names.
-/

namespace Tablewright

namespace Entries

/-- Sets the value of a name in an ascending list of entries.
-/
def insert {α : Type} (name : String) (value : α) : List (String × α) → List (String × α)
  | [] => [(name, value)]
  | (other, old) :: rest =>
    if name < other then
      (name, value) :: (other, old) :: rest
    else if name = other then
      (name, value) :: rest
    else
      (other, old) :: insert name value rest

/-- The names of a list with one more entry are the old names and the new one.
-/
theorem mem_insert {α : Type} {name : String} {value : α} {entry : String × α}
    {entries : List (String × α)} (h : entry ∈ insert name value entries)
    : entry = (name, value) ∨ entry ∈ entries := by
  induction entries with
  | nil => simpa [insert] using h
  | cons head rest ih =>
    obtain ⟨other, old⟩ := head
    simp only [insert] at h
    split at h
    · simpa using h
    · split at h
      · rcases List.mem_cons.1 h with h | h
        · exact .inl h
        · exact .inr (List.mem_cons_of_mem _ h)
      · rcases List.mem_cons.1 h with h | h
        · exact .inr (h ▸ List.mem_cons_self)
        · exact (ih h).imp id (List.mem_cons_of_mem _)

/-- Setting a value keeps the names ascending.
-/
theorem insert_ascending {α : Type} (name : String) (value : α)
    {entries : List (String × α)} (h : entries.Pairwise (·.1 < ·.1))
    : (insert name value entries).Pairwise (·.1 < ·.1) := by
  induction entries with
  | nil => simp [insert]
  | cons head rest ih =>
    obtain ⟨other, old⟩ := head
    obtain ⟨hhead, hrest⟩ := List.pairwise_cons.1 h
    simp only [insert]
    split
    · next hlt =>
      refine List.pairwise_cons.2 ⟨fun entry hentry => ?_, h⟩
      rcases List.mem_cons.1 hentry with rfl | hentry
      · exact hlt
      · exact String.lt_trans hlt (hhead entry hentry)
    · next hnlt =>
      split
      · next heq =>
        subst heq
        exact List.pairwise_cons.2 ⟨hhead, hrest⟩
      · next hne =>
        refine List.pairwise_cons.2 ⟨fun entry hentry => ?_, ih hrest⟩
        rcases mem_insert hentry with rfl | hentry
        · exact Decidable.byContradiction fun hge =>
            hne (String.le_antisymm (String.not_lt.1 hge) (String.not_lt.1 hnlt))
        · exact hhead entry hentry

/-- The value that was just set is found.
-/
theorem lookup_insert_self {α : Type} (name : String) (value : α)
    (entries : List (String × α))
    : (insert name value entries).lookup name = some value := by
  induction entries with
  | nil => simp [insert]
  | cons head rest ih =>
    obtain ⟨other, old⟩ := head
    simp only [insert]
    split
    · simp
    · split
      · simp
      · next hne => rw [List.lookup_cons, beq_false_of_ne hne, ih]

/-- The values of other names stay.
-/
theorem lookup_insert_of_ne {α : Type} {name other : String} (value : α)
    (entries : List (String × α)) (h : other ≠ name)
    : (insert name value entries).lookup other = entries.lookup other := by
  induction entries with
  | nil => simp [insert, List.lookup_cons, beq_false_of_ne h]
  | cons head rest ih =>
    obtain ⟨first, old⟩ := head
    simp only [insert]
    split
    · rw [List.lookup_cons, beq_false_of_ne h]
    · split
      · next heq =>
        subst heq
        simp only [List.lookup_cons, beq_false_of_ne h]
      · rw [List.lookup_cons, List.lookup_cons, ih]

end Entries

/-- A collection of values by name.
-/
structure Index (α : Type) where
  entries : List (String × α)
  ascending : entries.Pairwise (·.1 < ·.1)

namespace Index

variable {α : Type}

/-- The collection without entries.
-/
def empty : Index α :=
  ⟨[], List.Pairwise.nil⟩

instance : Inhabited (Index α) :=
  ⟨empty⟩

/-- Sets the value of a name, replacing the one it has.
-/
def insert (name : String) (value : α) (index : Index α) : Index α :=
  ⟨Entries.insert name value index.entries, Entries.insert_ascending name value index.ascending⟩

/-- The value of a name.
-/
def get? (index : Index α) (name : String) : Option α :=
  index.entries.lookup name

/-- The value that was just set is found.
-/
@[simp]
theorem get?_insert_self (index : Index α) (name : String) (value : α)
    : (index.insert name value).get? name = some value :=
  Entries.lookup_insert_self name value index.entries

/-- The values of other names stay.
-/
theorem get?_insert_of_ne (index : Index α) {name other : String} (value : α)
    (h : other ≠ name)
    : (index.insert name value).get? other = index.get? other :=
  Entries.lookup_insert_of_ne value index.entries h

/-- Whether a name has a value.
-/
def contains (index : Index α) (name : String) : Bool :=
  (index.get? name).isSome

/-- The names, in ascending order.
-/
def names (index : Index α) : List String :=
  index.entries.map (·.1)

/-- The entries of a list; a later entry replaces an earlier one of the same name.
-/
def ofList (entries : List (String × α)) : Index α :=
  entries.foldl (fun index entry => index.insert entry.1 entry.2) empty

end Index

/-- A set of names, in ascending order.
-/
abbrev NameSet := Index Unit

/-- Adds a name.
-/
def NameSet.add (name : String) (names : NameSet) : NameSet :=
  Index.insert name () names

end Tablewright
