import Tablewright.Index

/-! Laws of collections by name: setting a value is seen under its name and under no other one,
and the last value that is set under a name counts.
-/

namespace Tablewright

namespace Entries

variable {α : Type} {name : String} {value : α} {entries : List (String × α)}

/-- The last value that is set counts.
-/
theorem insert_insert (name : String) (value other : α) (entries : List (String × α))
    : insert name other (insert name value entries) = insert name other entries := by
  induction entries with
  | nil => simp [insert]
  | cons head rest ih =>
      obtain ⟨first, old⟩ := head
      by_cases before : name < first
      · simp [insert, before]
      · by_cases same : name = first
        · simp [insert, same]
        · simp [insert, before, same, ih]

/-- In an ascending list an entry is what is found under its name.
-/
theorem mem_iff_lookup_eq_some (ascending : entries.Pairwise (·.1 < ·.1))
    : (name, value) ∈ entries ↔ entries.lookup name = some value := by
  induction entries with
  | nil => simp
  | cons head rest ih =>
      obtain ⟨first, old⟩ := head
      obtain ⟨behind, others⟩ := List.pairwise_cons.mp ascending
      rw [List.mem_cons, List.lookup_cons]
      by_cases same : name = first
      · subst same
        have notLater : (name, value) ∉ rest := fun later =>
          String.lt_irrefl name (behind (name, value) later)
        simp [notLater, eq_comm]
      · simp [same, beq_false_of_ne same, ih others]

/-- A value under a new name is one more entry.
-/
theorem insert_perm (absent : name ∉ entries.map (·.1))
    : (insert name value entries).Perm ((name, value) :: entries) := by
  induction entries with
  | nil => exact .refl _
  | cons head rest ih =>
      obtain ⟨first, old⟩ := head
      obtain ⟨different, fresh⟩ := List.ne_and_not_mem_of_not_mem_cons absent
      rw [insert, if_neg different]
      split
      · exact .refl _
      · exact ((ih fresh).cons _).trans (.swap _ _ _)

end Entries

namespace Index

variable {α : Type} {name other : String} {value : α} {index : Index α}

/-- What is found under a name after one was set.
-/
theorem get?_insert (index : Index α) (name other : String) (value : α)
    : (index.insert name value).get? other
      = if other = name then some value else index.get? other := by
  split
  · next same =>
    subst same
    exact index.get?_insert_self other value
  · next different => exact index.get?_insert_of_ne value different

/-- What is found after a value was set is that one under its name, or what was found before under
another.
-/
theorem get?_insert_eq_some_iff {found : α}
    : (index.insert name value).get? other = some found
      ↔ other = name ∧ found = value ∨ other ≠ name ∧ index.get? other = some found := by
  rw [get?_insert]
  split
  · next same => simp [same, eq_comm]
  · next different => simp [different]

/-- The names with a value after one was set.
-/
theorem contains_insert (index : Index α) (name other : String) (value : α)
    : (index.insert name value).contains other = (other == name || index.contains other) := by
  rw [contains, get?_insert]
  by_cases same : other = name
  · simp [same]
  · simp [same, contains]

/-- The last value that is set under a name counts.
-/
theorem insert_insert (index : Index α) (name : String) (value other : α)
    : (index.insert name value).insert name other = index.insert name other := by
  simp only [insert, Entries.insert_insert]

/-- The entries are what is found under their names.
-/
theorem mem_entries_iff : (name, value) ∈ index.entries ↔ index.get? name = some value :=
  Entries.mem_iff_lookup_eq_some index.ascending

/-- Collections in which the same is found under every name are equal.
-/
theorem eq_of_get?_eq {index other : Index α} (same : ∀ name, index.get? name = other.get? name)
    : index = other := by
  have distinct (index : Index α) : index.entries.Nodup :=
    index.ascending.imp fun {one two} before =>
      show one ≠ two from fun same => String.lt_irrefl _ (same ▸ before)
  have perm : index.entries.Perm other.entries :=
    (List.perm_ext_iff_of_nodup (distinct index) (distinct other)).mpr fun entry => by
      rw [mem_entries_iff, mem_entries_iff, same]
  have entries : index.entries = other.entries :=
    perm.eq_of_pairwise (fun _ _ _ _ before after => absurd after (String.lt_asymm before))
      index.ascending other.ascending
  cases index
  cases other
  cases entries
  rfl

/-- To set the value that a name has changes nothing.
-/
theorem insert_of_get?_eq_some (found : index.get? name = some value)
    : index.insert name value = index := by
  refine eq_of_get?_eq fun other => ?_
  rw [get?_insert]
  split
  · next same => rw [same, found]
  · rfl

/-- To add a name that a set has changes nothing.
-/
theorem add_of_contains {names : NameSet} (known : names.contains name = true)
    : NameSet.add name names = names := by
  obtain ⟨_, found⟩ := Option.isSome_iff_exists.mp known
  exact insert_of_get?_eq_some found

/-- Nothing is found in an empty collection.
-/
@[simp]
theorem get?_empty (name : String) : (empty : Index α).get? name = none :=
  rfl

/-- The names of a list are the names that its collection has.
-/
theorem contains_ofList (entries : List (String × α)) (name : String)
    : (ofList entries).contains name = entries.any (·.1 == name) := by
  have grown (index : Index α) : (entries.foldl
      (fun index entry => index.insert entry.1 entry.2) index).contains name
        = (index.contains name || entries.any (·.1 == name)) := by
    induction entries generalizing index with
    | nil => simp
    | cons head rest ih =>
        rw [List.foldl_cons, ih, contains_insert, List.any_cons, Bool.beq_comm]
        cases head.1 == name with
        | _ => simp
  exact grown empty

/-- A name is listed exactly when it has a value.
-/
theorem mem_names_iff : name ∈ index.names ↔ index.contains name = true := by
  rw [names, List.mem_map, contains, Option.isSome_iff_exists]
  constructor
  · intro listed
    obtain ⟨⟨_, value⟩, member, rfl⟩ := listed
    exact ⟨value, mem_entries_iff.mp member⟩
  · intro found
    obtain ⟨value, there⟩ := found
    exact ⟨(name, value), mem_entries_iff.mpr there, rfl⟩

/-- The names of a collection are listed in ascending order, each once.
-/
theorem names_ascending (index : Index α) : index.names.Pairwise (· < ·) :=
  List.pairwise_map.mpr index.ascending

/-- The collection of a list without repeated names has all entries of the list, and no other one.
Witness: induction on the list, behind what is in the collection already.
-/
theorem entries_ofList_perm {entries : List (String × α)}
    (distinct : (entries.map (·.1)).Nodup)
    : (ofList entries).entries.Perm entries := by
  have grown (index : Index α) (fresh : (index.names ++ entries.map (·.1)).Nodup)
      : (entries.foldl (fun index entry => index.insert entry.1 entry.2) index).entries.Perm
          (index.entries ++ entries) := by
    induction entries generalizing index with
    | nil => simp
    | cons head rest ih =>
        have shifted : (index.names ++ head.1 :: rest.map (·.1)).Perm
            ((head.1 :: index.names) ++ rest.map (·.1)) :=
          List.perm_middle
        have absent : head.1 ∉ index.names := by
          have unrepeated := shifted.nodup_iff.mp fresh
          rw [List.cons_append, List.nodup_cons] at unrepeated
          exact fun member => unrepeated.1 (List.mem_append_left _ member)
        have inserted : (index.insert head.1 head.2).entries.Perm (head :: index.entries) :=
          Entries.insert_perm absent
        have names : (index.insert head.1 head.2).names.Perm (head.1 :: index.names) :=
          inserted.map Prod.fst
        rw [List.foldl_cons]
        refine (ih (List.nodup_cons.mp distinct).2 _ ?_).trans ?_
        · exact (names.append_right _).nodup_iff.mpr (shifted.nodup_iff.mp fresh)
        · exact (inserted.append_right rest).trans List.perm_middle.symm
  exact grown empty distinct

/-- In the collection of a list without repeated names exactly the entries of the list are found.
-/
theorem get?_ofList_eq_some_iff {entries : List (String × α)}
    (distinct : (entries.map (·.1)).Nodup)
    : (ofList entries).get? name = some value ↔ (name, value) ∈ entries := by
  rw [← mem_entries_iff, (entries_ofList_perm distinct).mem_iff]

end Index

end Tablewright
