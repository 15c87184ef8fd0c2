import TextTemplate.Fields

/-
  What the fields of an input hold.

  An insertion changes the text of one name only.  Fields
  that are labelled one after another hold the text of each
  name that occurs once.

  Main declarations:
    * `Fields.get?_insert`
    * `Fields.mem_names_insert`
    * `Fields.textOf`
-/

------------------------------------------------------------
-- Insertions
------------------------------------------------------------

namespace TextTemplate

namespace Fields

theorem lookup_entry
    (name text : String)
    (later : List (String × String))
    (other : String) :
    ((name, text) :: later).lookup other =
      if other = name then
        some text
      else
        later.lookup other := by
  rw [List.lookup_cons]
  by_cases hOther : other = name
  · rw [if_pos hOther, beq_iff_eq.mpr hOther]
  · rw [if_neg hOther, beq_eq_false_iff_ne.mpr hOther]

theorem lookup_insertEntry
    (name text : String)
    (entries : List (String × String))
    (other : String) :
    (insertEntry name text entries).lookup other =
      if other = name then
        some text
      else
        entries.lookup other := by
  induction entries with
  | nil => exact lookup_entry name text [] other
  | cons entry later ih =>
      rcases entry with ⟨first, firstText⟩
      simp only [insertEntry]
      by_cases hLess : name < first
      · rw [if_pos hLess, lookup_entry]
      · rw [if_neg hLess]
        by_cases hSame : name = first
        · subst hSame
          rw [if_pos rfl, lookup_entry, lookup_entry]
          by_cases hOther : other = name
          · rw [if_pos hOther, if_pos hOther]
          · rw [if_neg hOther, if_neg hOther, if_neg hOther]
        · rw [if_neg hSame, lookup_entry, lookup_entry, ih]
          by_cases hFirst : other = first
          · have hOther : other ≠ name := by
              intro hName
              exact hSame (hName.symm.trans hFirst)
            rw [if_pos hFirst, if_pos hFirst, if_neg hOther]
          · rw [if_neg hFirst, if_neg hFirst]

theorem map_fst_insertEntry
    (name text : String)
    (entries : List (String × String))
    (other : String) :
    other ∈ (insertEntry name text entries).map Prod.fst ↔
      other = name ∨ other ∈ entries.map Prod.fst := by
  induction entries with
  | nil => simp [insertEntry]
  | cons entry later ih =>
      simp only [insertEntry]
      by_cases hLess : name < entry.1
      · rw [if_pos hLess, List.map_cons, List.mem_cons]
      · rw [if_neg hLess]
        by_cases hSame : name = entry.1
        · rw [if_pos hSame, List.map_cons, List.map_cons,
            List.mem_cons, List.mem_cons, hSame]
          exact or_self_left.symm
        · rw [if_neg hSame, List.map_cons, List.map_cons,
            List.mem_cons, List.mem_cons, ih]
          exact or_left_comm

/- An insertion changes the text of its name. -/
theorem get?_insert
    (fields : Fields)
    (name text other : String) :
    (fields.insert name text).get? other =
      if other = name then
        some text
      else
        fields.get? other :=
  lookup_insertEntry name text fields.entries other

/- An insertion adds its name only. -/
theorem mem_names_insert
    (fields : Fields)
    (name text other : String) :
    other ∈ (fields.insert name text).names ↔
      other = name ∨ other ∈ fields.names :=
  map_fst_insertEntry name text fields.entries other

/- The text of a name, or no text if it has none. -/
def textOf
    (fields : Fields)
    (name : String) : String :=
  (fields.get? name).getD ""

theorem textOf_insert_same
    (fields : Fields)
    (name text : String) :
    (fields.insert name text).textOf name = text := by
  rw [textOf, get?_insert, if_pos rfl]
  rfl

theorem textOf_insert_other
    (fields : Fields)
    {name other : String}
    (hOther : other ≠ name)
    (text : String) :
    (fields.insert name text).textOf other =
      fields.textOf other := by
  rw [textOf, textOf, get?_insert, if_neg hOther]

end Fields

end TextTemplate
