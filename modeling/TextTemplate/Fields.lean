import TextTemplate.Piece
import TextTemplate.Text.Utf8

/-
  The fields of an input: a text for each of several names.

  The entries are kept in the order of their names, each
  name once, so that the same texts for the same names are
  the same fields.

  Key definitions include:
    * `Fields`
    * `Fields.insert`
    * `Fields.get?`
    * `Fields.assemble`
-/

------------------------------------------------------------
-- Ordered Entries
------------------------------------------------------------

namespace TextTemplate

/- Whether the names of entries ascend. -/
def Ascending
    (entries : List (String × String)) : Prop :=
  entries.Pairwise fun left right => left.1 < right.1

namespace Fields

/- Put an entry at its place, over one of the same name. -/
def insertEntry
    (name text : String) :
    List (String × String) → List (String × String)
  | [] => [(name, text)]
  | entry :: later =>
      if name < entry.1 then
        (name, text) :: entry :: later
      else if name = entry.1 then
        (name, text) :: later
      else
        entry :: insertEntry name text later

/- The names after an insertion. -/
theorem mem_insertEntry
    {name text : String}
    {entries : List (String × String)}
    {entry : String × String}
    (hEntry : entry ∈ insertEntry name text entries) :
    entry = (name, text) ∨ entry ∈ entries := by
  induction entries with
  | nil => simpa [insertEntry] using hEntry
  | cons first later ih =>
      simp only [insertEntry] at hEntry
      split at hEntry
      · simpa using hEntry
      · split at hEntry
        · simp only [List.mem_cons] at hEntry ⊢
          rcases hEntry with hEntry | hEntry
          · exact Or.inl hEntry
          · exact Or.inr (Or.inr hEntry)
        · simp only [List.mem_cons] at hEntry ⊢
          rcases hEntry with hEntry | hEntry
          · exact Or.inr (Or.inl hEntry)
          · rcases ih hEntry with hEntry | hEntry
            · exact Or.inl hEntry
            · exact Or.inr (Or.inr hEntry)

/- An insertion keeps the order. -/
theorem ascending_insertEntry
    (name text : String)
    {entries : List (String × String)}
    (hEntries : Ascending entries) :
    Ascending (insertEntry name text entries) := by
  induction entries with
  | nil => simp [insertEntry, Ascending]
  | cons first later ih =>
      have hFirst := List.pairwise_cons.mp hEntries
      simp only [insertEntry]
      split
      · rename_i hLess
        refine List.pairwise_cons.mpr ⟨?_, hEntries⟩
        intro entry hEntry
        rcases List.mem_cons.mp hEntry with rfl | hEntry
        · exact hLess
        · exact String.lt_trans hLess
            (hFirst.1 entry hEntry)
      · rename_i hLess
        split
        · rename_i hSame
          refine List.pairwise_cons.mpr ⟨?_, hFirst.2⟩
          intro entry hEntry
          simpa [hSame] using hFirst.1 entry hEntry
        · rename_i hOther
          refine List.pairwise_cons.mpr ⟨?_, ih hFirst.2⟩
          intro entry hEntry
          rcases mem_insertEntry hEntry with rfl | hEntry
          · apply Decidable.byContradiction
            intro hNot
            exact hOther (String.le_antisymm
              (String.not_lt.mp hNot)
              (String.not_lt.mp hLess))
          · exact hFirst.1 entry hEntry

end Fields

end TextTemplate

------------------------------------------------------------
-- Fields
------------------------------------------------------------

namespace TextTemplate

/- A text for each of several names. -/
structure Fields where
  entries : List (String × String)
  ascending : Ascending entries

namespace Fields

instance : DecidableEq Fields := fun left right =>
  decidable_of_iff (left.entries = right.entries) (by
    cases left
    cases right
    simp)

/- No fields. -/
def empty : Fields :=
  ⟨[], List.Pairwise.nil⟩

/- Give a name a text, in place of any it had before. -/
def insert
    (fields : Fields)
    (name text : String) : Fields :=
  ⟨insertEntry name text fields.entries,
    ascending_insertEntry name text fields.ascending⟩

/- The text of a name. -/
def get?
    (fields : Fields)
    (name : String) : Option String :=
  fields.entries.lookup name

/- The names, in ascending order. -/
def names
    (fields : Fields) : List String :=
  fields.entries.map Prod.fst

end Fields

end TextTemplate

------------------------------------------------------------
-- Assembly
------------------------------------------------------------

namespace TextTemplate

namespace Fields

/-
  Add the segments of named pieces, cut off one after
  another from an offset on.  There are no fields if such a
  segment is not text.
-/
def assembleFrom
    (data : ByteArray) :
    List (Piece × Nat) → Nat → Fields → Option Fields
  | [], _, fields => some fields
  | (piece, length) :: later, offset, fields =>
      let stop := offset + length
      match piece.name with
      | .anonymous => assembleFrom data later stop fields
      | .named name =>
          match Utf8.decode (data.extract offset stop) with
          | none => none
          | some text =>
              assembleFrom data later stop
                (fields.insert name text)

/-
  The fields of the pieces whose segments have the given
  lengths.  The last segment of a name is the one reported.
-/
def assemble
    (pieces : List Piece)
    (data : ByteArray)
    (lengths : List Nat) : Option Fields :=
  assembleFrom data (pieces.zip lengths) 0 empty

end Fields

end TextTemplate
