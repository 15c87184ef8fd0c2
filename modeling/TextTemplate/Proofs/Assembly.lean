import Mathlib.Data.List.Basic
import TextTemplate.Proofs.Segments
import TextTemplate.Template.Basic

/-
  What assembled fields hold.

  Fields are assembled when the segment of every named piece
  is text, also of a piece whose name occurs again.  They
  have the names of these pieces and for each name the
  segment of the last piece that bears it.  So the fields of
  an input have the names of its template.

  Main declarations:
    * `Fields.exists_assemble_iff`
    * `Fields.mem_names_assemble`
    * `Fields.get?_assemble_iff`
    * `Template.fieldNames_pairwise`
    * `Match.fields_hold_last_segments`
-/

------------------------------------------------------------
-- Segments That Are Text
------------------------------------------------------------

namespace TextTemplate

namespace Fields

/-
  Fields are assembled exactly if the segments of all named
  pieces are text.
-/
theorem exists_assemble_iff
    {data : ByteArray}
    {pieces : List Piece}
    {lengths : List Nat} :
    (∃ fields,
        assemble pieces data lengths = some fields) ↔
      ∀ earlier piece length later name,
        pieces.zip lengths =
            earlier ++ (piece, length) :: later →
        piece.name = .named name →
          ∃ text,
            data.extract (covered earlier)
                (covered earlier + length) =
              Utf8.encode text := by
  constructor
  · rintro ⟨fields, hFields⟩
    intro earlier piece length later name hParts hName
    rw [assemble, hParts] at hFields
    rcases Fields.exists_insert_of_assembleFrom hName
        hFields with
      ⟨_, text, hText, _⟩
    rw [Nat.zero_add] at hText
    exact ⟨text, Utf8.decode_eq_some_iff.mp hText⟩
  · intro hTexts
    apply exists_assembleFrom
    intro earlier piece length later name hParts hName
    rw [Nat.zero_add]
    exact hTexts earlier piece length later name hParts hName

end Fields

end TextTemplate

------------------------------------------------------------
-- Names of Assembled Fields
------------------------------------------------------------

namespace TextTemplate

namespace Fields

/- Assembling adds the names of the named pieces. -/
theorem mem_names_assembleFrom
    {data : ByteArray}
    {parts : List (Piece × Nat)}
    {offset : Nat}
    {fields result : Fields}
    (hResult :
      assembleFrom data parts offset fields = some result)
    (name : String) :
    name ∈ result.names ↔
      name ∈ fields.names ∨
        ∃ part ∈ parts, part.1.name = .named name := by
  induction parts generalizing offset fields with
  | nil =>
      rcases Option.some.inj hResult with rfl
      simp
  | cons part parts ih =>
      rcases part with ⟨piece, length⟩
      rw [List.exists_mem_cons_iff]
      cases hName : piece.name with
      | anonymous =>
          rw [assembleFrom_of_anonymous hName] at hResult
          rw [ih hResult]
          simp only [reduceCtorEq, false_or]
      | named first =>
          rw [assembleFrom_of_named hName] at hResult
          rcases Option.bind_eq_some_iff.mp hResult with
            ⟨text, _, hRest⟩
          rw [ih hRest, mem_names_insert,
            FieldName.named.injEq, or_assoc,
            eq_comm (a := first)]
          exact or_left_comm

/- Assembled fields have the names of the named pieces. -/
theorem mem_names_assemble
    {data : ByteArray}
    {pieces : List Piece}
    {lengths : List Nat}
    {fields : Fields}
    (hFields : assemble pieces data lengths = some fields)
    (name : String) :
    name ∈ fields.names ↔
      ∃ part ∈ pieces.zip lengths,
        part.1.name = .named name := by
  rw [mem_names_assembleFrom hFields]
  simp [names, empty]

end Fields

end TextTemplate

------------------------------------------------------------
-- Texts of Assembled Fields
------------------------------------------------------------

namespace TextTemplate

namespace Fields

/- Whether a text is the segment of the last piece of a name. -/
def IsLast
    (data : ByteArray)
    (parts : List (Piece × Nat))
    (name text : String) : Prop :=
  ∃ earlier piece length later,
    parts = earlier ++ (piece, length) :: later ∧
      piece.name = .named name ∧
      (∀ other ∈ later, other.1.name ≠ .named name) ∧
      data.extract (covered earlier)
          (covered earlier + length) =
        Utf8.encode text

/- A name is that of a last piece or of none. -/
theorem exists_last_or_none
    (parts : List (Piece × Nat))
    (name : String) :
    (∃ earlier piece length later,
      parts = earlier ++ (piece, length) :: later ∧
        piece.name = .named name ∧
        ∀ other ∈ later, other.1.name ≠ .named name) ∨
      ∀ part ∈ parts, part.1.name ≠ .named name := by
  induction parts with
  | nil => exact .inr (by simp)
  | cons part parts ih =>
      rcases ih with
        ⟨earlier, piece, length, later, rfl, hName, hLast⟩ |
        hNone
      · exact .inl ⟨part :: earlier, piece, length, later,
          rfl, hName, hLast⟩
      · by_cases hPart : part.1.name = .named name
        · exact .inl ⟨[], part.1, part.2, parts, rfl, hPart,
            hNone⟩
        · exact .inr (List.forall_mem_cons.mpr
            ⟨hPart, hNone⟩)

/- Assembled fields hold the last segment of each name. -/
theorem get?_assemble_iff
    {data : ByteArray}
    {pieces : List Piece}
    {lengths : List Nat}
    {fields : Fields}
    (hFields : assemble pieces data lengths = some fields)
    (name text : String) :
    fields.get? name = some text ↔
      IsLast data (pieces.zip lengths) name text := by
  have hText
      {earlier later : List (Piece × Nat)}
      {piece : Piece}
      {length : Nat}
      (hParts : pieces.zip lengths =
        earlier ++ (piece, length) :: later)
      (hName : piece.name = .named name)
      (hLast : ∀ other ∈ later, other.1.name ≠ .named name) :
      fields.get? name = some text ↔
        data.extract (covered earlier)
            (covered earlier + length) =
          Utf8.encode text := by
    rw [assemble, hParts] at hFields
    rw [get?_of_assembleFrom hName hLast hFields,
      Nat.zero_add, Utf8.decode_eq_some_iff]
  constructor
  · intro hGet
    rcases exists_last_or_none (pieces.zip lengths) name with
      ⟨earlier, piece, length, later, hParts, hName, hLast⟩ |
      hNone
    · exact ⟨earlier, piece, length, later, hParts, hName,
        hLast, (hText hParts hName hLast).mp hGet⟩
    · rw [get?_assembleFrom_of_other hNone hFields] at hGet
      cases hGet
  · rintro ⟨earlier, piece, length, later, hParts, hName,
      hLast, hExtract⟩
    exact (hText hParts hName hLast).mpr hExtract

end Fields

end TextTemplate

------------------------------------------------------------
-- Field Names
------------------------------------------------------------

namespace TextTemplate

/- Items keep their order behind one that is none of them. -/
theorem idxOf_pairwise_cons
    {item : String}
    {later items : List String}
    (hOther : ∀ other ∈ items, item ≠ other)
    (hItems :
      items.Pairwise fun first second =>
        later.idxOf first < later.idxOf second) :
    items.Pairwise fun first second =>
      (item :: later).idxOf first <
        (item :: later).idxOf second := by
  apply hItems.imp_of_mem
  intro first second hFirst hSecond hLess
  rw [List.idxOf_cons_ne _ (hOther first hFirst),
    List.idxOf_cons_ne _ (hOther second hSecond)]
  exact Nat.succ_lt_succ hLess

/-
  Without repetitions, the items that are kept are in the
  order in which they first occur.
-/
theorem eraseDups_filter_pairwise
    (items : List String)
    (keep : String → Bool) :
    (items.filter keep).eraseDups.Pairwise
      fun first second =>
        items.idxOf first < items.idxOf second := by
  -- every item met is one that the later ones are not
  induction items generalizing keep with
  | nil => exact List.Pairwise.nil
  | cons item later ih =>
      by_cases hItem : keep item = true
      · rw [List.filter_cons_of_pos hItem,
          List.eraseDups_cons, List.filter_filter,
          List.pairwise_cons]
        have hOther :
            ∀ other ∈ (later.filter fun kept =>
              !kept == item && keep kept).eraseDups,
              item ≠ other := by
          rintro other hMem rfl
          rw [List.mem_eraseDups, List.mem_filter] at hMem
          simp at hMem
        refine ⟨?_, idxOf_pairwise_cons hOther (ih _)⟩
        intro other hMem
        rw [List.idxOf_cons_self,
          List.idxOf_cons_ne _ (hOther other hMem)]
        exact Nat.succ_pos _
      · rw [List.filter_cons_of_neg hItem]
        refine idxOf_pairwise_cons ?_ (ih keep)
        rintro other hMem rfl
        rw [List.mem_eraseDups, List.mem_filter] at hMem
        exact hItem hMem.2

namespace Template

/- The names of pieces are those of the named ones. -/
theorem mem_namesOf
    {pieces : List Piece}
    {name : String} :
    name ∈ namesOf pieces ↔
      ∃ piece ∈ pieces, piece.name = .named name := by
  rw [namesOf, List.mem_filterMap]
  have hName (piece : Piece) :
      piece.name.identifier? = some name ↔
        piece.name = .named name := by
    cases piece.name <;> simp [FieldName.identifier?]
  simp only [hName]

/- Field names are in the order of their first pieces. -/
theorem fieldNames_pairwise
    (template : Template) :
    template.fieldNames.Pairwise fun first second =>
      (namesOf template.pieces).idxOf first <
        (namesOf template.pieces).idxOf second := by
  have hPairwise :=
    eraseDups_filter_pairwise (namesOf template.pieces)
      fun _ => true
  rw [List.filter_true] at hPairwise
  exact hPairwise

/- No field name is repeated. -/
theorem fieldNames_nodup
    (template : Template) :
    template.fieldNames.Nodup := by
  apply template.fieldNames_pairwise.imp
  rintro first second hLess rfl
  exact Nat.lt_irrefl _ hLess

/- The field names are the names of the named pieces. -/
theorem mem_fieldNames
    {template : Template}
    {name : String} :
    name ∈ template.fieldNames ↔
      ∃ piece ∈ template.pieces,
        piece.name = .named name := by
  rw [fieldNames, List.mem_eraseDups, mem_namesOf]

end Template

end TextTemplate

------------------------------------------------------------
-- Fields of a Match
------------------------------------------------------------

namespace TextTemplate

namespace Match

/- A match assembles the lengths that the search finds. -/
theorem result_of_found
    {pieces : List Piece}
    {data : ByteArray}
    {budget : Option Int}
    {lengths : List Nat}
    (hFound :
      (Search.start pieces data budget).run.1 =
        .found lengths) :
    (Match.pieces pieces data budget).result =
      (Fields.assemble pieces data lengths).elim
        (.error .notText) .ok := by
  unfold Match.pieces conclude
  simp only [hFound]
  cases Fields.assemble pieces data lengths <;> rfl

/- A match with fields has found lengths for them. -/
theorem exists_found_of_ok
    {pieces : List Piece}
    {data : ByteArray}
    {budget : Option Int}
    {fields : Fields}
    (hResult :
      (Match.pieces pieces data budget).result =
        .ok fields) :
    ∃ lengths,
      (Search.start pieces data budget).run.1 =
          .found lengths ∧
        Fields.assemble pieces data lengths =
          some fields := by
  cases hOutcome :
      (Search.start pieces data budget).run.1 with
  | found lengths =>
      refine ⟨lengths, rfl, ?_⟩
      rw [result_of_found hOutcome] at hResult
      cases hFields : Fields.assemble pieces data lengths with
      | none =>
          rw [hFields] at hResult
          cases hResult
      | some assembled =>
          rw [hFields] at hResult
          rw [Except.ok.inj hResult]
  | stuck =>
      unfold Match.pieces conclude at hResult
      simp only [hOutcome] at hResult
      cases hResult
  | exhausted =>
      unfold Match.pieces conclude at hResult
      simp only [hOutcome] at hResult
      cases hResult

/- The fields of a match have the names of all pieces. -/
theorem mem_names_of_ok
    {pieces : List Piece}
    {data : ByteArray}
    {budget : Option Int}
    {fields : Fields}
    (hResult :
      (Match.pieces pieces data budget).result = .ok fields)
    (name : String) :
    name ∈ fields.names ↔
      ∃ piece ∈ pieces, piece.name = .named name := by
  rcases exists_found_of_ok hResult with
    ⟨lengths, hFound, hFields⟩
  have hLength :=
    (Search.decomposes_of_found hFound).length_eq
  have hPieces :
      (pieces.zip lengths).map Prod.fst = pieces :=
    List.map_fst_zip (Nat.le_of_eq hLength.symm)
  rw [Fields.mem_names_assemble hFields]
  constructor
  · rintro ⟨part, hPart, hName⟩
    have hPiece := List.mem_map_of_mem (f := Prod.fst) hPart
    rw [hPieces] at hPiece
    exact ⟨part.1, hPiece, hName⟩
  · rintro ⟨piece, hPiece, hName⟩
    rw [← hPieces] at hPiece
    rcases List.mem_map.mp hPiece with ⟨part, hPart, rfl⟩
    exact ⟨part, hPart, hName⟩

/-
  Fields hold the last segment of each name.  Lengths are
  paired with pieces as far as both go, and segments are cut
  off one after another, at most up to the end of the input.
  Fields are assembled exactly if the segment of each paired
  piece with a name is text; they have these names, and each
  name has the segment of the last piece that bears it.  A
  match gives the fields assembled of the lengths that are
  found, or fails for lack of text if there are none.  So
  its fields have the names of the template, which are told
  once each, in the order of their first pieces.
-/
theorem fields_hold_last_segments :
    (∀ (pieces : List Piece) (data : ByteArray)
        (lengths : List Nat),
      let parts := pieces.zip lengths
      let assembled := Fields.assemble pieces data lengths
      ((∃ fields, assembled = some fields) ↔
        ∀ earlier piece length later name,
          parts = earlier ++ (piece, length) :: later →
          piece.name = .named name →
            ∃ text,
              data.extract (Fields.covered earlier)
                  (Fields.covered earlier + length) =
                Utf8.encode text) ∧
      ∀ fields, assembled = some fields →
        (∀ name, name ∈ fields.names ↔
          ∃ part ∈ parts, part.1.name = .named name) ∧
        ∀ name text, fields.get? name = some text ↔
          Fields.IsLast data parts name text) ∧
    (∀ (pieces : List Piece) (data : ByteArray)
        (budget : Option Int) (lengths : List Nat),
      (Search.start pieces data budget).run.1 =
          .found lengths →
        (Match.pieces pieces data budget).result =
          (Fields.assemble pieces data lengths).elim
            (.error .notText) .ok) ∧
    (∀ (template : Template) (input : String)
        (budget : Option Int) (fields : Fields),
      (template.matchAll input budget).result =
          .ok fields →
        ∀ name,
          name ∈ fields.names ↔
            name ∈ template.fieldNames) ∧
    (∀ template : Template,
      template.fieldNames.Nodup ∧
      (∀ name, name ∈ template.fieldNames ↔
        ∃ piece ∈ template.pieces,
          piece.name = .named name) ∧
      template.fieldNames.Pairwise fun first second =>
        (Template.namesOf template.pieces).idxOf first <
          (Template.namesOf template.pieces).idxOf
            second) := by
  refine ⟨?_, ?_, ?_, ?_⟩
  · intro pieces data lengths parts assembled
    refine ⟨Fields.exists_assemble_iff, ?_⟩
    intro fields hFields
    exact
      ⟨Fields.mem_names_assemble hFields,
        Fields.get?_assemble_iff hFields⟩
  · intro pieces data budget lengths hFound
    exact result_of_found hFound
  · intro template input budget fields hResult name
    rw [mem_names_of_ok hResult, Template.mem_fieldNames]
  · intro template
    exact
      ⟨template.fieldNames_nodup,
        fun _ => Template.mem_fieldNames,
        template.fieldNames_pairwise⟩

/-
  Two pieces of one name and three lengths, the second of
  them past the end of the input.
-/
theorem fields_hold_last_segments_past_end :
    let piece : Piece := ⟨.named "x", .all, .anyByte⟩
    ∃ fields,
      Fields.assemble [piece, piece] ⟨#[97, 98]⟩ [1, 5, 7] =
          some fields ∧
        fields.get? "x" = some "b" := by
  intro piece
  have hAssembled :=
    fields_hold_last_segments.1 [piece, piece] ⟨#[97, 98]⟩
      [1, 5, 7]
  cases hFields :
      Fields.assemble [piece, piece] ⟨#[97, 98]⟩ [1, 5, 7] with
  | none =>
      have hSome :
          (Fields.assemble [piece, piece] ⟨#[97, 98]⟩
            [1, 5, 7]).isSome = true := by
        decide +kernel
      rw [hFields] at hSome
      cases hSome
  | some fields =>
      refine ⟨fields, rfl, ?_⟩
      rw [(hAssembled.2 fields hFields).2]
      exact
        ⟨[(piece, 1)], piece, 5, [], rfl, rfl, nofun,
          by decide +kernel⟩

end Match

end TextTemplate
