import TextTemplate.Proofs.Fields
import TextTemplate.Proofs.Search.Preference
import TextTemplate.Proofs.Text.Boundary

/-
  What a match reports of the segments of its input.

  The segment of a named piece begins and ends between two
  characters, so it is a part of the text, whatever the
  segments of anonymous pieces do.  The fields hold the part
  of the last piece of each name.

  Main declarations:
    * `Utf8.Occupies`
    * `Fields.assembleFrom_append`
    * `Fields.get?_of_assembleFrom`
    * `Match.exists_fields_of_found`
    * `Match.named_segments_are_text`
-/

------------------------------------------------------------
-- Parts of a Text
------------------------------------------------------------

namespace TextTemplate

namespace Utf8

/-
  Whether a part of a text takes a number of bytes of the
  encoded text from an offset on.
-/
def Occupies
    (text part : String)
    (offset length : Nat) : Prop :=
  ∃ before after,
    text = before ++ part ++ after ∧
      (encode before).size = offset ∧
      (encode part).size = length

/- The bytes that a part takes are its own. -/
theorem Occupies.extract_eq
    {text part : String}
    {offset length : Nat}
    (hOccupies : Occupies text part offset length) :
    (encode text).extract offset (offset + length) =
      encode part := by
  rcases hOccupies with ⟨before, after, hText, rfl, rfl⟩
  subst hText
  rw [String.append_assoc]
  have hRemains :=
    (remains_encode (before ++ (part ++ after))).rest
  rw [Nat.zero_add] at hRemains
  exact hRemains.extract_first

/- Bytes between two boundaries are those of a part. -/
theorem exists_occupies
    {text : String}
    {offset length : Nat}
    (hStop : offset + length ≤ (encode text).size)
    (hStart : isBoundary (encode text) offset = true)
    (hEnd :
      isBoundary (encode text) (offset + length) = true) :
    ∃ part, Occupies text part offset length := by
  rcases split_of_isBoundary (by omega) hStart with
    ⟨before, later, hText, hBefore⟩
  have hRemains : Remains (encode text) offset later := by
    have hRest := remains_encode text
    rw [hText] at hRest
    have hLater := hRest.rest
    rw [hBefore, Nat.zero_add, ← hText] at hLater
    exact hLater
  rcases hRemains.split hStop hEnd with
    ⟨part, after, hLater, hPart⟩
  refine ⟨part, before, after, ?_, hBefore, hPart⟩
  rw [hText, hLater, String.append_assoc]

end Utf8

end TextTemplate

------------------------------------------------------------
-- Assembled Segments
------------------------------------------------------------

namespace TextTemplate

namespace Fields

/- The bytes that pieces with their lengths cover. -/
def covered
    (parts : List (Piece × Nat)) : Nat :=
  (parts.map Prod.snd).sum

theorem covered_cons
    (part : Piece × Nat)
    (later : List (Piece × Nat)) :
    covered (part :: later) = part.2 + covered later :=
  List.sum_cons

theorem assembleFrom_of_anonymous
    {piece : Piece}
    (hName : piece.name = .anonymous)
    (data : ByteArray)
    (length : Nat)
    (later : List (Piece × Nat))
    (offset : Nat)
    (fields : Fields) :
    assembleFrom data ((piece, length) :: later) offset
        fields =
      assembleFrom data later (offset + length) fields := by
  rw [assembleFrom, hName]

theorem assembleFrom_of_named
    {piece : Piece}
    {name : String}
    (hName : piece.name = .named name)
    (data : ByteArray)
    (length : Nat)
    (later : List (Piece × Nat))
    (offset : Nat)
    (fields : Fields) :
    assembleFrom data ((piece, length) :: later) offset
        fields =
      (Utf8.decode
          (data.extract offset (offset + length))).bind
        fun text =>
          assembleFrom data later (offset + length)
            (fields.insert name text) := by
  rw [assembleFrom, hName]
  simp only
  cases Utf8.decode
    (data.extract offset (offset + length)) <;> rfl

/- Segments are assembled one after another. -/
theorem assembleFrom_append
    (data : ByteArray)
    (earlier later : List (Piece × Nat))
    (offset : Nat)
    (fields : Fields) :
    assembleFrom data (earlier ++ later) offset fields =
      (assembleFrom data earlier offset fields).bind
        (assembleFrom data later
          (offset + covered earlier)) := by
  induction earlier generalizing offset fields with
  | nil => rfl
  | cons part earlier ih =>
      rcases part with ⟨piece, length⟩
      rw [List.cons_append, covered_cons, ← Nat.add_assoc]
      cases hName : piece.name with
      | anonymous =>
          rw [assembleFrom_of_anonymous hName,
            assembleFrom_of_anonymous hName, ih]
      | named name =>
          rw [assembleFrom_of_named hName,
            assembleFrom_of_named hName, Option.bind_assoc]
          simp only [ih]

/-
  Segments are assembled when those of named pieces are
  texts.
-/
theorem exists_assembleFrom
    {data : ByteArray}
    {parts : List (Piece × Nat)}
    {offset : Nat}
    (hText :
      ∀ earlier piece length later name,
        parts = earlier ++ (piece, length) :: later →
        piece.name = .named name →
          ∃ text,
            data.extract (offset + covered earlier)
                (offset + covered earlier + length) =
              Utf8.encode text)
    (fields : Fields) :
    ∃ result,
      assembleFrom data parts offset fields =
        some result := by
  induction parts generalizing offset fields with
  | nil => exact ⟨fields, rfl⟩
  | cons part parts ih =>
      rcases part with ⟨piece, length⟩
      have hLater :
          ∀ earlier other size later name,
            parts = earlier ++ (other, size) :: later →
            other.name = .named name →
              ∃ text,
                data.extract
                    (offset + length + covered earlier)
                    (offset + length + covered earlier +
                      size) =
                  Utf8.encode text := by
        intro earlier other size later name hParts hName
        have hSame := hText ((piece, length) :: earlier)
          other size later name (by rw [hParts]; rfl) hName
        rw [covered_cons, ← Nat.add_assoc] at hSame
        exact hSame
      cases hName : piece.name with
      | anonymous =>
          rw [assembleFrom_of_anonymous hName]
          exact ih hLater fields
      | named name =>
          rcases hText [] piece length parts name rfl hName with
            ⟨text, hExtract⟩
          have hDecode :
              Utf8.decode
                  (data.extract offset (offset + length)) =
                some text :=
            Utf8.decode_eq_some_iff.mpr hExtract
          rw [assembleFrom_of_named hName, hDecode]
          exact ih hLater (fields.insert name text)

/- A name that no piece has keeps its text. -/
theorem get?_assembleFrom_of_other
    {data : ByteArray}
    {parts : List (Piece × Nat)}
    {name : String}
    (hOther : ∀ part ∈ parts, part.1.name ≠ .named name)
    {offset : Nat}
    {fields result : Fields}
    (hResult :
      assembleFrom data parts offset fields = some result) :
    result.get? name = fields.get? name := by
  induction parts generalizing offset fields with
  | nil =>
      rcases Option.some.inj hResult with rfl
      rfl
  | cons part parts ih =>
      rcases part with ⟨piece, length⟩
      have hFirst := hOther (piece, length) List.mem_cons_self
      have hLater :
          ∀ part ∈ parts, part.1.name ≠ .named name := by
        intro part hPart
        exact hOther part (List.mem_cons_of_mem _ hPart)
      cases hName : piece.name with
      | anonymous =>
          rw [assembleFrom_of_anonymous hName] at hResult
          exact ih hLater hResult
      | named first =>
          rw [assembleFrom_of_named hName] at hResult
          rcases Option.bind_eq_some_iff.mp hResult with
            ⟨text, _, hRest⟩
          have hFirstName : name ≠ first := by
            intro hSame
            rw [hSame] at hFirst
            exact hFirst hName
          rw [ih hLater hRest, get?_insert,
            if_neg hFirstName]

/- Assembled fields have taken the text of a named segment. -/
theorem exists_insert_of_assembleFrom
    {data : ByteArray}
    {earlier later : List (Piece × Nat)}
    {piece : Piece}
    {length : Nat}
    {name : String}
    (hName : piece.name = .named name)
    {offset : Nat}
    {fields result : Fields}
    (hResult :
      assembleFrom data
          (earlier ++ (piece, length) :: later) offset
          fields = some result) :
    ∃ (middle : Fields) (text : String),
      Utf8.decode
          (data.extract (offset + covered earlier)
            (offset + covered earlier + length)) =
          some text ∧
        assembleFrom data later
            (offset + covered earlier + length)
            (middle.insert name text) = some result := by
  rw [assembleFrom_append] at hResult
  rcases Option.bind_eq_some_iff.mp hResult with
    ⟨middle, _, hRest⟩
  rw [assembleFrom_of_named hName] at hRest
  rcases Option.bind_eq_some_iff.mp hRest with
    ⟨text, hText, hLater⟩
  exact ⟨middle, text, hText, hLater⟩

/-
  The text of a name is that of the segment of the last piece
  that has it.
-/
theorem get?_of_assembleFrom
    {data : ByteArray}
    {earlier later : List (Piece × Nat)}
    {piece : Piece}
    {length : Nat}
    {name : String}
    (hName : piece.name = .named name)
    (hLast : ∀ part ∈ later, part.1.name ≠ .named name)
    {offset : Nat}
    {fields result : Fields}
    (hResult :
      assembleFrom data
          (earlier ++ (piece, length) :: later) offset
          fields = some result) :
    result.get? name =
      Utf8.decode
        (data.extract (offset + covered earlier)
          (offset + covered earlier + length)) := by
  rcases exists_insert_of_assembleFrom hName hResult with
    ⟨middle, text, hText, hLater⟩
  rw [get?_assembleFrom_of_other hLast hLater, get?_insert,
    if_pos rfl, hText]

end Fields

end TextTemplate

------------------------------------------------------------
-- Segments of a Decomposition
------------------------------------------------------------

namespace TextTemplate

/- Each piece of a decomposition admits its segment. -/
theorem Decomposes.admits_of_zip
    {data : ByteArray}
    {pieces : List Piece}
    {lengths : List Nat}
    {offset : Nat}
    (hDecomposes : Decomposes data pieces offset lengths)
    {earlier later : List (Piece × Nat)}
    {piece : Piece}
    {length : Nat}
    (hParts :
      pieces.zip lengths =
        earlier ++ (piece, length) :: later) :
    piece.Admits data (offset + Fields.covered earlier)
      length := by
  induction earlier generalizing pieces lengths offset with
  | nil =>
      rcases pieces with - | ⟨first, pieces⟩
      · cases hParts
      rcases lengths with - | ⟨size, lengths⟩
      · cases hParts
      rw [List.zip_cons_cons, List.nil_append,
        List.cons.injEq, Prod.mk.injEq] at hParts
      rcases hParts with ⟨⟨rfl, rfl⟩, _⟩
      exact (decomposes_cons.mp hDecomposes).1
  | cons part earlier ih =>
      rcases pieces with - | ⟨first, pieces⟩
      · cases hParts
      rcases lengths with - | ⟨size, lengths⟩
      · cases hParts
      rw [List.zip_cons_cons, List.cons_append,
        List.cons.injEq] at hParts
      rcases hParts with ⟨rfl, hRest⟩
      rw [Fields.covered_cons, ← Nat.add_assoc]
      exact ih (decomposes_cons.mp hDecomposes).2 hRest

/- What a search finds decomposes its input. -/
theorem Search.decomposes_of_found
    {pieces : List Piece}
    {data : ByteArray}
    {budget : Option Int}
    {lengths : List Nat}
    (hFound :
      (start pieces data budget).run.1 = .found lengths) :
    Decomposes data pieces 0 lengths := by
  have hJustified := start_justified pieces data budget
  have hEnds :
      (start pieces data budget).run.1 ≠ .exhausted := by
    rw [hFound]
    intro hSame
    cases hSame
  have hDecides := decides_of_justified hJustified hEnds
  exact ((hDecides.found_iff lengths).mp hFound).decomposes

end TextTemplate

------------------------------------------------------------
-- Reported Segments
------------------------------------------------------------

namespace TextTemplate

namespace Match

/-
  The segments of named pieces in a text are parts of it, as
  they begin and end at boundaries.
-/
theorem occupies_of_decomposes
    {pieces : List Piece}
    {text : String}
    {lengths : List Nat}
    (hDecomposes :
      Decomposes (Utf8.encode text) pieces 0 lengths)
    {earlier later : List (Piece × Nat)}
    {piece : Piece}
    {length : Nat}
    (hParts :
      pieces.zip lengths =
        earlier ++ (piece, length) :: later)
    {name : String}
    (hName : piece.name = .named name) :
    ∃ part,
      Utf8.Occupies text part (Fields.covered earlier)
        length := by
  have hAdmits := hDecomposes.admits_of_zip hParts
  rw [Nat.zero_add] at hAdmits
  have hNamed : piece.isAnonymous = false := by
    rw [Piece.isAnonymous, hName]
    rfl
  have hUncut := hAdmits.uncut hNamed
  exact Utf8.exists_occupies hAdmits.le_size hUncut.1
    hUncut.2

/-
  A match that finds a decomposition of a text has fields,
  whatever the budget.
-/
theorem exists_fields_of_found
    {pieces : List Piece}
    {text : String}
    {budget : Option Int}
    {lengths : List Nat}
    (hFound :
      (Search.start pieces (Utf8.encode text)
        budget).run.1 = .found lengths) :
    ∃ fields,
      Fields.assemble pieces (Utf8.encode text) lengths =
          some fields ∧
        (Match.pieces pieces (Utf8.encode text)
          budget).result = .ok fields := by
  have hDecomposes := Search.decomposes_of_found hFound
  have hAssembled :
      ∃ fields,
        Fields.assemble pieces (Utf8.encode text) lengths =
          some fields := by
    apply Fields.exists_assembleFrom
    intro earlier piece length later name hParts hName
    rcases occupies_of_decomposes hDecomposes hParts hName with
      ⟨part, hOccupies⟩
    rw [Nat.zero_add]
    exact ⟨part, hOccupies.extract_eq⟩
  rcases hAssembled with ⟨fields, hFields⟩
  refine ⟨fields, hFields, ?_⟩
  unfold Match.pieces conclude
  simp only [hFound, hFields]

/- A match in a text never fails for lack of text. -/
theorem pieces_ne_notText
    (pieces : List Piece)
    (text : String)
    (budget : Option Int) :
    (Match.pieces pieces (Utf8.encode text) budget).result ≠
      .error .notText := by
  cases hOutcome :
      (Search.start pieces (Utf8.encode text)
        budget).run.1 with
  | found lengths =>
      rcases exists_fields_of_found hOutcome with
        ⟨fields, _, hResult⟩
      rw [hResult]
      intro hSame
      cases hSame
  | stuck =>
      unfold Match.pieces conclude
      simp only [hOutcome]
      intro hSame
      cases hSame
  | exhausted =>
      unfold Match.pieces conclude
      simp only [hOutcome]
      intro hSame
      cases hSame

/- Without a budget, a template gives fields or none. -/
theorem exists_matchInput
    (template : Template)
    (input : String) :
    ∃ fields, template.matchInput input = .ok fields := by
  have hText :=
    pieces_ne_notText template.pieces input none
  have hEnds := pieces_none_ne_exhausted template.pieces
    (Utf8.encode input)
  unfold Template.matchInput Template.matchAll
  cases hResult :
      (Match.pieces template.pieces (Utf8.encode input)
        none).result with
  | ok fields => exact ⟨some fields, rfl⟩
  | error failure =>
      cases failure with
      | doesNotMatch data => exact ⟨none, rfl⟩
      | exhausted steps => exact absurd hResult (hEnds steps)
      | notText => exact absurd hResult hText

/-
  Reported segments are text.  A template that can be read
  gives fields or none for every input.  A match of any
  pieces in a text never fails for lack of text: the segment
  of each named piece is a part of the text, made of whole
  characters, and the last part of a name is the one
  reported.  The segments of anonymous pieces may still begin
  or end inside a character.
-/
theorem named_segments_are_text :
    (∀ source template,
      Template.parse source = .ok template →
        ∀ input, ∃ fields,
          template.matchInput input = .ok fields) ∧
    (∀ (pieces : List Piece) (text : String)
        (budget : Option Int),
      let data := Utf8.encode text
      let result := (Match.pieces pieces data budget).result
      result ≠ .error .notText ∧
      ∀ lengths,
        (Search.start pieces data budget).run.1 =
            .found lengths →
          ∃ fields, result = .ok fields ∧
            ∀ earlier piece length later name,
              pieces.zip lengths =
                  earlier ++ (piece, length) :: later →
              piece.name = .named name →
                ∃ part,
                  Utf8.Occupies text part
                      (Fields.covered earlier) length ∧
                    ((∀ other ∈ later,
                        other.1.name ≠ .named name) →
                      fields.get? name = some part)) ∧
    (∃ (pieces : List Piece) (text : String)
        (lengths : List Nat) (fields : Fields),
      let data := Utf8.encode text
      (Search.start pieces data none).run.1 =
          .found lengths ∧
        (Match.pieces pieces data none).result =
          .ok fields ∧
        ∃ earlier piece length later,
          pieces.zip lengths =
              earlier ++ (piece, length) :: later ∧
            piece.isAnonymous = true ∧
            Utf8.isBoundary data (Fields.covered earlier) =
              false) := by
  refine ⟨?_, ?_, ?_⟩
  · intro source template _ input
    exact exists_matchInput template input
  · intro pieces text budget data result
    refine ⟨pieces_ne_notText pieces text budget, ?_⟩
    intro lengths hFound
    rcases exists_fields_of_found hFound with
      ⟨fields, hFields, hResult⟩
    refine ⟨fields, hResult, ?_⟩
    intro earlier piece length later name hParts hName
    have hDecomposes := Search.decomposes_of_found hFound
    rcases occupies_of_decomposes hDecomposes hParts hName with
      ⟨part, hOccupies⟩
    refine ⟨part, hOccupies, ?_⟩
    intro hLast
    rw [Fields.assemble, hParts] at hFields
    rw [Fields.get?_of_assembleFrom hName hLast hFields,
      Nat.zero_add]
    exact Utf8.decode_eq_some_iff.mpr hOccupies.extract_eq
  · -- the two bytes of the first character go to two pieces
    let byte : Piece := ⟨.anonymous, .exact 1, .anyByte⟩
    let rest : Piece := ⟨.named "b", .all, .anyByte⟩
    have hFound :
        (Search.start [byte, byte, rest] (Utf8.encode "éx")
          none).run.1 = .found [1, 1, 1] := by
      decide +kernel
    rcases exists_fields_of_found hFound with
      ⟨fields, _, hResult⟩
    exact
      ⟨[byte, byte, rest], "éx", [1, 1, 1], fields, hFound,
        hResult, [(byte, 1)], byte, 1, [(rest, 1)], rfl, rfl,
        by decide +kernel⟩

/- A field after a character that is cut in two. -/
theorem named_segments_are_text_after_cut :
    let byte : Piece := ⟨.anonymous, .exact 1, .anyByte⟩
    let rest : Piece := ⟨.named "b", .all, .anyByte⟩
    ∃ fields,
      (Match.pieces [byte, byte, rest] (Utf8.encode "éx")
          none).result = .ok fields ∧
        fields.get? "b" = some "x" := by
  intro byte rest
  have hFound :
      (Search.start [byte, byte, rest] (Utf8.encode "éx")
        none).run.1 = .found [1, 1, 1] := by
    decide +kernel
  rcases
      (named_segments_are_text.2.1 [byte, byte, rest] "éx"
        none).2 [1, 1, 1] hFound with
    ⟨fields, hResult, hReported⟩
  rcases
      hReported [(byte, 1), (byte, 1)] rest 1 [] "b" rfl rfl with
    ⟨part, hOccupies, hLast⟩
  have hPart : Utf8.encode part = Utf8.encode "x" := by
    rw [← hOccupies.extract_eq]
    decide +kernel
  refine ⟨fields, hResult, ?_⟩
  rw [hLast (by simp), Utf8.encode_inj.mp hPart]

end Match

end TextTemplate
