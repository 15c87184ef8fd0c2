import TextTemplate.Proofs.Fields
import TextTemplate.Proofs.Search.Preference
import TextTemplate.Proofs.Template.Cut

/-
  Matching is filling in a template backwards.

  A filling gives a text to each name, so that the template
  with its tokens replaced is the input.  The fields of an
  input are a filling, and the one with the longest text
  wherever another filling first differs.

  Main declarations:
    * `Part.filled`
    * `Filling`
    * `filling_iff_takes`
    * `Fields.labelAll`
    * `names_of_smaller`
    * `match_fills_template`
-/

------------------------------------------------------------
-- Fillings
------------------------------------------------------------

namespace TextTemplate

namespace Part

/- The text that stands in the place of a part. -/
def filled
    (texts : String → String)
    (part : Part) : String :=
  match part.piece.name with
  | .anonymous => part.segment
  | .named name => texts name

end Part

/-
  Whether texts for the names fill a template in such a way
  that it gives the input, each with the bytes and the size
  that its token asks for.
-/
structure Filling
    (parts : List Part)
    (texts : String → String)
    (input : String) : Prop where
  join_eq :
    String.join (parts.map (Part.filled texts)) = input
  accepts :
    ∀ part ∈ parts, ∀ name,
      part.piece.name = .named name →
        part.piece.content.accepts
          (Utf8.encode (texts name)) = true
  sized :
    ∀ part ∈ parts, ∀ name,
      part.piece.name = .named name →
        ∀ size, part.piece.length = .exact size →
          ((Utf8.encode (texts name)).size : Int) = size

/- A filling cuts the input into texts that are taken. -/
theorem filling_iff_takes
    {parts : List Part}
    {texts : String → String}
    {input : String} :
    Filling parts texts input ↔
      String.join (parts.map (Part.filled texts)) = input ∧
        List.Forall₂ Part.Takes parts
          (parts.map (Part.filled texts)) := by
  rw [List.forall₂_map_right_iff, List.forall₂_same]
  constructor
  · intro hFilling
    refine ⟨hFilling.join_eq, ?_⟩
    intro part hPart
    have hAccepts := hFilling.accepts part hPart
    have hSized := hFilling.sized part hPart
    unfold Part.Takes Part.filled
    cases hName : part.piece.name with
    | anonymous => rfl
    | named name =>
        exact ⟨hAccepts name hName, hSized name hName⟩
  · intro hTaken
    rcases hTaken with ⟨hJoin, hTakes⟩
    have hNamed :
        ∀ part ∈ parts, ∀ name,
          part.piece.name = .named name →
            part.piece.content.accepts
                (Utf8.encode (texts name)) = true ∧
              ∀ size, part.piece.length = .exact size →
                ((Utf8.encode (texts name)).size : Int) =
                  size := by
      intro part hPart name hName
      have hPartTakes := hTakes part hPart
      unfold Part.Takes Part.filled at hPartTakes
      rw [hName] at hPartTakes
      exact hPartTakes
    refine ⟨hJoin, ?_, ?_⟩
    · intro part hPart name hName
      exact (hNamed part hPart name hName).1
    · intro part hPart name hName
      exact (hNamed part hPart name hName).2

end TextTemplate

------------------------------------------------------------
-- Labelled Texts
------------------------------------------------------------

namespace TextTemplate

/- The names of the parts of a template. -/
def Part.namesOf
    (parts : List Part) : List String :=
  Template.namesOf (parts.map Part.piece)

theorem Part.namesOf_of_anonymous
    {part : Part}
    (hName : part.piece.name = .anonymous)
    (later : List Part) :
    namesOf (part :: later) = namesOf later := by
  unfold namesOf Template.namesOf
  rw [List.map_cons, List.filterMap_cons, hName]
  rfl

theorem Part.namesOf_of_named
    {part : Part}
    {name : String}
    (hName : part.piece.name = .named name)
    (later : List Part) :
    namesOf (part :: later) = name :: namesOf later := by
  unfold namesOf Template.namesOf
  rw [List.map_cons, List.filterMap_cons, hName]
  rfl

namespace Fields

/- Report the text of a part, if the part is named. -/
def label
    (fields : Fields)
    (part : Part)
    (text : String) : Fields :=
  match part.piece.name with
  | .anonymous => fields
  | .named name => fields.insert name text

/- Report the texts of several parts. -/
def labelAll
    (fields : Fields) : List Part → List String → Fields
  | part :: parts, text :: texts =>
      (fields.label part text).labelAll parts texts
  | _, _ => fields

theorem label_of_anonymous
    {part : Part}
    (hName : part.piece.name = .anonymous)
    (fields : Fields)
    (text : String) :
    fields.label part text = fields := by
  rw [label, hName]

theorem label_of_named
    {part : Part}
    {name : String}
    (hName : part.piece.name = .named name)
    (fields : Fields)
    (text : String) :
    fields.label part text = fields.insert name text := by
  rw [label, hName]

/- The names that are not among the parts keep their text. -/
theorem textOf_labelAll_of_not_mem
    {parts : List Part}
    {name : String}
    (hName : name ∉ Part.namesOf parts)
    (texts : List String)
    (fields : Fields) :
    (fields.labelAll parts texts).textOf name =
      fields.textOf name := by
  induction parts generalizing texts fields with
  | nil => simp [labelAll]
  | cons part later ih =>
      cases texts with
      | nil => simp [labelAll]
      | cons text texts =>
          rw [labelAll]
          cases hPart : part.piece.name with
          | anonymous =>
              rw [Part.namesOf_of_anonymous hPart] at hName
              rw [ih hName, label_of_anonymous hPart]
          | named other =>
              rw [Part.namesOf_of_named hPart,
                List.mem_cons, not_or] at hName
              rw [ih hName.2, label_of_named hPart,
                textOf_insert_other fields hName.1]

/-
  Texts that are labelled by distinct names are the fields
  filled in again.
-/
theorem map_filled_labelAll
    {parts : List Part}
    {texts : List String}
    (hTakes : List.Forall₂ Part.Takes parts texts)
    (hDistinct : (Part.namesOf parts).Nodup)
    (fields : Fields) :
    parts.map
        (Part.filled (fields.labelAll parts texts).textOf) =
      texts := by
  induction hTakes generalizing fields with
  | nil => rfl
  | @cons part text later texts hTakes _ ih =>
      rw [labelAll, List.map_cons]
      unfold Part.Takes at hTakes
      cases hPart : part.piece.name with
      | anonymous =>
          rw [Part.namesOf_of_anonymous hPart] at hDistinct
          rw [hPart] at hTakes
          rw [ih hDistinct, Part.filled, hPart, hTakes]
      | named name =>
          rw [Part.namesOf_of_named hPart,
            List.nodup_cons] at hDistinct
          rw [ih hDistinct.2, Part.filled, hPart]
          simp only
          rw [textOf_labelAll_of_not_mem hDistinct.1,
            label_of_named hPart, textOf_insert_same]

/- Labelling adds the names of the parts. -/
theorem mem_names_labelAll
    {parts : List Part}
    {texts : List String}
    (hTakes : List.Forall₂ Part.Takes parts texts)
    (fields : Fields)
    (name : String) :
    name ∈ (fields.labelAll parts texts).names ↔
      name ∈ Part.namesOf parts ∨ name ∈ fields.names := by
  induction hTakes generalizing fields with
  | nil => simp [labelAll, Part.namesOf, Template.namesOf]
  | @cons part text later texts _ _ ih =>
      rw [labelAll, ih]
      cases hPart : part.piece.name with
      | anonymous =>
          rw [Part.namesOf_of_anonymous hPart,
            label_of_anonymous hPart]
      | named other =>
          rw [Part.namesOf_of_named hPart,
            label_of_named hPart, mem_names_insert,
            List.mem_cons, or_assoc]
          exact or_left_comm

/- The fields of a cut are its labelled texts. -/
theorem assembleFrom_cut
    {parts : List Part}
    {texts : List String}
    (hTakes : List.Forall₂ Part.Takes parts texts)
    {data : ByteArray}
    {offset : Nat}
    (hRemains :
      Utf8.Remains data offset (String.join texts))
    (fields : Fields) :
    assembleFrom data
        ((parts.map Part.piece).zip
          (texts.map fun text => (Utf8.encode text).size))
        offset fields =
      some (fields.labelAll parts texts) := by
  induction hTakes generalizing offset fields with
  | nil => rfl
  | @cons part text later texts _ _ ih =>
      rw [String.join_cons] at hRemains
      rw [labelAll, List.map_cons, List.map_cons,
        List.zip_cons_cons, assembleFrom]
      cases hPart : part.piece.name with
      | anonymous =>
          rw [label_of_anonymous hPart]
          exact ih hRemains.rest fields
      | named name =>
          have hDecode := Utf8.decode_eq_some_iff.mpr
            hRemains.extract_first
          rw [label_of_named hPart]
          simp only [hDecode]
          exact ih hRemains.rest (fields.insert name text)

end Fields

end TextTemplate

------------------------------------------------------------
-- Fillings With Longer Texts
------------------------------------------------------------

namespace TextTemplate

/-
  Two ways to fill in a template that give one text, where
  the sizes of the first are not greater: they agree on all
  names, or the first name on which they differ has a longer
  text in the second way.
-/
theorem names_of_smaller
    {parts : List Part}
    {texts other : String → String}
    (hJoin :
      String.join (parts.map (Part.filled other)) =
        String.join (parts.map (Part.filled texts)))
    (hSizes :
      LexLe
        ((parts.map (Part.filled other)).map
          fun text => (Utf8.encode text).size)
        ((parts.map (Part.filled texts)).map
          fun text => (Utf8.encode text).size)) :
    (∀ name ∈ Part.namesOf parts, other name = texts name) ∨
      ∃ before name after,
        Part.namesOf parts = before ++ name :: after ∧
          (∀ earlier ∈ before,
            other earlier = texts earlier) ∧
          ∃ more, more ≠ "" ∧
            texts name = other name ++ more := by
  induction parts with
  | nil =>
      refine Or.inl ?_
      intro name hName
      exact nomatch hName
  | cons part later ih =>
      simp only [List.map_cons, String.join_cons,
        lexLe_cons] at hJoin hSizes
      cases hPart : part.piece.name with
      | anonymous =>
          rw [Part.namesOf_of_anonymous hPart]
          simp only [Part.filled, hPart, Nat.lt_irrefl,
            false_or, true_and] at hJoin hSizes
          rw [String.append_right_inj] at hJoin
          exact ih hJoin hSizes
      | named name =>
          rw [Part.namesOf_of_named hPart]
          have hFilled :
              ∀ texts, Part.filled texts part =
                texts name := by
            intro texts
            rw [Part.filled, hPart]
          rw [hFilled, hFilled] at hJoin hSizes
          have hLe :
              (Utf8.encode (other name)).size ≤
                (Utf8.encode (texts name)).size := by
            omega
          rcases Utf8.begins_of_size_le hJoin hLe with
            ⟨more, hMore⟩
          by_cases hEmpty : more = ""
          · rw [hEmpty, String.append_empty] at hMore
            rw [hMore, String.append_right_inj] at hJoin
            rw [hMore] at hSizes
            simp only [Nat.lt_irrefl, false_or,
              true_and] at hSizes
            rcases ih hJoin hSizes with hAll | hFirst
            · refine Or.inl ?_
              intro some hSome
              rcases List.mem_cons.mp hSome with hHere | hRest
              · rw [hHere, hMore]
              · exact hAll some hRest
            · rcases hFirst with
                ⟨before, first, after, hNames, hBefore,
                  hLonger⟩
              refine Or.inr
                ⟨name :: before, first, after, ?_, ?_,
                  hLonger⟩
              · rw [hNames, List.cons_append]
              · exact List.forall_mem_cons.mpr
                  ⟨hMore.symm, hBefore⟩
          · refine Or.inr
              ⟨[], name, Part.namesOf later, rfl, ?_, more,
                hEmpty, hMore⟩
            intro earlier hNone
            exact nomatch hNone

end TextTemplate

------------------------------------------------------------
-- Matches
------------------------------------------------------------

namespace TextTemplate

/-
  Whether fields fill in a template for an input, with the
  longest text for the first name on which another filling
  differs.
-/
structure LongestFilling
    (parts : List Part)
    (fields : Fields)
    (input : String) : Prop where
  names_iff :
    ∀ name, name ∈ fields.names ↔ name ∈ Part.namesOf parts
  filling : Filling parts fields.textOf input
  longest :
    ∀ texts, Filling parts texts input →
      (∀ name ∈ Part.namesOf parts,
        texts name = fields.textOf name) ∨
      ∃ before name after,
        Part.namesOf parts = before ++ name :: after ∧
          (∀ earlier ∈ before,
            texts earlier = fields.textOf earlier) ∧
          ∃ more, more ≠ "" ∧
            fields.textOf name = texts name ++ more

/- A filling decomposes the encoded input. -/
theorem Filling.decomposes
    {parts : List Part}
    (hFillable : ∀ part ∈ parts, part.Fillable)
    {texts : String → String}
    {input : String}
    (hFilling : Filling parts texts input) :
    Decomposes (Utf8.encode input) (parts.map Part.piece) 0
      ((parts.map (Part.filled texts)).map fun text =>
        (Utf8.encode text).size) := by
  rcases filling_iff_takes.mp hFilling with ⟨hJoin, hTakes⟩
  rw [decomposes_iff_cut hFillable
    (Utf8.remains_encode input)]
  exact ⟨_, hTakes, hJoin, rfl⟩

/- The texts of the preferred decomposition are longest. -/
theorem longestFilling_of_preferred
    {parts : List Part}
    (hFillable : ∀ part ∈ parts, part.Fillable)
    (hDistinct : (Part.namesOf parts).Nodup)
    {input : String}
    {cuts : List String}
    (hTakes : List.Forall₂ Part.Takes parts cuts)
    (hJoin : String.join cuts = input)
    (hPreferred :
      Preferred (Utf8.encode input) (parts.map Part.piece) 0
        (cuts.map fun cut => (Utf8.encode cut).size)) :
    LongestFilling parts (Fields.empty.labelAll parts cuts)
      input := by
  have hFilled := Fields.map_filled_labelAll hTakes hDistinct
    .empty
  refine ⟨?_, ?_, ?_⟩
  · intro name
    rw [Fields.mem_names_labelAll hTakes, or_iff_left]
    exact List.not_mem_nil
  · rw [filling_iff_takes, hFilled]
    exact ⟨hJoin, hTakes⟩
  · intro texts hTexts
    apply names_of_smaller
    · rw [hFilled, hJoin]
      exact hTexts.join_eq
    · rw [hFilled]
      exact hPreferred.greatest _
        (hTexts.decomposes hFillable)

/-
  The match of a template is its longest filling, or there is
  no filling at all.
-/
theorem pieces_fill
    {parts : List Part}
    (hFillable : ∀ part ∈ parts, part.Fillable)
    (hDistinct : (Part.namesOf parts).Nodup)
    (input : String) :
    (∃ fields,
      (Match.pieces (parts.map Part.piece)
          (Utf8.encode input) none).result = .ok fields ∧
        LongestFilling parts fields input) ∨
    ((Match.pieces (parts.map Part.piece)
          (Utf8.encode input) none).result =
        .error (.doesNotMatch (Utf8.encode input)) ∧
      ¬ ∃ texts, Filling parts texts input) := by
  have hDecides := Search.start_run_decides
    (parts.map Part.piece) (Utf8.encode input)
  have hRemains := Utf8.remains_encode input
  unfold Match.pieces Match.conclude
  simp only
  cases hOutcome :
      (Search.start (parts.map Part.piece)
        (Utf8.encode input) none).run.1 with
  | found lengths =>
      have hPreferred :=
        (hDecides.found_iff lengths).mp hOutcome
      rcases (decomposes_iff_cut hFillable hRemains).mp
        hPreferred.decomposes with
        ⟨cuts, hTakes, hJoin, hLengths⟩
      subst hLengths
      rw [← hJoin] at hRemains
      have hAssembled := Fields.assembleFrom_cut hTakes
        hRemains .empty
      rw [hJoin] at hAssembled
      refine Or.inl
        ⟨Fields.empty.labelAll parts cuts, ?_,
          longestFilling_of_preferred hFillable hDistinct
            hTakes hJoin hPreferred⟩
      simp only [Fields.assemble, hAssembled]
  | stuck =>
      refine Or.inr ⟨rfl, ?_⟩
      intro hSome
      rcases hSome with ⟨texts, hFilling⟩
      exact hDecides.stuck_iff.mp hOutcome
        ⟨_, hFilling.decomposes hFillable⟩
  | exhausted => exact absurd hOutcome hDecides.ends

/-
  Matching fills in a template backwards.  When no token of
  the template is anonymous and no name is repeated, an input
  has fields exactly when some texts for the names fill in
  the template and give the input.  The fields are such
  texts, and the longest ones from left to right.  Without
  such texts the input does not match.
-/
theorem match_fills_template
    {source : String}
    {template : Template}
    (hTemplate : Template.parse source = .ok template)
    (hNamed :
      ∀ part ∈ (Parsing.ofText source).parts,
        part.isToken = true →
          part.piece.isAnonymous = false)
    (hDistinct : (Template.namesOf template.pieces).Nodup)
    (input : String) :
    let parts := (Parsing.ofText source).parts
    let result := (Match.all source input none).result
    Reading source parts ∧
    template.pieces = parts.map Part.piece ∧
    ((∃ fields, result = .ok fields) ↔
      ∃ texts, Filling parts texts input) ∧
    (∀ fields, result = .ok fields →
      LongestFilling parts fields input) ∧
    ((¬ ∃ texts, Filling parts texts input) →
      result =
        .error
          (.unmatched
            (.doesNotMatch (Utf8.encode input)))) := by
  intro parts result
  rcases Template.parse_eq_ok_iff.mp hTemplate with
    ⟨hRead, hPieces⟩
  have hReading := Parsing.reading_ofText hRead
  have hFillable : ∀ part ∈ parts, part.Fillable := by
    intro part hPart
    exact (hReading.genuine part hPart).fillable
      (hNamed part hPart)
  have hResult := Match.all_of_read hTemplate input none
  change result = _ at hResult
  rw [hPieces] at hDistinct hResult ⊢
  refine ⟨hReading, rfl, ?_⟩
  rw [hResult]
  rcases pieces_fill hFillable hDistinct input with
    ⟨fields, hFields, hLongest⟩ | ⟨hFails, hNone⟩
  · rw [hFields]
    have hSome : ∃ texts, Filling parts texts input :=
      ⟨fields.textOf, hLongest.filling⟩
    refine ⟨?_, ?_, ?_⟩
    · exact ⟨fun _ => hSome, fun _ => ⟨fields, rfl⟩⟩
    · intro other hOther
      obtain rfl := Except.ok.inj hOther
      exact hLongest
    · intro hNone
      exact absurd hSome hNone
  · rw [hFails]
    refine ⟨?_, ?_, fun _ => rfl⟩
    · constructor
      · intro hOk
        rcases hOk with ⟨fields, hFields⟩
        exact nomatch hFields
      · intro hSome
        exact absurd hSome hNone
    · intro fields hFields
      exact nomatch hFields

/- Two fields with a dash between them. -/
theorem match_fills_template_dash :
    ∃ fields,
      (Match.all "{a}-{b:u:2}" "x-y-12" none).result =
          .ok fields ∧
        LongestFilling (Parsing.ofText "{a}-{b:u:2}").parts
          fields "x-y-12" := by
  have hTemplate :
      Template.parse "{a}-{b:u:2}" =
        .ok
          ⟨"{a}-{b:u:2}",
            (Parsing.ofText "{a}-{b:u:2}").parts.map
              Part.piece⟩ :=
    Template.parse_eq_ok_iff.mpr ⟨by decide +kernel, rfl⟩
  have hFills := match_fills_template hTemplate
    (by decide +kernel) (by decide +kernel) "x-y-12"
  have hOk :
      (Match.all "{a}-{b:u:2}" "x-y-12" none).result.isOk =
        true := by
    decide +kernel
  cases hResult :
      (Match.all "{a}-{b:u:2}" "x-y-12" none).result with
  | error error =>
      rw [hResult] at hOk
      exact nomatch hOk
  | ok fields =>
      exact ⟨fields, rfl, hFills.2.2.2.1 fields hResult⟩

end TextTemplate
