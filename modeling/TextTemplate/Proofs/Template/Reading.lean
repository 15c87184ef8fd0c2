import TextTemplate.Template.Basic

/-
  What the parts of a template say about its text.

  The segments of a template that is read to its end make up
  its text.  A segment that begins with an opening brace is
  a token and stands for the piece read from it; any other
  segment stands for itself.

  Main declarations:
    * `Part.isToken`
    * `Part.Genuine`
    * `Reading`
    * `Parsing.reading_ofText`
-/

------------------------------------------------------------
-- Genuine Parts
------------------------------------------------------------

namespace TextTemplate

namespace Part

/- Whether a part is a token. -/
def isToken
    (part : Part) : Bool :=
  part.segment.toList.head? = some Segment.openMark

/- Whether a part has the piece that its segment stands for. -/
structure Genuine
    (part : Part) : Prop where
  token :
    part.isToken = true →
      Token.piece part.segment.toList = .ok part.piece
  literal :
    part.isToken = false →
      part.piece = .literal (Utf8.encode part.segment)

/- A segment is read as a genuine part. -/
theorem genuine_of_ofSegment
    {segment : List Char}
    {part : Part}
    (hPart : ofSegment segment = .ok part) :
    part.segment = String.ofList segment ∧ part.Genuine := by
  unfold ofSegment at hPart
  simp only at hPart
  split at hPart
  · rename_i hToken
    cases hPiece : Token.piece segment with
    | error error =>
        rw [hPiece] at hPart
        exact nomatch hPart
    | ok piece =>
        rw [hPiece] at hPart
        obtain rfl := Except.ok.inj hPart
        refine ⟨rfl, ?_, ?_⟩
        · intro _
          simp only [String.toList_ofList]
          exact hPiece
        · intro hOther
          simp [isToken, hToken] at hOther
  · rename_i hToken
    obtain rfl := Except.ok.inj hPart
    refine ⟨rfl, ?_, fun _ => rfl⟩
    intro hOther
    simp [isToken, hToken] at hOther

end Part

end TextTemplate

------------------------------------------------------------
-- Readings
------------------------------------------------------------

namespace TextTemplate

/- Whether parts are those of a template. -/
structure Reading
    (source : String)
    (parts : List Part) : Prop where
  join_eq : String.join (parts.map Part.segment) = source
  genuine : ∀ part ∈ parts, part.Genuine

namespace Parsing

/- What is read of a text is read segment by segment. -/
theorem ofChars_of_next
    {text segment rest : List Char}
    (hText : text ≠ [])
    (hNext : Segment.next text = .ok (segment, rest)) :
    ofChars text =
      match Part.ofSegment segment with
      | .error error => stopped error
      | .ok part => prepend part (ofChars rest) := by
  rw [ofChars, dif_neg hText]
  split
  · rename_i hError
    rw [hNext] at hError
    cases hError
  · rename_i hOther
    rw [hNext] at hOther
    obtain ⟨rfl, rfl⟩ :=
      Prod.mk.inj (Except.ok.inj hOther)
    rfl

/- Nothing is read of a text from which nothing is cut. -/
theorem ofChars_of_malformed
    {text : List Char}
    {error : TemplateError}
    (hText : text ≠ [])
    (hNext : Segment.next text = .error error) :
    ofChars text = stopped (.malformed error) := by
  rw [ofChars, dif_neg hText]
  split
  · rename_i hError
    rw [hNext] at hError
    cases hError
    rfl
  · rename_i hOther
    rw [hNext] at hOther
    cases hOther

/- What is read to its end is a reading of the text. -/
theorem reading_ofChars
    (text : List Char)
    (hRead : (ofChars text).error = none) :
    Reading (String.ofList text) (ofChars text).parts := by
  induction text using ofChars.induct with
  | case1 =>
      rw [ofChars, dif_pos rfl]
      exact ⟨rfl, by simp⟩
  | case2 text hText error hNext =>
      rw [ofChars, dif_neg hText] at hRead
      split at hRead
      · exact nomatch hRead
      · rename_i hOther
        rw [hNext] at hOther
        exact nomatch hOther
  | case3 text hText segment rest hNext error hPart =>
      rw [ofChars_of_next hText hNext, hPart] at hRead
      exact nomatch hRead
  | case4 text hText segment rest hNext part hPart ih =>
      rw [ofChars_of_next hText hNext, hPart] at hRead ⊢
      have hRest := ih hRead
      rcases Part.genuine_of_ofSegment hPart with
        ⟨hSegment, hGenuine⟩
      refine ⟨?_, ?_⟩
      · simp only [prepend, List.map_cons, String.join_cons]
        rw [hRest.join_eq, hSegment, ← String.ofList_append,
          Segment.append_of_next hNext]
      · exact List.forall_mem_cons.mpr
          ⟨hGenuine, hRest.genuine⟩

/- A template that is read to its end has a reading. -/
theorem reading_ofText
    {source : String}
    (hRead : (ofText source).error = none) :
    Reading source (ofText source).parts := by
  have hReading := reading_ofChars source.toList hRead
  rw [String.ofList_toList] at hReading
  exact hReading

end Parsing

namespace Template

/- A template has the pieces of its parts. -/
theorem parse_eq_ok_iff
    {source : String}
    {template : Template} :
    parse source = .ok template ↔
      (Parsing.ofText source).error = none ∧
        template =
          ⟨source,
            (Parsing.ofText source).parts.map Part.piece⟩ := by
  unfold parse ofParsing
  cases (Parsing.ofText source).error with
  | some error => simp
  | none => simp [Parsing.pieces, eq_comm]

end Template

end TextTemplate
