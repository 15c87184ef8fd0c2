import TextTemplate.Template.Error

/-
  Cutting a template into segments.

  A segment is a token, from an opening brace to the first
  closing one, or a run of literal text up to the next
  opening brace.

  Key definitions include:
    * `Segment.openMark`
    * `Segment.closeMark`
    * `Segment.next`
-/

------------------------------------------------------------
-- Segments
------------------------------------------------------------

namespace TextTemplate

namespace Segment

/- The character that begins a token. -/
def openMark : Char :=
  '\x7b'

/- The character that ends a token. -/
def closeMark : Char :=
  '\x7d'

/-
  Cut off the leading segment of a text.  The second
  component is what follows it.
-/
def next
    (text : List Char) :
    Except TemplateError (List Char × List Char) :=
  if text.head? = some openMark then
    let inside := text.takeWhile (· != closeMark)
    match text.dropWhile (· != closeMark) with
    | [] => .error (.unclosed (String.ofList text))
    | mark :: rest => .ok (inside ++ [mark], rest)
  else
    .ok (text.takeWhile (· != openMark),
      text.dropWhile (· != openMark))

end Segment

end TextTemplate

------------------------------------------------------------
-- Laws
------------------------------------------------------------

namespace TextTemplate

namespace Segment

/- A segment and what follows it make up the text. -/
theorem append_of_next
    {text segment rest : List Char}
    (hNext : next text = .ok (segment, rest)) :
    segment ++ rest = text := by
  unfold next at hNext
  split at hNext
  · have hText := List.takeWhile_append_dropWhile
      (p := (· != closeMark)) (l := text)
    cases hDrop : text.dropWhile (· != closeMark) with
    | nil => simp [hDrop] at hNext
    | cons mark later =>
        simp only [hDrop, Except.ok.injEq,
          Prod.mk.injEq] at hNext
        rw [← hNext.1, ← hNext.2]
        rw [hDrop] at hText
        simpa using hText
  · simp only [Except.ok.injEq, Prod.mk.injEq] at hNext
    rw [← hNext.1, ← hNext.2]
    exact List.takeWhile_append_dropWhile

/- The leading segment of a nonempty text is not empty. -/
theorem ne_nil_of_next
    {text segment rest : List Char}
    (hText : text ≠ [])
    (hNext : next text = .ok (segment, rest)) :
    segment ≠ [] := by
  unfold next at hNext
  split at hNext
  · cases hDrop : text.dropWhile (· != closeMark) with
    | nil => simp [hDrop] at hNext
    | cons mark later =>
        simp only [hDrop, Except.ok.injEq,
          Prod.mk.injEq] at hNext
        rw [← hNext.1]
        simp
  · rename_i hHead
    simp only [Except.ok.injEq, Prod.mk.injEq] at hNext
    cases text with
    | nil => exact absurd rfl hText
    | cons c later =>
        have hc : c ≠ openMark := by
          simpa using hHead
        rw [← hNext.1]
        simp [hc]

/- What follows the leading segment is a shorter text. -/
theorem length_lt_of_next
    {text segment rest : List Char}
    (hText : text ≠ [])
    (hNext : next text = .ok (segment, rest)) :
    rest.length < text.length := by
  have hLength := congrArg List.length
    (append_of_next hNext)
  have hSegment := List.length_pos_iff.mpr
    (ne_nil_of_next hText hNext)
  simp only [List.length_append] at hLength
  omega

end Segment

end TextTemplate
