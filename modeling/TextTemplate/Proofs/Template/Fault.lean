import TextTemplate.Match
import TextTemplate.Proofs.Template.Grammar

/-
  Which error is reported for a template that is not read.

  Such a template has a first faulty part.  What is before
  that part can be read by itself, the error is that of the
  part, and what follows the token of the part has no
  influence on the error.

  Main declarations:
    * `FirstFault`
    * `FirstFault.unique`
    * `FirstFault.replace`
    * `Template.exists_firstFault`
    * `Match.notices_of_unread`
    * `Template.parse_reports_first_fault`
-/

------------------------------------------------------------
-- First Faults
------------------------------------------------------------

namespace TextTemplate

/-
  A template cut at a faulty part, with a template that can
  be read before it.
-/
structure FirstFault
    (source before rest : String)
    (error : ParseError) : Prop where
  append : before ++ rest = source
  readable : ∃ template, Template.parse before = .ok template
  faulty : Faulty rest.toList error

namespace FirstFault

variable {source before rest : String}
variable {error : ParseError}

/- A template is read up to its first faulty part. -/
theorem exists_ofText
    (hFault : FirstFault source before rest error) :
    ∃ elements, Grammar.Separated elements ∧
      Grammar.text elements = before ∧
      Parsing.ofText source =
        ⟨elements.map Element.part, some error⟩ := by
  rcases hFault.readable with ⟨template, hParse⟩
  rcases Template.exists_written_of_parse hParse with
    ⟨elements, hSeparated, rfl⟩
  have hRead :=
    Template.ofText_of_faulty hSeparated hFault.faulty
  rw [String.ofList_toList, hFault.append] at hRead
  exact ⟨elements, hSeparated, rfl, hRead⟩

/- The error of a template is that of its first fault. -/
theorem parse_eq
    (hFault : FirstFault source before rest error) :
    Template.parse source = .error error := by
  rcases hFault.exists_ofText with ⟨elements, _, _, hRead⟩
  rw [Template.parse, hRead]
  rfl

/- What is before a first fault is what was read. -/
theorem reading
    (hFault : FirstFault source before rest error) :
    Reading before (Parsing.ofText source).parts := by
  rcases hFault.exists_ofText with
    ⟨elements, hSeparated, rfl, hRead⟩
  have hBefore := Template.ofText_written hSeparated
  have hReading := Parsing.reading_ofText
    (congrArg Parsing.error hBefore)
  rw [hBefore] at hReading
  rw [hRead]
  exact hReading

/- A template has one first fault. -/
theorem unique
    (hFault : FirstFault source before rest error)
    {before' rest' : String}
    {error' : ParseError}
    (hOther : FirstFault source before' rest' error') :
    before' = before ∧ rest' = rest ∧ error' = error := by
  rcases hFault.exists_ofText with
    ⟨elements, _, hBefore, hRead⟩
  rcases hOther.exists_ofText with
    ⟨others, _, hBefore', hRead'⟩
  have hSame := hRead'.symm.trans hRead
  have hParts := congrArg Parsing.parts hSame
  have hElements : others = elements :=
    List.map_injective_iff.mpr Element.part_injective hParts
  have hError := congrArg Parsing.error hSame
  have hText : before' = before := by
    rw [← hBefore, ← hBefore', hElements]
  have hRest := hOther.append.trans hFault.append.symm
  rw [hText] at hRest
  exact ⟨hText, (String.append_right_inj before).mp hRest,
    Option.some.inj hError⟩

end FirstFault

namespace Faulty

/- What follows a faulty token may be replaced. -/
theorem replace
    {inside after : List Char}
    {error : ParseError}
    (hFaulty :
      Faulty (Placeholder.enclose inside ++ after) error)
    (hInside : Segment.closeMark ∉ inside)
    (other : List Char) :
    Faulty (Placeholder.enclose inside ++ other) error := by
  generalize hText :
    Placeholder.enclose inside ++ after = text at hFaulty
  cases hFaulty with
  | unclosed hOpen =>
      simp only [Placeholder.enclose, List.cons_append,
        List.cons.injEq] at hText
      exact absurd (by simp [← hText.2]) hOpen
  | @token first _ hFirst hFault rest =>
      have hNext := congrArg Segment.next hText
      rw [Segment.next_enclose hInside,
        Segment.next_enclose hFirst] at hNext
      have hToken := (Prod.mk.inj (Except.ok.inj hNext)).1
      rw [hToken]
      exact .token hFirst hFault other

end Faulty

namespace FirstFault

variable {source before rest : String}
variable {error : ParseError}

/- What follows the token of a first fault has no influence. -/
theorem replace
    (hFault : FirstFault source before rest error)
    {inside after : List Char}
    (hInside : Segment.closeMark ∉ inside)
    (hRest :
      rest.toList = Placeholder.enclose inside ++ after)
    (other : String) :
    let token := String.ofList (Placeholder.enclose inside)
    FirstFault (before ++ token ++ other) before
      (token ++ other) error := by
  refine ⟨(String.append_assoc ..).symm, hFault.readable, ?_⟩
  have hFaulty := hFault.faulty
  rw [hRest] at hFaulty
  rw [String.toList_append, String.toList_ofList]
  exact hFaulty.replace hInside other.toList

end FirstFault

end TextTemplate

------------------------------------------------------------
-- Refused Templates
------------------------------------------------------------

namespace TextTemplate

namespace Template

/- A template that is not read has a first fault. -/
theorem exists_firstFault
    {source : String}
    {error : ParseError}
    (hParse : parse source = .error error) :
    ∃ before rest, FirstFault source before rest error := by
  rcases Grammar.written_or_faulty source with
    ⟨elements, hSeparated, rfl⟩ |
    ⟨elements, rest, found, hSeparated, hSource, hFaulty⟩
  · rw [parse, ofText_written hSeparated] at hParse
    cases hParse
  · have hReadable : ∃ template,
        parse (Grammar.text elements) = .ok template := by
      rw [parse, ofText_written hSeparated]
      exact ⟨_, rfl⟩
    have hFault : FirstFault source (Grammar.text elements)
        (String.ofList rest) found :=
      ⟨hSource, hReadable,
        by rwa [String.toList_ofList]⟩
    have hSame : found = error :=
      Except.error.inj (hFault.parse_eq.symm.trans hParse)
    exact ⟨_, _, hSame ▸ hFault⟩

end Template

namespace Match

/- No search is begun for a template that is not read. -/
theorem notices_of_unread
    {source : String}
    {error : ParseError}
    (hParse : Template.parse source = .error error)
    (input : String)
    (budget : Option Int) :
    (all source input budget).notices =
      (Parsing.ofText source).parts.map .partRead := by
  have hError : (Parsing.ofText source).error =
      some error := by
    unfold Template.parse Template.ofParsing at hParse
    split at hParse
    · rename_i hError
      rw [hError, Except.error.inj hParse]
    · cases hParse
  unfold Template.parse at hParse
  unfold all Template.parseTraced
  simp only [hParse, Parsing.notices, hError,
    List.append_nil]

end Match

namespace Template

/-
  The error of a template that is not read is that of its
  first faulty part and of no other.  It stays the same
  whatever follows the token of that part, and every match
  fails with it before a search is begun.
-/
theorem parse_reports_first_fault
    {source : String}
    {error : ParseError}
    (hParse : parse source = .error error) :
    ∃ before rest, FirstFault source before rest error ∧
      (∀ before' rest' error',
        FirstFault source before' rest' error' →
          before' = before ∧ rest' = rest ∧
            error' = error) ∧
      (∀ inside after, Segment.closeMark ∉ inside →
        rest.toList = Placeholder.enclose inside ++ after →
          ∀ other,
            parse (before ++
              String.ofList (Placeholder.enclose inside) ++
              other) = .error error) ∧
      ∀ input budget,
        (Match.all source input budget).result =
            .error (.unread error) ∧
          ∀ notice ∈ (Match.all source input budget).notices,
            ∃ part, notice = .partRead part := by
  rcases exists_firstFault hParse with ⟨before, rest, hFault⟩
  refine ⟨before, rest, hFault, ?_, ?_, ?_⟩
  · intro before' rest' error' hOther
    exact hFault.unique hOther
  · intro inside after hInside hRest other
    exact (hFault.replace hInside hRest other).parse_eq
  · intro input budget
    refine ⟨Match.all_of_unread hParse input budget, ?_⟩
    intro notice hNotice
    rw [Match.notices_of_unread hParse] at hNotice
    rcases List.mem_map.mp hNotice with ⟨part, _, hPart⟩
    exact ⟨part, hPart.symm⟩

/-
  An unknown type is reported before a length that is none
  and before a later token that is not closed.
-/
theorem parse_reports_first_fault_unknown_type :
    parse "a-\x7bn:q:x\x7d\x7b" =
        .error (.malformed (.unknownType "q")) ∧
      ∃ before rest,
        FirstFault "a-\x7bn:q:x\x7d\x7b" before rest
            (.malformed (.unknownType "q")) ∧
          ∀ input budget,
            (Match.all "a-\x7bn:q:x\x7d\x7b" input
                budget).result =
              .error (.unread
                (.malformed (.unknownType "q"))) := by
  have hParse : parse "a-\x7bn:q:x\x7d\x7b" =
      .error (.malformed (.unknownType "q")) := by
    decide +kernel
  rcases parse_reports_first_fault hParse with
    ⟨before, rest, hFault, _, _, hMatch⟩
  exact ⟨hParse, before, rest, hFault,
    fun input budget => (hMatch input budget).1⟩

end Template

end TextTemplate
