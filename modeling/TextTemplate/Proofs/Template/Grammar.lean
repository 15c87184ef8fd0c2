import Mathlib.Data.List.Chain
import TextTemplate.Proofs.Template.Placeholder
import TextTemplate.Proofs.Template.Reading

/-
  The grammar of templates.

  A template is written as a sequence of plain texts and
  tokens in which no plain text follows another.  What is
  written is read as the pieces that it means, and what is
  read to its end is written in exactly one way.

  Every other text has a faulty part, and all before that
  part is written in this way.

  Main declarations:
    * `Element`
    * `Grammar.Separated`
    * `Grammar.text`
    * `Faulty`
    * `Parsing.ofChars_written`
    * `Parsing.ofChars_of_faulty`
    * `Grammar.written_or_faulty`
    * `Template.parse_reads_grammar`
-/

------------------------------------------------------------
-- Syntax
------------------------------------------------------------

namespace TextTemplate

/- Plain text: some characters, no opening brace. -/
@[ext]
structure Plain where
  chars : List Char
  nonempty : chars ≠ []
  noOpen : Segment.openMark ∉ chars

/- A part of a template as it is written. -/
inductive Element where
  | plain (text : Plain)
  | token (placeholder : Placeholder)

namespace Element

/- The characters of a part. -/
def chars : Element → List Char
  | .plain text => text.chars
  | .token placeholder => placeholder.chars

/- Whether a part is plain text. -/
def isPlain : Element → Bool
  | .plain _ => true
  | .token _ => false

/- The piece that is meant by a part. -/
def piece : Element → Piece
  | .plain text =>
      .literal (Utf8.encode (String.ofList text.chars))
  | .token placeholder => placeholder.piece

/- A part as it is read. -/
def part
    (element : Element) : Part :=
  ⟨String.ofList element.chars, element.piece⟩

end Element

namespace Grammar

/- Whether no plain text follows a plain text. -/
def Separated
    (elements : List Element) : Prop :=
  elements.IsChain fun left right =>
    ¬ (left.isPlain = true ∧ right.isPlain = true)

/- The characters of a sequence of parts. -/
def chars
    (elements : List Element) : List Char :=
  elements.flatMap Element.chars

/- The text that a sequence of parts is written as. -/
def text
    (elements : List Element) : String :=
  String.ofList (chars elements)

end Grammar

end TextTemplate

------------------------------------------------------------
-- Segments
------------------------------------------------------------

namespace TextTemplate

namespace Segment

/- Whether a text is empty or begins with an opening brace. -/
def AtToken
    (text : List Char) : Prop :=
  ∀ c ∈ text.head?, c = openMark

/- The end of a text is no part of a plain text. -/
theorem atToken_nil :
    AtToken [] := by
  simp [AtToken]

/- A text that begins with plain text is not at a token. -/
theorem not_atToken_plain
    (plain : Plain)
    (rest : List Char) :
    ¬ AtToken (plain.chars ++ rest) := by
  intro hToken
  rcases List.exists_cons_of_ne_nil plain.nonempty with
    ⟨c, later, hChars⟩
  have hHead : c = openMark := hToken c (by simp [hChars])
  exact plain.noOpen (by simp [hChars, hHead])

/- No character of a text without a mark is the mark. -/
theorem bne_of_not_mem
    {mark : Char}
    {text : List Char}
    (hMark : mark ∉ text) :
    ∀ c ∈ text, (c != mark) = true := by
  intro c hc
  rw [bne_iff_ne]
  rintro rfl
  exact hMark hc

/- A text is cut after the token with which it begins. -/
theorem next_enclose
    {inside : List Char}
    (hInside : closeMark ∉ inside)
    (rest : List Char) :
    next (Placeholder.enclose inside ++ rest) =
      .ok (Placeholder.enclose inside, rest) := by
  have hOther : closeMark ∉ openMark :: inside := by
    simpa [openMark, closeMark] using hInside
  have hText : Placeholder.enclose inside ++ rest =
      (openMark :: inside) ++ closeMark :: rest := by
    simp [Placeholder.enclose]
  have hHead : ((openMark :: inside) ++
      closeMark :: rest).head? = some openMark := rfl
  rw [hText, next, if_pos hHead,
    List.takeWhile_append_of_pos (bne_of_not_mem hOther),
    List.dropWhile_append_of_pos (bne_of_not_mem hOther)]
  simp [Placeholder.enclose]

/- A text is cut before the first token in it. -/
theorem next_plain
    (plain : Plain)
    {rest : List Char}
    (hRest : AtToken rest) :
    next (plain.chars ++ rest) =
      .ok (plain.chars, rest) := by
  have hOther := bne_of_not_mem plain.noOpen
  have hHead : (plain.chars ++ rest).head? ≠
      some openMark := by
    intro hHead
    exact not_atToken_plain plain rest
      (by simp [AtToken, hHead])
  rw [next, if_neg hHead,
    List.takeWhile_append_of_pos hOther,
    List.dropWhile_append_of_pos hOther]
  cases rest with
  | nil => simp
  | cons c later =>
      have hc : c = openMark := hRest c (by simp)
      simp [hc]

/- A text at a token that is not closed is not cut. -/
theorem next_unclosed
    {text : List Char}
    (hText : closeMark ∉ text) :
    next (openMark :: text) = .error
      (.unclosed (String.ofList (openMark :: text))) := by
  have hOther : closeMark ∉ openMark :: text := by
    simpa [openMark, closeMark] using hText
  have hDrop : ((openMark :: text) ++ []).dropWhile
      (· != closeMark) = [] :=
    List.dropWhile_append_of_pos (bne_of_not_mem hOther)
  rw [List.append_nil] at hDrop
  have hHead : (openMark :: text).head? =
      some openMark := rfl
  rw [next, if_pos hHead, hDrop]

/- A nonempty text begins with a plain text or a token. -/
theorem exists_split
    {text : List Char}
    (hText : text ≠ []) :
    (∃ (plain : Plain) (rest : List Char),
      AtToken rest ∧ text = plain.chars ++ rest) ∨
    (∃ inside rest, closeMark ∉ inside ∧
      text = Placeholder.enclose inside ++ rest) ∨
    (∃ later, closeMark ∉ later ∧
      text = openMark :: later) := by
  rcases List.exists_cons_of_ne_nil hText with ⟨c, later, rfl⟩
  by_cases hToken : c = openMark
  · subst hToken
    right
    by_cases hClose : closeMark ∈ later
    · rcases List.eq_append_cons_of_mem hClose with
        ⟨inside, rest, rfl, hInside⟩
      exact .inl ⟨inside, rest, hInside,
        by simp [Placeholder.enclose]⟩
    · exact .inr ⟨later, hClose, rfl⟩
  · left
    by_cases hOpen : openMark ∈ later
    · rcases List.eq_append_cons_of_mem hOpen with
        ⟨before, rest, rfl, hBefore⟩
      have hPlain : openMark ∉ c :: before := by
        simp [hBefore, Ne.symm hToken]
      exact ⟨⟨c :: before, by simp, hPlain⟩,
        openMark :: rest, by simp [AtToken], rfl⟩
    · have hPlain : openMark ∉ c :: later := by
        simp [hOpen, Ne.symm hToken]
      exact ⟨⟨c :: later, by simp, hPlain⟩, [],
        atToken_nil, by simp⟩

end Segment

end TextTemplate

------------------------------------------------------------
-- Reading What is Written
------------------------------------------------------------

namespace TextTemplate

/- A text between braces is read as a token. -/
theorem Part.ofSegment_enclose
    (inside : List Char) :
    ofSegment (Placeholder.enclose inside) =
      (Token.piece (Placeholder.enclose inside)).map
        fun piece =>
          ⟨String.ofList (Placeholder.enclose inside),
            piece⟩ := by
  have hHead : (Placeholder.enclose inside).head? =
      some Segment.openMark := rfl
  rw [ofSegment, if_pos hHead]
  cases Token.piece (Placeholder.enclose inside) <;> rfl

namespace Element

/- A part is determined by its characters. -/
theorem chars_injective :
    Function.Injective chars := by
  -- A plain text has no opening brace, and a token has one.
  have hOther (plain : Plain) (token : Placeholder) :
      plain.chars ≠ token.chars := by
    intro hChars
    apply plain.noOpen
    simp [hChars, Placeholder.chars, Placeholder.enclose]
  intro left right hChars
  cases left with
  | plain left =>
      cases right with
      | plain right =>
          exact congrArg plain (Plain.ext hChars)
      | token right => exact absurd hChars (hOther _ _)
  | token left =>
      cases right with
      | plain right => exact absurd hChars.symm (hOther _ _)
      | token right =>
          have hInside : left.inside = right.inside := by
            simpa [chars, Placeholder.chars,
              Placeholder.enclose] using hChars
          exact congrArg token
            (Placeholder.inside_injective hInside)

/- A part is determined by what is read of it. -/
theorem part_injective :
    Function.Injective part := by
  intro left right hPart
  have hSegment : left.part.segment = right.part.segment :=
    congrArg Part.segment hPart
  exact chars_injective (String.ofList_injective hSegment)

/- The characters of a part are cut off as a segment. -/
theorem next_append
    (element : Element)
    {rest : List Char}
    (hRest : element.isPlain = true →
      Segment.AtToken rest) :
    Segment.next (element.chars ++ rest) =
      .ok (element.chars, rest) := by
  cases element with
  | plain text => exact Segment.next_plain text (hRest rfl)
  | token placeholder =>
      exact Segment.next_enclose placeholder.noClose rest

/- The characters of a part are read as the part. -/
theorem ofSegment_chars
    (element : Element) :
    Part.ofSegment element.chars = .ok element.part := by
  cases element with
  | plain text =>
      have hHead : text.chars.head? ≠
          some Segment.openMark := by
        intro hHead
        exact text.noOpen (List.mem_of_mem_head? hHead)
      rw [Part.ofSegment, chars, if_neg hHead]
      rfl
  | token placeholder =>
      rw [chars, Placeholder.chars, Part.ofSegment_enclose,
        ← Placeholder.chars, Placeholder.piece_chars]
      rfl

end Element

namespace Parsing

/- The first part of a text is read before what follows. -/
theorem ofChars_append
    (element : Element)
    {rest : List Char}
    (hRest : element.isPlain = true →
      Segment.AtToken rest) :
    ofChars (element.chars ++ rest) =
      prepend element.part (ofChars rest) := by
  have hChars : element.chars ≠ [] := by
    cases element with
    | plain text => exact text.nonempty
    | token placeholder => exact List.cons_ne_nil _ _
  rw [ofChars_of_next (by simp [hChars])
    (element.next_append hRest), element.ofSegment_chars]

end Parsing

namespace Grammar

/- What follows plain text begins with a token. -/
theorem Separated.atToken
    {element : Element}
    {later : List Element}
    (hSeparated : Separated (element :: later))
    {rest : List Char}
    (hRest : Segment.AtToken rest)
    (hPlain : element.isPlain = true) :
    Segment.AtToken (chars later ++ rest) := by
  cases later with
  | nil => exact hRest
  | cons next later =>
      have hNext :=
        (List.isChain_cons_cons.mp hSeparated).1
      cases next with
      | plain text => exact absurd ⟨hPlain, rfl⟩ hNext
      | token placeholder =>
          simp [Segment.AtToken, chars, Element.chars,
            Placeholder.chars, Placeholder.enclose]

end Grammar

namespace Parsing

/-
  Parts that are written are read one by one, before what
  follows them.
-/
theorem ofChars_written
    {elements : List Element}
    (hSeparated : Grammar.Separated elements)
    {rest : List Char}
    (hRest : Segment.AtToken rest) :
    ofChars (Grammar.chars elements ++ rest) =
      ⟨elements.map Element.part ++ (ofChars rest).parts,
        (ofChars rest).error⟩ := by
  induction elements with
  | nil => rfl
  | cons element later ih =>
      have hLater := ih hSeparated.tail
      rw [Grammar.chars, List.flatMap_cons,
        List.append_assoc, ← Grammar.chars,
        ofChars_append element (hSeparated.atToken hRest),
        hLater]
      rfl

end Parsing

end TextTemplate

------------------------------------------------------------
-- Faulty Parts
------------------------------------------------------------

namespace TextTemplate

/-
  What is wrong with the part at the start of a text: a
  token that is not closed, or one that has a fault.
-/
inductive Faulty : List Char → ParseError → Prop where
  | unclosed
      {later : List Char}
      (hOpen : Segment.closeMark ∉ later) :
      Faulty (Segment.openMark :: later)
        (.malformed (.unclosed
          (String.ofList (Segment.openMark :: later))))
  | token
      {inside : List Char}
      {error : ParseError}
      (hInside : Segment.closeMark ∉ inside)
      (hFault : TokenFault inside error)
      (rest : List Char) :
      Faulty (Placeholder.enclose inside ++ rest) error

namespace Faulty

/- A faulty part begins with an opening brace. -/
theorem atToken
    {text : List Char}
    {error : ParseError}
    (hFaulty : Faulty text error) :
    Segment.AtToken text := by
  cases hFaulty <;>
    simp [Segment.AtToken, Placeholder.enclose]

end Faulty

namespace Parsing

/- At a faulty part reading stops with what is wrong. -/
theorem ofChars_of_faulty
    {text : List Char}
    {error : ParseError}
    (hFaulty : Faulty text error) :
    ofChars text = stopped error := by
  cases hFaulty with
  | unclosed hOpen =>
      exact ofChars_of_malformed (List.cons_ne_nil _ _)
        (Segment.next_unclosed hOpen)
  | token hInside hFault rest =>
      rw [ofChars_of_next (by simp [Placeholder.enclose])
        (Segment.next_enclose hInside rest),
        Part.ofSegment_enclose, hFault.piece_enclose hInside]
      rfl

end Parsing

namespace Grammar

/- Plain text may stand before a text that begins a token. -/
theorem Separated.cons
    {element : Element}
    {later : List Element}
    {rest : List Char}
    (hLater : Separated later)
    (hRest : element.isPlain = true →
      Segment.AtToken (chars later ++ rest)) :
    Separated (element :: later) := by
  apply List.isChain_cons.mpr
  refine ⟨?_, hLater⟩
  rintro next hNext ⟨hPlain, hOther⟩
  rcases List.head?_eq_some_iff.mp hNext with ⟨others, rfl⟩
  cases next with
  | token placeholder => cases hOther
  | plain text =>
      have hToken := hRest hPlain
      rw [chars, List.flatMap_cons,
        List.append_assoc] at hToken
      exact Segment.not_atToken_plain text _ hToken

/-
  Whether a text is written by parts up to its end or up to
  a faulty part.
-/
def Divided
    (text : List Char) : Prop :=
  ∃ elements rest, Separated elements ∧
    text = chars elements ++ rest ∧
    (rest = [] ∨ ∃ error, Faulty rest error)

/- A part may stand before a text that is divided. -/
theorem Divided.append
    {text : List Char}
    (hDivided : Divided text)
    (element : Element)
    (hText : element.isPlain = true →
      Segment.AtToken text) :
    Divided (element.chars ++ text) := by
  rcases hDivided with ⟨later, rest, hLater, rfl, hRest⟩
  exact ⟨element :: later, rest, hLater.cons hText,
    by simp [chars], hRest⟩

/- Every sequence of characters is divided. -/
theorem divided
    (text : List Char) :
    Divided text := by
  -- Each part that is cut off leaves a shorter text.
  induction hSize : text.length using Nat.strong_induction_on
    generalizing text with
  | h size ih =>
      by_cases hText : text = []
      · exact ⟨[], [], .nil, hText, .inl rfl⟩
      rcases Segment.exists_split hText with
        ⟨plain, rest, hRest, rfl⟩ |
        ⟨inside, rest, hInside, rfl⟩ | ⟨later, hOpen, rfl⟩
      · have hPlain := List.length_pos_iff.mpr plain.nonempty
        have hShorter : rest.length < size := by
          simp only [← hSize, List.length_append]
          omega
        exact (ih _ hShorter rest rfl).append
          (.plain plain) fun _ => hRest
      · have hShorter : rest.length < size := by
          simp only [← hSize, List.length_append,
            Placeholder.enclose, List.length_cons]
          omega
        rcases Placeholder.exists_or_fault hInside with
          ⟨placeholder, rfl⟩ | ⟨error, hFault⟩
        · exact (ih _ hShorter rest rfl).append
            (.token placeholder)
            (by simp [Element.isPlain])
        · exact ⟨[], _, .nil, rfl,
            .inr ⟨error, .token hInside hFault rest⟩⟩
      · exact ⟨[], _, .nil, rfl,
          .inr ⟨_, Faulty.unclosed hOpen⟩⟩

/- A text is written by parts or has a faulty part. -/
theorem written_or_faulty
    (source : String) :
    (∃ elements, Separated elements ∧
      text elements = source) ∨
    (∃ elements rest error, Separated elements ∧
      text elements ++ String.ofList rest = source ∧
      Faulty rest error) := by
  rcases divided source.toList with
    ⟨elements, rest, hSeparated, hChars, hRest⟩
  have hSource :
      text elements ++ String.ofList rest = source := by
    rw [text, ← String.ofList_append, ← hChars,
      String.ofList_toList]
  rcases hRest with rfl | ⟨error, hFaulty⟩
  · rw [String.ofList_nil, String.append_empty] at hSource
    exact .inl ⟨elements, hSeparated, hSource⟩
  · exact .inr ⟨elements, rest, error, hSeparated, hSource,
      hFaulty⟩

end Grammar

end TextTemplate

------------------------------------------------------------
-- The Grammar
------------------------------------------------------------

namespace TextTemplate

namespace Template

/- A text that is written by parts is read as these parts. -/
theorem ofText_written
    {elements : List Element}
    (hSeparated : Grammar.Separated elements) :
    Parsing.ofText (Grammar.text elements) =
      ⟨elements.map Element.part, none⟩ := by
  have hRead := Parsing.ofChars_written hSeparated
    Segment.atToken_nil
  have hEnd : Parsing.ofChars [] = ⟨[], none⟩ := by
    rw [Parsing.ofChars, dif_pos rfl]
  rw [List.append_nil, hEnd, List.append_nil] at hRead
  rw [Parsing.ofText, Grammar.text, String.toList_ofList,
    hRead]

/- A text with a faulty part is read up to this part. -/
theorem ofText_of_faulty
    {elements : List Element}
    (hSeparated : Grammar.Separated elements)
    {rest : List Char}
    {error : ParseError}
    (hFaulty : Faulty rest error) :
    Parsing.ofText
        (Grammar.text elements ++ String.ofList rest) =
      ⟨elements.map Element.part, some error⟩ := by
  have hRead := Parsing.ofChars_written hSeparated
    hFaulty.atToken
  rw [Parsing.ofChars_of_faulty hFaulty] at hRead
  rw [Parsing.ofText, Grammar.text, String.toList_append,
    String.toList_ofList, String.toList_ofList, hRead]
  simp [Parsing.stopped]

/- A sequence of parts is determined by what it writes. -/
theorem written_unique
    {left right : List Element}
    (hLeft : Grammar.Separated left)
    (hRight : Grammar.Separated right)
    (hText : Grammar.text left = Grammar.text right) :
    left = right := by
  have hParts := congrArg Parsing.parts
    ((ofText_written hLeft).symm.trans
      (hText ▸ ofText_written hRight))
  exact List.map_injective_iff.mpr Element.part_injective
    hParts

/- A template that can be read is written by parts. -/
theorem exists_written_of_parse
    {source : String}
    {template : Template}
    (hParse : parse source = .ok template) :
    ∃ elements, Grammar.Separated elements ∧
      Grammar.text elements = source := by
  have hRead := (parse_eq_ok_iff.mp hParse).1
  rcases Grammar.written_or_faulty source with
    hWritten | ⟨elements, rest, error, hSeparated, rfl,
      hFaulty⟩
  · exact hWritten
  · rw [ofText_of_faulty hSeparated hFaulty] at hRead
    cases hRead

/-
  Reading a template decides its grammar.  What is written
  by parts, no plain text after another, is read as the
  pieces that the parts mean; and what can be read is
  written by exactly one such sequence of parts.
-/
theorem parse_reads_grammar :
    (∀ elements, Grammar.Separated elements →
      parse (Grammar.text elements) =
        .ok ⟨Grammar.text elements,
          elements.map Element.piece⟩) ∧
    (∀ source template,
      parse source = .ok template →
        ∃! elements, Grammar.Separated elements ∧
          Grammar.text elements = source) := by
  constructor
  · intro elements hSeparated
    apply parse_eq_ok_iff.mpr
    rw [ofText_written hSeparated]
    simp [Element.part]
  · intro source template hParse
    rcases exists_written_of_parse hParse with
      ⟨elements, hSeparated, hText⟩
    refine ⟨elements, ⟨hSeparated, hText⟩, ?_⟩
    rintro others ⟨hOthers, hOther⟩
    exact written_unique hOthers hSeparated
      (hOther.trans hText.symm)

/-
  A closing bracket in a set of bytes belongs to the set if
  it is not the last character.
-/
theorem parse_reads_grammar_bracket :
    parse "id-\x7bn:u:40\x7d\x7b:[^]]\x7d" =
        .ok ⟨"id-\x7bn:u:40\x7d\x7b:[^]]\x7d",
          [.literal ⟨#[0x69, 0x64, 0x2D]⟩,
            ⟨.named "n", .exact 40, .unsigned⟩,
            ⟨.anonymous, .all,
              .oneOf (.ofList [0x5D]) true⟩]⟩ ∧
      ∃! elements, Grammar.Separated elements ∧
        Grammar.text elements =
          "id-\x7bn:u:40\x7d\x7b:[^]]\x7d" := by
  have hWritten : ∃ elements,
      Grammar.Separated elements ∧
        Grammar.text elements =
          "id-\x7bn:u:40\x7d\x7b:[^]]\x7d" ∧
        elements.map Element.piece =
          [.literal ⟨#[0x69, 0x64, 0x2D]⟩,
            ⟨.named "n", .exact 40, .unsigned⟩,
            ⟨.anonymous, .all,
              .oneOf (.ofList [0x5D]) true⟩] :=
    ⟨[.plain ⟨['i', 'd', '-'], by decide, by decide⟩,
      .token (.sized ⟨['n'], by decide, by decide⟩ .unsigned
        ⟨['4', '0'], by decide, by simp, by decide⟩),
      .token (.typed ⟨[], by decide, by decide⟩
        (.set ⟨['^', ']'], by decide, by decide⟩))],
      by simp [Grammar.Separated, Element.isPlain],
      by decide +kernel, by decide +kernel⟩
  rcases hWritten with ⟨elements, hSeparated, hText, hPieces⟩
  have hParse := parse_reads_grammar.1 elements hSeparated
  rw [hText, hPieces] at hParse
  exact ⟨hParse, parse_reads_grammar.2 _ _ hParse⟩

end Template

end TextTemplate
