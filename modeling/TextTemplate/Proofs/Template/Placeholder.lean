import Mathlib.Data.List.Basic
import TextTemplate.Proofs.Text.Numeral
import TextTemplate.Template.Token
import TextTemplate.Template.Segment

/-
  How tokens are written, and what can be wrong with one.

  A token is a name between braces, with a type code or a
  type code and a length after it if there are colons.  The
  types below hold what may be written and nothing else.
  A text between braces is either written in this way or has
  a fault, and the fault is the error that is reported.

  Main declarations:
    * `Entry`
    * `TypeCode`
    * `Size`
    * `Placeholder`
    * `Placeholder.piece`
    * `Placeholder.piece_chars`
    * `TokenFault`
    * `Placeholder.exists_or_fault`
    * `TokenFault.piece_enclose`
-/

------------------------------------------------------------
-- Syntax
------------------------------------------------------------

namespace TextTemplate

/- A part of a token: no colon and no closing brace. -/
@[ext]
structure Entry where
  chars : List Char
  noColon : ':' ∉ chars
  noClose : Segment.closeMark ∉ chars

/- A type as it is written. -/
inductive TypeCode where
  | omitted
  | star
  | any
  | nonBlank
  | blank
  | signed
  | unsigned
  | decimal
  | set (entry : Entry)

/- The characters of a type code. -/
def TypeCode.chars : TypeCode → List Char
  | .omitted => []
  | .star => ['*']
  | .any => ['s']
  | .nonBlank => ['w']
  | .blank => ['W']
  | .signed => ['i']
  | .unsigned => ['u']
  | .decimal => ['d']
  | .set entry => '[' :: (entry.chars ++ [']'])

/- A length as it is written: one to 4300 ASCII digits. -/
@[ext]
structure Size where
  chars : List Char
  nonempty : chars ≠ []
  digits : ∀ c ∈ chars, c.isDigit = true
  short : chars.length ≤ 4300

/- A token as it is written. -/
inductive Placeholder where
  | bare (name : Entry)
  | typed (name : Entry) (code : TypeCode)
  | sized (name : Entry) (code : TypeCode) (size : Size)

namespace Placeholder

/- A text between braces. -/
def enclose
    (inside : List Char) : List Char :=
  Segment.openMark :: (inside ++ [Segment.closeMark])

/- The characters between the braces of a token. -/
def inside : Placeholder → List Char
  | .bare name => name.chars
  | .typed name code => name.chars ++ ':' :: code.chars
  | .sized name code size =>
      name.chars ++ ':' :: (code.chars ++ ':' :: size.chars)

/- The characters of a token. -/
def chars
    (placeholder : Placeholder) : List Char :=
  enclose placeholder.inside

end Placeholder

end TextTemplate

------------------------------------------------------------
-- Meaning
------------------------------------------------------------

namespace TextTemplate

/- The field name that is meant by a name in a token. -/
def Entry.fieldName
    (name : Entry) : FieldName :=
  if name.chars = [] ∨ name.chars = ['_'] then
    .anonymous
  else
    .named (String.ofList name.chars)

namespace TypeCode

/-
  The content meant by the characters between brackets: the
  bytes of these characters, or all others after a caret.
-/
def bracketed
    (chars : List Char) : Content :=
  let negated := chars.head? = some '^'
  let members := if negated then chars.tail else chars
  .oneOf
    (.ofList (Utf8.encode (String.ofList members)).toList)
    negated

/- The content that is meant by a type code. -/
def content : TypeCode → Content
  | .omitted => .anyByte
  | .star => .anyByte
  | .any => .anyByte
  | .nonBlank => .nonBlank
  | .blank => .blank
  | .signed => .signed
  | .unsigned => .unsigned
  | .decimal => .decimal
  | .set entry => bracketed entry.chars

end TypeCode

/- The number that is meant by the digits of a length. -/
def Size.value
    (size : Size) : Nat :=
  Nat.ofDigits 10
    (size.chars.reverse.map fun c => c.toNat - '0'.toNat)

/- The piece that is meant by a token. -/
def Placeholder.piece : Placeholder → Piece
  | .bare name => ⟨name.fieldName, .all, .anyByte⟩
  | .typed name code =>
      ⟨name.fieldName, .all, code.content⟩
  | .sized name code size =>
      ⟨name.fieldName, .exact size.value, code.content⟩

end TextTemplate

------------------------------------------------------------
-- Names and Types
------------------------------------------------------------

namespace TextTemplate

/- A name is read as the field name that it means. -/
theorem Entry.fieldName_eq
    (name : Entry) :
    Token.piece.fieldName name.chars = name.fieldName := by
  simp [Token.piece.fieldName, FieldName.ofText, fieldName,
    String.ext_iff]

namespace TypeCode

/- The characters between brackets are read as meant. -/
theorem byteSet_eq_bracketed
    (chars : List Char) :
    Token.byteSet chars = bracketed chars := by
  unfold Token.byteSet
  split
  · rfl
  · rename_i hOther
    cases chars with
    | nil => rfl
    | cons c rest =>
        have hc : c ≠ '^' := by
          rintro rfl
          exact hOther rest rfl
        simp [bracketed, hc, Token.byteSet.set]

/- A type code is read as the content that it means. -/
theorem content_chars
    (code : TypeCode) :
    Token.content code.chars = .ok code.content := by
  cases code with
  | set entry =>
      have hContent : Token.content (set entry).chars =
          .ok (Token.byteSet entry.chars) := by
        simp [chars, Token.content]
      rw [hContent, byteSet_eq_bracketed]
      rfl
  | _ => rfl

/- A type code is determined by its characters. -/
theorem chars_injective :
    Function.Injective chars := by
  intro left right hChars
  cases left <;> cases right <;>
    simp_all [chars, Entry.ext_iff]

/- A type code holds no colon. -/
theorem noColon
    (code : TypeCode) :
    ':' ∉ code.chars := by
  cases code with
  | set entry => simp [chars, entry.noColon]
  | _ => simp [chars]

/- A type code holds no closing brace. -/
theorem noClose
    (code : TypeCode) :
    Segment.closeMark ∉ code.chars := by
  cases code with
  | set entry =>
      have hEntry := entry.noClose
      simp_all [chars, Segment.closeMark]
  | _ => simp [chars, Segment.closeMark]

/- Characters between brackets are a type code. -/
theorem exists_of_brackets
    {code : Entry}
    (hHead : code.chars.head? = some '[')
    (hLast : code.chars.tail.getLast? = some ']') :
    ∃ typeCode : TypeCode, typeCode.chars = code.chars := by
  rcases List.head?_eq_some_iff.mp hHead with ⟨later, hLater⟩
  rw [hLater, List.tail_cons] at hLast
  rcases List.getLast?_eq_some_iff.mp hLast with
    ⟨middle, hMiddle⟩
  have hChars : code.chars = '[' :: (middle ++ [']']) := by
    rw [hLater, hMiddle]
  have hColon := code.noColon
  have hClose := code.noClose
  rw [hChars] at hColon hClose
  simp only [List.mem_cons, List.mem_append,
    not_or] at hColon hClose
  exact ⟨set ⟨middle, hColon.2.1, hClose.2.1⟩, hChars.symm⟩

/- A text in a token is a type code or is refused as one. -/
theorem exists_or_unknown
    (code : Entry) :
    (∃ typeCode : TypeCode, typeCode.chars = code.chars) ∨
      Token.content code.chars = .error (.malformed
        (.unknownType (String.ofList code.chars))) := by
  unfold Token.content
  split
  · exact .inl ⟨omitted, by simp_all [chars]⟩
  · exact .inl ⟨star, by simp_all [chars]⟩
  · exact .inl ⟨any, by simp_all [chars]⟩
  · exact .inl ⟨nonBlank, by simp_all [chars]⟩
  · exact .inl ⟨blank, by simp_all [chars]⟩
  · exact .inl ⟨signed, by simp_all [chars]⟩
  · exact .inl ⟨unsigned, by simp_all [chars]⟩
  · exact .inl ⟨decimal, by simp_all [chars]⟩
  · split
    · rename_i hBrackets
      simp only [Bool.and_eq_true,
        decide_eq_true_eq] at hBrackets
      exact .inl
        (exists_of_brackets hBrackets.1 hBrackets.2)
    · exact .inr rfl

end TypeCode

end TextTemplate

------------------------------------------------------------
-- Lengths
------------------------------------------------------------

namespace TextTemplate

namespace Size

/- An ASCII digit has its distance from zero as its value. -/
theorem valueFrom?_eq
    (c : Char) :
    Digit.valueFrom? 0x30 c =
      if c.isDigit = true then
        some (c.toNat - '0'.toNat)
      else
        none := by
  have hRange :
      (0x30 ≤ c.toNat ∧ c.toNat < 0x30 + 10) ↔
        c.isDigit = true := by
    simp only [Char.isDigit, Bool.and_eq_true,
      decide_eq_true_eq, ge_iff_le, UInt32.le_iff_toNat_le]
    change _ ↔ 48 ≤ c.toNat ∧ c.toNat ≤ 57
    omega
  simp only [Digit.valueFrom?, Bool.and_eq_true,
    decide_eq_true_eq, hRange]
  rfl

/- The digits of a length are those of the ASCII table. -/
theorem isAscii_eq
    (c : Char) :
    Digit.isAscii c = c.isDigit := by
  rw [Digit.isAscii, valueFrom?_eq]
  split <;> simp_all

/- A length is read as the number that it means. -/
theorem length_chars
    (size : Size) :
    Token.length size.chars = .ok (.exact size.value) := by
  have hAll : size.chars.all Digit.isAscii = true := by
    simpa [isAscii_eq] using size.digits
  have hValues : size.chars.filterMap
      (Digit.valueFrom? 0x30) =
        size.chars.map fun c => c.toNat - '0'.toNat := by
    apply List.filterMap_eq_map_iff_forall_eq_some.mpr
    intro c hc
    rw [valueFrom?_eq, if_pos (size.digits c hc)]
  have hShort : ¬ Numeral.maxDigits < size.chars.length :=
    Nat.not_lt.mpr size.short
  unfold Token.length
  rw [if_neg (by simp [size.nonempty, hAll]),
    if_neg hShort]
  simp only [hValues, Digit.number_eq_ofDigits, value,
    List.map_reverse]

/-
  A text is a length, or is not one or more digits, or has
  too many of them.
-/
theorem exists_or_bad
    (text : List Char) :
    (∃ size : Size, size.chars = text) ∨
      (text = [] ∨ ∃ c ∈ text, c.isDigit = false) ∨
      ((∀ c ∈ text, c.isDigit = true) ∧
        4300 < text.length) := by
  by_cases hBad : text = [] ∨ ∃ c ∈ text, c.isDigit = false
  · exact .inr (.inl hBad)
  · rw [not_or] at hBad
    have hDigits : ∀ c ∈ text, c.isDigit = true := by
      simpa using hBad.2
    by_cases hLong : 4300 < text.length
    · exact .inr (.inr ⟨hDigits, hLong⟩)
    · exact .inl ⟨⟨text, hBad.1, hDigits,
        Nat.not_lt.mp hLong⟩, rfl⟩

/- A length is refused that has no digit or another sign. -/
theorem length_of_bad
    {text : List Char}
    (hBad : text = [] ∨ ∃ c ∈ text, c.isDigit = false) :
    Token.length text = .error
      (.malformed (.badLength (String.ofList text))) := by
  unfold Token.length
  rw [if_pos]
  rcases hBad with hEmpty | ⟨c, hc, hDigit⟩
  · simp [hEmpty]
  · simp only [Bool.or_eq_true, Bool.not_eq_true',
      List.all_eq_false]
    exact .inr ⟨c, hc, by simp [isAscii_eq, hDigit]⟩

/- A length of too many digits is refused with their number. -/
theorem length_of_long
    {text : List Char}
    (hDigits : ∀ c ∈ text, c.isDigit = true)
    (hLong : 4300 < text.length) :
    Token.length text =
      .error (.lengthTooLong text.length) := by
  have hSome : text ≠ [] := by
    rintro rfl
    simp at hLong
  have hAll : text.all Digit.isAscii = true := by
    simpa [isAscii_eq] using hDigits
  have hLimit : Numeral.maxDigits < text.length := hLong
  unfold Token.length
  rw [if_neg (by simp [hSome, hAll]), if_pos hLimit]

end Size

end TextTemplate

------------------------------------------------------------
-- Tokens
------------------------------------------------------------

namespace TextTemplate

namespace Size

/- A length holds no colon. -/
theorem noColon
    (size : Size) :
    ':' ∉ size.chars := by
  intro hColon
  exact absurd (size.digits ':' hColon) (by decide)

/- A length holds no closing brace. -/
theorem noClose
    (size : Size) :
    Segment.closeMark ∉ size.chars := by
  intro hClose
  exact absurd (size.digits _ hClose) (by decide)

end Size

namespace Placeholder

/- The texts between the colons of a token. -/
def fields : Placeholder → List (List Char)
  | .bare name => [name.chars]
  | .typed name code => [name.chars, code.chars]
  | .sized name code size =>
      [name.chars, code.chars, size.chars]

/- A token is cut at its colons. -/
theorem parts_inside
    (placeholder : Placeholder) :
    Split.parts ':' placeholder.inside =
      placeholder.fields := by
  cases placeholder with
  | bare name => exact Split.parts_of_not_mem name.noColon
  | typed name code =>
      rw [inside, Split.parts_append name.noColon,
        Split.parts_of_not_mem code.noColon]
      rfl
  | sized name code size =>
      rw [inside, Split.parts_append name.noColon,
        Split.parts_append code.noColon,
        Split.parts_of_not_mem size.noColon]
      rfl

/- A token is determined by what is between its braces. -/
theorem inside_injective :
    Function.Injective inside := by
  intro left right hInside
  have hFields : left.fields = right.fields := by
    rw [← parts_inside, ← parts_inside, hInside]
  cases left <;> cases right <;>
    simp_all [fields, ← Entry.ext_iff, ← Size.ext_iff,
      TypeCode.chars_injective.eq_iff]

/- A token has no closing brace but its last character. -/
theorem noClose
    (placeholder : Placeholder) :
    Segment.closeMark ∉ placeholder.inside := by
  have hColon : Segment.closeMark ≠ ':' := by decide
  cases placeholder with
  | bare name => exact name.noClose
  | typed name code =>
      simp [inside, hColon, name.noClose, code.noClose]
  | sized name code size =>
      simp [inside, hColon, name.noClose, code.noClose,
        size.noClose]

/- A text between braces is found between them. -/
@[simp]
theorem inside_enclose
    (text : List Char) :
    Token.inside (enclose text) = text := by
  simp [Token.inside, enclose]

/- A token is read as the piece that it means. -/
theorem piece_chars
    (placeholder : Placeholder) :
    Token.piece placeholder.chars =
      .ok placeholder.piece := by
  unfold Token.piece
  rw [chars, inside_enclose, parts_inside]
  cases placeholder with
  | bare name =>
      simp only [fields, Entry.fieldName_eq]
      rfl
  | typed name code =>
      simp only [fields, Entry.fieldName_eq,
        TypeCode.content_chars]
      rfl
  | sized name code size =>
      simp only [fields, Entry.fieldName_eq,
        TypeCode.content_chars, Size.length_chars]
      rfl

end Placeholder

end TextTemplate

------------------------------------------------------------
-- Faults
------------------------------------------------------------

namespace TextTemplate

/-
  What is wrong with a text between braces.  The faults are
  those of the number of parts, of the type and of the
  length, and one is a fault only if there is none before.
-/
inductive TokenFault
    (inside : List Char) : ParseError → Prop where
  | tooManyParts
      (hMany : 3 < (Split.parts ':' inside).length) :
      TokenFault inside (.malformed (.tooManyParts
        (String.ofList (Placeholder.enclose inside))))
  | unknownType
      {name code : List Char}
      {later : List (List Char)}
      (hParts :
        Split.parts ':' inside = name :: code :: later)
      (hFew : later.length ≤ 1)
      (hType : ∀ typeCode : TypeCode,
        typeCode.chars ≠ code) :
      TokenFault inside
        (.malformed (.unknownType (String.ofList code)))
  | badLength
      {name length : List Char}
      {typeCode : TypeCode}
      (hParts : Split.parts ':' inside =
        [name, typeCode.chars, length])
      (hBad : length = [] ∨
        ∃ c ∈ length, c.isDigit = false) :
      TokenFault inside
        (.malformed (.badLength (String.ofList length)))
  | lengthTooLong
      {name length : List Char}
      {typeCode : TypeCode}
      (hParts : Split.parts ':' inside =
        [name, typeCode.chars, length])
      (hDigits : ∀ c ∈ length, c.isDigit = true)
      (hLong : 4300 < length.length) :
      TokenFault inside (.lengthTooLong length.length)

namespace Placeholder

/- A part of a text without closing braces may be written. -/
def entryOfPart
    {inside part : List Char}
    (hInside : Segment.closeMark ∉ inside)
    (hPart : part ∈ Split.parts ':' inside) : Entry :=
  ⟨part, Split.not_mem_of_mem_parts hPart,
    fun hClose =>
      hInside (Split.subset_of_mem_parts hPart hClose)⟩

/- A text between braces is a token or has a fault. -/
theorem exists_or_fault
    {inside : List Char}
    (hInside : Segment.closeMark ∉ inside) :
    (∃ placeholder : Placeholder,
      placeholder.inside = inside) ∨
      ∃ error, TokenFault inside error := by
  have hJoin (parts : List (List Char))
      (hParts : Split.parts ':' inside = parts) :
      Split.join ':' parts = inside := by
    rw [← hParts, Split.join_parts]
  match hParts : Split.parts ':' inside with
  | [] => exact absurd hParts (Split.parts_ne_nil _ _)
  | [name] =>
      have hName : name ∈ Split.parts ':' inside := by
        simp [hParts]
      exact .inl ⟨.bare (entryOfPart hInside hName),
        hJoin _ hParts⟩
  | [name, code] =>
      have hName : name ∈ Split.parts ':' inside := by
        simp [hParts]
      by_cases hType : ∃ typeCode : TypeCode,
          typeCode.chars = code
      · rcases hType with ⟨typeCode, rfl⟩
        exact .inl
          ⟨.typed (entryOfPart hInside hName) typeCode,
            hJoin _ hParts⟩
      · exact .inr ⟨_, .unknownType hParts (by simp)
          (not_exists.mp hType)⟩
  | [name, code, length] =>
      have hName : name ∈ Split.parts ':' inside := by
        simp [hParts]
      by_cases hType : ∃ typeCode : TypeCode,
          typeCode.chars = code
      · rcases hType with ⟨typeCode, rfl⟩
        rcases Size.exists_or_bad length with
          ⟨size, rfl⟩ | hBad | ⟨hDigits, hLong⟩
        · exact .inl
            ⟨.sized (entryOfPart hInside hName) typeCode size,
              hJoin _ hParts⟩
        · exact .inr ⟨_, .badLength hParts hBad⟩
        · exact .inr
            ⟨_, .lengthTooLong hParts hDigits hLong⟩
      · exact .inr ⟨_, .unknownType hParts (by simp)
          (not_exists.mp hType)⟩
  | _ :: _ :: _ :: _ :: _ =>
      exact .inr ⟨_, .tooManyParts (by simp [hParts])⟩

end Placeholder

namespace TokenFault

/- A token with a fault is refused for the fault. -/
theorem piece_enclose
    {inside : List Char}
    {error : ParseError}
    (hFault : TokenFault inside error)
    (hInside : Segment.closeMark ∉ inside) :
    Token.piece (Placeholder.enclose inside) =
      .error error := by
  unfold Token.piece
  rw [Placeholder.inside_enclose]
  cases hFault with
  | tooManyParts hMany =>
      match hParts : Split.parts ':' inside with
      | [] | [_] | [_, _] | [_, _, _] =>
          simp [hParts] at hMany
      | _ :: _ :: _ :: _ :: _ => rfl
  | @unknownType name code later hParts hFew hType =>
      have hContent : Token.content code = .error
          (.malformed
            (.unknownType (String.ofList code))) := by
        have hPart : code ∈ Split.parts ':' inside := by
          simp [hParts]
        rcases TypeCode.exists_or_unknown
            (Placeholder.entryOfPart hInside hPart) with
          ⟨typeCode, hChars⟩ | hUnknown
        · exact absurd hChars (hType typeCode)
        · exact hUnknown
      match later with
      | [] =>
          simp only [hParts, hContent]
          rfl
      | [_] =>
          simp only [hParts, hContent]
          rfl
      | _ :: _ :: _ => simp at hFew
  | badLength hParts hBad =>
      simp only [hParts, TypeCode.content_chars,
        Size.length_of_bad hBad]
      rfl
  | lengthTooLong hParts hDigits hLong =>
      simp only [hParts, TypeCode.content_chars,
        Size.length_of_long hDigits hLong]
      rfl

end TokenFault

end TextTemplate
