import TextTemplate.Proofs.Content.Scan
import TextTemplate.Text.Utf8

/-
  Where the encoding of a text can be cut.

  A position of the encoding is a boundary exactly when it
  lies between two characters, so that the bytes before it
  and the bytes after it encode a text each.

  Main declarations:
    * `Utf8.isContinuation_iff`
    * `Utf8.encodeChar_eq_cons`
    * `Utf8.split_of_isBoundary`
    * `Utf8.Remains`
    * `Utf8.Remains.split`
-/

------------------------------------------------------------
-- Encoded Characters
------------------------------------------------------------

namespace TextTemplate

namespace Utf8

/- The bytes that continue a character are one range. -/
theorem isContinuation_iff
    (byte : UInt8) :
    isContinuation byte = true ↔
      0x80 ≤ byte.toNat ∧ byte.toNat < 0xC0 := by
  have hAll :
      ∀ value : Fin 256,
        isContinuation (UInt8.ofFin value) = true ↔
          0x80 ≤ value.val ∧ value.val < 0xC0 := by
    decide +kernel
  exact hAll byte.toFin

theorem isContinuation_ofNat
    (value : Nat) :
    isContinuation (UInt8.ofNat (value % 0x40 + 0x80)) =
      true := by
  rw [isContinuation_iff, UInt8.toNat_ofNat']
  omega

/- All bytes of a character but the first continue it. -/
theorem encodeChar_eq_cons
    (char : Char) :
    ∃ first others,
      String.utf8EncodeChar char = first :: others ∧
        isContinuation first = false ∧
        ∀ byte ∈ others, isContinuation byte = true := by
  have hFirst :
      ∀ value, value < 0x80 ∨ 0xC0 ≤ value → value < 0x100 →
        isContinuation (UInt8.ofNat value) = false := by
    intro value hOutside hByte
    rw [← Bool.not_eq_true, isContinuation_iff,
      UInt8.toNat_ofNat']
    omega
  unfold String.utf8EncodeChar
  simp only
  split
  · exact ⟨_, _, rfl, hFirst _ (by omega) (by omega), by simp⟩
  · split
    · refine
        ⟨_, _, rfl, hFirst _ (by omega) (by omega), ?_⟩
      simp only [List.forall_mem_cons, isContinuation_ofNat,
        List.not_mem_nil, false_implies, implies_true,
        and_true]
    · split
      · refine
          ⟨_, _, rfl, hFirst _ (by omega) (by omega), ?_⟩
        simp only [List.forall_mem_cons,
          isContinuation_ofNat, List.not_mem_nil,
          false_implies, implies_true, and_true]
      · refine
          ⟨_, _, rfl, hFirst _ (by omega) (by omega), ?_⟩
        simp only [List.forall_mem_cons,
          isContinuation_ofNat, List.not_mem_nil,
          false_implies, implies_true, and_true]

end Utf8

end TextTemplate

------------------------------------------------------------
-- Encoded Texts
------------------------------------------------------------

namespace TextTemplate

namespace Utf8

theorem encode_ofList
    (chars : List Char) :
    encode (String.ofList chars) = chars.utf8Encode := by
  rw [encode, String.toUTF8_eq_toByteArray,
    String.toByteArray_ofList]

theorem encode_append
    (first second : String) :
    encode (first ++ second) =
      encode first ++ encode second := by
  simp only [encode, String.toUTF8_eq_toByteArray,
    String.toByteArray_append]

theorem encode_inj
    {text other : String} :
    encode text = encode other ↔ text = other := by
  simp only [encode, String.toUTF8_eq_toByteArray,
    String.toByteArray_inj]

theorem size_encode_eq_zero_iff
    {text : String} :
    (encode text).size = 0 ↔ text = "" := by
  have hEmpty : encode "" = ByteArray.empty := rfl
  rw [ByteArray.size_eq_zero_iff, ← hEmpty, encode_inj]

theorem size_encode_append
    (first rest : String) :
    (encode (first ++ rest)).size =
      (encode first).size + (encode rest).size := by
  rw [encode_append, ByteArray.size_append]

/- The smaller of two beginnings of a text begins the other. -/
theorem begins_of_size_le
    {first rest other otherRest : String}
    (hText : other ++ otherRest = first ++ rest)
    (hSize :
      (encode other).size ≤ (encode first).size) :
    ∃ more, first = other ++ more := by
  have hChars := congrArg String.toList hText
  rw [String.toList_append, String.toList_append,
    List.append_eq_append_iff] at hChars
  rcases hChars with ⟨chars, hFirst, _⟩ | ⟨chars, hOther, _⟩
  · refine ⟨String.ofList chars, ?_⟩
    rw [← String.toList_inj, String.toList_append,
      String.toList_ofList, hFirst]
  · have hLonger :
        other = first ++ String.ofList chars := by
      rw [← String.toList_inj, String.toList_append,
        String.toList_ofList, hOther]
    rw [hLonger, size_encode_append] at hSize
    have hEmpty :
        (encode (String.ofList chars)).size = 0 := by
      omega
    rw [size_encode_eq_zero_iff] at hEmpty
    refine ⟨"", ?_⟩
    rw [hLonger, hEmpty, String.append_empty,
      String.append_empty]

/- The bytes of a text are those of its characters. -/
theorem bytes_utf8Encode
    (chars : List Char) :
    Content.bytes chars.utf8Encode =
      chars.flatMap String.utf8EncodeChar := by
  rw [List.utf8Encode, Content.bytes]
  simp

theorem size_utf8Encode_cons
    (char : Char)
    (chars : List Char) :
    (char :: chars).utf8Encode.size =
      (String.utf8EncodeChar char).length +
        chars.utf8Encode.size := by
  rw [← Content.length_bytes, ← Content.length_bytes,
    bytes_utf8Encode, bytes_utf8Encode, List.flatMap_cons,
    List.length_append]

end Utf8

end TextTemplate

------------------------------------------------------------
-- Boundaries
------------------------------------------------------------

namespace TextTemplate

namespace Utf8

/- Only a continuing byte is no boundary. -/
theorem isBoundary_iff
    {data : ByteArray}
    {position : Nat} :
    isBoundary data position = true ↔
      ∀ byte, (Content.bytes data)[position]? = some byte →
        isContinuation byte = false := by
  rw [isBoundary, Content.getElem?_eq_bytes]
  cases (Content.bytes data)[position]? <;> simp

/- The encoding of characters begins at a boundary. -/
theorem isBoundary_zero
    (chars : List Char) :
    isBoundary chars.utf8Encode 0 = true := by
  rw [isBoundary_iff, bytes_utf8Encode]
  intro byte hByte
  cases chars with
  | nil => simp at hByte
  | cons char chars =>
      rcases encodeChar_eq_cons char with
        ⟨first, others, hChar, hFirst, _⟩
      rw [List.flatMap_cons, hChar] at hByte
      simp only [List.cons_append, List.getElem?_cons_zero,
        Option.some_inj] at hByte
      rw [← hByte]
      exact hFirst

/-
  A boundary of the encoding of characters lies between two
  of them.
-/
theorem exists_of_isBoundary
    {chars : List Char}
    {position : Nat}
    (hPosition : position ≤ chars.utf8Encode.size)
    (hBoundary :
      isBoundary chars.utf8Encode position = true) :
    ∃ before after,
      chars = before ++ after ∧
        before.utf8Encode.size = position := by
  induction chars generalizing position with
  | nil =>
      refine ⟨[], [], rfl, ?_⟩
      simp at hPosition
      simp [hPosition]
  | cons char chars ih =>
      rcases encodeChar_eq_cons char with
        ⟨first, others, hChar, _, hOthers⟩
      rw [isBoundary_iff, bytes_utf8Encode,
        List.flatMap_cons] at hBoundary
      rw [size_utf8Encode_cons] at hPosition
      by_cases hZero : position = 0
      · exact ⟨[], char :: chars, rfl, by simp [hZero]⟩
      · by_cases hInside :
            position < (String.utf8EncodeChar char).length
        · -- the byte at the position continues the character
          exfalso
          rw [List.getElem?_append_left hInside, hChar,
            List.getElem?_cons, if_neg hZero] at hBoundary
          rw [hChar, List.length_cons] at hInside
          have hLess : position - 1 < others.length := by
            omega
          have hContinues := hOthers others[position - 1]
            (List.getElem_mem hLess)
          have hFirst := hBoundary _
            (List.getElem?_eq_getElem hLess)
          rw [hContinues] at hFirst
          exact nomatch hFirst
        · rw [Nat.not_lt] at hInside
          rw [List.getElem?_append_right hInside,
            ← bytes_utf8Encode, ← isBoundary_iff]
            at hBoundary
          rcases ih (by omega) hBoundary with
            ⟨before, after, hSplit, hSize⟩
          refine ⟨char :: before, after, ?_, ?_⟩
          · rw [hSplit, List.cons_append]
          · rw [size_utf8Encode_cons, hSize]
            omega

/- A boundary of an encoded text cuts it into two texts. -/
theorem split_of_isBoundary
    {text : String}
    {position : Nat}
    (hPosition : position ≤ (encode text).size)
    (hBoundary : isBoundary (encode text) position = true) :
    ∃ before after,
      text = before ++ after ∧
        (encode before).size = position := by
  have hText : String.ofList text.toList = text :=
    String.ofList_toList
  generalize text.toList = chars at hText
  subst hText
  rw [encode_ofList] at hPosition hBoundary
  rcases exists_of_isBoundary hPosition hBoundary with
    ⟨before, after, hSplit, hSize⟩
  refine
    ⟨String.ofList before, String.ofList after, ?_, ?_⟩
  · rw [← String.ofList_append, ← hSplit]
  · rw [encode_ofList, hSize]

/- What a text begins with in bytes, it begins with. -/
theorem split_of_append_eq
    {first text : String}
    {rest : ByteArray}
    (hAppend : encode first ++ rest = encode text) :
    ∃ after, text = first ++ after := by
  have hFirst : String.ofList first.toList = first :=
    String.ofList_toList
  have hText : String.ofList text.toList = text :=
    String.ofList_toList
  generalize first.toList = chars at hFirst
  generalize text.toList = others at hText
  subst hFirst
  subst hText
  rw [encode_ofList, encode_ofList] at hAppend
  rcases List.isPrefix_of_utf8Encode_append_eq_utf8Encode
    rest hAppend with ⟨after, hAfter⟩
  refine ⟨String.ofList after, ?_⟩
  rw [← String.ofList_append, hAfter]

end Utf8

end TextTemplate

------------------------------------------------------------
-- Remaining Texts
------------------------------------------------------------

namespace TextTemplate

namespace Utf8

/- Whether a text remains of the input from an offset on. -/
structure Remains
    (data : ByteArray)
    (offset : Nat)
    (text : String) : Prop where
  le_size : offset ≤ data.size
  extract_eq : data.extract offset data.size = encode text

theorem remains_encode
    (text : String) :
    Remains (encode text) 0 text :=
  ⟨Nat.zero_le _, ByteArray.extract_zero_size⟩

theorem Remains.size_eq
    {data : ByteArray}
    {offset : Nat}
    {text : String}
    (hRemains : Remains data offset text) :
    offset + (encode text).size = data.size := by
  have hSize := hRemains.le_size
  rw [← hRemains.extract_eq, ByteArray.size_extract]
  omega

/- A position of what remains is one of the input. -/
theorem Remains.isBoundary_eq
    {data : ByteArray}
    {offset : Nat}
    {text : String}
    (hRemains : Remains data offset text)
    (position : Nat) :
    isBoundary (encode text) position =
      isBoundary data (offset + position) := by
  have hSize := hRemains.size_eq
  unfold isBoundary
  by_cases hPosition : position < (encode text).size
  · rw [← hRemains.extract_eq, ← hSize,
      Content.getElem?_extract data offset hPosition]
  · have hOutside : ¬ offset + position < data.size := by
      omega
    rw [getElem?_neg (encode text) position hPosition,
      getElem?_neg data (offset + position) hOutside]

/- What remains begins at a boundary. -/
theorem Remains.boundary
    {data : ByteArray}
    {offset : Nat}
    {text : String}
    (hRemains : Remains data offset text) :
    isBoundary data offset = true := by
  rw [← Nat.add_zero offset, ← hRemains.isBoundary_eq,
    encode, String.toUTF8_eq_toByteArray,
    ← String.utf8Encode_toList]
  exact isBoundary_zero text.toList

/- What remains begins with the first part of the text. -/
theorem Remains.extract_first
    {data : ByteArray}
    {offset : Nat}
    {first rest : String}
    (hRemains : Remains data offset (first ++ rest)) :
    data.extract offset (offset + (encode first).size) =
      encode first := by
  have hSize := hRemains.size_eq
  rw [size_encode_append] at hSize
  have hExtract :
      data.extract offset (offset + (encode first).size) =
        (encode first ++ encode rest).extract 0
          (encode first).size := by
    rw [← encode_append, ← hRemains.extract_eq,
      ByteArray.extract_extract, Nat.add_zero,
      Nat.min_eq_left (by omega)]
  rw [hExtract, ByteArray.extract_append_eq_left rfl]

/- After the first part, the rest of the text remains. -/
theorem Remains.rest
    {data : ByteArray}
    {offset : Nat}
    {first rest : String}
    (hRemains : Remains data offset (first ++ rest)) :
    Remains data (offset + (encode first).size) rest := by
  have hSize := hRemains.size_eq
  rw [size_encode_append] at hSize
  refine ⟨by omega, ?_⟩
  have hExtract :
      data.extract (offset + (encode first).size) data.size =
        (encode first ++ encode rest).extract
          ((encode first).size + 0)
          ((encode first).size + (encode rest).size) := by
    rw [← encode_append, ← hRemains.extract_eq,
      ByteArray.extract_extract, Nat.add_zero,
      Nat.min_eq_right (by omega)]
  rw [hExtract, ByteArray.extract_append_size_add,
    ByteArray.extract_zero_size]

/- A boundary of the input cuts what remains. -/
theorem Remains.split
    {data : ByteArray}
    {offset length : Nat}
    {text : String}
    (hRemains : Remains data offset text)
    (hLength : offset + length ≤ data.size)
    (hBoundary :
      isBoundary data (offset + length) = true) :
    ∃ first rest,
      text = first ++ rest ∧ (encode first).size = length := by
  have hSize := hRemains.size_eq
  rw [← hRemains.isBoundary_eq] at hBoundary
  exact split_of_isBoundary (by omega) hBoundary

/- A segment that is a text is what remains begins with. -/
theorem Remains.split_of_extract
    {data : ByteArray}
    {offset length : Nat}
    {text first : String}
    (hRemains : Remains data offset text)
    (hLength : offset + length ≤ data.size)
    (hFirst :
      data.extract offset (offset + length) =
        encode first) :
    ∃ rest, text = first ++ rest := by
  have hAppend :
      encode first ++
          data.extract (offset + length) data.size =
        encode text := by
    rw [← hFirst, ← hRemains.extract_eq]
    exact (ByteArray.extract_eq_extract_append_extract _
      (Nat.le_add_right _ _) hLength).symm
  exact split_of_append_eq hAppend

end Utf8

end TextTemplate
