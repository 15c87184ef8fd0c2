import TextTemplate.Content.Basic

/-
  What a scan of the input tells about a segment.

  One scan over a window decides for every prefix of the
  window whether its bytes are allowed.  Together with the
  check for completeness it decides whether the prefix is of
  the kind of content.

  Main declarations:
    * `Content.allowsAll`
    * `Content.scan_literal_eq_scanFrom`
    * `Content.le_scan_iff`
    * `Content.accepts_extract_iff`
-/

------------------------------------------------------------
-- Bytes of Segments
------------------------------------------------------------

namespace TextTemplate

namespace Content

/- The bytes of a byte string. -/
def bytes
    (segment : ByteArray) : List UInt8 :=
  segment.data.toList

@[simp] theorem length_bytes
    (segment : ByteArray) :
    (bytes segment).length = segment.size := by
  rw [bytes, Array.length_toList]
  rfl

/- A segment has the bytes from its start on. -/
theorem bytes_extract
    (data : ByteArray)
    (start length : Nat) :
    bytes (data.extract start (start + length)) =
      ((bytes data).drop start).take length := by
  simp [bytes, ByteArray.data_extract]

/- What remains has all bytes from its start on. -/
theorem bytes_extract_size
    (data : ByteArray)
    (start : Nat) :
    bytes (data.extract start data.size) =
      (bytes data).drop start := by
  have hLength := length_bytes data
  rw [bytes] at hLength
  simp only [bytes, ByteArray.data_extract,
    Array.toList_extract, List.extract_eq_take_drop]
  apply List.take_of_length_le
  rw [List.length_drop]
  omega

/- A position inside the data has a byte. -/
theorem getElem?_eq_bytes
    (data : ByteArray)
    (position : Nat) :
    data[position]? = (bytes data)[position]? := by
  by_cases hPosition : position < data.size
  · rw [getElem?_pos data position hPosition,
      List.getElem?_eq_getElem (by simpa using hPosition)]
    rfl
  · rw [getElem?_neg data position hPosition,
      List.getElem?_eq_none (by simpa using hPosition)]

/- A position inside a segment has its byte in the data. -/
theorem getElem?_extract
    (data : ByteArray)
    (start : Nat)
    {length position : Nat}
    (hPosition : position < length) :
    (data.extract start (start + length))[position]? =
      data[start + position]? := by
  rw [getElem?_eq_bytes, getElem?_eq_bytes, bytes_extract,
    List.getElem?_take_of_lt hPosition, List.getElem?_drop]

/- Byte strings with the same bytes are equal. -/
theorem eq_of_bytes_eq
    {left right : ByteArray}
    (hBytes : bytes left = bytes right) :
    left = right := by
  apply ByteArray.ext
  exact Array.toList_inj.mp hBytes

end Content

end TextTemplate

------------------------------------------------------------
-- Allowed Bytes
------------------------------------------------------------

namespace TextTemplate

namespace Content

/-
  Whether bytes may stand one after another from an index of
  a segment on; `seen` tells whether a singular byte came
  before.
-/
def allowsAll
    (content : Content) : Nat → Bool → List UInt8 → Bool
  | _, _, [] => true
  | index, seen, byte :: rest =>
      let singular := content.isSingular byte
      content.allows index byte && !(seen && singular) &&
        allowsAll content (index + 1) (seen || singular)
          rest

/- A scan does not go back. -/
theorem le_scanFrom
    (content : Content)
    (data : ByteArray)
    (start index : Nat)
    (seen : Bool)
    (remaining : Nat) :
    index ≤
      content.scanFrom data start index seen remaining := by
  induction remaining generalizing index seen with
  | zero => exact Nat.le_refl index
  | succ remaining ih =>
      rw [scanFrom]
      cases data[start + index]? with
      | none => exact Nat.le_refl index
      | some byte =>
          simp only
          split
          · exact Nat.le_of_succ_le (ih _ _)
          · exact Nat.le_refl index

/- A scan ends with the bytes that remain. -/
theorem scanFrom_le
    (content : Content)
    (data : ByteArray)
    (start index : Nat)
    (seen : Bool)
    (remaining : Nat) :
    content.scanFrom data start index seen remaining ≤
      index + remaining := by
  induction remaining generalizing index seen with
  | zero => exact Nat.le_refl index
  | succ remaining ih =>
      rw [scanFrom]
      cases data[start + index]? with
      | none => exact Nat.le_add_right index _
      | some byte =>
          simp only
          split
          · have hRest := ih (index + 1)
              (seen || content.isSingular byte)
            omega
          · exact Nat.le_add_right index _

/-
  A scan goes as far as the bytes from its index on are
  allowed.
-/
theorem le_scanFrom_iff
    (content : Content)
    (data : ByteArray)
    (start index length : Nat)
    (seen : Bool)
    (remaining : Nat)
    (hEnd : start + index + remaining ≤ data.size)
    (hLower : index ≤ length)
    (hUpper : length ≤ index + remaining) :
    length ≤
        content.scanFrom data start index seen remaining ↔
      content.allowsAll index seen
        (((bytes data).drop (start + index)).take
          (length - index)) = true := by
  induction remaining generalizing index seen with
  | zero =>
      have hLength : length = index := by omega
      simp [hLength, scanFrom, allowsAll]
  | succ remaining ih =>
      by_cases hLength : length = index
      · simp [hLength, allowsAll, le_scanFrom]
      · have hPosition :
            start + index < (bytes data).length := by
          rw [length_bytes]
          omega
        have hCount :
            length - index = length - (index + 1) + 1 := by
          omega
        rw [scanFrom, getElem?_eq_bytes,
          List.getElem?_eq_getElem hPosition, hCount,
          List.drop_eq_getElem_cons hPosition,
          List.take_succ_cons]
        simp only [allowsAll]
        -- the byte at the index decides whether the scan
        -- goes on
        split
        · rename_i hAllowed
          rw [ih (index + 1) _ (by omega) (by omega)
            (by omega), hAllowed, Bool.true_and,
            Nat.add_assoc]
        · rename_i hRefused
          simp only [Bool.not_eq_true] at hRefused
          rw [hRefused]
          simp only [Bool.false_and, Bool.false_eq_true,
            iff_false]
          omega

end Content

end TextTemplate

------------------------------------------------------------
-- Scans of Literals
------------------------------------------------------------

namespace TextTemplate

namespace Content

/- To compare is to scan for the bytes of the literal. -/
theorem compareFrom_eq_scanFrom
    (text data : ByteArray)
    (start index : Nat)
    (seen : Bool)
    (remaining : Nat) :
    compareFrom text data start index remaining =
      (literal text).scanFrom data start index seen
        remaining := by
  induction remaining generalizing index seen with
  | zero => rfl
  | succ remaining ih =>
      rw [compareFrom, scanFrom]
      cases data[start + index]? with
      | none => cases text[index]? <;> rfl
      | some byte =>
          cases hText : text[index]? with
          | none => simp [allows, hText]
          | some expected =>
              simp [allows, isSingular, hText,
                ← ih (index + 1), eq_comm]

/- A scan of a literal that stands there ends with it. -/
theorem scanFrom_of_standsAt
    {text data : ByteArray}
    {start : Nat}
    (hFound :
      data.extract start (start + text.size) = text)
    {index remaining : Nat}
    (hLower : index ≤ text.size)
    (hUpper : text.size ≤ index + remaining)
    (seen : Bool) :
    (literal text).scanFrom data start index seen
      remaining = text.size := by
  induction remaining generalizing index seen with
  | zero =>
      rw [scanFrom]
      omega
  | succ remaining ih =>
      rw [scanFrom]
      by_cases hIndex : index < text.size
      · have hByte :
            data[start + index]? = some text[index] := by
          rw [← getElem?_extract data start hIndex, hFound,
            getElem?_pos text index hIndex]
        simp only [hByte, allows, isSingular,
          getElem?_pos text index hIndex, Bool.and_false,
          decide_true, Bool.not_false, Bool.and_true, if_true]
        exact ih hIndex (by omega) _
      · have hNone : text[index]? = none :=
          getElem?_neg text index hIndex
        cases data[start + index]? with
        | none =>
            change index = text.size
            omega
        | some byte =>
            simp only [allows, hNone, reduceCtorEq,
              decide_false, Bool.false_and,
              Bool.false_eq_true, if_false]
            omega

/-
  A literal is scanned like any other content, whether or
  not it stands there as a whole.
-/
theorem scan_literal_eq_scanFrom
    (text data : ByteArray)
    (start size : Nat) :
    (literal text).scan data start (start + size) =
      (literal text).scanFrom data start 0 false size := by
  rw [scan, Nat.add_sub_cancel_left]
  split
  · rename_i hStands
    rw [standsAt, Bool.and_eq_true, decide_eq_true_eq,
      decide_eq_true_eq] at hStands
    exact (scanFrom_of_standsAt hStands.2 (Nat.zero_le _)
      (by omega) false).symm
  · exact compareFrom_eq_scanFrom text data start 0 false
      size

end Content

end TextTemplate

------------------------------------------------------------
-- Scans of Windows
------------------------------------------------------------

namespace TextTemplate

namespace Content

/- Any bytes are bytes of any kind. -/
theorem allowsAll_anyByte
    (index : Nat)
    (seen : Bool)
    (segment : List UInt8) :
    anyByte.allowsAll index seen segment = true := by
  induction segment generalizing index seen with
  | nil => rfl
  | cons byte rest ih =>
      simp [allowsAll, allows, isSingular, ih]

/-
  A scan of a window covers exactly the prefixes of allowed
  bytes.
-/
theorem le_scan_iff
    (content : Content)
    (data : ByteArray)
    (start size length : Nat)
    (hEnd : start + size ≤ data.size)
    (hLength : length ≤ size) :
    length ≤ content.scan data start (start + size) ↔
      content.allowsAll 0 false
        (bytes (data.extract start (start + length))) =
          true := by
  rw [bytes_extract]
  have hScan := le_scanFrom_iff content data start 0 length
    false size (by omega) (by omega) (by omega)
  cases content with
  | anyByte =>
      simp only [scan, allowsAll_anyByte, iff_true]
      omega
  | literal text =>
      rw [scan_literal_eq_scanFrom]
      simpa using hScan
  | _ => simpa [scan] using hScan

/- A scan stays in its window. -/
theorem scan_le
    (content : Content)
    (data : ByteArray)
    (start size : Nat) :
    content.scan data start (start + size) ≤ size := by
  have hScan :=
    scanFrom_le content data start 0 false size
  cases content with
  | anyByte => simp [scan]
  | literal text =>
      rw [scan_literal_eq_scanFrom]
      simpa using hScan
  | _ => simpa [scan] using hScan

/- A scan that covers its window decides for all its bytes. -/
theorem scan_eq_iff
    (content : Content)
    (data : ByteArray)
    (start length : Nat)
    (hEnd : start + length ≤ data.size) :
    content.scan data start (start + length) = length ↔
      content.allowsAll 0 false
        (bytes (data.extract start (start + length))) =
          true := by
  have hUpper := scan_le content data start length
  rw [← le_scan_iff content data start length length hEnd
    (Nat.le_refl _)]
  omega

/- A scan of a whole segment decides for all its bytes. -/
theorem scan_eq_size_iff
    (content : Content)
    (segment : ByteArray) :
    content.scan segment 0 segment.size = segment.size ↔
      content.allowsAll 0 false (bytes segment) = true := by
  have hScan :=
    scan_eq_iff content segment 0 segment.size (by omega)
  rw [Nat.zero_add, ByteArray.extract_zero_size] at hScan
  exact hScan

end Content

end TextTemplate

------------------------------------------------------------
-- Complete Segments
------------------------------------------------------------

namespace TextTemplate

namespace Content

/- The position after a sign depends on the segment alone. -/
theorem afterSign_extract
    (data : ByteArray)
    (start length : Nat) :
    afterSign data start (start + length) =
      start +
        afterSign (data.extract start (start + length)) 0
          length := by
  by_cases hLength : 0 < length
  · have hByte := getElem?_extract data start hLength
    simp only [afterSign, hByte, Nat.add_zero, hLength,
      Nat.lt_add_right_iff_pos, decide_true, Bool.true_and]
    split <;> simp
  · simp [afterSign, hLength]

/- Completeness depends on the segment alone. -/
theorem complete_extract
    (content : Content)
    (data : ByteArray)
    (start length : Nat) :
    content.complete data start (start + length) =
      content.complete
        (data.extract start (start + length)) 0 length := by
  cases content with
  | unsigned => simp [complete]
  | signed =>
      rw [complete, complete, afterSign_extract]
      simp
  | decimal =>
      rw [complete, complete, afterSign_extract]
      simp only [Nat.add_lt_add_iff_left]
      by_cases hBody :
          afterSign (data.extract start (start + length)) 0
            length < length
      · rw [getElem?_extract data start hBody]
      · simp [hBody]
  | literal text => simp [complete]
  | _ => rfl

/- The bytes of a literal are allowed in their order. -/
theorem allowsAll_literal_iff
    (text : ByteArray)
    (index : Nat)
    (seen : Bool)
    (segment : List UInt8) :
    (literal text).allowsAll index seen segment = true ↔
      segment <+: (bytes text).drop index := by
  induction segment generalizing index seen with
  | nil => simp [allowsAll]
  | cons byte rest ih =>
      simp only [allowsAll, allows, isSingular,
        Bool.and_false, Bool.not_false, Bool.and_true,
        Bool.or_false, Bool.and_eq_true, decide_eq_true_eq,
        ih, getElem?_eq_bytes]
      by_cases hIndex : index < (bytes text).length
      · rw [List.drop_eq_getElem_cons hIndex,
          List.cons_prefix_cons,
          List.getElem?_eq_getElem hIndex, Option.some_inj,
          eq_comm]
      · have hLength := Nat.le_of_not_lt hIndex
        simp [List.drop_eq_nil_of_le hLength,
          List.getElem?_eq_none hLength]

/-
  A segment is a literal when its bytes are the first ones
  of the literal and as many.
-/
theorem accepted_literal_iff
    (text segment : ByteArray) :
    (literal text).accepted segment = true ↔
      segment = text := by
  simp only [accepted, Bool.and_eq_true, decide_eq_true_eq,
    scan_eq_size_iff, allowsAll_literal_iff, List.drop_zero,
    complete, Nat.sub_zero]
  constructor
  · rintro ⟨hPrefix, hSize⟩
    apply eq_of_bytes_eq
    apply hPrefix.eq_of_length
    simpa using hSize
  · rintro rfl
    exact ⟨List.prefix_refl _, rfl⟩

/- A segment is decided by a scan and the check after it. -/
theorem accepts_eq_accepted
    (content : Content)
    (segment : ByteArray) :
    content.accepts segment = content.accepted segment := by
  cases content with
  | literal text =>
      rw [Bool.eq_iff_iff, accepted_literal_iff]
      simp [accepts]
  | _ => rfl

/- A segment is accepted for its bytes and as complete. -/
theorem accepts_iff
    (content : Content)
    (segment : ByteArray) :
    content.accepts segment = true ↔
      content.allowsAll 0 false (bytes segment) = true ∧
        content.complete segment 0 segment.size = true := by
  rw [accepts_eq_accepted, accepted, Bool.and_eq_true,
    decide_eq_true_eq, scan_eq_size_iff]

/-
  One scan of a window decides for each of its prefixes, up
  to the check for completeness.
-/
theorem accepts_extract_iff
    (content : Content)
    (data : ByteArray)
    (start size length : Nat)
    (hEnd : start + size ≤ data.size)
    (hLength : length ≤ size) :
    content.accepts (data.extract start (start + length)) =
        true ↔
      length ≤ content.scan data start (start + size) ∧
        content.complete data start (start + length) =
          true := by
  have hSize :
      (data.extract start (start + length)).size = length := by
    rw [ByteArray.size_extract]
    omega
  rw [accepts_iff, hSize, ← complete_extract,
    le_scan_iff content data start size length hEnd hLength]

end Content

end TextTemplate
