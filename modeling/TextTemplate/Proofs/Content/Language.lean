import Mathlib.Computability.Language
import TextTemplate.Proofs.Content.Scan

/-
  The segments of a kind of content are a regular language.

  A language is given for each kind, built from single bytes
  by choice, sequence and repetition.  A scan lets pass what
  may begin or interrupt such a segment as well, a sign
  without digits or a point before them; the check after it
  sees just one or two bytes, and both together decide for
  the language.

  Main declarations:
    * `Content.language`
    * `Content.mem_kstar_single`
    * `Content.unsignedBytes`
    * `Content.allowsAll_decimal_iff`
    * `Content.accepts_decides_language`
-/

------------------------------------------------------------
-- Languages
------------------------------------------------------------

namespace TextTemplate

namespace Content

open scoped Computability

/- The words of one byte that is allowed. -/
def single
    (allowed : UInt8 → Prop) : Language UInt8 :=
  {word | ∃ byte, allowed byte ∧ word = [byte]}

/- The six ASCII blanks. -/
def blanks : List UInt8 :=
  [0x20, 0x09, 0x0A, 0x0D, 0x0B, 0x0C]

/- A digit from zero to nine. -/
def digit : Language UInt8 :=
  single fun byte =>
    byte ∈ [0x30, 0x31, 0x32, 0x33, 0x34, 0x35, 0x36, 0x37,
      0x38, 0x39]

/- A plus or a minus sign. -/
def sign : Language UInt8 :=
  single fun byte => byte ∈ [0x2B, 0x2D]

/- The decimal point. -/
def point : Language UInt8 :=
  single fun byte => byte = 0x2E

/- One or more digits. -/
def digits : Language UInt8 :=
  digit * digit∗

/- A point and any digits, or nothing. -/
def fraction : Language UInt8 :=
  1 + point * digit∗

/- The bytes of the segments of a kind of content. -/
def language : Content → Language UInt8
  | .anyByte => ⊤
  | .nonBlank => (single fun byte => byte ∉ blanks)∗
  | .blank => (single fun byte => byte ∈ blanks)∗
  | .unsigned => digits
  | .signed => (1 + sign) * digits
  | .decimal => (1 + sign) * (digits * fraction)
  | .oneOf set negated =>
      (single fun byte =>
        if negated then byte ∉ set else byte ∈ set)∗
  | .literal text => {bytes text}

theorem mem_single
    {allowed : UInt8 → Prop}
    {word : List UInt8} :
    word ∈ single allowed ↔
      ∃ byte, allowed byte ∧ word = [byte] :=
  Iff.rfl

/- Repeated single bytes are any allowed bytes. -/
theorem mem_kstar_single
    {allowed : UInt8 → Prop}
    {word : List UInt8} :
    word ∈ (single allowed)∗ ↔
      ∀ byte ∈ word, allowed byte := by
  rw [Language.mem_kstar]
  constructor
  · rintro ⟨parts, rfl, hParts⟩ byte hByte
    rcases List.mem_flatten.mp hByte with
      ⟨part, hPart, hMem⟩
    rcases hParts part hPart with ⟨other, hOther, rfl⟩
    rw [List.mem_singleton.mp hMem]
    exact hOther
  · intro hAllowed
    refine ⟨word.map fun byte => [byte], ?_, ?_⟩
    · rw [← List.flatMap_def, List.flatMap_singleton']
    intro part hPart
    rcases List.mem_map.mp hPart with ⟨byte, hByte, rfl⟩
    exact ⟨byte, hAllowed byte hByte, rfl⟩

/- A single byte comes before what follows it. -/
theorem mem_single_mul
    {allowed : UInt8 → Prop}
    {later : Language UInt8}
    {word : List UInt8} :
    word ∈ single allowed * later ↔
      ∃ byte rest,
        word = byte :: rest ∧ allowed byte ∧
          rest ∈ later := by
  rw [Language.mem_mul]
  constructor
  · rintro ⟨_, ⟨byte, hByte, rfl⟩, rest, hRest, rfl⟩
    exact ⟨byte, rest, rfl, hByte, hRest⟩
  · rintro ⟨byte, rest, rfl, hByte, hRest⟩
    exact ⟨[byte], ⟨byte, hByte, rfl⟩, rest, hRest, rfl⟩

/- A repetition before something takes one more or none. -/
theorem mem_kstar_mul
    {item later : Language UInt8}
    {word : List UInt8} :
    word ∈ item∗ * later ↔
      word ∈ later ∨ word ∈ item * (item∗ * later) := by
  have hOnce : item∗ * later =
      later + item * (item∗ * later) := by
    conv_lhs =>
      rw [← Language.one_add_self_mul_kstar_eq_kstar]
    rw [add_mul, one_mul, mul_assoc]
  rw [← Language.mem_add, ← hOnce]

/- Digits are not empty and nothing but digits. -/
theorem mem_digits
    {word : List UInt8} :
    word ∈ digits ↔ word ≠ [] ∧ word ∈ digit∗ := by
  rw [digits, digit, mem_single_mul, mem_kstar_single]
  simp only [mem_kstar_single]
  cases word with
  | nil => simp
  | cons byte rest => simp

end Content

end TextTemplate

------------------------------------------------------------
-- Kinds of Bytes
------------------------------------------------------------

namespace TextTemplate

namespace Content

open scoped Computability

theorem isBlank_iff
    {byte : UInt8} :
    isBlank byte = true ↔ byte ∈ blanks := by
  simp only [isBlank, blanks, Bool.or_eq_true,
    Bool.and_eq_true, decide_eq_true_eq, List.mem_cons,
    List.not_mem_nil, or_false, UInt8.le_iff_toNat_le,
    ← UInt8.toNat_inj, UInt8.reduceToNat]
  omega

theorem isDigit_iff
    {byte : UInt8} :
    isDigit byte = true ↔ [byte] ∈ digit := by
  simp only [digit, mem_single, List.cons.injEq, and_true,
    exists_eq_right']
  simp only [isDigit, Bool.and_eq_true, decide_eq_true_eq,
    List.mem_cons, List.not_mem_nil, or_false,
    UInt8.le_iff_toNat_le, ← UInt8.toNat_inj,
    UInt8.reduceToNat]
  omega

theorem isSign_iff
    {byte : UInt8} :
    isSign byte = true ↔ [byte] ∈ sign := by
  simp [sign, mem_single, isSign]

theorem isPoint_iff
    {byte : UInt8} :
    isPoint byte = true ↔ [byte] ∈ point := by
  simp [point, mem_single, isPoint]

/- Repeated digits are bytes that are digits. -/
theorem mem_kstar_digit
    {word : List UInt8} :
    word ∈ digit∗ ↔ ∀ byte ∈ word, isDigit byte = true := by
  simp only [isDigit_iff]
  rw [digit, mem_kstar_single]
  simp only [mem_single, List.cons.injEq, and_true,
    exists_eq_right']

/- A digit comes before what follows it. -/
theorem mem_digit_mul
    {later : Language UInt8}
    {word : List UInt8} :
    word ∈ digit * later ↔
      ∃ byte rest,
        word = byte :: rest ∧ isDigit byte = true ∧
          rest ∈ later := by
  simp only [isDigit_iff, digit, mem_single_mul, mem_single,
    List.cons.injEq, and_true, exists_eq_right']

/- A fraction is empty or begins with a point. -/
theorem mem_fraction
    {word : List UInt8} :
    word ∈ fraction ↔
      word = [] ∨ ∃ byte rest,
        word = byte :: rest ∧ isPoint byte = true ∧
          rest ∈ digit∗ := by
  simp only [fraction, Language.mem_add, Language.mem_one,
    isPoint_iff, point, mem_single_mul, mem_single,
    List.cons.injEq, and_true, exists_eq_right']

/- Digits with a fraction begin with either. -/
theorem cons_mem_kstar_mul_fraction
    {byte : UInt8}
    {rest : List UInt8} :
    byte :: rest ∈ digit∗ * fraction ↔
      (isPoint byte = true ∧ rest ∈ digit∗) ∨
        (isDigit byte = true ∧
          rest ∈ digit∗ * fraction) := by
  rw [mem_kstar_mul, mem_fraction, mem_digit_mul]
  simp only [reduceCtorEq, false_or, List.cons.injEq,
    and_assoc, exists_and_left, exists_eq_left']

/- A point is no digit. -/
theorem isDigit_of_isPoint
    {byte : UInt8}
    (hPoint : isPoint byte = true) :
    isDigit byte = false := by
  rw [isPoint, decide_eq_true_eq] at hPoint
  rw [hPoint]
  rfl

/- A sign is no digit. -/
theorem isDigit_of_isSign
    {byte : UInt8}
    (hSign : isSign byte = true) :
    isDigit byte = false := by
  rw [isSign, Bool.or_eq_true, decide_eq_true_eq,
    decide_eq_true_eq] at hSign
  rcases hSign with rfl | rfl <;> rfl

/- A sign is no point. -/
theorem isPoint_of_isSign
    {byte : UInt8}
    (hSign : isSign byte = true) :
    isPoint byte = false := by
  rw [isSign, Bool.or_eq_true, decide_eq_true_eq,
    decide_eq_true_eq] at hSign
  rcases hSign with rfl | rfl <;> rfl

end Content

end TextTemplate

------------------------------------------------------------
-- Allowed Bytes
------------------------------------------------------------

namespace TextTemplate

namespace Content

open scoped Computability

variable {content : Content}

/-
  Where the place of a byte does not matter, bytes are
  allowed one by one.
-/
theorem allowsAll_iff_forall
    {index : Nat}
    (hSingular :
      ∀ byte, content.isSingular byte = false)
    (hAllows :
      ∀ place byte, index ≤ place →
        content.allows place byte =
          content.allows index byte)
    (seen : Bool)
    (word : List UInt8) :
    content.allowsAll index seen word = true ↔
      ∀ byte ∈ word, content.allows index byte = true := by
  have hFrom :
      ∀ place, index ≤ place →
        (content.allowsAll place seen word = true ↔
          ∀ byte ∈ word,
            content.allows index byte = true) := by
    induction word with
    | nil => simp [allowsAll]
    | cons byte rest ih =>
        intro place hPlace
        simp only [allowsAll, hSingular, Bool.and_false,
          Bool.not_false, Bool.and_true, Bool.or_false,
          Bool.and_eq_true, hAllows place byte hPlace,
          ih (place + 1) (by omega), List.forall_mem_cons]
  exact hFrom index (Nat.le_refl index)

/- Behind the first byte only digits and a point may stand. -/
theorem allows_decimal
    (index : Nat)
    (byte : UInt8) :
    decimal.allows (index + 1) byte =
      (isDigit byte || isPoint byte) := by
  simp [allows]

/- After a point only digits may stand. -/
theorem allowsAll_decimal_seen_iff
    {index : Nat}
    {word : List UInt8} :
    decimal.allowsAll (index + 1) true word = true ↔
      word ∈ digit∗ := by
  rw [mem_kstar_digit]
  induction word generalizing index with
  | nil => simp [allowsAll]
  | cons byte rest ih =>
      simp only [allowsAll, allows_decimal, isSingular,
        Bool.true_and, Bool.true_or, Bool.and_eq_true,
        Bool.or_eq_true, Bool.not_eq_true', ih,
        List.forall_mem_cons]
      cases hPoint : isPoint byte with
      | true => simp [isDigit_of_isPoint hPoint]
      | false => simp

/-
  Behind the first byte, what may stand are digits with one
  point at most.
-/
theorem allowsAll_decimal_iff
    {index : Nat}
    {word : List UInt8} :
    decimal.allowsAll (index + 1) false word = true ↔
      word ∈ digit∗ * fraction := by
  induction word generalizing index with
  | nil =>
      have hEmpty : [] ∈ digit∗ * fraction := by
        rw [mem_kstar_mul]
        exact .inl (mem_fraction.mpr (.inl rfl))
      simp [allowsAll, hEmpty]
  | cons byte rest ih =>
      rw [cons_mem_kstar_mul_fraction]
      simp only [allowsAll, allows_decimal, isSingular,
        Bool.false_and, Bool.not_false, Bool.and_true,
        Bool.false_or]
      -- a point begins the fraction, a digit does not
      cases hPoint : isPoint byte with
      | true =>
          simp [isDigit_of_isPoint hPoint,
            allowsAll_decimal_seen_iff]
      | false => simp [ih]

end Content

end TextTemplate

------------------------------------------------------------
-- Signs
------------------------------------------------------------

namespace TextTemplate

namespace Content

/- The bytes after a sign that may come first. -/
def unsignedBytes : List UInt8 → List UInt8
  | [] => []
  | byte :: rest =>
      if isSign byte then rest else byte :: rest

/- The bytes after a sign are those from a position on. -/
theorem drop_afterSign
    (segment : ByteArray) :
    (bytes segment).drop
        (afterSign segment 0 segment.size) =
      unsignedBytes (bytes segment) := by
  rw [afterSign, getElem?_eq_bytes, ← length_bytes]
  cases bytes segment with
  | nil => rfl
  | cons byte rest =>
      cases hSign : isSign byte with
      | true => simp [unsignedBytes, hSign]
      | false => simp [unsignedBytes, hSign]

/- A complete integer has bytes after a sign. -/
theorem complete_signed_iff
    (segment : ByteArray) :
    signed.complete segment 0 segment.size = true ↔
      unsignedBytes (bytes segment) ≠ [] := by
  rw [← drop_afterSign, Ne, List.drop_eq_nil_iff,
    length_bytes, Nat.not_le, complete, decide_eq_true_eq]

/- A complete decimal has no point right after a sign. -/
theorem complete_decimal_iff
    (segment : ByteArray) :
    decimal.complete segment 0 segment.size = true ↔
      ∃ byte rest,
        unsignedBytes (bytes segment) = byte :: rest ∧
          isPoint byte = false := by
  rw [← drop_afterSign, complete]
  simp only [Bool.and_eq_true, decide_eq_true_eq]
  by_cases hBody :
      afterSign segment 0 segment.size < segment.size
  · have hPosition :
        afterSign segment 0 segment.size <
          (bytes segment).length := by
      rw [length_bytes]
      exact hBody
    rw [getElem?_eq_bytes,
      List.getElem?_eq_getElem hPosition,
      List.drop_eq_getElem_cons hPosition]
    simp only [hBody, true_and, Option.any_some,
      Bool.not_eq_true', List.cons.injEq, and_assoc,
      exists_and_left, exists_eq_left']
  · have hNil :
        (bytes segment).drop
          (afterSign segment 0 segment.size) = [] := by
      rw [List.drop_eq_nil_iff, length_bytes]
      omega
    simp [hBody, hNil]

/- A sign may come before words that begin with a digit. -/
theorem mem_signed_iff
    {later : Language UInt8}
    {word : List UInt8} :
    word ∈ (1 + sign) * (digit * later) ↔
      unsignedBytes word ∈ digit * later := by
  have hSigned :
      word ∈ (1 + sign) * (digit * later) ↔
        word ∈ digit * later ∨
          ∃ byte rest,
            word = byte :: rest ∧ isSign byte = true ∧
              rest ∈ digit * later := by
    simp only [add_mul, one_mul, Language.mem_add,
      isSign_iff, sign, mem_single_mul, mem_single,
      List.cons.injEq, and_true, exists_eq_right']
  rw [hSigned]
  cases word with
  | nil => simp [unsignedBytes]
  | cons byte rest =>
      simp only [List.cons.injEq, and_assoc,
        exists_and_left, exists_eq_left']
      cases hSign : isSign byte with
      | true =>
          have hNot : byte :: rest ∉ digit * later := by
            rw [mem_digit_mul]
            rintro ⟨_, _, hWord, hDigit, _⟩
            rw [← (List.cons.inj hWord).1,
              isDigit_of_isSign hSign] at hDigit
            cases hDigit
          simp [unsignedBytes, hSign, hNot]
      | false => simp [unsignedBytes, hSign]

/-
  What is allowed of a number is what is allowed behind the
  place of its sign.
-/
theorem allowsAll_unsignedBytes
    {content : Content}
    (hFirst :
      ∀ byte, content.allows 0 byte =
        (content.allows 1 byte || isSign byte))
    (hAllows :
      ∀ index byte, content.allows (index + 1) byte =
        content.allows 1 byte)
    (hSingular :
      ∀ byte, isSign byte = true →
        content.isSingular byte = false)
    (word : List UInt8) :
    content.allowsAll 0 false word =
      content.allowsAll 1 false (unsignedBytes word) := by
  have hShift :
      ∀ (rest : List UInt8) index other seen,
        content.allowsAll (index + 1) seen rest =
          content.allowsAll (other + 1) seen rest := by
    intro rest
    induction rest with
    | nil => simp [allowsAll]
    | cons byte rest ih =>
        intro index other seen
        simp only [allowsAll]
        rw [hAllows index, hAllows other,
          ih (index + 1) (other + 1)]
  cases word with
  | nil => rfl
  | cons byte rest =>
      cases hSign : isSign byte with
      | true =>
          simp [unsignedBytes, allowsAll, hFirst, hSign,
            hSingular byte hSign]
      | false =>
          simp only [unsignedBytes, allowsAll, hFirst, hSign,
            Bool.or_false, Bool.false_eq_true, if_false]
          rw [hShift rest 0 1]

end Content

end TextTemplate

------------------------------------------------------------
-- Decisions
------------------------------------------------------------

namespace TextTemplate

namespace Content

/- Bytes that are allowed one by one need nothing more. -/
theorem accepts_iff_forall
    {content : Content}
    (hSingular :
      ∀ byte, content.isSingular byte = false)
    (hAllows :
      ∀ place byte,
        content.allows place byte = content.allows 0 byte)
    (hComplete :
      ∀ segment : ByteArray,
        content.complete segment 0 segment.size = true)
    (segment : ByteArray) :
    content.accepts segment = true ↔
      ∀ byte ∈ bytes segment,
        content.allows 0 byte = true := by
  rw [accepts_iff, hComplete,
    allowsAll_iff_forall hSingular
      (fun place byte _ => hAllows place byte)]
  exact and_iff_left rfl

/- Integers without a sign are digits. -/
theorem accepts_unsigned_iff
    (segment : ByteArray) :
    unsigned.accepts segment = true ↔
      bytes segment ∈ digits := by
  have hAllowed :
      unsigned.allowsAll 0 false (bytes segment) = true ↔
        ∀ byte ∈ bytes segment, isDigit byte = true :=
    allowsAll_iff_forall (fun _ => rfl) (fun _ _ _ => rfl)
      false (bytes segment)
  have hComplete :
      unsigned.complete segment 0 segment.size = true ↔
        bytes segment ≠ [] := by
    rw [complete, decide_eq_true_eq, ← length_bytes,
      List.length_pos_iff]
  rw [accepts_iff, hAllowed, hComplete, mem_digits,
    mem_kstar_digit, and_comm]

/- Integers are digits, maybe with a sign. -/
theorem accepts_signed_iff
    (segment : ByteArray) :
    signed.accepts segment = true ↔
      bytes segment ∈ (1 + sign) * digits := by
  have hAllows (index : Nat) (byte : UInt8) :
      signed.allows (index + 1) byte = isDigit byte := by
    simp [allows]
  have hBehind :
      signed.allowsAll 0 false (bytes segment) =
        signed.allowsAll 1 false
          (unsignedBytes (bytes segment)) := by
    apply allowsAll_unsignedBytes
    · intro byte
      rw [hAllows 0]
      simp [allows]
    · intro index byte
      rw [hAllows index, hAllows 0]
    · exact fun _ _ => rfl
  have hAllowed :
      signed.allowsAll 1 false
            (unsignedBytes (bytes segment)) = true ↔
        ∀ byte ∈ unsignedBytes (bytes segment),
          isDigit byte = true := by
    rw [allowsAll_iff_forall (fun _ => rfl)]
    · simp only [hAllows 0]
    · intro place byte hPlace
      obtain ⟨index, rfl⟩ := Nat.exists_eq_add_of_le' hPlace
      rw [hAllows index, hAllows 0]
  rw [accepts_iff, hBehind, hAllowed, complete_signed_iff,
    digits, mem_signed_iff, ← digits, mem_digits,
    mem_kstar_digit, and_comm]

/- Decimals are digits with a fraction, maybe with a sign. -/
theorem accepts_decimal_iff
    (segment : ByteArray) :
    decimal.accepts segment = true ↔
      bytes segment ∈
        (1 + sign) * (digits * fraction) := by
  have hBehind :
      decimal.allowsAll 0 false (bytes segment) =
        decimal.allowsAll 1 false
          (unsignedBytes (bytes segment)) := by
    apply allowsAll_unsignedBytes
    · intro byte
      rw [allows_decimal 0]
      simp [allows]
    · intro index byte
      rw [allows_decimal index, allows_decimal 0]
    · exact fun _ hSign => isPoint_of_isSign hSign
  rw [accepts_iff, hBehind, allowsAll_decimal_iff,
    complete_decimal_iff, digits, mul_assoc, mem_signed_iff,
    mem_digit_mul]
  cases unsignedBytes (bytes segment) with
  | nil => simp
  | cons byte rest =>
      rw [cons_mem_kstar_mul_fraction]
      simp only [List.cons.injEq, and_assoc,
        exists_and_left, exists_eq_left']
      cases hPoint : isPoint byte with
      | true => simp [isDigit_of_isPoint hPoint]
      | false => simp

/- Bytes out of a set, or out of the others. -/
theorem accepts_oneOf_iff
    (set : ByteSet)
    (negated : Bool)
    (segment : ByteArray) :
    (oneOf set negated).accepts segment = true ↔
      ∀ byte ∈ bytes segment,
        if negated then byte ∉ set else byte ∈ set := by
  rw [accepts_iff_forall
    (fun _ => rfl) (fun _ _ => rfl) (fun _ => rfl)]
  refine forall₂_congr fun byte _ => ?_
  change (set.contains byte != negated) = true ↔
    if negated then ¬ set.contains byte = true
      else set.contains byte = true
  cases set.contains byte <;> cases negated <;> decide

/-
  Whether a segment is of a kind of content is whether its
  bytes are in the language of the kind.  For every kind, a
  literal included, this is what a scan of the segment and
  the check after it decide.  The set of some characters has
  these bytes.
-/
theorem accepts_decides_language :
    (∀ (content : Content) (segment : ByteArray),
      (content.accepts segment = true ↔
        bytes segment ∈ content.language) ∧
      content.accepts segment =
        content.accepted segment) ∧
    (∀ (chars : List UInt8) (byte : UInt8),
      byte ∈ ByteSet.ofList chars ↔ byte ∈ chars) := by
  refine ⟨?_, ?_⟩
  · intro content segment
    refine ⟨?_, content.accepts_eq_accepted segment⟩
    cases content with
    | anyByte =>
        rw [accepts_iff, allowsAll_anyByte]
        exact iff_of_true ⟨rfl, rfl⟩ trivial
    | nonBlank =>
        rw [language, mem_kstar_single, accepts_iff_forall
          (fun _ => rfl) (fun _ _ => rfl) (fun _ => rfl)]
        simp only [allows, Bool.not_eq_true',
          ← Bool.not_eq_true, isBlank_iff]
    | blank =>
        rw [language, mem_kstar_single, accepts_iff_forall
          (fun _ => rfl) (fun _ _ => rfl) (fun _ => rfl)]
        simp only [allows, isBlank_iff]
    | unsigned => exact accepts_unsigned_iff segment
    | signed => exact accepts_signed_iff segment
    | decimal => exact accepts_decimal_iff segment
    | oneOf set negated =>
        rw [language, mem_kstar_single]
        exact accepts_oneOf_iff set negated segment
    | literal text =>
        rw [language, accepts, decide_eq_true_eq]
        exact ⟨congrArg bytes, eq_of_bytes_eq⟩
  · intro chars byte
    change (ByteSet.ofList chars).contains byte = true ↔ _
    rw [ByteSet.contains_ofList, List.contains_iff_mem]

/- A decimal may end with its point but not begin with it. -/
example :
    decimal.accepts ⟨#[0x2D, 0x31, 0x2E]⟩ = true ∧
      decimal.accepts ⟨#[0x2E, 0x31]⟩ = false := by
  decide

end Content

end TextTemplate
