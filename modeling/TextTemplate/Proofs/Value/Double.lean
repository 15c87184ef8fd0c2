import Mathlib.Algebra.Order.Ring.Nat
import TextTemplate.Value.Double

/-
  Floating-point numbers, read back.

  A decimal is read by its digits without the point, as a
  number that counts in a power of ten.  The digits may end
  in zeros that were put there to reach the point, so they
  denote the decimal up to a shift.  A decimal has no such
  zeros of its own, so it is told by what is read.

  Main declarations:
    * `Decimal.read`
    * `Decimal.Scaled`
    * `Decimal.eq_of_scaled`
    * `Decimal.scaled_read`
    * `Double.json_injective`
-/

------------------------------------------------------------
-- Shifted Decimals
------------------------------------------------------------

namespace TextTemplate

namespace Decimal

/-
  Whether a number that counts in a power of ten is a
  decimal, up to zeros at the end of the number.
-/
def Scaled
    (decimal : Decimal)
    (size : Nat)
    (power : Int) : Prop :=
  ∃ shift : Nat,
    size = decimal.coefficient * 10 ^ shift ∧
      power = decimal.exponent - shift

/-
  Decimals that agree after shifts are equal.  The one that
  is shifted less would have a zero at its end otherwise.
-/
theorem eq_of_shifted
    {decimal other : Decimal}
    {shift gap : Nat}
    (hSize :
      decimal.coefficient * 10 ^ shift =
        other.coefficient * 10 ^ (shift + gap))
    (hPower :
      decimal.exponent - shift =
        other.exponent - (shift + gap : Nat)) :
    decimal = other := by
  rw [Nat.add_comm, Nat.pow_add, ← Nat.mul_assoc] at hSize
  have hCoefficient := Nat.eq_of_mul_eq_mul_right
    (Nat.pow_pos (by decide)) hSize
  rcases decimal with ⟨coefficient, exponent, hNormal⟩
  rcases other with ⟨coefficient', exponent', hNormal'⟩
  simp only at hCoefficient hPower
  have hGap : gap = 0 := by
    rcases hNormal with hEnd | ⟨rfl, rfl⟩
    · cases gap with
      | zero => rfl
      | succ gap =>
          rw [Nat.pow_succ, ← Nat.mul_assoc] at hCoefficient
          omega
    · have hZero : coefficient' = 0 :=
        (Nat.mul_eq_zero.mp hCoefficient.symm).resolve_right
          (Nat.pos_iff_ne_zero.mp (Nat.pow_pos (by decide)))
      omega
  subst hGap
  obtain rfl : coefficient = coefficient' := by
    simpa using hCoefficient
  obtain rfl : exponent = exponent' := by
    omega
  rfl

/- A number in one power of ten is one decimal. -/
theorem eq_of_scaled
    {decimal other : Decimal}
    {size : Nat}
    {power : Int}
    (hDecimal : decimal.Scaled size power)
    (hOther : other.Scaled size power) :
    decimal = other := by
  rcases hDecimal with ⟨shift, rfl, rfl⟩
  rcases hOther with ⟨shift', hSize, hPower⟩
  rcases Nat.le_total shift shift' with hLess | hLess
  · obtain ⟨gap, rfl⟩ := Nat.exists_eq_add_of_le hLess
    exact eq_of_shifted hSize hPower
  · obtain ⟨gap, rfl⟩ := Nat.exists_eq_add_of_le hLess
    exact (eq_of_shifted hSize.symm hPower.symm).symm

end Decimal

end TextTemplate

------------------------------------------------------------
-- Reading Decimals
------------------------------------------------------------

namespace TextTemplate

namespace Decimal

/- The number that a text of digits denotes. -/
def numberOf
    (digits : List Char) : Nat :=
  Nat.ofDigitChars 10 digits 0

/- Read a signed exponent; without one it is zero. -/
def readExponent : List Char → Int
  | '-' :: digits => -(numberOf digits : Int)
  | '+' :: digits => numberOf digits
  | _ => 0

/-
  Read a decimal: its digits without the point as a number,
  and the power of ten in which the number counts.
-/
def read
    (text : List Char) : Nat × Int :=
  let mantissa := text.takeWhile (· != 'e')
  let exponent := (text.dropWhile (· != 'e')).drop 1
  let whole := mantissa.takeWhile (· != '.')
  let fraction := (mantissa.dropWhile (· != '.')).drop 1
  (numberOf (whole ++ fraction),
    readExponent exponent - fraction.length)

/- The digits of a number denote it. -/
theorem numberOf_repr
    (number : Nat) :
    numberOf number.repr.toList = number := by
  rw [numberOf, Nat.toList_repr]
  exact Nat.ofDigitChars_toDigits (by decide) (by decide)

/- Zeros before digits do not matter. -/
theorem numberOf_zeros_append
    (count : Nat)
    (digits : List Char) :
    numberOf (List.replicate count '0' ++ digits) =
      numberOf digits := by
  rw [numberOf, Nat.ofDigitChars_append,
    Nat.ofDigitChars_replicate_zero, Nat.mul_zero, numberOf]

/- Zeros after digits are powers of ten. -/
theorem numberOf_append_zeros
    (digits : List Char)
    (count : Nat) :
    numberOf (digits ++ List.replicate count '0') =
      numberOf digits * 10 ^ count := by
  rw [numberOf, Nat.ofDigitChars_append,
    Nat.ofDigitChars_replicate_zero, Nat.mul_comm, numberOf]

/- An exponent is read back. -/
theorem readExponent_exponentChars
    (exponent : Int) :
    readExponent (exponentChars exponent) = exponent := by
  have hDigits : numberOf
      (exponent.natAbs.repr.toList.leftpad 2 '0') =
        exponent.natAbs := by
    rw [List.leftpad, numberOf_zeros_append, numberOf_repr]
  rw [exponentChars]
  split
  · change -(numberOf _ : Int) = exponent
    rw [hDigits]
    omega
  · change (numberOf _ : Int) = exponent
    rw [hDigits]
    omega

theorem isDigit_of_mem_digits
    (decimal : Decimal) :
    ∀ c ∈ decimal.digits, c.isDigit = true := by
  intro c hc
  rw [digits, Nat.toList_repr] at hc
  exact Nat.isDigit_of_mem_toDigits (by decide) (by decide)
    hc

theorem length_digits_pos
    (decimal : Decimal) :
    0 < decimal.digits.length := by
  rw [digits, Nat.toList_repr]
  exact Nat.length_toDigits_pos

/- A character up to which a text of others is taken. -/
theorem takeWhile_dropWhile_of_not_mem
    {mark : Char}
    {text : List Char}
    (hMark : mark ∉ text)
    {rest : List Char}
    (hRest : ∀ c ∈ rest.head?, c = mark) :
    (text ++ rest).takeWhile (· != mark) = text ∧
      (text ++ rest).dropWhile (· != mark) = rest := by
  have hText : ∀ c ∈ text, (c != mark) = true := by
    intro c hc
    exact bne_iff_ne.mpr (ne_of_mem_of_not_mem hc hMark)
  rw [List.takeWhile_append_of_pos hText,
    List.dropWhile_append_of_pos hText]
  cases rest with
  | nil => simp
  | cons c later =>
      obtain rfl : c = mark := hRest c rfl
      simp

/-
  Digits with a point, and an exponent or nothing after them,
  are read.
-/
theorem read_withPoint
    {whole fraction : List Char}
    (hWhole : ∀ c ∈ whole, c.isDigit = true)
    (hFraction : ∀ c ∈ fraction, c.isDigit = true)
    {rest : List Char}
    (hRest : ∀ c ∈ rest.head?, c = 'e') :
    read (withPoint whole fraction ++ rest) =
      (numberOf (whole ++ fraction),
        readExponent (rest.drop 1) - fraction.length) := by
  have hPoint : '.' ∉ whole := fun hMem =>
    absurd (hWhole _ hMem) (by decide)
  have hNoExponent : 'e' ∉ withPoint whole fraction := by
    have hWhole' : 'e' ∉ whole := fun hMem =>
      absurd (hWhole _ hMem) (by decide)
    have hFraction' : 'e' ∉ fraction := fun hMem =>
      absurd (hFraction _ hMem) (by decide)
    unfold withPoint
    split
    · exact hWhole'
    · simp [hWhole', hFraction']
  have hMantissa :=
    takeWhile_dropWhile_of_not_mem hNoExponent hRest
  unfold read
  simp only [hMantissa.1, hMantissa.2]
  cases fraction with
  | nil =>
      have hAll := @takeWhile_dropWhile_of_not_mem '.' whole
        hPoint [] (by simp)
      rw [List.append_nil] at hAll
      simp only [withPoint, hAll.1, hAll.2, List.drop_nil]
  | cons c later =>
      have hAll := @takeWhile_dropWhile_of_not_mem '.' whole
        hPoint ('.' :: c :: later) (by simp)
      simp only [withPoint, hAll.1, hAll.2,
        List.drop_succ_cons, List.drop_zero]

end Decimal

end TextTemplate

------------------------------------------------------------
-- Written Decimals
------------------------------------------------------------

namespace TextTemplate

namespace Decimal

variable (decimal : Decimal)

/-
  In positional form a decimal has digits around the point
  which are its own or zeros.
-/
theorem scaled_positional :
    (∀ c ∈ decimal.positional.1, c.isDigit = true) ∧
      (∀ c ∈ decimal.positional.2, c.isDigit = true) ∧
      decimal.positional.1 ≠ [] ∧
      decimal.positional.2 ≠ [] ∧
      decimal.Scaled
        (numberOf
          (decimal.positional.1 ++ decimal.positional.2))
        (-decimal.positional.2.length) := by
  have hDigits := decimal.isDigit_of_mem_digits
  have hPositive := decimal.length_digits_pos
  have hNumber : numberOf decimal.digits =
      decimal.coefficient := numberOf_repr _
  have hPoint : decimal.point =
      decimal.digits.length + decimal.exponent := rfl
  have hSome : decimal.digits ≠ [] :=
    List.ne_nil_of_length_pos hPositive
  have hZero : ∀ c ∈ ['0'], c.isDigit = true :=
    List.forall_mem_singleton.mpr rfl
  have hZeros : ∀ count,
      ∀ c ∈ zeros count, c.isDigit = true := by
    intro count c hc
    rw [List.eq_of_mem_replicate hc]
    decide
  unfold positional
  simp only
  split
  · refine ⟨hZero, ?_, List.cons_ne_nil _ _,
      List.append_ne_nil_of_right_ne_nil _ hSome, 0, ?_, ?_⟩
    · exact List.forall_mem_append.mpr ⟨hZeros _, hDigits⟩
    · rw [zeros, ← List.append_assoc, List.singleton_append,
        ← List.replicate_succ, numberOf_zeros_append,
        hNumber, Nat.pow_zero, Nat.mul_one]
    · simp only [zeros, List.length_append,
        List.length_replicate]
      omega
  · split
    · refine ⟨?_, ?_, ?_, ?_, 0, ?_, ?_⟩
      · exact fun c hc => hDigits c (List.mem_of_mem_take hc)
      · exact fun c hc => hDigits c (List.mem_of_mem_drop hc)
      · apply List.ne_nil_of_length_pos
        rw [List.length_take]
        omega
      · apply List.ne_nil_of_length_pos
        rw [List.length_drop]
        omega
      · rw [List.take_append_drop, hNumber, Nat.pow_zero,
          Nat.mul_one]
      · rw [List.length_drop]
        omega
    · refine ⟨?_, hZero,
        List.append_ne_nil_of_left_ne_nil hSome _,
        List.cons_ne_nil _ _,
        (decimal.point - decimal.digits.length).toNat + 1,
        ?_, ?_⟩
      · exact List.forall_mem_append.mpr ⟨hDigits, hZeros _⟩
      · rw [zeros, List.append_assoc,
          ← List.replicate_succ', numberOf_append_zeros,
          hNumber]
      · rw [List.length_singleton]
        omega

/- A decimal is what is read of its characters. -/
theorem scaled_read :
    decimal.Scaled (read decimal.chars).1
      (read decimal.chars).2 := by
  have hDigits := decimal.isDigit_of_mem_digits
  have hPositive := decimal.length_digits_pos
  rcases decimal.scaled_positional with
    ⟨hWhole, hFraction, _, _, hScaled⟩
  unfold chars
  simp only
  split
  · have hRead := @read_withPoint _ _ hWhole hFraction []
      (by simp)
    rw [List.append_nil] at hRead
    rw [hRead]
    simpa [readExponent] using hScaled
  · have hRead := @read_withPoint (decimal.digits.take 1)
      (decimal.digits.drop 1)
      (fun c hc => hDigits c (List.mem_of_mem_take hc))
      (fun c hc => hDigits c (List.mem_of_mem_drop hc))
      ('e' :: exponentChars (decimal.point - 1)) (by simp)
    rw [hRead]
    refine ⟨0, ?_, ?_⟩
    · rw [List.take_append_drop, Nat.pow_zero, Nat.mul_one]
      exact numberOf_repr _
    · rw [List.drop_succ_cons, List.drop_zero,
        readExponent_exponentChars, List.length_drop, point]
      omega

/- A decimal is told by its characters. -/
theorem chars_injective :
    Function.Injective chars := by
  intro decimal other hSame
  have hOther := other.scaled_read
  rw [← hSame] at hOther
  exact eq_of_scaled decimal.scaled_read hOther

/- Digits with a point are digits and points. -/
theorem mem_withPoint
    {whole fraction : List Char}
    {c : Char}
    (hc : c ∈ withPoint whole fraction) :
    c ∈ whole ∨ c = '.' ∨ c ∈ fraction := by
  unfold withPoint at hc
  split at hc
  · exact .inl hc
  · simpa using hc

/- A decimal is made of digits and of four marks. -/
theorem mem_chars
    {c : Char}
    (hc : c ∈ decimal.chars) :
    c.isDigit = true ∨ c ∈ ['.', 'e', '+', '-'] := by
  have hDigits := decimal.isDigit_of_mem_digits
  rcases decimal.scaled_positional with
    ⟨hWhole, hFraction, _, _, _⟩
  unfold chars at hc
  simp only at hc
  split at hc
  · rcases mem_withPoint hc with hMem | rfl | hMem
    · exact .inl (hWhole c hMem)
    · exact .inr (by decide)
    · exact .inl (hFraction c hMem)
  · rcases List.mem_append.mp hc with hMem | hMem
    · rcases mem_withPoint hMem with hMem | rfl | hMem
      · exact .inl (hDigits c (List.mem_of_mem_take hMem))
      · exact .inr (by decide)
      · exact .inl (hDigits c (List.mem_of_mem_drop hMem))
    · rcases List.mem_cons.mp hMem with rfl | hMem
      · exact .inr (by decide)
      · rcases List.mem_cons.mp hMem with rfl | hMem
        · right
          split <;> decide
        · left
          rcases List.mem_append.mp hMem with hMem | hMem
          · rw [List.eq_of_mem_replicate hMem]
            rfl
          · rw [Nat.toList_repr] at hMem
            exact Nat.isDigit_of_mem_toDigits (by decide)
              (by decide) hMem

/- A decimal begins with a digit. -/
theorem exists_cons_chars :
    ∃ c later,
      decimal.chars = c :: later ∧ c.isDigit = true := by
  have hDigits := decimal.isDigit_of_mem_digits
  have hBegins : ∀ whole fraction rest : List Char,
      (∀ c ∈ whole, c.isDigit = true) → whole ≠ [] →
        ∃ c later,
          withPoint whole fraction ++ rest = c :: later ∧
            c.isDigit = true := by
    intro whole fraction rest hWhole hSome
    rcases List.exists_cons_of_ne_nil hSome with
      ⟨c, later, rfl⟩
    refine ⟨c, ?_, ?_, hWhole c List.mem_cons_self⟩
    · exact (withPoint (c :: later) fraction).tail ++ rest
    · cases fraction <;> rfl
  rcases decimal.scaled_positional with
    ⟨hWhole, _, hSome, _, _⟩
  unfold chars
  simp only
  split
  · have hPositional := hBegins _ decimal.positional.2 []
      hWhole hSome
    rw [List.append_nil] at hPositional
    exact hPositional
  · apply hBegins
    · exact fun c hc => hDigits c (List.mem_of_mem_take hc)
    · apply List.ne_nil_of_length_pos
      rw [List.length_take]
      have hPositive := decimal.length_digits_pos
      omega

/- A decimal has a point or an exponent. -/
theorem mark_mem_chars :
    '.' ∈ decimal.chars ∨ 'e' ∈ decimal.chars := by
  rcases decimal.scaled_positional with
    ⟨_, _, _, hSome, _⟩
  unfold chars
  simp only
  split
  · left
    rcases List.exists_cons_of_ne_nil hSome with
      ⟨c, later, hFraction⟩
    rw [hFraction, withPoint]
    · simp
    · simp
  · right
    simp

end Decimal

end TextTemplate

------------------------------------------------------------
-- Floating-Point Numbers
------------------------------------------------------------

namespace TextTemplate

namespace Double

/- A finite number is written like no other one. -/
theorem json_finite_ne
    (negative : Bool)
    (size : Decimal) :
    ∀ word ∈ [notANumber, infinity false, infinity true],
      (finite negative size).json ≠ word.json := by
  rcases size.exists_cons_chars with
    ⟨c, later, hChars, hDigit⟩
  have hOther :
      ∀ letter : Char, letter.isDigit = false →
        c ≠ letter := by
    rintro letter hNone rfl
    rw [hDigit] at hNone
    exact nomatch hNone
  have hN := hOther 'N' rfl
  have hI := hOther 'I' rfl
  have hSign := hOther '-' rfl
  cases negative <;> simp [json, chars, sign, hChars, hN, hI,
    hSign]

/- A sign before digits is told from the digits. -/
theorem sign_cut
    {negative negative' : Bool}
    {size size' : Decimal}
    (hSame :
      sign negative ++ size.chars =
        sign negative' ++ size'.chars) :
    negative = negative' ∧ size = size' := by
  have hDigit : ∀ (size : Decimal) (later : List Char),
      size.chars ≠ '-' :: later := by
    intro size later hChars
    rcases size.exists_cons_chars with
      ⟨c, rest, hSome, hc⟩
    rw [hChars] at hSome
    rw [← (List.cons.inj hSome).1] at hc
    exact nomatch hc
  cases negative <;> cases negative' <;>
    simp only [sign, if_true, if_false, Bool.false_eq_true,
      List.nil_append, List.singleton_append] at hSame
  · exact ⟨rfl, Decimal.chars_injective hSame⟩
  · exact absurd hSame (hDigit size _)
  · exact absurd hSame.symm (hDigit size' _)
  · exact ⟨rfl,
      Decimal.chars_injective (List.cons.inj hSame).2⟩

/- A floating-point number is told by its JSON. -/
theorem json_injective :
    Function.Injective json := by
  have hWords : ∀ number : Double,
      (∃ negative size, number = finite negative size) ∨
        number ∈
          [notANumber, infinity false, infinity true] := by
    rintro (_ | ⟨_ | _⟩ | ⟨negative, size⟩)
    · exact .inr (by decide)
    · exact .inr (by decide)
    · exact .inr (by decide)
    · exact .inl ⟨negative, size, rfl⟩
  have hApart : ∀ word ∈
      [notANumber, infinity false, infinity true],
      ∀ other ∈
        [notANumber, infinity false, infinity true],
        word.json = other.json → word = other := by
    decide +kernel
  intro number other hSame
  rcases hWords number with ⟨negative, size, rfl⟩ | hWord
  · rcases hWords other with ⟨negative', size', rfl⟩ | hWord'
    · rcases sign_cut hSame with ⟨rfl, rfl⟩
      rfl
    · exact absurd hSame (json_finite_ne _ _ other hWord')
  · rcases hWords other with ⟨negative', size', rfl⟩ | hWord'
    · exact absurd hSame.symm (json_finite_ne _ _ number hWord)
    · exact hApart number hWord other hWord' hSame

end Double

end TextTemplate
