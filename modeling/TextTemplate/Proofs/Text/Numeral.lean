import Mathlib.Data.Nat.Digits.Defs
import TextTemplate.Text.Numeral

/-
  How whole numbers are spelled.

  A text spells a number if it is made of blanks, one sign
  or none, digits with single underscores between some of
  them, and blanks.  Just the texts that spell a number are
  read, and they are read as that number.

  Main declarations:
    * `Digit.Denotes`
    * `Numeral.Digits`
    * `Numeral.Signed`
    * `Numeral.Spells`
    * `Numeral.digits?_eq_some_iff`
    * `Blank.trim_append`
    * `Numeral.read?_eq_some_iff`
    * `Numeral.isLong_of_read?`
-/

------------------------------------------------------------
-- Digits
------------------------------------------------------------

namespace TextTemplate

namespace Digit

/- Whether a character is the digit of a number below ten. -/
def Denotes
    (c : Char)
    (value : Nat) : Prop :=
  value < 10 ∧ ∃ start ∈ zeros, c.toNat = start + value

/- The digits of two scripts are different characters. -/
theorem zeros_apart :
    ∀ start ∈ zeros, ∀ other ∈ zeros,
      start = other ∨ start + 10 ≤ other ∨
        other + 10 ≤ start := by
  decide +kernel

theorem valueFrom?_eq_some_iff
    {start value : Nat}
    {c : Char} :
    valueFrom? start c = some value ↔
      value < 10 ∧ c.toNat = start + value := by
  unfold valueFrom?
  split
  · rename_i hRange
    simp only [Bool.and_eq_true, decide_eq_true_eq] at hRange
    rw [Option.some_inj]
    omega
  · rename_i hRange
    simp only [Bool.and_eq_true, decide_eq_true_eq] at hRange
    simp only [reduceCtorEq, false_iff]
    omega

/- The value of a character is that of the digit it is. -/
theorem value?_eq_some_iff
    {c : Char}
    {value : Nat} :
    value? c = some value ↔ Denotes c value := by
  constructor
  · intro hValue
    rcases List.exists_of_findSome?_eq_some hValue with
      ⟨start, hZero, hDigit⟩
    rw [valueFrom?_eq_some_iff] at hDigit
    exact ⟨hDigit.1, start, hZero, hDigit.2⟩
  · rintro ⟨hSmall, start, hZero, hDigit⟩
    have hFound :=
      valueFrom?_eq_some_iff.mpr ⟨hSmall, hDigit⟩
    have hSome : (value? c).isSome = true := by
      rw [value?, List.findSome?_isSome_iff]
      exact ⟨start, hZero, by rw [hFound]; rfl⟩
    rcases Option.isSome_iff_exists.mp hSome with
      ⟨first, hFirst⟩
    rcases List.exists_of_findSome?_eq_some hFirst with
      ⟨other, hOther, hSame⟩
    rw [valueFrom?_eq_some_iff] at hSame
    have hApart := zeros_apart start hZero other hOther
    rw [hFirst, Option.some_inj]
    omega

/- A digit is no blank. -/
theorem Denotes.not_blank
    {c : Char}
    {value : Nat}
    (hDigit : Denotes c value) :
    Blank.isBlank c = false := by
  have hApart : ∀ start ∈ zeros, ∀ range ∈ Blank.ranges,
      start + 10 ≤ range.1 ∨ range.2 < start := by
    decide +kernel
  rcases hDigit with ⟨hSmall, start, hZero, hValue⟩
  rw [Blank.isBlank, List.any_eq_false]
  intro range hRange
  have hOutside := hApart start hZero range hRange
  simp only [Bool.and_eq_true, decide_eq_true_eq]
  omega

/- Digits denote the number with these decimal digits. -/
theorem number_eq_ofDigits
    (values : List Nat) :
    number values = Nat.ofDigits 10 values.reverse := by
  rw [Nat.ofDigits_eq_foldr, List.foldr_reverse]
  simp [number, Nat.add_comm]

end Digit

end TextTemplate

------------------------------------------------------------
-- Spelled Numbers
------------------------------------------------------------

namespace TextTemplate

namespace Numeral

/-
  Digits, with a single underscore between some of them, and
  the numbers that they denote.
-/
inductive Digits : List Char → List Nat → Prop where
  | single
      {c : Char}
      {value : Nat}
      (hDigit : Digit.Denotes c value) :
      Digits [c] [value]
  | next
      {c : Char}
      {value : Nat}
      {later : List Char}
      {values : List Nat}
      (hDigit : Digit.Denotes c value)
      (hLater : Digits later values) :
      Digits (c :: later) (value :: values)
  | separated
      {c : Char}
      {value : Nat}
      {later : List Char}
      {values : List Nat}
      (hDigit : Digit.Denotes c value)
      (hLater : Digits later values) :
      Digits (c :: '_' :: later) (value :: values)

/- A sign before digits, or none. -/
inductive Sign where
  | none
  | plus
  | minus

namespace Sign

/- The characters of a sign. -/
def chars : Sign → List Char
  | .none => []
  | .plus => ['+']
  | .minus => ['-']

/- A number with a sign. -/
def apply : Sign → Nat → Int
  | .none, size => size
  | .plus, size => size
  | .minus, size => -size

end Sign

/- A sign or none, and at most 4300 digits after it. -/
inductive Signed : List Char → Int → Prop where
  | intro
      (sign : Sign)
      {digits : List Char}
      {values : List Nat}
      (hDigits : Digits digits values)
      (hShort : values.length ≤ 4300) :
      Signed (sign.chars ++ digits)
        (sign.apply (Nat.ofDigits 10 values.reverse))

/- Whether a text spells a number. -/
def Spells
    (text : String)
    (number : Int) : Prop :=
  ∃ before middle after,
    text.toList = before ++ (middle ++ after) ∧
      (∀ c ∈ before, Blank.isBlank c = true) ∧
      Signed middle number ∧
      ∀ c ∈ after, Blank.isBlank c = true

end Numeral

end TextTemplate

------------------------------------------------------------
-- Reading Digits
------------------------------------------------------------

namespace TextTemplate

namespace Numeral

/- The underscore and the signs are no digits. -/
theorem value?_of_mark :
    Digit.value? '_' = none ∧ Digit.value? '+' = none ∧
      Digit.value? '-' = none := by
  decide +kernel

/- Digits begin with a digit. -/
theorem Digits.exists_cons
    {text : List Char}
    {values : List Nat}
    (hDigits : Digits text values) :
    ∃ c value later,
      text = c :: later ∧ Digit.Denotes c value := by
  cases hDigits with
  | single hDigit => exact ⟨_, _, _, rfl, hDigit⟩
  | next hDigit _ => exact ⟨_, _, _, rfl, hDigit⟩
  | separated hDigit _ => exact ⟨_, _, _, rfl, hDigit⟩

/- Digits end with a digit. -/
theorem Digits.exists_getLast?
    {text : List Char}
    {values : List Nat}
    (hDigits : Digits text values) :
    ∃ c value,
      text.getLast? = some c ∧ Digit.Denotes c value := by
  induction hDigits with
  | single hDigit => exact ⟨_, _, rfl, hDigit⟩
  | next _ hLater ih =>
      rcases hLater.exists_cons with ⟨_, _, _, rfl, _⟩
      rw [List.getLast?_cons_cons]
      exact ih
  | separated _ hLater ih =>
      rcases hLater.exists_cons with ⟨_, _, _, rfl, _⟩
      rw [List.getLast?_cons_cons, List.getLast?_cons_cons]
      exact ih

/- The first part of a text is read before the later ones. -/
theorem digits?_of_parts
    {text part : List Char}
    {later : List (List Char)}
    (hParts : Split.parts '_' text = part :: later) :
    digits? text =
      (group? part).bind fun values =>
        (later.mapM group?).map fun more =>
          values ++ more.flatten := by
  rw [digits?, hParts, List.mapM_cons]
  cases group? part with
  | none => rfl
  | some values => cases later.mapM group? <;> rfl

/- A character that is no separator begins the first part. -/
theorem parts_cons_of_ne
    {c : Char}
    (hc : c ≠ '_')
    (rest : List Char) :
    ∃ part later,
      Split.parts '_' rest = part :: later ∧
        Split.parts '_' (c :: rest) =
          (c :: part) :: later := by
  cases hRest : Split.parts '_' rest with
  | nil => exact absurd hRest (Split.parts_ne_nil '_' rest)
  | cons part later =>
      refine ⟨part, later, rfl, ?_⟩
      rw [Split.parts, if_neg hc, hRest]

/- Digits are read one after another. -/
theorem group?_cons
    (c : Char)
    (part : List Char) :
    group? (c :: part) =
      (Digit.value? c).bind fun value =>
        (part.mapM Digit.value?).map (value :: ·) := by
  rw [group?, List.mapM_cons]
  cases Digit.value? c with
  | none => rfl
  | some value => cases part.mapM Digit.value? <;> rfl

variable {c : Char}
variable {value : Nat}

theorem ne_underscore_of_value?
    (hValue : Digit.value? c = some value) :
    c ≠ '_' := by
  rintro rfl
  rw [value?_of_mark.1] at hValue
  exact nomatch hValue

/- No digits begin with another character. -/
theorem digits?_cons_of_none
    (hNone : Digit.value? c = none)
    (rest : List Char) :
    digits? (c :: rest) = none := by
  by_cases hc : c = '_'
  · have hParts : Split.parts '_' (c :: rest) =
        [] :: Split.parts '_' rest := by
      rw [Split.parts, if_pos hc]
    rw [digits?_of_parts hParts]
    rfl
  · rcases parts_cons_of_ne hc rest with
      ⟨part, later, _, hParts⟩
    rw [digits?_of_parts hParts, group?_cons, hNone]
    rfl

theorem digits?_single
    (hValue : Digit.value? c = some value) :
    digits? [c] = some [value] := by
  have hParts : Split.parts '_' [c] = [[c]] := by
    rw [Split.parts,
      if_neg (ne_underscore_of_value? hValue)]
    rfl
  rw [digits?_of_parts hParts, group?_cons, hValue]
  rfl

theorem digits?_separated
    (hValue : Digit.value? c = some value)
    (rest : List Char) :
    digits? (c :: '_' :: rest) =
      (digits? rest).map (value :: ·) := by
  have hParts : Split.parts '_' (c :: '_' :: rest) =
      [c] :: Split.parts '_' rest := by
    have hNot : '_' ∉ [c] := by
      simpa using (ne_underscore_of_value? hValue).symm
    exact Split.parts_append hNot rest
  rw [digits?_of_parts hParts, group?_cons, hValue, digits?,
    Option.map_map]
  rfl

theorem digits?_next
    {next : Char}
    (hValue : Digit.value? c = some value)
    (hNext : next ≠ '_')
    (rest : List Char) :
    digits? (c :: next :: rest) =
      (digits? (next :: rest)).map (value :: ·) := by
  have hc := ne_underscore_of_value? hValue
  rcases parts_cons_of_ne hNext rest with
    ⟨part, later, _, hParts⟩
  have hAll : Split.parts '_' (c :: next :: rest) =
      (c :: next :: part) :: later := by
    rw [Split.parts, if_neg hc, hParts]
  rw [digits?_of_parts hParts, digits?_of_parts hAll,
    group?_cons c, hValue, group?]
  simp only [List.isEmpty_cons, Bool.false_eq_true,
    if_false]
  cases (next :: part).mapM Digit.value? with
  | none => rfl
  | some values => cases later.mapM group? <;> rfl

/- Digits are read as what they denote. -/
theorem Digits.digits?_eq
    {text : List Char}
    {values : List Nat}
    (hDigits : Digits text values) :
    digits? text = some values := by
  induction hDigits with
  | single hDigit =>
      exact digits?_single
        (Digit.value?_eq_some_iff.mpr hDigit)
  | next hDigit hLater ih =>
      rcases hLater.exists_cons with
        ⟨next, nextValue, later, rfl, hNext⟩
      rw [digits?_next (Digit.value?_eq_some_iff.mpr hDigit)
        (ne_underscore_of_value?
          (Digit.value?_eq_some_iff.mpr hNext)), ih]
      rfl
  | separated hDigit _ ih =>
      rw [digits?_separated
        (Digit.value?_eq_some_iff.mpr hDigit), ih]
      rfl

/- Only digits are read. -/
theorem digits_of_digits? :
    (text : List Char) →
      {values : List Nat} →
        digits? text = some values → Digits text values
  | [], _, hRead => nomatch hRead
  | c :: rest, values, hRead => by
      cases hValue : Digit.value? c with
      | none =>
          rw [digits?_cons_of_none hValue] at hRead
          exact nomatch hRead
      | some value =>
          have hDigit := Digit.value?_eq_some_iff.mp hValue
          match rest with
          | [] =>
              rw [digits?_single hValue] at hRead
              obtain rfl := Option.some.inj hRead
              exact .single hDigit
          | next :: rest =>
              by_cases hNext : next = '_'
              · subst hNext
                rw [digits?_separated hValue] at hRead
                rcases Option.map_eq_some_iff.mp hRead with
                  ⟨later, hLater, rfl⟩
                exact .separated hDigit
                  (digits_of_digits? rest hLater)
              · rw [digits?_next hValue hNext] at hRead
                rcases Option.map_eq_some_iff.mp hRead with
                  ⟨later, hLater, rfl⟩
                exact .next hDigit
                  (digits_of_digits? (next :: rest) hLater)

/- Just the digits with single underscores are read. -/
theorem digits?_eq_some_iff
    {text : List Char}
    {values : List Nat} :
    digits? text = some values ↔ Digits text values :=
  ⟨digits_of_digits? text, Digits.digits?_eq⟩

end Numeral

end TextTemplate

------------------------------------------------------------
-- Reading Numbers
------------------------------------------------------------

namespace TextTemplate

namespace Numeral

/- At most 4300 digits are read as the number they denote. -/
theorem magnitude?_eq_some_iff
    {text : List Char}
    {size : Nat} :
    magnitude? text = some size ↔
      ∃ values,
        Digits text values ∧ values.length ≤ 4300 ∧
          Nat.ofDigits 10 values.reverse = size := by
  rw [magnitude?]
  constructor
  · intro hRead
    split at hRead
    · rename_i values hDigits
      split at hRead
      · rename_i hShort
        rw [Digit.number_eq_ofDigits, Option.some_inj]
          at hRead
        exact
          ⟨values, digits?_eq_some_iff.mp hDigits, hShort,
            hRead⟩
      · exact nomatch hRead
    · exact nomatch hRead
  · rintro ⟨values, hDigits, hShort, rfl⟩
    have hLimit : values.length ≤ maxDigits := hShort
    simp only [hDigits.digits?_eq]
    rw [if_pos hLimit, Digit.number_eq_ofDigits]

theorem Signed.of_magnitude?
    (sign : Sign)
    {digits : List Char}
    {number : Int}
    (hRead :
      (magnitude? digits).map sign.apply = some number) :
    Signed (sign.chars ++ digits) number := by
  rcases Option.map_eq_some_iff.mp hRead with
    ⟨size, hSize, rfl⟩
  rcases magnitude?_eq_some_iff.mp hSize with
    ⟨values, hDigits, hShort, rfl⟩
  exact .intro sign hDigits hShort

/- Without a sign, the digits are read as they are. -/
theorem signed?_of_digit
    {c : Char}
    {value : Nat}
    (hDigit : Digit.Denotes c value)
    (later : List Char) :
    signed? (c :: later) =
      (magnitude? (c :: later)).map Sign.none.apply := by
  have hValue := Digit.value?_eq_some_iff.mpr hDigit
  unfold signed?
  split
  · rename_i rest hText
    injection hText with hc
    rw [hc, value?_of_mark.2.1] at hValue
    exact nomatch hValue
  · rename_i rest hText
    injection hText with hc
    rw [hc, value?_of_mark.2.2] at hValue
    exact nomatch hValue
  · rfl

/- A sign is read before digits or left out. -/
theorem signed?_eq_some_iff
    {text : List Char}
    {number : Int} :
    signed? text = some number ↔ Signed text number := by
  constructor
  · intro hRead
    unfold signed? at hRead
    split at hRead
    · exact .of_magnitude? .plus hRead
    · exact .of_magnitude? .minus hRead
    · exact .of_magnitude? .none hRead
  · rintro ⟨sign, hDigits, hShort⟩
    have hSize :=
      magnitude?_eq_some_iff.mpr ⟨_, hDigits, hShort, rfl⟩
    cases sign with
    | plus => exact congrArg (Option.map _) hSize
    | minus => exact congrArg (Option.map _) hSize
    | none =>
        rcases hDigits.exists_cons with
          ⟨c, value, later, rfl, hDigit⟩
        rw [Sign.chars, List.nil_append,
          signed?_of_digit hDigit, hSize]
        rfl

/- A number without blanks begins and ends with no blank. -/
theorem Signed.not_blank
    {text : List Char}
    {number : Int}
    (hSigned : Signed text number) :
    (∃ c ∈ text.head?, Blank.isBlank c = false) ∧
      ∃ c ∈ text.getLast?, Blank.isBlank c = false := by
  rcases hSigned with ⟨sign, hDigits, _⟩
  rcases hDigits.exists_getLast? with
    ⟨last, value, hLast, hDigit⟩
  refine ⟨?_, last, ?_, hDigit.not_blank⟩
  · cases sign with
    | plus => exact ⟨'+', rfl, by decide⟩
    | minus => exact ⟨'-', rfl, by decide⟩
    | none =>
        rcases hDigits.exists_cons with
          ⟨c, value, later, rfl, hFirst⟩
        exact ⟨c, rfl, hFirst.not_blank⟩
  · rw [Option.mem_def, List.getLast?_append, hLast]
    rfl

end Numeral

namespace Blank

/- What is cut off a text at its ends is blank. -/
theorem exists_trim
    (text : List Char) :
    ∃ before after,
      text = before ++ (trim text ++ after) ∧
        (∀ c ∈ before, isBlank c = true) ∧
        ∀ c ∈ after, isBlank c = true := by
  refine
    ⟨text.takeWhile isBlank,
      ((text.dropWhile isBlank).reverse.takeWhile
        isBlank).reverse, ?_, ?_, ?_⟩
  · rw [trim, ← List.reverse_append,
      List.takeWhile_append_dropWhile, List.reverse_reverse,
      List.takeWhile_append_dropWhile]
  · exact List.all_eq_true.mp List.all_takeWhile
  · intro c hc
    exact List.all_eq_true.mp List.all_takeWhile c
      (List.mem_reverse.mp hc)

/- Blanks around a text without blanks at its ends are cut. -/
theorem trim_append
    {before middle after : List Char}
    (hBefore : ∀ c ∈ before, isBlank c = true)
    (hFirst : ∃ c ∈ middle.head?, isBlank c = false)
    (hLast : ∃ c ∈ middle.getLast?, isBlank c = false)
    (hAfter : ∀ c ∈ after, isBlank c = true) :
    trim (before ++ (middle ++ after)) = middle := by
  rcases hFirst with ⟨first, hFirst, hNotFirst⟩
  rcases hLast with ⟨last, hLast, hNotLast⟩
  rcases List.head?_eq_some_iff.mp hFirst with
    ⟨later, hLater⟩
  rcases List.getLast?_eq_some_iff.mp hLast with
    ⟨earlier, hEarlier⟩
  have hStarted :
      (before ++ (middle ++ after)).dropWhile isBlank =
        middle ++ after := by
    rw [List.dropWhile_append_of_pos hBefore, hLater,
      List.cons_append, List.dropWhile_cons_of_neg]
    simp [hNotFirst]
  have hEnded :
      (middle ++ after).reverse.dropWhile isBlank =
        middle.reverse := by
    have hReversed : ∀ c ∈ after.reverse, isBlank c = true := by
      simpa using hAfter
    rw [List.reverse_append,
      List.dropWhile_append_of_pos hReversed, hEarlier,
      List.reverse_append, List.reverse_singleton,
      List.singleton_append, List.dropWhile_cons_of_neg]
    simp [hNotLast]
  rw [trim, hStarted, hEnded, List.reverse_reverse]

end Blank

namespace Numeral

/-
  Just the texts that spell a number are read, each as the
  number that it spells.
-/
theorem read?_eq_some_iff
    {text : String}
    {number : Int} :
    read? text = some number ↔ Spells text number := by
  rw [read?, signed?_eq_some_iff]
  constructor
  · intro hSigned
    rcases Blank.exists_trim text.toList with
      ⟨before, after, hText, hBefore, hAfter⟩
    exact
      ⟨before, _, after, hText, hBefore, hSigned, hAfter⟩
  · rintro
      ⟨before, middle, after, hText, hBefore, hSigned,
        hAfter⟩
    rcases hSigned.not_blank with ⟨hFirst, hLast⟩
    rw [hText,
      Blank.trim_append hBefore hFirst hLast hAfter]
    exact hSigned

end Numeral

end TextTemplate

------------------------------------------------------------
-- Sizes of Numbers
------------------------------------------------------------

namespace TextTemplate

namespace Numeral

/- The values of digits are below ten. -/
theorem Digits.lt_ten
    {text : List Char}
    {values : List Nat}
    (hDigits : Digits text values) :
    ∀ value ∈ values, value < 10 := by
  induction hDigits with
  | single hDigit =>
      exact List.forall_mem_singleton.mpr hDigit.1
  | next hDigit _ ih =>
      exact List.forall_mem_cons.mpr ⟨hDigit.1, ih⟩
  | separated hDigit _ ih =>
      exact List.forall_mem_cons.mpr ⟨hDigit.1, ih⟩

/- A number that is read is not too long to be written. -/
theorem isLong_of_read?
    {text : String}
    {number : Int}
    (hRead : read? text = some number) :
    isLong number = false := by
  rcases read?_eq_some_iff.mp hRead with
    ⟨_, _, _, _, _, @⟨sign, _, values, hDigits, hShort⟩, _⟩
  have hValues : ∀ value ∈ values.reverse, value < 10 := by
    intro value hValue
    exact hDigits.lt_ten value (List.mem_reverse.mp hValue)
  have hSize := Nat.ofDigits_lt_base_pow_length
    (by decide) hValues
  rw [List.length_reverse] at hSize
  have hSign : ∀ size : Nat,
      (sign.apply size).natAbs = size := by
    intro size
    cases sign <;> simp [Sign.apply]
  have hSome : 0 < values.length := by
    cases hDigits <;> exact Nat.succ_pos _
  have hLength := (Nat.length_toDigits_le_iff (by decide)
    hSome).mpr hSize
  rw [isLong, hSign, decide_eq_false_iff_not, Nat.not_lt]
  exact hLength.trans hShort

end Numeral

end TextTemplate
