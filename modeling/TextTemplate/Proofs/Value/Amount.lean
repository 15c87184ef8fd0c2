import Mathlib
import TextTemplate.Proofs.Value.Double
import TextTemplate.Proofs.Value.Strings

/-
  Numbers of JSON, read up to their end.

  A number is an integer or a floating-point number.  Its
  characters never end a value, and a floating-point number
  has one that an integer does not have.  So a number is told
  by its characters, and by any text that begins with them
  and goes on with an end.

  Main declarations:
    * `Json.AtEnd`
    * `Json.Amount`
    * `Json.Amount.chars_injective`
    * `Json.Amount.cut`
-/

------------------------------------------------------------
-- Ends
------------------------------------------------------------

namespace TextTemplate

namespace Json

/- Whether a character ends the value before it. -/
def isEnd
    (c : Char) : Bool :=
  c = ',' || c = ']' || c = '\x7d'

/- Whether a text begins with nothing that extends a value. -/
def AtEnd
    (text : List Char) : Prop :=
  ∀ c ∈ text.head?, isEnd c = true

theorem atEnd_nil :
    AtEnd [] := by
  simp [AtEnd]

/- A text without an end is read up to the next one. -/
theorem takeWhile_append_of_atEnd
    {text rest : List Char}
    (hText : ∀ c ∈ text, isEnd c = false)
    (hRest : AtEnd rest) :
    (text ++ rest).takeWhile (!isEnd ·) = text := by
  have hAll : ∀ c ∈ text, (!isEnd c) = true := by
    simpa using hText
  rw [List.takeWhile_append_of_pos hAll]
  cases rest with
  | nil => simp
  | cons c rest => simp [hRest c rfl]

/- Texts without an end are told by what goes on after them. -/
theorem cut_of_atEnd
    {text other rest rest' : List Char}
    (hText : ∀ c ∈ text, isEnd c = false)
    (hOther : ∀ c ∈ other, isEnd c = false)
    (hRest : AtEnd rest)
    (hRest' : AtEnd rest')
    (hSame : text ++ rest = other ++ rest') :
    text = other ∧ rest = rest' := by
  have hTaken := congrArg (List.takeWhile (!isEnd ·)) hSame
  rw [takeWhile_append_of_atEnd hText hRest,
    takeWhile_append_of_atEnd hOther hRest'] at hTaken
  subst hTaken
  exact ⟨rfl, List.append_cancel_left hSame⟩

end Json

end TextTemplate

------------------------------------------------------------
-- Numbers
------------------------------------------------------------

namespace TextTemplate

namespace Json

/- Whether a character belongs to an integer. -/
def inWhole
    (c : Char) : Bool :=
  c = '-' || c.isDigit

/- Whether a character belongs to a number. -/
def inNumber
    (c : Char) : Bool :=
  c.isAlphanum || c = '-' || c = '+' || c = '.'

/- A character of an integer belongs to a number. -/
theorem inNumber_of_inWhole
    {c : Char}
    (hc : inWhole c = true) :
    inNumber c = true := by
  simp only [inWhole, Bool.or_eq_true,
    decide_eq_true_eq] at hc
  rcases hc with rfl | hDigit
  · rfl
  · simp [inNumber, Char.isAlphanum, hDigit]

/- A character of a number does not end a value. -/
theorem isEnd_of_inNumber
    {c : Char}
    (hc : inNumber c = true) :
    isEnd c = false := by
  by_contra hEnd
  simp only [isEnd, Bool.or_eq_true, decide_eq_true_eq,
    Bool.not_eq_false] at hEnd
  rcases hEnd with (rfl | rfl) | rfl <;>
    exact absurd hc (by decide)

/- A character of a number is printable. -/
theorem printable_of_inNumber
    {c : Char}
    (hc : inNumber c = true) :
    Printable c := by
  simp only [inNumber, Bool.or_eq_true,
    decide_eq_true_eq] at hc
  rcases hc with ((hWord | rfl) | rfl) | rfl
  · simp only [Char.isAlphanum, Char.isAlpha, Char.isUpper,
      Char.isLower, Char.isDigit, Bool.or_eq_true,
      Bool.and_eq_true, decide_eq_true_eq, ge_iff_le,
      UInt32.le_iff_toNat_le] at hWord
    change
      (65 ≤ c.toNat ∧ c.toNat ≤ 90 ∨
          97 ≤ c.toNat ∧ c.toNat ≤ 122) ∨
        48 ≤ c.toNat ∧ c.toNat ≤ 57 at hWord
    rw [Printable]
    omega
  · decide
  · decide
  · decide

/- An integer is written with a sign and digits. -/
theorem inWhole_toString
    (value : Int) :
    ∀ c ∈ (toString value).toList, inWhole c = true := by
  have hDigits (size : Nat) :
      ∀ c ∈ size.repr.toList, inWhole c = true := by
    intro c hc
    rw [Nat.toList_repr] at hc
    have hDigit := Nat.isDigit_of_mem_toDigits
      (by decide) (by decide) hc
    simp [inWhole, hDigit]
  change ∀ c ∈ value.repr.toList, inWhole c = true
  rw [Int.repr_eq_if]
  split
  · exact hDigits _
  · rw [String.toList_append]
    rintro c hc
    rcases List.mem_append.mp hc with hSign | hc
    · obtain rfl : c = '-' := by
        simpa using hSign
      rfl
    · exact hDigits _ c hc

theorem inNumber_sign
    (negative : Bool) :
    ∀ c ∈ Double.sign negative, inNumber c = true := by
  cases negative with
  | false => exact List.forall_mem_nil _
  | true => exact List.forall_mem_singleton.mpr rfl

/- A floating-point number is written as a number. -/
theorem inNumber_json
    (value : Double) :
    ∀ c ∈ value.json, inNumber c = true := by
  cases value with
  | notANumber => exact List.all_eq_true.mp (by decide)
  | infinity negative =>
      exact List.forall_mem_append.mpr
        ⟨inNumber_sign negative,
          List.all_eq_true.mp (by decide)⟩
  | finite negative size =>
      refine List.forall_mem_append.mpr
        ⟨inNumber_sign negative, ?_⟩
      intro c hc
      rcases size.mem_chars hc with hDigit | hMark
      · exact inNumber_of_inWhole (by simp [inWhole, hDigit])
      · have hMarks :
            ['.', 'e', '+', '-'].all inNumber = true := by
          decide
        exact List.all_eq_true.mp hMarks c hMark

/- A floating-point number is not written as an integer. -/
theorem exists_not_inWhole
    (value : Double) :
    ∃ c ∈ value.json, inWhole c = false := by
  cases value with
  | notANumber => exact ⟨'N', List.mem_cons_self, rfl⟩
  | infinity negative =>
      exact ⟨'I', List.mem_append_right _ List.mem_cons_self,
        rfl⟩
  | finite negative size =>
      rcases size.mark_mem_chars with hMark | hMark
      · exact ⟨'.', List.mem_append_right _ hMark, rfl⟩
      · exact ⟨'e', List.mem_append_right _ hMark, rfl⟩

end Json

end TextTemplate

------------------------------------------------------------
-- Amounts
------------------------------------------------------------

namespace TextTemplate

namespace Json

/- An integer or a floating-point number. -/
inductive Amount where
  | whole (value : Int)
  | real (value : Double)

namespace Amount

/- The characters of a number. -/
def chars : Amount → List Char
  | .whole value => (toString value).toList
  | .real value => value.json

theorem inNumber_chars :
    ∀ amount : Amount, ∀ c ∈ amount.chars, inNumber c = true
  | .whole value => fun c hc =>
      inNumber_of_inWhole (inWhole_toString value c hc)
  | .real value => inNumber_json value

/- An integer is not written as a floating-point number. -/
theorem toString_ne_json
    (value : Int)
    (other : Double) :
    (toString value).toList ≠ other.json := by
  intro hSame
  rcases exists_not_inWhole other with ⟨c, hc, hNot⟩
  rw [← hSame] at hc
  rw [inWhole_toString value c hc] at hNot
  exact nomatch hNot

/- A number is told by its characters. -/
theorem chars_injective :
    Function.Injective chars := by
  intro amount other hSame
  cases amount with
  | whole value =>
      cases other with
      | whole value' =>
          exact congrArg whole
            (Int.repr_inj.mp (String.toList_inj.mp hSame))
      | real value' =>
          exact absurd hSame (toString_ne_json value value')
  | real value =>
      cases other with
      | whole value' =>
          exact absurd hSame.symm
            (toString_ne_json value' value)
      | real value' =>
          exact congrArg real (Double.json_injective hSame)

/- A number is read up to its end. -/
theorem cut
    {left right : Amount}
    {rest rest' : List Char}
    (hRest : AtEnd rest)
    (hRest' : AtEnd rest')
    (hText : left.chars ++ rest = right.chars ++ rest') :
    left = right ∧ rest = rest' := by
  have hOpen : ∀ amount : Amount,
      ∀ c ∈ amount.chars, isEnd c = false :=
    fun amount c hc =>
      isEnd_of_inNumber (amount.inNumber_chars c hc)
  rcases cut_of_atEnd (hOpen left) (hOpen right) hRest hRest'
      hText with
    ⟨hChars, hSame⟩
  exact ⟨chars_injective hChars, hSame⟩

/- Whether a character begins a number. -/
def isFirst
    (c : Char) : Bool :=
  inWhole c || c = 'N' || c = 'I'

/- A number begins with a sign, a digit or a word. -/
theorem exists_cons_chars :
    ∀ amount : Amount,
      ∃ c later, amount.chars = c :: later ∧
        isFirst c = true
  | .whole value => by
      have hWhole := inWhole_toString value
      have hSome : (toString value).toList ≠ [] := by
        change value.repr.toList ≠ []
        rw [Int.repr_eq_if]
        split <;> simp
      rcases List.exists_cons_of_ne_nil hSome with
        ⟨c, later, hChars⟩
      rw [hChars] at hWhole
      have hFirst := hWhole c List.mem_cons_self
      exact ⟨c, later, hChars, by simp [isFirst, hFirst]⟩
  | .real .notANumber => ⟨_, _, rfl, rfl⟩
  | .real (.infinity true) => ⟨_, _, rfl, rfl⟩
  | .real (.infinity false) => ⟨_, _, rfl, rfl⟩
  | .real (.finite true size) => ⟨_, _, rfl, rfl⟩
  | .real (.finite false size) => by
      rcases size.exists_cons_chars with
        ⟨c, later, hChars, hDigit⟩
      exact ⟨c, later, hChars, by
        simp [isFirst, inWhole, hDigit]⟩

end Amount

end Json

end TextTemplate
