import Mathlib.Tactic.SplitIfs
import TextTemplate.Proofs.Text.Units
import TextTemplate.Value.Json

/-
  Strings of JSON, read back.

  A UTF-16 unit of a text is written as its character, as a
  letter after a backslash, or in hexadecimal.  Each form is
  read back as the unit, so a string tells the units of its
  text and where it ends, and all forms are made of printable
  ASCII.

  Main declarations:
    * `Json.readEscape`
    * `Json.string_cut`
    * `Json.printable_string`
-/

------------------------------------------------------------
-- Hexadecimal Units
------------------------------------------------------------

namespace TextTemplate

namespace Json

/- The value of a hexadecimal digit. -/
def digitValue
    (c : Char) : Nat :=
  "0123456789abcdef".toList.idxOf c

theorem hexDigit_mod
    (value : Nat) :
    Quoted.hexDigit (value % 16) = Quoted.hexDigit value := by
  rw [Quoted.hexDigit, Quoted.hexDigit, Nat.mod_mod]

/- A hexadecimal digit is read as its value. -/
theorem digitValue_hexDigit
    (value : Nat) :
    digitValue (Quoted.hexDigit value) = value % 16 := by
  have hDigits :
      ∀ digit < 16,
        digitValue (Quoted.hexDigit digit) = digit := by
    decide
  rw [← hexDigit_mod]
  exact hDigits (value % 16) (Nat.mod_lt _ (by decide))

/- Read four hexadecimal digits. -/
def readHex
    (a b c d : Char) : Nat :=
  0x1000 * digitValue a + 0x100 * digitValue b +
    0x10 * digitValue c + digitValue d

/- The digits of a unit are read as the unit. -/
theorem readHex_hexDigit
    {code : Nat}
    (hCode : code < 0x10000) :
    readHex (Quoted.hexDigit (code / 0x1000))
        (Quoted.hexDigit (code / 0x100))
        (Quoted.hexDigit (code / 0x10))
        (Quoted.hexDigit code) =
      code := by
  simp only [readHex, digitValue_hexDigit]
  omega

end Json

end TextTemplate

------------------------------------------------------------
-- Strings
------------------------------------------------------------

namespace TextTemplate

namespace Json

/- The unit that a letter after a backslash stands for. -/
def short? : Char → Option Nat
  | '"' => some 0x22
  | '\\' => some 0x5C
  | 'n' => some 0x0A
  | 'r' => some 0x0D
  | 't' => some 0x09
  | 'f' => some 0x0C
  | 'b' => some 0x08
  | _ => none

/- Read a unit of a string. -/
def readEscape : List Char → Option (Nat × List Char)
  | '\\' :: 'u' :: a :: b :: c :: d :: rest =>
      some (readHex a b c d, rest)
  | '\\' :: letter :: rest =>
      (short? letter).map fun code => (code, rest)
  | c :: rest => some (c.toNat, rest)
  | [] => none

/- A character of ASCII has its unit for a number. -/
theorem toNat_ofNat_plain
    {code : Nat}
    (hPlain : code ≤ 0x7E) :
    (Char.ofNat code).toNat = code := by
  refine CodePoint.toNat_ofNat (.inl ?_)
  unfold CodePoint.firstHalf
  omega

/- A plain character is read as its unit. -/
theorem readEscape_plain
    {c : Char}
    (hSlash : c ≠ '\\')
    (rest : List Char) :
    readEscape (c :: rest) = some (c.toNat, rest) := by
  rw [readEscape.eq_def]
  split <;> simp_all

/- A unit of a string is read back. -/
theorem readEscape_append
    {code : Nat}
    (hCode : code < 0x10000)
    (rest : List Char) :
    readEscape (escape code ++ rest) = some (code, rest) := by
  unfold escape
  split_ifs with hMark hSlash hLine hReturn hTab hFeed hBack
    hPlain
  all_goals try subst code
  all_goals try rfl
  · rw [Bool.and_eq_true, decide_eq_true_eq,
      decide_eq_true_eq] at hPlain
    have hUnit := toNat_ofNat_plain hPlain.2
    have hChar : Char.ofNat code ≠ '\\' := by
      intro hSame
      rw [hSame] at hUnit
      exact hSlash hUnit.symm
    rw [List.cons_append, readEscape_plain hChar, hUnit]
    rfl
  · rw [Quoted.hexUnit]
    simp only [List.cons_append, List.nil_append, readEscape,
      readHex_hexDigit hCode]

/- A unit of a string does not begin with a mark. -/
theorem escape_ne_mark
    {code : Nat}
    (hCode : code < 0x10000)
    (later rest : List Char) :
    escape code ++ later ≠ '"' :: rest := by
  intro hText
  have hRead := readEscape_append hCode later
  rw [hText, readEscape_plain (by decide)] at hRead
  obtain ⟨rfl, rfl⟩ := Prod.mk.inj (Option.some.inj hRead)
  exact nomatch hText

/- The units of a string are read up to its end. -/
theorem flatMap_escape_cut
    {left right : List Nat}
    {rest rest' : List Char}
    (hLeft : ∀ code ∈ left, code < 0x10000)
    (hRight : ∀ code ∈ right, code < 0x10000)
    (hText :
      left.flatMap escape ++ '"' :: rest =
        right.flatMap escape ++ '"' :: rest') :
    left = right ∧ rest = rest' := by
  induction left generalizing right with
  | nil =>
      cases right with
      | nil => exact ⟨rfl, (List.cons.inj hText).2⟩
      | cons code right =>
          have hCode := hRight code List.mem_cons_self
          rw [List.flatMap_cons, List.append_assoc] at hText
          exact absurd hText.symm
            (escape_ne_mark hCode _ rest)
  | cons code left ih =>
      rcases List.forall_mem_cons.mp hLeft with
        ⟨hCode, hLater⟩
      cases right with
      | nil =>
          rw [List.flatMap_cons, List.append_assoc] at hText
          exact absurd hText (escape_ne_mark hCode _ rest')
      | cons code' right =>
          rcases List.forall_mem_cons.mp hRight with
            ⟨hCode', hLater'⟩
          have hRead := congrArg readEscape hText
          simp only [List.flatMap_cons, List.append_assoc,
            readEscape_append hCode, readEscape_append hCode',
            Option.some.injEq, Prod.mk.injEq] at hRead
          rcases hRead with ⟨rfl, hRest⟩
          rcases ih hLater hLater' hRest with ⟨rfl, hSame⟩
          exact ⟨rfl, hSame⟩

/- A string is read up to its end. -/
theorem string_cut
    {left right : LooseText}
    {rest rest' : List Char}
    (hText : string left ++ rest = string right ++ rest') :
    left.joined = right.joined ∧ rest = rest' := by
  simp only [string, List.cons_append, List.append_assoc,
    List.nil_append, List.cons.injEq, true_and] at hText
  rcases flatMap_escape_cut left.units_lt right.units_lt
      hText with
    ⟨hUnits, hRest⟩
  exact ⟨LooseText.joined_eq_iff.mpr hUnits, hRest⟩

/- Joining pairs does not change the string of a text. -/
theorem string_joined
    (text : LooseText) :
    string text.joined = string text := by
  rw [string, text.units_joined, string]

end Json

end TextTemplate

------------------------------------------------------------
-- Printable Characters
------------------------------------------------------------

namespace TextTemplate

namespace Json

/- Whether a character is a printable one of ASCII. -/
def Printable
    (c : Char) : Prop :=
  0x20 ≤ c.toNat ∧ c.toNat ≤ 0x7E

instance
    (c : Char) : Decidable (Printable c) := by
  unfold Printable
  infer_instance

theorem printable_hexDigit
    (value : Nat) :
    Printable (Quoted.hexDigit value) := by
  have hDigits :
      ∀ digit < 16, Printable (Quoted.hexDigit digit) := by
    decide
  rw [← hexDigit_mod]
  exact hDigits (value % 16) (Nat.mod_lt _ (by decide))

theorem printable_hexUnit
    (code : Nat) :
    ∀ c ∈ Quoted.hexUnit code, Printable c := by
  simp only [Quoted.hexUnit, List.forall_mem_cons,
    List.not_mem_nil, false_implies, implies_true, and_true,
    printable_hexDigit]
  decide

theorem printable_escape
    (code : Nat) :
    ∀ c ∈ escape code, Printable c := by
  unfold escape
  split_ifs with hMark hSlash hLine hReturn hTab hFeed hBack
    hPlain
  -- all short forms have two printable characters
  iterate 7 · simp [Printable]
  · rw [Bool.and_eq_true, decide_eq_true_eq,
      decide_eq_true_eq] at hPlain
    rw [List.forall_mem_singleton, Printable,
      toNat_ofNat_plain hPlain.2]
    exact hPlain
  · exact printable_hexUnit code

/- A string is made of printable characters. -/
theorem printable_string
    (text : LooseText) :
    ∀ c ∈ string text, Printable c := by
  intro c hc
  simp only [string, List.mem_cons, List.mem_append,
    List.cons_append, List.mem_flatMap, List.not_mem_nil,
    or_false] at hc
  rcases hc with rfl | ⟨code, _, hc⟩ | rfl
  · decide
  · exact printable_escape code c hc
  · decide

/- A line of printable ASCII does not hold a line end. -/
theorem lineEnd_not_mem
    {line : List Char}
    (hLine : ∀ c ∈ line, Json.Printable c) :
    '\n' ∉ line := by
  intro hEnd
  have hPrintable := hLine _ hEnd
  simp [Json.Printable] at hPrintable

end Json

end TextTemplate
