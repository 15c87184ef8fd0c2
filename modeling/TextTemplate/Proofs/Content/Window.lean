import Mathlib.Data.Nat.Basic
import Mathlib.Order.Basic
import TextTemplate.Proofs.Content.Scan

/-
  One scan of a window stands for the scans of its prefixes.

  The scan of a window and the check for completeness look
  at the bytes of the window only.  The scan of a prefix
  ends where the scan of the window ends, or at the end of
  the prefix.

  Main declarations:
    * `Content.le_scan_iff_and`
    * `Content.scan_extract`
    * `Content.scan_prefix_eq_min`
    * `Content.scan_literal_of_found`
    * `Content.scan_decides_prefixes`
-/

------------------------------------------------------------
-- Windows and Their Prefixes
------------------------------------------------------------

namespace TextTemplate

namespace Content

variable (content : Content)
variable (data : ByteArray)
variable {start size : Nat}

/-
  A scan reaches exactly the lengths in its window whose
  bytes are allowed.
-/
theorem le_scan_iff_and
    (hEnd : start + size ≤ data.size)
    (length : Nat) :
    length ≤ content.scan data start (start + size) ↔
      length ≤ size ∧
        content.allowsAll 0 false
          (bytes (data.extract start (start + length))) =
            true := by
  constructor
  · intro hScan
    have hLength :=
      Nat.le_trans hScan (scan_le content data start size)
    exact
      ⟨hLength,
        (le_scan_iff content data start size length hEnd
          hLength).mp hScan⟩
  · rintro ⟨hLength, hAllowed⟩
    exact (le_scan_iff content data start size length hEnd
      hLength).mpr hAllowed

/- The scan of a window depends on the window alone. -/
theorem scan_extract
    (hEnd : start + size ≤ data.size) :
    content.scan data start (start + size) =
      content.scan (data.extract start (start + size)) 0
        size := by
  have hSize :
      (data.extract start (start + size)).size = size := by
    rw [ByteArray.size_extract]
    omega
  apply eq_of_forall_le_iff
  intro length
  have hWhole :
      0 + size ≤ (data.extract start (start + size)).size := by
    omega
  have hAlone := le_scan_iff_and content
    (data.extract start (start + size)) hWhole length
  rw [Nat.zero_add, Nat.zero_add, ByteArray.extract_extract,
    Nat.add_zero] at hAlone
  rw [hAlone, le_scan_iff_and content data hEnd]
  apply and_congr_right
  intro hLength
  rw [Nat.min_eq_left (Nat.add_le_add_left hLength start)]

/-
  The scan of a prefix ends with the scan of the window or
  with the prefix.
-/
theorem scan_prefix_eq_min
    (hEnd : start + size ≤ data.size)
    {length : Nat}
    (hLength : length ≤ size) :
    content.scan data start (start + length) =
      min length
        (content.scan data start (start + size)) := by
  apply eq_of_forall_le_iff
  intro shorter
  rw [Nat.le_min, le_scan_iff_and content data hEnd,
    le_scan_iff_and content data (by omega), ← and_assoc]
  apply and_congr_left
  intro _
  omega

/- A literal that a window begins with is scanned whole. -/
theorem scan_literal_of_found
    {text : ByteArray}
    (hFits : text.size ≤ size)
    (hFound :
      data.extract start (start + text.size) = text) :
    (literal text).scan data start (start + size) =
      text.size := by
  rw [scan_literal_eq_scanFrom]
  exact scanFrom_of_standsAt hFound (Nat.zero_le _)
    (by omega) false

/-
  One scan of a window decides for all its prefixes.  It
  looks at the bytes of the window only and stays in it, and
  so does the check for completeness.  The scan of a prefix
  is the scan of the window, cut at the end of the prefix,
  and a prefix is of the kind of content just if the scan of
  the window covers it and it is complete.  A literal that
  the window begins with is covered as a whole.
-/
theorem scan_decides_prefixes
    (content : Content)
    (data : ByteArray)
    {start stop : Nat}
    (hWindow : start ≤ stop)
    (hEnd : stop ≤ data.size) :
    content.scan data start stop =
        content.scan (data.extract start stop) 0
          (stop - start) ∧
      content.complete data start stop =
        content.complete (data.extract start stop) 0
          (stop - start) ∧
      content.scan data start stop ≤ stop - start ∧
      (∀ length ≤ stop - start,
        content.scan data start (start + length) =
            min length (content.scan data start stop) ∧
          (content.accepts
              (data.extract start (start + length)) =
                true ↔
            length ≤ content.scan data start stop ∧
              content.complete data start
                (start + length) = true)) ∧
      ∀ text,
        content = .literal text →
        text.size ≤ stop - start →
        data.extract start (start + text.size) = text →
          content.scan data start stop = text.size := by
  obtain ⟨size, rfl⟩ := Nat.exists_eq_add_of_le hWindow
  rw [Nat.add_sub_cancel_left]
  refine ⟨?_, ?_, ?_, ?_, ?_⟩
  · exact scan_extract content data hEnd
  · exact complete_extract content data start size
  · exact scan_le content data start size
  · intro length hLength
    exact
      ⟨scan_prefix_eq_min content data hEnd hLength,
        accepts_extract_iff content data start size length
          hEnd hLength⟩
  · rintro text rfl hFits hFound
    exact scan_literal_of_found data hFits hFound

/-
  In `x-1.5.`, the scan after the letter ends at the second
  point.  A prefix that ends with the first point is a
  decimal number, the sign alone is not complete, and the
  whole window is not covered.
-/
theorem scan_decides_prefixes_second_point :
    let data : ByteArray :=
      ⟨#[0x78, 0x2D, 0x31, 0x2E, 0x35, 0x2E]⟩
    decimal.scan data 1 6 = 4 ∧
      decimal.scan data 1 (1 + 3) = 3 ∧
      decimal.accepts (data.extract 1 (1 + 3)) = true ∧
      ¬ decimal.accepts (data.extract 1 (1 + 1)) = true ∧
      ¬ decimal.accepts (data.extract 1 (1 + 5)) = true ∧
      (literal ⟨#[0x31, 0x2E]⟩).scan data 2 6 = 2 := by
  intro data
  have hDecides := scan_decides_prefixes decimal data
    (show 1 ≤ 6 by decide) (by decide)
  have hLiteral := scan_decides_prefixes
    (literal ⟨#[0x31, 0x2E]⟩) data (show 2 ≤ 6 by decide)
    (by decide)
  have hScan : decimal.scan data 1 6 = 4 := by decide
  rcases hDecides with ⟨_, _, _, hPrefixes, _⟩
  refine ⟨hScan, ?_, ?_, ?_, ?_, ?_⟩
  · rw [(hPrefixes 3 (by decide)).1, hScan]
    rfl
  · rw [(hPrefixes 3 (by decide)).2, hScan]
    decide
  · rw [(hPrefixes 1 (by decide)).2]
    decide
  · rw [(hPrefixes 5 (by decide)).2, hScan]
    decide
  · exact hLiteral.2.2.2.2 _ rfl (by decide) (by decide)

end Content

end TextTemplate
