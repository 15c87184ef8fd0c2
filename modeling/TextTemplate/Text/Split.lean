/-
  Cutting a text at every occurrence of a separator.

  The parts hold no separator, and putting the separator
  back between them gives the text again:
    * `Split.join_parts`
-/

------------------------------------------------------------
-- Parts
------------------------------------------------------------

namespace TextTemplate

namespace Split

/- The parts of a text between separators. -/
def parts
    (separator : Char) : List Char → List (List Char)
  | [] => [[]]
  | c :: rest =>
      if c = separator then
        [] :: parts separator rest
      else
        match parts separator rest with
        | [] => [[c]]
        | part :: later => (c :: part) :: later

/- The text with a separator between each two parts. -/
def join
    (separator : Char) : List (List Char) → List Char
  | [] => []
  | [part] => part
  | part :: later =>
      part ++ separator :: join separator later

end Split

end TextTemplate

------------------------------------------------------------
-- Laws
------------------------------------------------------------

namespace TextTemplate

namespace Split

/- A text has at least one part. -/
theorem parts_ne_nil
    (separator : Char)
    (text : List Char) :
    parts separator text ≠ [] := by
  cases text with
  | nil => simp [parts]
  | cons c rest =>
      simp only [parts]
      split
      · simp
      · split <;> simp

/- Joining the parts gives the text. -/
theorem join_parts
    (separator : Char)
    (text : List Char) :
    join separator (parts separator text) = text := by
  induction text with
  | nil => rfl
  | cons c rest ih =>
      have hParts := parts_ne_nil separator rest
      simp only [parts]
      by_cases hc : c = separator
      · cases hRest : parts separator rest with
        | nil => exact absurd hRest hParts
        | cons part later =>
            simp [hc, join, ← hRest, ih]
      · cases hRest : parts separator rest with
        | nil => exact absurd hRest hParts
        | cons part later =>
            rw [hRest] at ih
            cases later with
            | nil => simpa [hc, join] using ih
            | cons next later =>
                simpa [hc, join] using ih

/- A part holds no separator. -/
theorem not_mem_of_mem_parts
    {separator : Char}
    {text part : List Char}
    (hPart : part ∈ parts separator text) :
    separator ∉ part := by
  induction text generalizing part with
  | nil =>
      simp [parts] at hPart
      simp [hPart]
  | cons c rest ih =>
      simp only [parts] at hPart
      by_cases hc : c = separator
      · simp only [hc, if_true, List.mem_cons] at hPart
        rcases hPart with hPart | hPart
        · simp [hPart]
        · exact ih hPart
      · cases hRest : parts separator rest with
        | nil =>
            exact absurd hRest (parts_ne_nil _ _)
        | cons first later =>
            simp only [hc, if_false, hRest,
              List.mem_cons] at hPart
            rcases hPart with hPart | hPart
            · have hFirst : separator ∉ first :=
                ih (by simp [hRest])
              simp [hPart, hFirst, Ne.symm hc]
            · exact ih (by simp [hRest, hPart])

/- A part is made of characters of the text. -/
theorem subset_of_mem_parts
    {separator : Char}
    {text part : List Char}
    (hPart : part ∈ parts separator text) :
    part ⊆ text := by
  induction text generalizing part with
  | nil => simp_all [parts]
  | cons c rest ih =>
      simp only [parts] at hPart
      split at hPart
      · rcases List.mem_cons.mp hPart with rfl | hPart
        · exact List.nil_subset _
        · exact List.subset_cons_of_subset c (ih hPart)
      · split at hPart
        · rename_i hRest
          exact absurd hRest (parts_ne_nil _ _)
        · rename_i first later hRest
          rw [hRest] at ih
          rcases List.mem_cons.mp hPart with rfl | hPart
          · exact List.cons_subset_cons c
              (ih List.mem_cons_self)
          · exact List.subset_cons_of_subset c
              (ih (List.mem_cons_of_mem _ hPart))

/- A text without separators is its only part. -/
theorem parts_of_not_mem
    {separator : Char}
    {text : List Char}
    (hText : separator ∉ text) :
    parts separator text = [text] := by
  induction text with
  | nil => rfl
  | cons c rest ih =>
      simp only [List.mem_cons, not_or] at hText
      simp [parts, Ne.symm hText.1, ih hText.2]

/- A first part without separators is found as it is. -/
theorem parts_append
    {separator : Char}
    {part : List Char}
    (hPart : separator ∉ part)
    (rest : List Char) :
    parts separator (part ++ separator :: rest) =
      part :: parts separator rest := by
  induction part with
  | nil => simp [parts]
  | cons c part ih =>
      simp only [List.mem_cons, not_or] at hPart
      simp [parts, Ne.symm hPart.1, ih hPart.2]

/- Lines without line ends are found again in their text. -/
theorem parts_lines
    {lines : List String}
    (hLines : ∀ line ∈ lines, '\n' ∉ line.toList) :
    parts '\n' (String.join (lines.map (· ++ "\n"))).toList =
      lines.map String.toList ++ [[]] := by
  induction lines with
  | nil => rfl
  | cons line later ih =>
      rcases List.forall_mem_cons.mp hLines with
        ⟨hLine, hLater⟩
      have hText : ("\n" : String).toList = ['\n'] := by
        decide +kernel
      rw [List.map_cons, String.join_cons,
        String.toList_append, String.toList_append, hText,
        List.append_assoc, List.singleton_append,
        parts_append hLine, ih hLater]
      rfl

end Split

end TextTemplate
