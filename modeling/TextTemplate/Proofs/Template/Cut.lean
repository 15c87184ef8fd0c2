import Mathlib.Data.List.Forall2
import TextTemplate.Proofs.Search.Decomposition
import TextTemplate.Proofs.Template.Reading
import TextTemplate.Proofs.Text.Boundary

/-
  How a text is cut into one text for each part of a
  template.

  A literal part takes its own segment, and a token takes a
  text of its type and length.  When all tokens are named,
  the decompositions of an encoded text are its cuts into
  texts that the parts take.

  Main declarations:
    * `Part.Takes`
    * `Part.Fillable`
    * `Part.Fillable.admits_iff_takes`
    * `decomposes_iff_cut`
-/

------------------------------------------------------------
-- Taken Texts
------------------------------------------------------------

namespace TextTemplate

namespace Part

/- Whether a part takes a text. -/
def Takes
    (part : Part)
    (text : String) : Prop :=
  match part.piece.name with
  | .anonymous => text = part.segment
  | .named _ =>
      part.piece.content.accepts (Utf8.encode text) = true ∧
        ∀ size, part.piece.length = .exact size →
          ((Utf8.encode text).size : Int) = size

/-
  Whether a part is a literal or a named token, with any
  length or with an exact one.
-/
inductive Fillable
    (part : Part) : Prop where
  | literal
      (hPiece :
        part.piece = .literal (Utf8.encode part.segment)) :
      Fillable part
  | free
      (name : String)
      (hName : part.piece.name = .named name)
      (hLength : part.piece.length = .all) :
      Fillable part
  | sized
      (name : String)
      (size : Nat)
      (hName : part.piece.name = .named name)
      (hLength : part.piece.length = .exact size) :
      Fillable part

end Part

/- The length of a token is an exact one. -/
theorem Token.exact_of_length
    {text : List Char}
    {interval : Interval}
    (hLength : Token.length text = .ok interval) :
    ∃ size : Nat, interval = .exact size := by
  unfold Token.length at hLength
  split at hLength
  · exact nomatch hLength
  · split at hLength
    · exact nomatch hLength
    · exact ⟨_, (Except.ok.inj hLength).symm⟩

/- A token has any length or an exact one. -/
theorem Token.length_of_piece
    {token : List Char}
    {piece : Piece}
    (hPiece : Token.piece token = .ok piece) :
    piece.length = .all ∨
      ∃ size : Nat, piece.length = .exact size := by
  unfold Token.piece at hPiece
  split at hPiece
  · obtain rfl := Except.ok.inj hPiece
    exact Or.inl rfl
  · rename_i name code _
    cases hContent : content code with
    | error error =>
        rw [hContent] at hPiece
        exact nomatch hPiece
    | ok content =>
        rw [hContent] at hPiece
        obtain rfl := Except.ok.inj hPiece
        exact Or.inl rfl
  · rename_i name code size _
    cases hContent : content code with
    | error error =>
        rw [hContent] at hPiece
        exact nomatch hPiece
    | ok content =>
        cases hLength : length size with
        | error error =>
            rw [hContent, hLength] at hPiece
            exact nomatch hPiece
        | ok interval =>
            rw [hContent, hLength] at hPiece
            obtain rfl := Except.ok.inj hPiece
            exact Or.inr (exact_of_length hLength)
  · exact nomatch hPiece

namespace Part

/- Genuine parts are fillable if no token is anonymous. -/
theorem Genuine.fillable
    {part : Part}
    (hGenuine : part.Genuine)
    (hNamed :
      part.isToken = true →
        part.piece.isAnonymous = false) :
    part.Fillable := by
  cases hToken : part.isToken with
  | false => exact .literal (hGenuine.literal hToken)
  | true =>
      have hPiece := hGenuine.token hToken
      cases hName : part.piece.name with
      | anonymous =>
          have hOther := hNamed hToken
          rw [Piece.isAnonymous, hName] at hOther
          exact nomatch hOther
      | named name =>
          rcases Token.length_of_piece hPiece with
            hAll | ⟨size, hExact⟩
          · exact .free name hName hAll
          · exact .sized name size hName hExact

end Part

namespace Piece

/- An exact length is the only one in view. -/
theorem lengths_of_exact
    {piece : Piece}
    {size : Int}
    (hLength : piece.length = .exact size)
    (remaining : Int) :
    piece.leastLength = size ∧
      piece.greatestLength remaining = size := by
  rw [Piece.leastLength, Piece.greatestLength, hLength]
  exact ⟨rfl, rfl⟩

/-
  The beginning of what remains is admitted when its length
  is allowed and its bytes are accepted.
-/
theorem admits_iff_accepts
    (piece : Piece)
    {data : ByteArray}
    {offset : Nat}
    {first rest : String}
    (hRemains :
      Utf8.Remains data offset (first ++ rest)) :
    piece.Admits data offset (Utf8.encode first).size ↔
      (0 ≤ piece.leastLength ∧
        piece.leastLength ≤ (Utf8.encode first).size ∧
        ((Utf8.encode first).size : Int) ≤
          piece.greatestLength (data.size - offset) ∧
        piece.greatestLength (data.size - offset) ≤
          data.size - offset) ∧
      piece.content.accepts (Utf8.encode first) = true := by
  have hExtract := hRemains.extract_first
  constructor
  · intro hAdmits
    have hAccepts := hAdmits.accepts
    rw [hExtract] at hAccepts
    exact
      ⟨⟨hAdmits.least_nonneg, hAdmits.least_le,
        hAdmits.le_greatest, hAdmits.greatest_le⟩, hAccepts⟩
  · rintro ⟨⟨hNonneg, hLeast, hGreatest, hRemaining⟩,
      hAccepts⟩
    rw [← hExtract] at hAccepts
    exact
      ⟨hNonneg, hLeast, hGreatest, hRemaining, hAccepts,
        fun _ => ⟨hRemains.boundary, hRemains.rest.boundary⟩⟩

end Piece

namespace Part

/- What a fillable part takes is what its piece admits. -/
theorem Fillable.admits_iff_takes
    {part : Part}
    (hFillable : part.Fillable)
    {data : ByteArray}
    {offset : Nat}
    {first rest : String}
    (hRemains :
      Utf8.Remains data offset (first ++ rest)) :
    part.piece.Admits data offset (Utf8.encode first).size ↔
      part.Takes first := by
  have hSize := hRemains.rest.le_size
  rw [part.piece.admits_iff_accepts hRemains]
  unfold Takes
  cases hFillable with
  | literal hPiece =>
      have hLengths := Piece.lengths_of_exact
        (congrArg Piece.length hPiece)
        (data.size - offset)
      rw [hPiece] at hLengths ⊢
      simp only [Piece.literal, Content.accepts,
        decide_eq_true_eq, Utf8.encode_inj] at hLengths ⊢
      constructor
      · intro hAdmits
        exact hAdmits.2
      · intro hText
        subst hText
        refine ⟨?_, rfl⟩
        omega
  | free name hName hLength =>
      have hLeast : part.piece.leastLength = 0 := by
        rw [Piece.leastLength, hLength]
        rfl
      have hGreatest :
          part.piece.greatestLength (data.size - offset) =
            data.size - offset := by
        rw [Piece.greatestLength, hLength]
        rfl
      rw [hName]
      constructor
      · intro hAdmits
        refine ⟨hAdmits.2, ?_⟩
        intro size hExact
        rw [hLength] at hExact
        cases congrArg Interval.low hExact
      · intro hTakes
        refine ⟨?_, hTakes.1⟩
        omega
  | sized name size hName hLength =>
      have hLengths := Piece.lengths_of_exact hLength
        (data.size - offset)
      rw [hName]
      constructor
      · intro hAdmits
        refine ⟨hAdmits.2, ?_⟩
        intro other hExact
        have hOther := Piece.lengths_of_exact hExact
          (data.size - offset)
        omega
      · intro hTakes
        have hExact := hTakes.2 size hLength
        refine ⟨?_, hTakes.1⟩
        omega

end Part

end TextTemplate

------------------------------------------------------------
-- Cuts
------------------------------------------------------------

namespace TextTemplate

/- A segment that a part admits is a text. -/
theorem Part.Fillable.split_of_admits
    {part : Part}
    (hFillable : part.Fillable)
    {data : ByteArray}
    {offset length : Nat}
    {text : String}
    (hRemains : Utf8.Remains data offset text)
    (hAdmits : part.piece.Admits data offset length) :
    ∃ first rest,
      text = first ++ rest ∧
        (Utf8.encode first).size = length := by
  have hEnd := hAdmits.le_size
  have hNamed :
      ∀ name, part.piece.name = .named name →
        Utf8.isBoundary data (offset + length) = true := by
    intro name hName
    apply (hAdmits.uncut _).2
    rw [Piece.isAnonymous, hName]
    rfl
  cases hFillable with
  | literal hPiece =>
      have hAccepts := hAdmits.accepts
      rw [hPiece, Piece.literal, Content.accepts,
        decide_eq_true_eq] at hAccepts
      rcases hRemains.split_of_extract hEnd hAccepts with
        ⟨rest, hText⟩
      refine ⟨part.segment, rest, hText, ?_⟩
      rw [← hAccepts, ByteArray.size_extract]
      omega
  | free name hName _ =>
      exact hRemains.split hEnd (hNamed name hName)
  | sized name _ hName _ =>
      exact hRemains.split hEnd (hNamed name hName)

/-
  The decompositions of an encoded text are its cuts into
  texts that the parts take.
-/
theorem decomposes_iff_cut
    {parts : List Part}
    (hFillable : ∀ part ∈ parts, part.Fillable)
    {data : ByteArray}
    {offset : Nat}
    {text : String}
    (hRemains : Utf8.Remains data offset text)
    {lengths : List Nat} :
    Decomposes data (parts.map Part.piece) offset lengths ↔
      ∃ cuts,
        List.Forall₂ Part.Takes parts cuts ∧
          String.join cuts = text ∧
          cuts.map (fun cut => (Utf8.encode cut).size) =
            lengths := by
  induction parts generalizing offset text lengths with
  | nil =>
      have hSize := hRemains.size_eq
      rw [List.map_nil, decomposes_nil]
      constructor
      · intro hEnd
        have hEmpty : (Utf8.encode text).size = 0 := by
          omega
        rw [Utf8.size_encode_eq_zero_iff] at hEmpty
        exact ⟨[], .nil, hEmpty.symm, hEnd.1.symm⟩
      · intro hCut
        rcases hCut with ⟨cuts, hTakes, hText, hLengths⟩
        cases hTakes
        subst hText
        exact ⟨hLengths.symm, hSize⟩
  | cons part later ih =>
      have hPart := hFillable part List.mem_cons_self
      have hLater :
          ∀ part ∈ later, part.Fillable := by
        intro part hMem
        exact hFillable part (List.mem_cons_of_mem _ hMem)
      rw [List.map_cons]
      constructor
      · intro hDecomposes
        cases lengths with
        | nil =>
            exact absurd hDecomposes not_decomposes_cons_nil
        | cons length lengths =>
            rcases decomposes_cons.mp hDecomposes with
              ⟨hAdmits, hRest⟩
            rcases hPart.split_of_admits hRemains hAdmits
              with ⟨first, rest, hText, hLength⟩
            subst hText
            subst hLength
            have hTakes :=
              (hPart.admits_iff_takes hRemains).mp hAdmits
            rcases (ih hLater hRemains.rest).mp hRest with
              ⟨cuts, hCuts, hJoin, hLengths⟩
            refine ⟨first :: cuts, .cons hTakes hCuts, ?_, ?_⟩
            · rw [String.join_cons, hJoin]
            · rw [List.map_cons, hLengths]
      · intro hCut
        rcases hCut with ⟨cuts, hCuts, hText, hLengths⟩
        cases hCuts with
        | @cons _ first _ cuts hTakes hCuts =>
            rw [String.join_cons] at hText
            subst hText
            rw [← hLengths, List.map_cons, decomposes_cons]
            refine
              ⟨(hPart.admits_iff_takes hRemains).mpr hTakes,
                ?_⟩
            exact (ih hLater hRemains.rest).mpr
              ⟨cuts, hCuts, rfl, rfl⟩

end TextTemplate
