import TextTemplate.Proofs.Value.Amount

/-
  What JSON tells of a value.

  The JSON of a value is one line of printable ASCII.  It
  determines the value up to its written form.  In that form
  bytes and objects are the text of their quoted form, a
  custom value is the value that it stands for, a tuple is a
  list, each key is the text that names it, and in a text the
  pairs of halves are joined.

  Main declarations:
    * `Value.written`
    * `Value.jsonChars_cut`
    * `Value.json_eq_iff`
    * `Value.printable_json`
-/

------------------------------------------------------------
-- Sequences
------------------------------------------------------------

namespace TextTemplate

namespace Json

/- What follows a part of a sequence, up to a closing mark. -/
def continued
    (close : Char)
    (later : List (List Char))
    (rest : List Char) : List Char :=
  match later with
  | [] => close :: rest
  | later => ',' :: ' ' :: separated later ++ close :: rest

theorem separated_cons_cons
    (part next : List Char)
    (later : List (List Char)) :
    separated (part :: next :: later) =
      part ++ ',' :: ' ' :: separated (next :: later) :=
  rfl

/- A sequence is its first part and what follows it. -/
theorem separated_cons
    (part : List Char)
    (later : List (List Char))
    (close : Char)
    (rest : List Char) :
    separated (part :: later) ++ close :: rest =
      part ++ continued close later rest := by
  cases later with
  | nil => rfl
  | cons next later =>
      simp [separated_cons_cons, continued]

/- A part of a sequence ends before what follows it. -/
theorem atEnd_continued
    {close : Char}
    (hClose : close = ']' ∨ close = '\x7d')
    (later : List (List Char))
    (rest : List Char) :
    AtEnd (continued close later rest) := by
  cases later with
  | nil =>
      rcases hClose with rfl | rfl <;>
        simp [continued, AtEnd, isEnd]
  | cons next later => simp [continued, AtEnd, isEnd]

/- What follows a part determines the later parts. -/
theorem separated_of_continued
    {close : Char}
    (hClose : close ≠ ',')
    {later later' : List (List Char)}
    {rest rest' : List Char}
    (hText :
      continued close later rest =
        continued close later' rest') :
    separated later ++ close :: rest =
      separated later' ++ close :: rest' := by
  cases later with
  | nil =>
      cases later' with
      | nil => exact hText
      | cons next later' =>
          exact absurd (List.cons.inj hText).1 hClose
  | cons next later =>
      cases later' with
      | nil => exact absurd (List.cons.inj hText).1.symm hClose
      | cons next' later' =>
          exact (List.cons.inj (List.cons.inj hText).2).2

end Json

end TextTemplate

------------------------------------------------------------
-- Written Forms
------------------------------------------------------------

namespace TextTemplate

namespace Value

mutual

/-
  The value that is written for a value.  It holds numbers,
  texts with their pairs joined, lists and records only.
-/
def written : Value → Value
  | .count value => .number value
  | .text value => .text value.joined
  | .bytes value => .text (Quoted.bytes value)
  | .object quoted => .text quoted.joined
  | .list items => .list (writtenItems items)
  | .tuple items => .list (writtenItems items)
  | .record entries => .record (writtenEntries entries)
  | .custom form => written form
  | value => value

/- The written forms of the items of a list. -/
def writtenItems : List Value → List Value
  | [] => []
  | item :: later => written item :: writtenItems later

/-
  The written forms of the entries of a record, under the
  texts that name their keys.
-/
def writtenEntries :
    List (Key × Value) → List (Key × Value)
  | [] => []
  | (key, value) :: later =>
      (.text key.name.joined, written value) ::
        writtenEntries later

end

/- What the first character of a value tells of it. -/
inductive Kind where
  | null
  | yes
  | no
  | number
  | text
  | list
  | record

/- The kind of a value. -/
def kind : Value → Kind
  | .null => .null
  | .bool true => .yes
  | .bool false => .no
  | .number _ => .number
  | .count _ => .number
  | .float _ => .number
  | .text _ => .text
  | .bytes _ => .text
  | .object _ => .text
  | .list _ => .list
  | .tuple _ => .list
  | .record _ => .record
  | .custom form => form.kind

/- The kind of the values that begin with a character. -/
def Kind.ofChar?
    (c : Char) : Option Kind :=
  match c with
  | 'n' => some .null
  | 't' => some .yes
  | 'f' => some .no
  | '"' => some .text
  | '[' => some .list
  | '\x7b' => some .record
  | c =>
      if Json.Amount.isFirst c then some .number else none

/- The first character of a number begins a number. -/
theorem Kind.ofChar?_of_isFirst
    {c : Char}
    (hc : Json.Amount.isFirst c = true) :
    Kind.ofChar? c = some .number := by
  unfold Kind.ofChar?
  split
  all_goals try exact absurd hc (by decide)
  exact if_pos hc

/- The value that is a number. -/
def ofAmount : Json.Amount → Value
  | .whole value => .number value
  | .real value => .float value

/- A number is written as its characters. -/
theorem jsonChars_ofAmount
    (amount : Json.Amount) :
    (ofAmount amount).jsonChars = amount.chars := by
  cases amount <;> rfl

/- A number begins with a character of its kind. -/
theorem head_amount
    (amount : Json.Amount) :
    ∃ c later, amount.chars = c :: later ∧
      Kind.ofChar? c = some .number := by
  rcases amount.exists_cons_chars with
    ⟨c, later, hChars, hFirst⟩
  exact ⟨c, later, hChars, Kind.ofChar?_of_isFirst hFirst⟩

/- A value begins with a character of its kind. -/
theorem head_jsonChars :
    ∀ value : Value,
      ∃ c later, value.jsonChars = c :: later ∧
        Kind.ofChar? c = some value.kind
  | .null => ⟨_, _, rfl, rfl⟩
  | .bool true => ⟨_, _, rfl, rfl⟩
  | .bool false => ⟨_, _, rfl, rfl⟩
  | .number value => head_amount (.whole value)
  | .count value => head_amount (.whole value)
  | .float value => head_amount (.real value)
  | .text _ => ⟨_, _, rfl, rfl⟩
  | .bytes _ => ⟨_, _, rfl, rfl⟩
  | .object _ => ⟨_, _, rfl, rfl⟩
  | .list _ => ⟨_, _, rfl, rfl⟩
  | .tuple _ => ⟨_, _, rfl, rfl⟩
  | .record _ => ⟨_, _, rfl, rfl⟩
  | .custom form => head_jsonChars form

/- Whether a written form is one of a kind. -/
def Kind.Shows : Kind → Value → Prop
  | .null, form => form = .null
  | .yes, form => form = .bool true
  | .no, form => form = .bool false
  | .number, form => ∃ amount, form = ofAmount amount
  | .text, form =>
      ∃ content : LooseText, form = .text content.joined
  | .list, form =>
      ∃ items, form = .list (writtenItems items)
  | .record, form =>
      ∃ entries, form = .record (writtenEntries entries)

/- The written form of a value is one of its kind. -/
theorem shows_written :
    ∀ value : Value, value.kind.Shows value.written
  | .null => rfl
  | .bool true => rfl
  | .bool false => rfl
  | .number value => ⟨.whole value, rfl⟩
  | .count value => ⟨.whole value, rfl⟩
  | .float value => ⟨.real value, rfl⟩
  | .text content => ⟨content, rfl⟩
  | .bytes data => ⟨Quoted.bytes data, by
      rw [written, LooseText.joined_ofString]⟩
  | .object quoted => ⟨quoted, rfl⟩
  | .list items => ⟨items, rfl⟩
  | .tuple items => ⟨items, rfl⟩
  | .record entries => ⟨entries, rfl⟩
  | .custom form => shows_written form

mutual

/- A value has the JSON of its written form. -/
theorem jsonChars_written :
    ∀ value : Value,
      value.written.jsonChars = value.jsonChars
  | .null => rfl
  | .bool _ => rfl
  | .number _ => rfl
  | .count _ => rfl
  | .float _ => rfl
  | .text content => Json.string_joined content
  | .bytes _ => by rw [written, jsonChars, jsonChars]
  | .object quoted => Json.string_joined quoted
  | .list items => by
      rw [written, jsonChars, jsonChars,
        jsonItems_written items]
  | .tuple items => by
      rw [written, jsonChars, jsonChars,
        jsonItems_written items]
  | .record entries => by
      rw [written, jsonChars, jsonChars,
        jsonEntries_written entries]
  | .custom form => by
      rw [written, jsonChars, jsonChars_written form]

theorem jsonItems_written :
    ∀ items : List Value,
      jsonItems (writtenItems items) = jsonItems items
  | [] => rfl
  | item :: later => by
      rw [writtenItems, jsonItems, jsonItems,
        jsonChars_written item, jsonItems_written later]

theorem jsonEntries_written :
    ∀ entries : List (Key × Value),
      jsonEntries (writtenEntries entries) =
        jsonEntries entries
  | [] => rfl
  | (key, value) :: later => by
      rw [writtenEntries, jsonEntries, jsonEntries, Key.name,
        Json.string_joined, jsonChars_written value,
        jsonEntries_written later]

end

end Value

end TextTemplate

------------------------------------------------------------
-- Values
------------------------------------------------------------

namespace TextTemplate

namespace Value

/- Values that begin alike have written forms of one kind. -/
theorem shows_of_append_eq
    {value other : Value}
    {rest rest' : List Char}
    (hText :
      value.jsonChars ++ rest = other.jsonChars ++ rest') :
    value.kind.Shows other.written := by
  rcases head_jsonChars value with ⟨c, later, hChars, hKind⟩
  rcases head_jsonChars other with
    ⟨c', later', hChars', hKind'⟩
  rw [hChars, hChars'] at hText
  have hFirst := (List.cons.inj hText).1
  rw [← hFirst, hKind] at hKind'
  rw [Option.some.inj hKind']
  exact shows_written other

/- A value does not begin with a closing bracket. -/
theorem jsonChars_ne_close
    (value : Value)
    (later rest : List Char) :
    value.jsonChars ++ later ≠ ']' :: rest := by
  rcases head_jsonChars value with ⟨c, chars, hChars, hKind⟩
  rw [hChars]
  intro hText
  rw [(List.cons.inj hText).1] at hKind
  exact nomatch hKind

/- Values that are written alike leave the same rest. -/
theorem rest_eq_of_written_eq
    {form other : Value}
    {rest rest' : List Char}
    (hForm : other.written = form)
    (hText :
      form.jsonChars ++ rest = other.jsonChars ++ rest') :
    form = other.written ∧ rest = rest' := by
  rw [← jsonChars_written other, hForm] at hText
  exact ⟨hForm.symm, List.append_cancel_left hText⟩

/- A number is read up to its end. -/
theorem amount_cut
    {amount : Json.Amount}
    {other : Value}
    {rest rest' : List Char}
    (hRest : Json.AtEnd rest)
    (hRest' : Json.AtEnd rest')
    (hShows : Kind.Shows .number other.written)
    (hText :
      amount.chars ++ rest = other.jsonChars ++ rest') :
    ofAmount amount = other.written ∧ rest = rest' := by
  obtain ⟨amount', hForm⟩ := hShows
  rw [← jsonChars_written other, hForm,
    jsonChars_ofAmount] at hText
  rcases Json.Amount.cut hRest hRest' hText with
    ⟨rfl, hSame⟩
  exact ⟨hForm.symm, hSame⟩

/- A text is read up to its end. -/
theorem text_cut
    {content : LooseText}
    {other : Value}
    {rest rest' : List Char}
    (hShows : Kind.Shows .text other.written)
    (hText :
      Json.string content ++ rest =
        other.jsonChars ++ rest') :
    text content.joined = other.written ∧ rest = rest' := by
  obtain ⟨content', hForm⟩ := hShows
  rw [← jsonChars_written other, hForm, jsonChars,
    Json.string_joined] at hText
  rcases Json.string_cut hText with ⟨hContent, hSame⟩
  rw [hForm, hContent]
  exact ⟨rfl, hSame⟩

/- A list begins as the items of another one. -/
theorem list_open
    {items : List Value}
    {other : Value}
    {rest rest' : List Char}
    (hShows : Kind.Shows .list other.written)
    (hText :
      (list items).jsonChars ++ rest =
        other.jsonChars ++ rest') :
    ∃ items',
      other.written = .list (writtenItems items') ∧
        Json.separated (jsonItems items) ++ ']' :: rest =
          Json.separated (jsonItems items') ++
            ']' :: rest' := by
  obtain ⟨items', hForm⟩ := hShows
  rw [← jsonChars_written other, hForm] at hText
  simp only [jsonChars, jsonItems_written, List.cons_append,
    List.append_assoc, List.nil_append, List.cons.injEq,
    true_and] at hText
  exact ⟨items', hForm, hText⟩

mutual

/- A value is read up to its end. -/
theorem jsonChars_cut :
    ∀ (value other : Value) {rest rest' : List Char},
      Json.AtEnd rest → Json.AtEnd rest' →
        value.jsonChars ++ rest = other.jsonChars ++ rest' →
          value.written = other.written ∧ rest = rest'
  | .custom form, other, rest, rest', hRest, hRest',
      hText => by
      rw [jsonChars] at hText
      rw [written]
      exact jsonChars_cut form other hRest hRest' hText
  | .null, _, _, _, _, _, hText =>
      rest_eq_of_written_eq (shows_of_append_eq hText) hText
  | .bool true, _, _, _, _, _, hText =>
      rest_eq_of_written_eq (shows_of_append_eq hText) hText
  | .bool false, _, _, _, _, _, hText =>
      rest_eq_of_written_eq (shows_of_append_eq hText) hText
  | .number value, _, _, _, hRest, hRest', hText =>
      @amount_cut (.whole value) _ _ _ hRest hRest'
        (shows_of_append_eq hText) hText
  | .count value, _, _, _, hRest, hRest', hText =>
      @amount_cut (.whole value) _ _ _ hRest hRest'
        (shows_of_append_eq hText) hText
  | .float value, _, _, _, hRest, hRest', hText =>
      @amount_cut (.real value) _ _ _ hRest hRest'
        (shows_of_append_eq hText) hText
  | .text _, _, _, _, _, _, hText =>
      text_cut (shows_of_append_eq hText) hText
  | .bytes data, _, _, _, _, _, hText => by
      have hShows := shows_of_append_eq hText
      rw [written, ← LooseText.joined_ofString]
      exact text_cut hShows hText
  | .object _, _, _, _, _, _, hText =>
      text_cut (shows_of_append_eq hText) hText
  | .list items, other, rest, rest', _, _, hText => by
      obtain ⟨items', hForm, hItems⟩ :=
        list_open (shows_of_append_eq hText) hText
      rcases jsonItems_cut items items' hItems with
        ⟨hSame, hRest⟩
      rw [hForm, written, hSame]
      exact ⟨rfl, hRest⟩
  | .tuple items, other, rest, rest', _, _, hText => by
      obtain ⟨items', hForm, hItems⟩ :=
        list_open (shows_of_append_eq hText) hText
      rcases jsonItems_cut items items' hItems with
        ⟨hSame, hRest⟩
      rw [hForm, written, hSame]
      exact ⟨rfl, hRest⟩
  | .record entries, other, rest, rest', _, _, hText => by
      obtain ⟨entries', hForm⟩ :
          ∃ entries',
            other.written =
              .record (writtenEntries entries') :=
        shows_of_append_eq hText
      rw [← jsonChars_written other, hForm] at hText
      simp only [jsonChars, jsonEntries_written,
        List.cons_append, List.append_assoc,
        List.nil_append, List.cons.injEq,
        true_and] at hText
      rcases jsonEntries_cut entries entries' hText with
        ⟨hEntries, hSame⟩
      rw [hForm, written, hEntries]
      exact ⟨rfl, hSame⟩

/- The items of a list are read up to its end. -/
theorem jsonItems_cut :
    ∀ (items others : List Value) {rest rest' : List Char},
      Json.separated (jsonItems items) ++ ']' :: rest =
          Json.separated (jsonItems others) ++
            ']' :: rest' →
        writtenItems items = writtenItems others ∧
          rest = rest'
  | [], [], rest, rest', hText =>
      ⟨rfl, (List.cons.inj hText).2⟩
  | [], other :: others, rest, rest', hText => by
      rw [jsonItems, jsonItems, Json.separated_cons] at hText
      exact absurd hText.symm (jsonChars_ne_close _ _ _)
  | item :: items, [], rest, rest', hText => by
      rw [jsonItems, jsonItems, Json.separated_cons] at hText
      exact absurd hText (jsonChars_ne_close _ _ _)
  | item :: items, other :: others, rest, rest', hText => by
      rw [jsonItems, jsonItems, Json.separated_cons,
        Json.separated_cons] at hText
      rcases jsonChars_cut item other
          (Json.atEnd_continued (.inl rfl) _ _)
          (Json.atEnd_continued (.inl rfl) _ _) hText with
        ⟨hItem, hLater⟩
      rcases jsonItems_cut items others
          (Json.separated_of_continued (by decide)
            hLater) with
        ⟨hItems, hSame⟩
      rw [writtenItems, writtenItems, hItem, hItems]
      exact ⟨rfl, hSame⟩

/- The entries of a record are read up to its end. -/
theorem jsonEntries_cut :
    ∀ (entries others : List (Key × Value))
      {rest rest' : List Char},
      Json.separated (jsonEntries entries) ++
            '\x7d' :: rest =
          Json.separated (jsonEntries others) ++
            '\x7d' :: rest' →
        writtenEntries entries = writtenEntries others ∧
          rest = rest'
  | [], [], rest, rest', hText =>
      ⟨rfl, (List.cons.inj hText).2⟩
  | [], (key, value) :: others, rest, rest', hText => by
      rw [jsonEntries, jsonEntries,
        Json.separated_cons] at hText
      exact absurd (List.cons.inj hText).1 (by decide)
  | (key, value) :: entries, [], rest, rest', hText => by
      rw [jsonEntries, jsonEntries,
        Json.separated_cons] at hText
      exact absurd (List.cons.inj hText).1 (by decide)
  | (key, value) :: entries, (key', other) :: others, rest,
      rest', hText => by
      rw [jsonEntries, jsonEntries, Json.separated_cons,
        Json.separated_cons, List.append_assoc,
        List.append_assoc] at hText
      rcases Json.string_cut hText with ⟨hKey, hValues⟩
      simp only [List.cons_append, List.cons.injEq,
        true_and] at hValues
      rcases jsonChars_cut value other
          (Json.atEnd_continued (.inr rfl) _ _)
          (Json.atEnd_continued (.inr rfl) _ _) hValues with
        ⟨hValue, hLater⟩
      rcases jsonEntries_cut entries others
          (Json.separated_of_continued (by decide)
            hLater) with
        ⟨hEntries, hSame⟩
      rw [writtenEntries, writtenEntries, hKey, hValue,
        hEntries]
      exact ⟨rfl, hSame⟩

end

/- The JSON of a value determines its written form. -/
theorem json_eq_iff
    {value other : Value} :
    value.json = other.json ↔
      value.written = other.written := by
  constructor
  · intro hJson
    have hChars := String.ofList_injective hJson
    exact (jsonChars_cut value other Json.atEnd_nil
      Json.atEnd_nil (by rw [hChars])).1
  · intro hWritten
    rw [json, json, ← jsonChars_written value, hWritten,
      jsonChars_written]

end Value

end TextTemplate

------------------------------------------------------------
-- Printable Values
------------------------------------------------------------

namespace TextTemplate

namespace Json

theorem printable_separated
    {parts : List (List Char)}
    (hParts : ∀ part ∈ parts, ∀ c ∈ part, Printable c) :
    ∀ c ∈ separated parts, Printable c := by
  induction parts with
  | nil => simp [separated]
  | cons part later ih =>
      rcases List.forall_mem_cons.mp hParts with
        ⟨hPart, hLater⟩
      cases later with
      | nil => exact hPart
      | cons next later =>
          rw [separated_cons_cons]
          refine List.forall_mem_append.mpr ⟨hPart, ?_⟩
          refine List.forall_mem_cons.mpr ⟨by decide, ?_⟩
          exact List.forall_mem_cons.mpr
            ⟨by decide, ih hLater⟩

end Json

namespace Value

theorem printable_amount
    (amount : Json.Amount) :
    ∀ c ∈ amount.chars, Json.Printable c :=
  fun c hc =>
    Json.printable_of_inNumber (amount.inNumber_chars c hc)

theorem printable_bracketed
    {parts : List (List Char)}
    (hParts :
      ∀ part ∈ parts, ∀ c ∈ part, Json.Printable c) :
    ∀ c ∈ '[' :: Json.separated parts ++ [']'],
      Json.Printable c := by
  refine List.forall_mem_append.mpr
    ⟨?_, by simp [Json.Printable]⟩
  exact List.forall_mem_cons.mpr
    ⟨by decide, Json.printable_separated hParts⟩

mutual

/- A value is written with printable characters. -/
theorem printable_jsonChars :
    ∀ value : Value, ∀ c ∈ value.jsonChars, Json.Printable c
  | .null => by simp [jsonChars, Json.Printable]
  | .bool true => by simp [jsonChars, Json.Printable]
  | .bool false => by simp [jsonChars, Json.Printable]
  | .number value => printable_amount (.whole value)
  | .count value => printable_amount (.whole value)
  | .float value => printable_amount (.real value)
  | .text content => Json.printable_string content
  | .bytes data => Json.printable_string (Quoted.bytes data)
  | .object quoted => Json.printable_string quoted
  | .tuple items => by
      rw [jsonChars]
      exact printable_bracketed (printable_jsonItems items)
  | .list items => by
      rw [jsonChars]
      exact printable_bracketed (printable_jsonItems items)
  | .record entries => by
      rw [jsonChars]
      refine List.forall_mem_append.mpr
        ⟨?_, by simp [Json.Printable]⟩
      exact List.forall_mem_cons.mpr ⟨by decide,
        Json.printable_separated
          (printable_jsonEntries entries)⟩
  | .custom form => by
      rw [jsonChars]
      exact printable_jsonChars form

theorem printable_jsonItems :
    ∀ items : List Value, ∀ part ∈ jsonItems items,
      ∀ c ∈ part, Json.Printable c
  | [] => by simp [jsonItems]
  | item :: later =>
      List.forall_mem_cons.mpr
        ⟨printable_jsonChars item, printable_jsonItems later⟩

theorem printable_jsonEntries :
    ∀ entries : List (Key × Value),
      ∀ part ∈ jsonEntries entries,
        ∀ c ∈ part, Json.Printable c
  | [] => by simp [jsonEntries]
  | (key, value) :: later => by
      refine List.forall_mem_cons.mpr
        ⟨?_, printable_jsonEntries later⟩
      refine List.forall_mem_append.mpr
        ⟨Json.printable_string key.name, ?_⟩
      refine List.forall_mem_cons.mpr ⟨by decide, ?_⟩
      exact List.forall_mem_cons.mpr
        ⟨by decide, printable_jsonChars value⟩

end

/- The JSON of a value is one line of printable ASCII. -/
theorem printable_json
    (value : Value) :
    ∀ c ∈ value.json.toList, Json.Printable c := by
  rw [json, String.toList_ofList]
  exact printable_jsonChars value

end Value

end TextTemplate
