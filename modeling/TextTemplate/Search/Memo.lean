import Std.Data.TreeSet

/-
  Places of a search that are known to lead nowhere.

  A place is the index of a piece together with the offset
  at which its segment would start.

  Key definitions include:
    * `Place`
    * `Memo`
    * `Memo.insert`
    * `Memo.contains`
-/

------------------------------------------------------------
-- Places
------------------------------------------------------------

namespace TextTemplate

/- The index of a piece and an offset of the input. -/
structure Place where
  index : Nat
  offset : Nat
  deriving DecidableEq

namespace Place

/- Compare places by index, then by offset. -/
def order : Place → Place → Ordering :=
  compareLex (compareOn Place.index)
    (compareOn Place.offset)

instance : Std.TransCmp order :=
  inferInstanceAs
    (Std.TransCmp
      (compareLex (compareOn Place.index)
        (compareOn Place.offset)))

instance : Std.LawfulEqCmp order where
  eq_of_compare {left right} hSame := by
    cases left
    cases right
    simpa [order, compareLex, compareOn,
      Ordering.then_eq_eq] using hSame

end Place

end TextTemplate

------------------------------------------------------------
-- Memos
------------------------------------------------------------

namespace TextTemplate

/- A set of places. -/
structure Memo where
  places : Std.TreeSet Place Place.order

namespace Memo

/- The memo without places. -/
def empty : Memo :=
  ⟨∅⟩

/- Whether a place is remembered. -/
def contains
    (memo : Memo)
    (place : Place) : Bool :=
  memo.places.contains place

/- Remember a place. -/
def insert
    (memo : Memo)
    (place : Place) : Memo :=
  ⟨memo.places.insert place⟩

instance : Membership Place Memo where
  mem memo place := memo.contains place = true

/- The empty memo holds no place. -/
theorem not_mem_empty
    (place : Place) :
    place ∉ empty := by
  change ¬ empty.contains place = true
  simp [empty, contains]

/- Inserting a place adds that place only. -/
theorem mem_insert
    {memo : Memo}
    {place added : Place} :
    place ∈ memo.insert added ↔
      place = added ∨ place ∈ memo := by
  change (memo.insert added).contains place = true ↔
    place = added ∨ memo.contains place = true
  simp only [insert, contains,
    Std.TreeSet.contains_insert, Bool.or_eq_true,
    beq_iff_eq, Std.LawfulEqCmp.compare_eq_iff_eq]
  rw [eq_comm (a := added)]

end Memo

end TextTemplate
