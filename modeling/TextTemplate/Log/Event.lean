import TextTemplate.Value.Basic

/-
  Events: values under distinct keys, in order.

  Key definitions include:
    * `Event`
    * `Event.entry`
    * `Event.set`
    * `Event.get?`
    * `Event.ofPairs`
-/

------------------------------------------------------------
-- Events
------------------------------------------------------------

namespace TextTemplate

/- An event. -/
structure Event where
  entries : List (Key × Value)

namespace Event

/- A value under a key that is a text. -/
def entry
    (key : String)
    (value : Value) : Key × Value :=
  (key, value)

/- The event without values. -/
def empty : Event :=
  ⟨[]⟩

/- Put a value under a key, where the key was or last. -/
def setEntry
    (key : Key)
    (value : Value) :
    List (Key × Value) → List (Key × Value)
  | [] => [(key, value)]
  | entry :: later =>
      if entry.1 = key then
        (key, value) :: later
      else
        entry :: setEntry key value later

/- Put a value under a key. -/
def set
    (event : Event)
    (key : Key)
    (value : Value) : Event :=
  ⟨setEntry key value event.entries⟩

/- Take a key and its value away. -/
def erase
    (event : Event)
    (key : Key) : Event :=
  ⟨event.entries.filter fun entry => entry.1 != key⟩

/- The value under a key. -/
def get?
    (event : Event)
    (key : Key) : Option Value :=
  event.entries.lookup key

/- The event of some pairs, later ones over earlier ones. -/
def ofPairs
    (pairs : List (Key × Value)) : Event :=
  pairs.foldl (fun event pair => event.set pair.1 pair.2)
    empty

end Event

end TextTemplate
