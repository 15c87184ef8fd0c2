import TextTemplate.Log.Dispatcher

/-
  Handlers that are known by a name.

  The part of the name before the first hyphen tells how a
  handler reacts, and what follows the hyphen may name the
  handler that it adds.

  Key definitions include:
    * `NamedHandler`
    * `NamedHandler.react`
-/

------------------------------------------------------------
-- Named Handlers
------------------------------------------------------------

namespace TextTemplate

/- A handler that is known by its name. -/
structure NamedHandler where
  name : String
  deriving DecidableEq

namespace NamedHandler

/- The part of the name that tells how a handler reacts. -/
def kind
    (handler : NamedHandler) : String :=
  String.ofList
    (handler.name.toList.takeWhile (· != '-'))

/- The part of the name after the first hyphen. -/
def suffix
    (handler : NamedHandler) : String :=
  String.ofList
    ((handler.name.toList.dropWhile (· != '-')).drop 1)

/- What a handler does with an event, on each of its calls. -/
def react
    (_call : Nat)
    (handler : NamedHandler)
    (_level : String)
    (event : Event) : Reaction NamedHandler where
  fails := handler.kind = "fail"
  event :=
    if handler.kind = "mutate" then
      event.set "by" (.text handler.name)
    else
      event
  removesItself := handler.kind = "once"
  added :=
    if handler.kind = "spawn" then
      [⟨handler.suffix⟩]
    else
      []

end NamedHandler

end TextTemplate
