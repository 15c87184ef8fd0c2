import TextTemplate.Log.Event

/-
  Handing events to handlers.

  A dispatcher keeps a list of handlers, in which a handler
  may occur more than once.  An event goes to the handlers
  that are registered when it is emitted.  Each of them gets
  an event of its own and may, while it is called, fail,
  change its event, remove itself or add further handlers.
  A failure is reported and does not reach the emitter.

  Key definitions include:
    * `Dispatcher`
    * `Dispatcher.add`
    * `Dispatcher.remove`
    * `Reaction`
    * `Dispatcher.emit`
    * `Emission.failed`
-/

------------------------------------------------------------
-- Dispatchers
------------------------------------------------------------

namespace TextTemplate

/- The handlers that are registered, in order. -/
structure Dispatcher (η : Type) where
  handlers : List η

/- A handler was to be removed that is not registered. -/
structure NotRegistered (η : Type) where
  handler : η

namespace NotRegistered

/- The wording for a handler that is not registered. -/
def message
    {η : Type}
    (_error : NotRegistered η) : String :=
  "list.remove(x): x not in list"

end NotRegistered

namespace Dispatcher

variable {η : Type}

/- A dispatcher without handlers. -/
def empty : Dispatcher η :=
  ⟨[]⟩

/- Register a handler once more, after all others. -/
def add
    (dispatcher : Dispatcher η)
    (handler : η) : Dispatcher η :=
  ⟨dispatcher.handlers ++ [handler]⟩

variable [DecidableEq η]

/- Remove the first occurrence of a handler. -/
def remove
    (dispatcher : Dispatcher η)
    (handler : η) :
    Except (NotRegistered η) (Dispatcher η) :=
  if handler ∈ dispatcher.handlers then
    .ok ⟨dispatcher.handlers.erase handler⟩
  else
    .error ⟨handler⟩

end Dispatcher

end TextTemplate

------------------------------------------------------------
-- Emission
------------------------------------------------------------

namespace TextTemplate

/-
  What a handler does when it is called: whether it fails,
  what becomes of its own event, whether it removes itself,
  and which handlers it adds.
-/
structure Reaction (η : Type) where
  fails : Bool
  event : Event
  removesItself : Bool
  added : List η

/-
  A call of a handler: the event that it was given, and what
  it did.
-/
structure Call (η : Type) where
  handler : η
  level : String
  event : Event
  reaction : Reaction η

/-
  What an emission leads to: the event itself, the calls in
  order, and the dispatcher afterwards.
-/
structure Emission (η : Type) where
  event : Event
  calls : List (Call η)
  dispatcher : Dispatcher η

namespace Dispatcher

variable {η : Type}
variable [DecidableEq η]

/- The dispatcher after a call of a handler. -/
def afterCall
    (dispatcher : Dispatcher η)
    (handler : η)
    (reaction : Reaction η) : Dispatcher η :=
  let kept :=
    if reaction.removesItself then
      dispatcher.handlers.erase handler
    else
      dispatcher.handlers
  ⟨kept ++ reaction.added⟩

/-
  Hand an event to some handlers, one after another.  How a
  handler reacts may depend on the number of the call.
-/
def callAll
    (react : Nat → η → String → Event → Reaction η)
    (level : String)
    (event : Event) :
    Nat → List η → Dispatcher η →
      List (Call η) × Dispatcher η
  | _, [], dispatcher => ([], dispatcher)
  | number, handler :: later, dispatcher =>
      let reaction := react number handler level event
      let ended := callAll react level event (number + 1)
        later (dispatcher.afterCall handler reaction)
      (⟨handler, level, event, reaction⟩ :: ended.1, ended.2)

/- Hand an event to all handlers that are registered. -/
def emit
    (react : Nat → η → String → Event → Reaction η)
    (dispatcher : Dispatcher η)
    (level : String)
    (event : Event) : Emission η :=
  let ended := callAll react level event 0
    dispatcher.handlers dispatcher
  ⟨event, ended.1, ended.2⟩

end Dispatcher

/- The handlers whose calls failed, each to be reported. -/
def Emission.failed
    {η : Type}
    (emission : Emission η) : List η :=
  (emission.calls.filter fun call =>
    call.reaction.fails).map Call.handler

end TextTemplate
