import Mathlib.Data.List.Perm.Subperm
import TextTemplate.Log.NamedHandler

/-
  Handlers do not get in each other's way.

  While an event is handed around, handlers may fail, change
  their event, remove themselves and add others.  The calls
  are still those of the handlers that were registered
  before, each with the event that was emitted.

  A handler that removes itself takes away its first
  occurrence.  No more of them are taken away than the
  handler had calls, so none that were added meanwhile are.
  A handler that removes itself on each of its calls is gone.

  Main declarations:
    * `Dispatcher.callsOf`
    * `Dispatcher.callAll_dispatcher`
    * `Dispatcher.diff_leavers`
    * `Dispatcher.emit_eq`
    * `DispatcherStep`
    * `Dispatcher.perform`
    * `Isolated`
    * `Dispatcher.performAll_isolated`
-/

------------------------------------------------------------
-- Calls
------------------------------------------------------------

namespace TextTemplate

/- The handlers that remove themselves, in the order of calls. -/
def Call.leavers
    {η : Type}
    (calls : List (Call η)) : List η :=
  (calls.filter fun call =>
    call.reaction.removesItself).map Call.handler

/- The handlers that are added during calls, in order. -/
def Call.added
    {η : Type}
    (calls : List (Call η)) : List η :=
  calls.flatMap fun call => call.reaction.added

namespace Call

variable {η : Type}

theorem leavers_cons
    (call : Call η)
    (later : List (Call η)) :
    leavers (call :: later) =
      if call.reaction.removesItself then
        call.handler :: leavers later
      else
        leavers later := by
  rw [leavers, List.filter_cons]
  split <;> rfl

theorem added_cons
    (call : Call η)
    (later : List (Call η)) :
    added (call :: later) =
      call.reaction.added ++ added later :=
  List.flatMap_cons

end Call

namespace Dispatcher

variable {η : Type}
variable (react : Nat → η → String → Event → Reaction η)
variable (level : String)
variable (event : Event)

/- The call of a handler with an event, by its number. -/
def callOf
    (entry : η × Nat) : Call η where
  handler := entry.1
  level := level
  event := event
  reaction := react entry.2 entry.1 level event

/- The calls of handlers, from a certain number on. -/
def callsOf
    (number : Nat)
    (handlers : List η) : List (Call η) :=
  (handlers.zipIdx number).map (callOf react level event)

theorem callsOf_cons
    (number : Nat)
    (handler : η)
    (later : List η) :
    callsOf react level event number (handler :: later) =
      callOf react level event (handler, number) ::
        callsOf react level event (number + 1) later := by
  rw [callsOf, List.zipIdx_cons, List.map_cons, callsOf]

/- Each handler has one call, and they are called in order. -/
theorem map_handler_callsOf
    (number : Nat)
    (handlers : List η) :
    (callsOf react level event number handlers).map
        Call.handler =
      handlers := by
  rw [callsOf, List.map_map]
  exact List.zipIdx_map_fst number handlers

variable [DecidableEq η]

/-
  Each handler is called with the event, whatever the
  handlers before it did.
-/
theorem callAll_calls
    (number : Nat)
    (handlers : List η)
    (dispatcher : Dispatcher η) :
    (callAll react level event number handlers
        dispatcher).1 =
      callsOf react level event number handlers := by
  induction handlers generalizing number dispatcher with
  | nil => rfl
  | cons handler later ih =>
      rw [callAll, callsOf_cons, ih]
      rfl

/-
  After calls there are the handlers without those that
  removed themselves, those that were added before, and those
  that the calls added.  A handler that is called has an
  occurrence left, and it comes before all that were added.
-/
theorem callAll_dispatcher
    (number : Nat)
    {kept called : List η}
    (hCalled : called.Subperm kept)
    (added : List η) :
    (callAll react level event number called
        ⟨kept ++ added⟩).2 =
      ⟨kept.diff (Call.leavers
          (callsOf react level event number called)) ++
        added ++ Call.added
          (callsOf react level event number called)⟩ := by
  induction called generalizing number kept added with
  | nil => simp [callAll, callsOf, Call.leavers, Call.added]
  | cons handler later ih =>
      let reaction := react number handler level event
      let rest := callsOf react level event (number + 1) later
      have hMem : handler ∈ kept :=
        hCalled.subset List.mem_cons_self
      rw [callAll, callsOf_cons, Call.leavers_cons,
        Call.added_cons]
      change
        (callAll react level event (number + 1) later
            (afterCall ⟨kept ++ added⟩ handler reaction)).2 =
          ⟨kept.diff
              (if reaction.removesItself then
                handler :: Call.leavers rest
              else
                Call.leavers rest) ++
            added ++ (reaction.added ++ Call.added rest)⟩
      cases hSelf : reaction.removesItself with
      | true =>
          have hAfter :
              afterCall ⟨kept ++ added⟩ handler reaction =
                ⟨kept.erase handler ++
                  (added ++ reaction.added)⟩ := by
            simp [afterCall, hSelf,
              List.erase_append_left _ hMem]
          have hLater : later.Subperm (kept.erase handler) := by
            simpa using hCalled.erase handler
          have hEnded := ih (number + 1) hLater
            (added ++ reaction.added)
          rw [← hAfter, ← List.append_assoc,
            List.append_assoc] at hEnded
          rw [if_pos rfl, List.diff_cons]
          exact hEnded
      | false =>
          have hAfter :
              afterCall ⟨kept ++ added⟩ handler reaction =
                ⟨kept ++ (added ++ reaction.added)⟩ := by
            simp [afterCall, hSelf]
          have hLater : later.Subperm kept :=
            (List.sublist_cons_self handler
              later).subperm.trans hCalled
          have hEnded := ih (number + 1) hLater
            (added ++ reaction.added)
          rw [← hAfter, ← List.append_assoc,
            List.append_assoc] at hEnded
          rw [if_neg Bool.false_ne_true]
          exact hEnded

/-
  What an emission comes to: the calls of all handlers, and
  the handlers without those that removed themselves before
  the added ones.
-/
theorem emit_eq
    (handlers : List η) :
    emit react ⟨handlers⟩ level event =
      ⟨event, callsOf react level event 0 handlers,
        ⟨handlers.diff (Call.leavers
            (callsOf react level event 0 handlers)) ++
          Call.added
            (callsOf react level event 0 handlers)⟩⟩ := by
  have hCalls := callAll_calls react level event 0 handlers
    ⟨handlers⟩
  have hEnded := callAll_dispatcher react level event 0
    (List.Subperm.refl handlers) []
  rw [List.append_nil, List.append_nil] at hEnded
  rw [emit, hCalls, hEnded]

/- Without all occurrences of some, the others are left. -/
theorem diff_filter
    (leaves : η → Bool)
    (handlers : List η) :
    handlers.diff (handlers.filter leaves) =
      handlers.filter fun handler => !leaves handler := by
  induction handlers with
  | nil => rfl
  | cons handler later ih =>
      cases hLeaves : leaves handler with
      | true => simp [hLeaves, ih]
      | false =>
          have hOther : handler ∉ later.filter leaves := by
            simp [hLeaves]
          simp [hLeaves, ih, List.cons_diff_of_not_mem hOther]

/-
  If each handler does the same about itself on all its
  calls, those that stay are left.
-/
theorem diff_leavers
    {number : Nat}
    {handlers : List η}
    {leaves : η → Bool}
    (hLeaves :
      ∀ call ∈ callsOf react level event number handlers,
        call.reaction.removesItself = leaves call.handler) :
    handlers.diff (Call.leavers
        (callsOf react level event number handlers)) =
      handlers.filter fun handler => !leaves handler := by
  have hFilter :
      Call.leavers
          (callsOf react level event number handlers) =
        handlers.filter leaves := by
    rw [Call.leavers, List.filter_congr hLeaves]
    change List.map Call.handler
      (List.filter (leaves ∘ Call.handler) _) = _
    rw [← List.filter_map, map_handler_callsOf]
  rw [hFilter, diff_filter]

end Dispatcher

end TextTemplate

------------------------------------------------------------
-- Steps
------------------------------------------------------------

namespace TextTemplate

/-
  What can be done with a dispatcher.  How handlers react
  may differ from one event to the next and from one call to
  the next.
-/
inductive DispatcherStep (η : Type) where
  | add (handler : η)
  | remove (handler : η)
  | emit
      (react : Nat → η → String → Event → Reaction η)
      (level : String)
      (event : Event)

/-
  What a step comes to: nothing to tell, a handler that
  could not be removed, or the event that is passed on after
  the calls.
-/
inductive DispatcherAnswer (η : Type) where
  | done
  | refused (error : NotRegistered η)
  | emitted (event : Event) (calls : List (Call η))

namespace Dispatcher

variable {η : Type}
variable [DecidableEq η]

/- Do one step. -/
def perform
    (dispatcher : Dispatcher η) :
    DispatcherStep η → DispatcherAnswer η × Dispatcher η
  | .add handler => (.done, dispatcher.add handler)
  | .remove handler =>
      match dispatcher.remove handler with
      | .ok next => (.done, next)
      | .error error => (.refused error, dispatcher)
  | .emit react level event =>
      let emission := dispatcher.emit react level event
      (.emitted emission.event emission.calls,
        emission.dispatcher)

/- Do steps one after another. -/
def performAll
    (dispatcher : Dispatcher η) :
    List (DispatcherStep η) →
      List (DispatcherAnswer η) × Dispatcher η
  | [] => ([], dispatcher)
  | step :: later =>
      let ended := dispatcher.perform step
      let rest := performAll ended.2 later
      (ended.1 :: rest.1, rest.2)

end Dispatcher

/-
  What a step may come to, and which handlers are registered
  before and after it, when handlers are isolated.
-/
inductive Isolated {η : Type} [DecidableEq η] :
    List η → DispatcherStep η → DispatcherAnswer η →
      List η → Prop where
  | added
      (handlers : List η)
      (handler : η) :
      Isolated handlers (.add handler) .done
        (handlers ++ [handler])
  | removed
      {handler : η}
      {earlier : List η}
      (hFirst : handler ∉ earlier)
      (later : List η) :
      Isolated (earlier ++ handler :: later)
        (.remove handler) .done (earlier ++ later)
  | refused
      {handler : η}
      {handlers : List η}
      (hAbsent : handler ∉ handlers) :
      Isolated handlers (.remove handler)
        (.refused ⟨handler⟩) handlers
  | emitted
      (react : Nat → η → String → Event → Reaction η)
      (level : String)
      (event : Event)
      {handlers remaining : List η}
      {calls : List (Call η)}
      (hCalls :
        calls =
          Dispatcher.callsOf react level event 0 handlers)
      (hRemaining :
        remaining = handlers.diff (Call.leavers calls))
      (hStaying : ∀ leaves : η → Bool,
        (∀ call ∈ calls,
          call.reaction.removesItself =
            leaves call.handler) →
          remaining =
            handlers.filter fun handler => !leaves handler) :
      Isolated handlers (.emit react level event)
        (.emitted event calls)
        (remaining ++ Call.added calls)

/- Steps of which each is isolated, one after another. -/
inductive AllIsolated {η : Type} [DecidableEq η] :
    List η → List (DispatcherStep η) →
      List (DispatcherAnswer η) → List η → Prop where
  | done
      (handlers : List η) :
      AllIsolated handlers [] [] handlers
  | step
      {handlers next last : List η}
      {step : DispatcherStep η}
      {answer : DispatcherAnswer η}
      {later : List (DispatcherStep η)}
      {answers : List (DispatcherAnswer η)}
      (hStep : Isolated handlers step answer next)
      (hLater : AllIsolated next later answers last) :
      AllIsolated handlers (step :: later)
        (answer :: answers) last

namespace Dispatcher

variable {η : Type}
variable [DecidableEq η]

/- A step is isolated. -/
theorem perform_isolated
    (dispatcher : Dispatcher η)
    (step : DispatcherStep η) :
    Isolated dispatcher.handlers step
      (dispatcher.perform step).1
      (dispatcher.perform step).2.handlers := by
  rcases dispatcher with ⟨handlers⟩
  cases step with
  | add handler => exact .added handlers handler
  | remove handler =>
      by_cases hMem : handler ∈ handlers
      · rcases List.exists_erase_eq hMem with
          ⟨earlier, later, hFirst, hHandlers, hErase⟩
        simp only [perform, remove, if_pos hMem, hErase]
        rw [hHandlers]
        exact .removed hFirst later
      · simp only [perform, remove, if_neg hMem]
        exact .refused hMem
  | emit react level event =>
      rw [perform, emit_eq]
      exact .emitted react level event rfl rfl
        fun _ hLeaves => diff_leavers react level event hLeaves

/-
  Each step of a run is isolated.  An event goes to the
  handlers that were registered when it was emitted, in
  order, and is passed on as it is.  Of these handlers the
  ones that remove themselves are then gone, one occurrence
  for each call, and those that were added meanwhile come
  last, whether or not they are equal to one that is gone.
-/
theorem performAll_isolated
    (dispatcher : Dispatcher η)
    (steps : List (DispatcherStep η)) :
    AllIsolated dispatcher.handlers steps
      (dispatcher.performAll steps).1
      (dispatcher.performAll steps).2.handlers := by
  induction steps generalizing dispatcher with
  | nil => exact .done dispatcher.handlers
  | cons step later ih =>
      exact .step (dispatcher.perform_isolated step)
        (ih (dispatcher.perform step).2)

/- A handler that removes itself may be added once more. -/
example :
    (emit NamedHandler.react
        ⟨[⟨"once"⟩, ⟨"fail"⟩, ⟨"spawn-once"⟩, ⟨"once"⟩]⟩
        "info" (.ofPairs [])).dispatcher.handlers =
      [⟨"fail"⟩, ⟨"spawn-once"⟩, ⟨"once"⟩] := by
  decide +kernel

end Dispatcher

end TextTemplate
