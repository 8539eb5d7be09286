import Acceptance.Step.Handler

namespace Acceptance

/-! A handler runs on the parameter values that its arguments stand for, and on no other
arguments at all: they are checked as a whole before its function is called. -/

universe u

variable {State : Type u}

namespace Handler

theorem exists_values (handler : Handler State) {arguments : List Argument}
    (kinds : arguments.map Argument.kind = handler.signature) :
    ∃ values : handler.signature.Values, handler.signature.argumentsOf values = arguments := by
  have some := Signature.values?_isSome_iff.mpr kinds
  rcases Option.isSome_iff_exists.mp some with ⟨values, found⟩
  exact ⟨values, Signature.values?_eq_some_iff.mp found⟩

theorem invoke_argumentsOf (handler : Handler State) (values : handler.signature.Values)
    (state : State) :
    handler.invoke (handler.signature.argumentsOf values) state =
      ((handler.call values state).1, (handler.call values state).2.map Reply.toOutcome) := by
  have found : handler.signature.values? (handler.signature.argumentsOf values) = some values :=
    Signature.values?_eq_some_iff.mpr rfl
  rw [invoke, found]

theorem values?_of_misfit (handler : Handler State) {arguments : List Argument}
    (misfit : arguments.map Argument.kind ≠ handler.signature) :
    handler.signature.values? arguments = none := by
  rwa [← Option.not_isSome_iff_eq_none, Signature.values?_isSome_iff]

theorem invoke_of_misfit (handler : Handler State) {arguments : List Argument}
    (misfit : arguments.map Argument.kind ≠ handler.signature) (state : State) :
    handler.invoke arguments state = (state, .returned (mismatch handler.signature arguments)) := by
  rw [invoke, handler.values?_of_misfit misfit]

end Handler

/-! ### Converting the arguments one after another

The same check can be made in two: count the arguments, then convert one for each kind of
the signature. Conversion alone would pass over arguments that are left at the end. -/

/-- Convert the leading arguments, up to the first that is missing or of another kind. -/
def Signature.leadingValues? : (signature : Signature) → List Argument → Option signature.Values
  | [], _ => some ()
  | _ :: _, [] => none
  | kind :: rest, argument :: arguments =>
      match kind.value? argument with
      | none => none
      | some value => (leadingValues? rest arguments).map (value, ·)

theorem Signature.values?_eq_leadingValues? (signature : Signature) (arguments : List Argument) :
    signature.values? arguments =
      if arguments.length = signature.length then signature.leadingValues? arguments else none := by
  induction signature generalizing arguments with
  | nil => cases arguments <;> rfl
  | cons kind rest induction =>
      cases arguments with
      | nil => rfl
      | cons argument arguments =>
          simp only [values?, leadingValues?, induction, List.length_cons,
            Nat.add_right_cancel_iff]
          by_cases counted : arguments.length = rest.length
          · rw [if_pos counted, if_pos counted]
            cases kind.value? argument <;> cases leadingValues? rest arguments <;> rfl
          · rw [if_neg counted, if_neg counted]
            cases kind.value? argument <;> rfl

namespace Handler

/-- Refuse a wrong number of arguments, then the first argument of a wrong kind. -/
def invokeInTurn (handler : Handler State) : Step State :=
  fun arguments state =>
    if arguments.length ≠ handler.signature.length then
      (state, .returned (mismatch handler.signature arguments))
    else
      match handler.signature.leadingValues? arguments with
      | none => (state, .returned (mismatch handler.signature arguments))
      | some values =>
          let back := handler.call values state
          (back.1, back.2.map Reply.toOutcome)

theorem invoke_eq_invokeInTurn (handler : Handler State) :
    handler.invoke = handler.invokeInTurn := by
  funext arguments state
  rw [invoke, invokeInTurn, Signature.values?_eq_leadingValues?]
  by_cases counted : arguments.length = handler.signature.length
  · rw [if_pos counted, if_neg (not_not_intro counted)]
    cases handler.signature.leadingValues? arguments <;> rfl
  · rw [if_neg counted, if_pos counted]

/-! ### Calls of a handler's function -/

/-- The same handler on a state that also lists what its function was called with. -/
def recording (handler : Handler State) :
    Handler (State × List handler.signature.Values) where
  signature := handler.signature
  call values state :=
    let back := handler.call values state.1
    ((back.1, state.2 ++ [values]), back.2)

/-- Keeping a list of the calls changes nothing else. -/
theorem invoke_recording (handler : Handler State) (arguments : List Argument) (state : State)
    (calls : List handler.signature.Values) :
    handler.recording.invoke arguments (state, calls) =
      (((handler.invoke arguments state).1,
          calls ++ (handler.signature.values? arguments).toList),
        (handler.invoke arguments state).2) := by
  by_cases fits : arguments.map Argument.kind = handler.signature
  · rcases handler.exists_values fits with ⟨values, rfl⟩
    rw [handler.invoke_argumentsOf, Signature.values?_eq_some_iff.mpr rfl]
    exact handler.recording.invoke_argumentsOf values (state, calls)
  · rw [handler.invoke_of_misfit fits, handler.values?_of_misfit fits, Option.toList_none,
      List.append_nil]
    exact handler.recording.invoke_of_misfit fits (state, calls)

/-- Invoking a handler calls its function if the kinds of the arguments are its signature,
once and with their values in order, and gives back the outcome of what the function
replies. Any other arguments leave the state as it is and fail with a message that names
both signatures. Converting the arguments in turn comes to the same. -/
theorem invoke_calls_iff_fits (handler : Handler State) (arguments : List Argument)
    (state : State) (calls : List handler.signature.Values) :
    let kinds := arguments.map Argument.kind
    let invoked := handler.invoke arguments state
    let recorded := handler.recording.invoke arguments (state, calls)
    invoked = handler.invokeInTurn arguments state ∧
    recorded.1.1 = invoked.1 ∧ recorded.2 = invoked.2 ∧
    (recorded.1.2 ≠ calls ↔ kinds = handler.signature) ∧
    if kinds = handler.signature then
      ∃ values : handler.signature.Values,
        handler.signature.argumentsOf values = arguments ∧
        recorded.1.2 = calls ++ [values] ∧
        invoked = ((handler.call values state).1,
          (handler.call values state).2.map Reply.toOutcome)
    else
      recorded.1.2 = calls ∧
      invoked = (state, .returned (.failed ("handler accepts " ++ handler.signature.text ++
        ", but was given " ++ Signature.text kinds))) := by
  intro kinds invoked recorded
  have inTurn : invoked = handler.invokeInTurn arguments state := by
    rw [← invoke_eq_invokeInTurn]
  have listed : recorded = ((invoked.1, calls ++ (handler.signature.values? arguments).toList),
      invoked.2) := handler.invoke_recording arguments state calls
  rw [listed]
  refine ⟨inTurn, rfl, rfl, ?_⟩
  by_cases fits : kinds = handler.signature
  · rcases handler.exists_values fits with ⟨values, equal⟩
    have found := Signature.values?_eq_some_iff.mpr equal
    have called : invoked = ((handler.call values state).1,
        (handler.call values state).2.map Reply.toOutcome) := by
      rw [← handler.invoke_argumentsOf, equal]
    rw [if_pos fits, found]
    exact ⟨by simp [fits], values, equal, rfl, called⟩
  · have missing : handler.signature.values? arguments = none :=
      handler.values?_of_misfit fits
    rw [if_neg fits, missing]
    exact ⟨by simp [fits], by simp, handler.invoke_of_misfit fits state⟩

end Handler

end Acceptance
