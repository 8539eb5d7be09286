import Acceptance.Proofs.Run.Dispatch

namespace Acceptance

/-! Where the steps of a registry come from. Nothing in the type of a step tells what
arguments it is made for. But a registry that was assembled stores each step under the
signature of the handler that it wraps, and dispatching calls it with arguments of just that
signature. So a handler is never given arguments that it has to turn away. -/

universe u

variable {State : Type u}

/-! ### Steps and the handlers they wrap -/

namespace Registry

/-- Each stored step wraps a handler that was registered under its identifier and has the
signature that the step is stored under. -/
def StemsFrom (registry : Registry State) (registrations : List (String × Handler State)) :
    Prop :=
  ∀ entry ∈ registry.entries, ∃ handler, (entry.1.1, handler) ∈ registrations ∧
    handler.signature = entry.1.2 ∧ entry.2 = handler.invoke

theorem mem_entries_insert {registry : Registry State} {key : StepKey} {step : Step State}
    {entry : StepKey × Step State} (member : entry ∈ (registry.insert key step).entries) :
    entry ∈ registry.entries ∨ entry = (key, step) := by
  rw [insert, List.mem_append, List.mem_singleton] at member
  exact member.imp_left fun kept => (List.mem_filter.mp kept).1

private theorem mem_entries_foldl_insert {registry : Registry State}
    {others : List (StepKey × Step State)} {entry : StepKey × Step State}
    (member : entry ∈ (others.foldl
      (fun merged other => merged.insert other.1 other.2) registry).entries) :
    entry ∈ registry.entries ∨ entry ∈ others := by
  induction others generalizing registry with
  | nil => exact .inl member
  | cons first rest induction =>
      rcases induction member with inserted | later
      · rcases mem_entries_insert inserted with kept | rfl
        · exact .inl kept
        · exact .inr (List.mem_cons_self ..)
      · exact .inr (List.mem_cons_of_mem _ later)

theorem mem_entries_merge {registry other : Registry State} {entry : StepKey × Step State}
    (member : entry ∈ (registry.merge other).entries) :
    entry ∈ registry.entries ∨ entry ∈ other.entries :=
  mem_entries_foldl_insert member

theorem mem_entries_of_find? {registry : Registry State} {identifier : String}
    {signature : Signature} {step : Step State}
    (found : registry.find? identifier signature = some step) :
    ((identifier, signature), step) ∈ registry.entries := by
  rw [find?, List.lookup_eq_some_iff] at found
  rcases found with ⟨before, after, cut, _⟩
  simp [cut]

namespace StemsFrom

variable {registry other : Registry State}
variable {registrations later : List (String × Handler State)}

theorem empty : (Registry.empty : Registry State).StemsFrom [] := by
  intro entry member
  cases member

theorem register (stems : registry.StemsFrom registrations) (identifier : String)
    (handler : Handler State) :
    (registry.register identifier handler).StemsFrom
      (registrations ++ [(identifier, handler)]) := by
  intro entry member
  rcases mem_entries_insert member with kept | rfl
  · rcases stems entry kept with ⟨origin, registered, wraps⟩
    exact ⟨origin, List.mem_append_left _ registered, wraps⟩
  · exact ⟨handler, by simp, rfl, rfl⟩

theorem merge (stems : registry.StemsFrom registrations) (otherStems : other.StemsFrom later) :
    (registry.merge other).StemsFrom (registrations ++ later) := by
  intro entry member
  rcases mem_entries_merge member with kept | merged
  · rcases stems entry kept with ⟨origin, registered, wraps⟩
    exact ⟨origin, List.mem_append_left _ registered, wraps⟩
  · rcases otherStems entry merged with ⟨origin, registered, wraps⟩
    exact ⟨origin, List.mem_append_right _ registered, wraps⟩

/-- What is looked up is such a handler as well. -/
theorem of_find? (stems : registry.StemsFrom registrations) {identifier : String}
    {signature : Signature} {step : Step State}
    (found : registry.find? identifier signature = some step) :
    ∃ handler, (identifier, handler) ∈ registrations ∧
      handler.signature = signature ∧ step = handler.invoke :=
  stems _ (mem_entries_of_find? found)

end StemsFrom

end Registry

theorem Assembly.stemsFrom_registrations (assembly : Assembly State) :
    assembly.registry.StemsFrom assembly.registrations := by
  induction assembly with
  | empty => exact .empty
  | register _ identifier handler stems => exact stems.register identifier handler
  | merge _ _ stems otherStems => exact stems.merge otherStems

/-! ### Arguments that fit -/

theorem Kind.isSome_value?_iff {kind : Kind} {argument : Argument} :
    (kind.value? argument).isSome ↔ argument.kind = kind := by
  cases kind <;> cases argument <;> simp [value?, Argument.kind]

/-- Arguments of the kinds of a signature pass the checks that are made on them: they are
as many as it has kinds, and each converts to its kind. -/
theorem Signature.fits_of_kinds {signature : Signature} {arguments : List Argument}
    (kinds : arguments.map Argument.kind = signature) :
    arguments.length = signature.length ∧
      ∀ pair ∈ signature.zip arguments, (pair.1.value? pair.2).isSome := by
  subst kinds
  induction arguments with
  | nil => simp
  | cons argument rest induction =>
      refine ⟨by simp, ?_⟩
      rw [List.map_cons, List.zip_cons_cons, List.forall_mem_cons]
      exact ⟨Kind.isSome_value?_iff.mpr rfl, induction.2⟩

/-! ### Resolved steps -/

/-- In an assembled registry every step is stored under the signature of the handler that it
wraps. So a step that is resolved for a sentence is called with arguments that the handler
takes: nothing fails on the way to its function, and dispatching is calling that function. -/
theorem Assembly.resolved_step_runs_handler (assembly : Assembly State) :
    (∀ entry ∈ assembly.registry.entries, ∃ handler,
      (entry.1.1, handler) ∈ assembly.registrations ∧
        handler.signature = entry.1.2 ∧ entry.2 = handler.invoke) ∧
    ∀ (sentence : String) (resolution : Resolution State),
      assembly.registry.resolve sentence = .ok resolution →
        resolution.identifier = Sentence.identifier sentence ∧
        resolution.arguments = Sentence.arguments sentence ∧
        ∃ handler, (resolution.identifier, handler) ∈ assembly.registrations ∧
          handler.signature = resolution.signature ∧ resolution.step = handler.invoke ∧
          resolution.arguments.length = handler.signature.length ∧
          (∀ pair ∈ handler.signature.zip resolution.arguments,
            (pair.1.value? pair.2).isSome) ∧
          ∃ values, handler.signature.values? resolution.arguments = some values ∧
            ∀ state, dispatch assembly.registry sentence state =
              ((handler.call values state).1, Verdict.ofCompletion sentence
                ((handler.call values state).2.map Reply.toOutcome)) := by
  have stems := assembly.stemsFrom_registrations
  refine ⟨stems, fun sentence resolution resolved => ?_⟩
  rcases Registry.of_resolve_eq_ok resolved with ⟨identifierEq, argumentsEq, found⟩
  rcases stems.of_find? found with ⟨handler, registered, signatureEq, wraps⟩
  have fits := Signature.fits_of_kinds signatureEq.symm
  rcases handler.exists_values signatureEq.symm with ⟨values, valuesEq⟩
  refine ⟨identifierEq, argumentsEq, handler, registered, signatureEq, wraps, fits.1, fits.2,
    values, Signature.values?_eq_some_iff.mpr valuesEq, fun state => ?_⟩
  rw [dispatch_of_ok resolved, wraps, ← valuesEq, handler.invoke_argumentsOf]

end Acceptance
