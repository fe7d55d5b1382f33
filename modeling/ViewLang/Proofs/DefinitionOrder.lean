import ViewLang.Proofs.Machine

/-!
# The order of definitions

Evaluation sees its bindings by looking names up and in no other way. So environments that bind
every name alike can stand for each other, in whatever order their bindings have been made. This is
why two definitions of different names may change places: what is evaluated after them emits the
same events, however the names come to be called and bound again.

* **Interpreters that match.** `Interpreter.Matches before before' i i'` relates interpreters that
  bind every name alike and have emitted the same events, except that they began with different
  ones. Every action that an evaluation consists of preserves it, so machines that match go in
  lockstep (`Machine.Step.exists_matches`), and evaluation preserves it too (`Matches.interpret`).
* **Definitions.** A definition binds its name, unless it is a function and the mode is the
  reference mode, and it reports itself in any case.

The main result is `interpret_definitions_swap`.
-/

namespace ViewLang

/-! ### Environments that bind every name alike -/

namespace Environment

/-- The environments bind every name alike. -/
def Alike (env env' : Environment) : Prop :=
  ∀ name, env.get? name = env'.get? name

variable {env env' : Environment}

theorem Alike.insert (h : env.Alike env') (name : String) (binding : Binding) :
    (env.insert name binding).Alike (env'.insert name binding) := by
  intro other
  rw [get?_insert, get?_insert, h other]

/-- Bindings of different names may be made in either order. -/
theorem alike_insert_insert (env : Environment) {name name' : String} (hname : name ≠ name')
    (binding binding' : Binding) :
    ((env.insert name binding).insert name' binding').Alike
      ((env.insert name' binding').insert name binding) := by
  intro other
  simp only [get?_insert]
  by_cases hother : other = name
  · have hother' : other ≠ name' := hother ▸ hname
    simp only [if_pos hother, if_neg hother']
  · simp only [if_neg hother]

end Environment

/-! ### Interpreters that match -/

namespace Interpreter

/-- A call runs the same body in environments that bind every name alike. -/
theorem callee?_eq_of_alike {env env' : Environment} (h : env.Alike env') (mode : Mode)
    (name : String) : callee? mode env' name = callee? mode env name := by
  rw [callee?, callee?, h name]

/-- The interpreters bind every name alike. The one has emitted `before`, the other `before'`, and
both have emitted the same events since. -/
structure Matches (before before' : Array Event) (i i' : Interpreter) : Prop where
  alike : i.environment.Alike i'.environment
  events_eq : ∃ since, i.events = before ++ since ∧ i'.events = before' ++ since

variable {before before' : Array Event} {i i' : Interpreter}

theorem Matches.emit (h : i.Matches before before' i') (event : Event) :
    (i.emit event).Matches before before' (i'.emit event) := by
  obtain ⟨halike, since, hevents, hevents'⟩ := h
  exact ⟨halike, since.push event, by simp [hevents], by simp [hevents']⟩

theorem Matches.define (h : i.Matches before before' i') (name : String) (binding : Binding)
    (event : Event) :
    (i.define name binding event).Matches before before' (i'.define name binding event) :=
  ⟨h.alike.insert name binding, (h.emit event).events_eq⟩

end Interpreter

open Interpreter (callee?_eq_of_alike)

namespace Machine

variable {config : Config} {before before' : Array Event} {m n : Machine} {i' : Interpreter}

/-- A machine with a matching interpreter takes the same step, and the interpreters still match. -/
theorem Step.exists_matches (hstep : Step config m n)
    (h : m.interpreter.Matches before before' i') :
    ∃ j', Step config ⟨i', m.depth, m.tasks⟩ ⟨j', n.depth, n.tasks⟩ ∧
      n.interpreter.Matches before before' j' := by
  have hcallee := callee?_eq_of_alike h.alike config.mode
  cases hstep.move with
  | leave => exact ⟨i', Move.leave.step, h⟩
  | shown hshows => exact ⟨_, (Move.shown hshows).step, h.emit _⟩
  | opened hmode => exact ⟨_, (Move.opened hmode).step, h.emit _⟩
  | defined name binding hallowed =>
    exact ⟨_, (Move.defined name binding hallowed).step, h.define name binding _⟩
  | missing hmissing => exact ⟨_, (Move.missing ((hcallee _).trans hmissing)).step, h.emit _⟩
  | cut hfound hdepth => exact ⟨_, (Move.cut ((hcallee _).trans hfound) hdepth).step, h.emit _⟩
  | entered hfound hdepth =>
    exact ⟨_, (Move.entered ((hcallee _).trans hfound) hdepth).step, h.emit _⟩

theorem Reaches.exists_matches (hreaches : Reaches config m n)
    (h : m.interpreter.Matches before before' i') :
    ∃ j', Reaches config ⟨i', m.depth, m.tasks⟩ ⟨j', n.depth, n.tasks⟩ ∧
      n.interpreter.Matches before before' j' := by
  induction hreaches with
  | refl => exact ⟨i', .refl, h⟩
  | tail _ hstep ih =>
    obtain ⟨between, hbetween, hmatches⟩ := ih
    obtain ⟨j', hnext, hmatches⟩ := hstep.exists_matches hmatches
    exact ⟨j', hbetween.tail hnext, hmatches⟩

end Machine

namespace Interpreter

variable {config : Config} {before before' : Array Event} {i i' : Interpreter}
  {name name' : String} {binding binding' : Binding}

/-- **Evaluation looks names up.** Interpreters that match evaluate a program alike. -/
theorem Matches.interpret (h : i.Matches before before' i') (program : List Node) :
    (i.interpret config program).Matches before before' (i'.interpret config program) := by
  obtain ⟨j', hreaches, hmatches⟩ := (Machine.reaches_interpret config i program).exists_matches h
  -- The machine that began with `i'` has come to the end of its tasks as well.
  rwa [hreaches.interpreter_eq] at hmatches

/-! ### Definitions -/

theorem evaluate_definition (h : binding.Allowed config.mode) (i : Interpreter) (name : String) :
    i.evaluate config (binding.definition name) = i.define name binding (binding.report name) := by
  cases binding with
  | value | component => rfl
  | function body =>
    have hmode : config.mode = .corrected := h
    simp [evaluate, Binding.definition, statement, Binding.report, hmode]

/-- A function is only reported in the reference mode. -/
theorem evaluate_definition_of_not_allowed (h : ¬binding.Allowed config.mode) (i : Interpreter)
    (name : String) :
    i.evaluate config (binding.definition name) = i.emit (binding.report name) := by
  cases binding with
  | value | component => exact absurd trivial h
  | function body =>
    have hmode : config.mode = .reference := by
      cases hconfig : config.mode with
      | reference => rfl
      | corrected => exact absurd hconfig h
    simp [evaluate, Binding.definition, statement, Binding.report, hmode]

theorem events_evaluate_definition (config : Config) (i : Interpreter) (name : String)
    (binding : Binding) :
    (i.evaluate config (binding.definition name)).events =
      i.events.push (binding.report name) := by
  by_cases h : binding.Allowed config.mode
  · rw [evaluate_definition h, events_define]
  · rw [evaluate_definition_of_not_allowed h, events_emit]

/-- Definitions of different names leave the same bindings in either order. -/
theorem alike_evaluate_definitions (config : Config) (hname : name ≠ name') (i : Interpreter)
    (binding binding' : Binding) :
    ((i.evaluate config (binding.definition name)).evaluate config
        (binding'.definition name')).environment.Alike
      ((i.evaluate config (binding'.definition name')).evaluate config
        (binding.definition name)).environment := by
  by_cases h : binding.Allowed config.mode
  · by_cases h' : binding'.Allowed config.mode
    · simp only [evaluate_definition h, evaluate_definition h', environment_define]
      exact i.environment.alike_insert_insert hname binding binding'
    · simp only [evaluate_definition h, evaluate_definition_of_not_allowed h', environment_define,
        environment_emit]
      exact fun _ => rfl
  · simp only [evaluate_definition_of_not_allowed h, environment_emit]
    by_cases h' : binding'.Allowed config.mode
    · simp only [evaluate_definition h', environment_define, environment_emit]
      exact fun _ => rfl
    · simp only [evaluate_definition_of_not_allowed h', environment_emit]
      exact fun _ => rfl

theorem matches_evaluate_definitions (config : Config) (hname : name ≠ name') (i : Interpreter)
    (binding binding' : Binding) :
    ((i.evaluate config (binding.definition name)).evaluate config
        (binding'.definition name')).Matches
      (i.events ++ #[binding.report name, binding'.report name'])
      (i.events ++ #[binding'.report name', binding.report name])
      ((i.evaluate config (binding'.definition name')).evaluate config
        (binding.definition name)) where
  alike := alike_evaluate_definitions config hname i binding binding'
  events_eq := by
    refine ⟨#[], ?_, ?_⟩
    all_goals
      simp only [events_evaluate_definition, Array.append_empty]
      rfl

/-- **Definitions of different names commute.** Whether they give a value, a component or a
function, evaluating two of them and then a program emits the same events in either order of the
two, save that their reports are in that order, and leaves the same binding of every name. -/
theorem interpret_definitions_swap (config : Config) (i : Interpreter) (hname : name ≠ name')
    (binding binding' : Binding) (program : List Node) :
    let final := i.interpret config
      (binding.definition name :: binding'.definition name' :: program)
    let swapped := i.interpret config
      (binding'.definition name' :: binding.definition name :: program)
    (∃ since,
      final.events = i.events ++ #[binding.report name, binding'.report name'] ++ since ∧
        swapped.events = i.events ++ #[binding'.report name', binding.report name] ++ since) ∧
      ∀ other, final.environment.get? other = swapped.environment.get? other := by
  intro final swapped
  obtain ⟨halike, hevents⟩ :=
    (matches_evaluate_definitions config hname i binding binding').interpret program
  exact ⟨hevents, halike⟩

/-- A component and a function, each of which calls the other. The function takes the name of the
component before. -/
theorem interpret_definitions_swap_mutual :
    let component : Binding := .component [.text "a", .call "f"]
    let function : Binding := .function [.call "A", .component "A" [.button "b"], .call "A"]
    let i : Interpreter := ⟨(∅ : Environment).insert "A" (.value (.number 1)), #[.textRendered "c"]⟩
    let final := i.interpret ⟨.corrected, 3⟩
      [component.definition "A", function.definition "f", .call "A", .call "f"]
    let swapped := i.interpret ⟨.corrected, 3⟩
      [function.definition "f", component.definition "A", .call "A", .call "f"]
    "A" ≠ "f" ∧
      (∃ since,
        final.events = i.events ++ #[component.report "A", function.report "f"] ++ since ∧
          swapped.events = i.events ++ #[function.report "f", component.report "A"] ++ since) ∧
      (∀ other, final.environment.get? other = swapped.environment.get? other) := by
  intro component function i final swapped
  have hname : "A" ≠ "f" := by decide
  exact ⟨hname, interpret_definitions_swap ⟨.corrected, 3⟩ i hname component function
    [.call "A", .call "f"]⟩

end Interpreter

end ViewLang
