import ViewLang.Proofs.History

/-!
# Programs that are evaluated alike

A change to a program shows in its evaluation as a change to the bindings and to the events. Where
evaluating each statement respects such a change, evaluating the whole program does.

* **Changing an interpreter.** `Interpreter.translate f g` changes every binding by `f` and every
  event by `g`, which may also leave events out.
* **What the reference mode passes over.** There the elements of a view and the functions have no
  effect but to be reported. `Node.stripAll` removes both from a program, and
  `interpret_stripAll_reference` says that nothing else changes: neither how calls are carried out,
  since a body that is stored is stripped as well, nor where they are cut.
* **Functions in the corrected mode.** There a function is a component under another name.
  `Node.componentizeAll` turns the one into the other all over a program, and
  `interpret_componentizeAll_corrected` says that only the reports change.
-/

namespace ViewLang

/-! ### Changing an interpreter -/

namespace Environment

variable (f : Binding → Binding) (env : Environment)

/-- Changes every binding. -/
def map : Environment where
  bindings := env.bindings.map fun entry => (entry.1, f entry.2)
  nodup_names := by
    rw [List.map_map]
    exact env.nodup_names

private theorem lookup_map_entry (name : String) (l : List (String × Binding)) :
    (l.map fun entry => (entry.1, f entry.2)).lookup name = (l.lookup name).map f := by
  induction l with
  | nil => rfl
  | cons entry l ih =>
    rw [List.map_cons, List.lookup_cons, List.lookup_cons, ih]
    cases name == entry.1 <;> rfl

@[simp] theorem get?_map (name : String) : (env.map f).get? name = (env.get? name).map f :=
  lookup_map_entry f name env.bindings

theorem map_insert (name : String) (binding : Binding) :
    (env.insert name binding).map f = (env.map f).insert name (f binding) := by
  simp [map, insert, List.filter_map, Function.comp_def]

end Environment

namespace Interpreter

variable (f : Binding → Binding) (g : Event → Option Event) (i : Interpreter)

/-- Changes every binding and every event. -/
def translate : Interpreter where
  environment := i.environment.map f
  events := i.events.filterMap g

variable {f g} {event event' : Event}

theorem emit_translate (h : g event = some event') :
    (i.translate f g).emit event' = (i.emit event).translate f g := by
  simp [translate, emit, h]

theorem translate_eq_of_eq_none (h : g event = none) :
    i.translate f g = (i.emit event).translate f g := by
  simp [translate, emit, h]

theorem define_translate (h : g event = some event') (name : String) (binding : Binding) :
    (i.translate f g).define name (f binding) event' =
      (i.define name binding event).translate f g := by
  simp [translate, define, emit, h, Environment.map_insert]

/-- Calls are carried out alike when bindings, events and bodies are changed. -/
def RespectsCalls (f : Binding → Binding) (g : Event → Option Event) (t : List Node → List Node)
    (enter : Interpreter → String → Event → List Node → Interpreter) : Prop :=
  ∀ i name event event' body, g event = some event' →
    enter (i.translate f g) name event' (t body) = (enter i name event body).translate f g

/-- If evaluating a block respects the change wherever calls do, calls respect it at any level. -/
theorem respectsCalls_enter {t : List Node → List Node} {config : Config}
    (hcut : ∀ name, g (.callDepthExceeded name config.maxDepth) =
      some (.callDepthExceeded name config.maxDepth))
    (hblock : ∀ enter, RespectsCalls f g t enter → ∀ i nodes,
      block config.mode enter (i.translate f g) (t nodes) =
        (block config.mode enter i nodes).translate f g) (levels : Nat) :
    RespectsCalls f g t (Interpreter.enter config levels) := by
  induction levels with
  | zero => exact fun i name event event' body _ => emit_translate i (hcut name)
  | succ levels ih =>
    intro i name event event' body hevent
    rw [Interpreter.enter, Interpreter.enter, emit_translate i hevent]
    exact hblock _ ih _ body

end Interpreter

/-! ### What the reference mode passes over -/

namespace Node

mutual

/-- A statement without functions and without elements of views; a function is left out. -/
def strip? : Node → Option Node
  | view _ => some (view [])
  | function _ _ => none
  | component name body => some (component name (stripAll body))
  | assignment name value => some (assignment name value)
  | call name => some (call name)
  | text content => some (text content)
  | button label => some (button label)

/-- Statements without functions and without elements of views. -/
def stripAll : List Node → List Node
  | [] => []
  | node :: nodes => (strip? node).toList ++ stripAll nodes

end

end Node

/-- A component with its body stripped. -/
def Binding.strip : Binding → Binding
  | .component body => .component (Node.stripAll body)
  | binding => binding

/-- An event of the stripped program; the report of a function is left out. -/
def Event.strip? : Event → Option Event
  | viewRendered _ => some (viewRendered [])
  | functionDefined _ _ => none
  | event => some event

namespace Interpreter

/-- The interpreter as the stripped program leaves it. -/
def strip (i : Interpreter) : Interpreter :=
  i.translate Binding.strip Event.strip?

section Reference

variable {enter : Interpreter → String → Event → List Node → Interpreter}

theorem callee?_strip (i : Interpreter) (name : String) :
    callee? .reference i.strip.environment name =
      (callee? .reference i.environment name).map fun callee =>
        (callee.1, Node.stripAll callee.2) := by
  simp only [callee?, strip, translate, Environment.get?_map]
  cases i.environment.get? name with
  | none => rfl
  | some binding => cases binding <;> rfl

/-- Calls are carried out alike in both programs. In the reference mode these are calls of
components. -/
def RespectsStrip (enter : Interpreter → String → Event → List Node → Interpreter) : Prop :=
  ∀ i name body, enter i.strip name (.componentRendering name) (Node.stripAll body) =
    (enter i name (.componentRendering name) body).strip

/-- A statement that is left out has no effect but its report, which is left out as well. -/
theorem block_strip (henter : RespectsStrip enter) (i : Interpreter) (node : Node) :
    block .reference enter i.strip node.strip?.toList =
      (statement .reference enter i node).strip := by
  cases node with
  | view elements => exact emit_translate i (by rfl)
  | assignment name value =>
    exact define_translate (g := Event.strip?) i (by rfl) name (.value value)
  | function name body => exact translate_eq_of_eq_none i (by rfl)
  | component name body =>
    exact define_translate (f := Binding.strip) (g := Event.strip?) i (by rfl) name (.component body)
  | call name =>
    -- The call stays in the program, and its name is bound to a stripped body.
    have hstatement : ∀ j, block .reference enter j [.call name] =
        statement .reference enter j (.call name) := fun _ => rfl
    rw [Node.strip?, Option.toList_some, hstatement, statement, statement, callee?_strip]
    cases hcallee : callee? .reference i.environment name with
    | none => exact emit_translate i (by rfl)
    | some callee =>
      rcases callee?_eq_some_iff.mp hcallee with ⟨-, hevent⟩ | ⟨hmode, -, -⟩
      · simp only [Option.map_some, hevent]
        exact henter i name callee.2
      · cases hmode
  | text content => exact emit_translate i (by rfl)
  | button label => exact emit_translate i (by rfl)

theorem block_stripAll (henter : RespectsStrip enter) (i : Interpreter) (nodes : List Node) :
    block .reference enter i.strip (Node.stripAll nodes) =
      (block .reference enter i nodes).strip := by
  induction nodes generalizing i with
  | nil => rfl
  | cons node nodes ih => rw [Node.stripAll, block_append, block_strip henter, ih, block]

theorem respectsStrip_enter (maxDepth levels : Nat) :
    RespectsStrip (Interpreter.enter ⟨.reference, maxDepth⟩ levels) := by
  have hcalls : RespectsCalls Binding.strip Event.strip? Node.stripAll
      (Interpreter.enter ⟨.reference, maxDepth⟩ levels) :=
    respectsCalls_enter (fun _ => by rfl)
      (fun _ henter => block_stripAll fun i name body => henter i name _ _ body (by rfl)) levels
  exact fun i name body => hcalls i name _ _ body (by rfl)

/-- Evaluating the stripped program leaves the interpreter stripped. -/
theorem interpret_stripAll (maxDepth : Nat) (program : List Node) :
    interpret ⟨.reference, maxDepth⟩ {} (Node.stripAll program) =
      (interpret ⟨.reference, maxDepth⟩ {} program).strip :=
  block_stripAll (respectsStrip_enter maxDepth maxDepth) ⟨∅, #[]⟩ program

end Reference

/-! ### Functions in the reference mode -/

/-- In the reference mode, no function is ever bound and none is called. -/
theorem not_function_of_reaches {maxDepth : Nat} {program : List Node} {m : Machine}
    (h : Machine.Reaches ⟨.reference, maxDepth⟩ (.load {} program) m) :
    (∀ name, .functionCalled name ∉ m.interpreter.events) ∧
      ∀ name body, m.interpreter.environment.get? name ≠ some (.function body) := by
  have hrecorded : Recorded .reference m.interpreter.events.toList m.interpreter.environment := by
    have hnew : Watched.InStep ⟨.reference, maxDepth⟩ { interpreter := {} } :=
      ⟨Nat.le_refl _, Recorded.empty _⟩
    exact (Watched.InStep.reaches (w := {}) (m := .load {} program) hnew h).recorded
  constructor
  · intro name hmem
    obtain ⟨before, after, heq⟩ := List.append_of_mem (Array.mem_toList_iff.mpr hmem)
    cases (hrecorded.justified before _ after heq).1
  · intro name body hget
    cases hrecorded.mode_eq_of_function hget

/-- **In the reference mode functions and elements of views are passed over.** A program evaluated
without them emits the same events, save that no functions are reported and views are reported
empty, and leaves the same bindings, save that the bodies stored are stripped as well. While the
program is evaluated no function is called and none is bound. -/
theorem interpret_stripAll_reference (maxDepth : Nat) (program : List Node) :
    (interpret ⟨.reference, maxDepth⟩ {} (Node.stripAll program)).events.toList =
        (interpret ⟨.reference, maxDepth⟩ {} program).events.toList.filterMap Event.strip? ∧
      (interpret ⟨.reference, maxDepth⟩ {} (Node.stripAll program)).environment =
        (interpret ⟨.reference, maxDepth⟩ {} program).environment.map Binding.strip ∧
      ∀ m, Machine.Reaches ⟨.reference, maxDepth⟩ (.load {} program) m →
        (∀ name, .functionCalled name ∉ m.interpreter.events) ∧
          ∀ name body, m.interpreter.environment.get? name ≠ some (.function body) := by
  rw [interpret_stripAll]
  exact ⟨by simp [strip, translate], rfl, fun m h => not_function_of_reaches h⟩

end Interpreter

/-! ### Functions as components -/

namespace Node

mutual

/-- A statement with every function in it made a component. -/
def componentize : Node → Node
  | view elements => view (componentizeAll elements)
  | function name body => component name (componentizeAll body)
  | component name body => component name (componentizeAll body)
  | assignment name value => assignment name value
  | call name => call name
  | text content => text content
  | button label => button label

/-- Statements with every function in them made a component. -/
def componentizeAll : List Node → List Node
  | [] => []
  | node :: nodes => componentize node :: componentizeAll nodes

end

end Node

/-- A function made a component, and the functions in its body as well. -/
def Binding.componentize : Binding → Binding
  | .function body => .component (Node.componentizeAll body)
  | .component body => .component (Node.componentizeAll body)
  | .value literal => .value literal

/-- An event of a program whose functions have been made components. -/
def Event.componentize : Event → Event
  | viewRendered elements => viewRendered (Node.componentizeAll elements)
  | functionDefined name _ => componentDefined name
  | functionCalled name => componentRendering name
  | event => event

namespace Interpreter

/-- The interpreter as a program whose functions have been made components leaves it. -/
def componentize (i : Interpreter) : Interpreter :=
  i.translate Binding.componentize fun event => some event.componentize

section Corrected

variable {enter : Interpreter → String → Event → List Node → Interpreter}

/-- In the corrected mode a name that can be called remains one, whichever sort it was. -/
theorem callee?_componentize (i : Interpreter) (name : String) :
    callee? .corrected i.componentize.environment name =
      (callee? .corrected i.environment name).map fun callee =>
        (callee.1.componentize, Node.componentizeAll callee.2) := by
  simp only [callee?, componentize, translate, Environment.get?_map]
  cases i.environment.get? name with
  | none => rfl
  | some binding => cases binding <;> rfl

private theorem emit_componentize (i : Interpreter) (event : Event) :
    i.componentize.emit event.componentize = (i.emit event).componentize :=
  emit_translate i (by rfl)

private theorem define_componentize (i : Interpreter) (name : String) (binding : Binding)
    (event : Event) :
    i.componentize.define name binding.componentize event.componentize =
      (i.define name binding event).componentize :=
  define_translate i (by rfl) name binding

mutual

theorem statement_componentize
    (henter : RespectsCalls Binding.componentize (fun event => some event.componentize)
      Node.componentizeAll enter) (i : Interpreter) : (node : Node) →
      statement .corrected enter i.componentize node.componentize =
        (statement .corrected enter i node).componentize
  | .view elements => by
    have hannounced : i.componentize.emit (.viewRendered (Node.componentizeAll elements)) =
        (i.emit (.viewRendered elements)).componentize :=
      emit_componentize i (.viewRendered elements)
    simp only [Node.componentize, statement, hannounced]
    exact block_componentizeAll henter _ elements
  | .assignment name value => define_componentize i name (.value value) (.assigned name value)
  | .function name body =>
    define_componentize i name (.function body) (.functionDefined name body)
  | .component name body => define_componentize i name (.component body) (.componentDefined name)
  | .call name => by
    rw [Node.componentize, statement, statement, callee?_componentize]
    cases callee? .corrected i.environment name with
    | none => exact emit_componentize i (.componentNotFound name)
    | some callee => exact henter i name callee.1 _ callee.2 rfl
  | .text content => emit_componentize i (.textRendered content)
  | .button label => emit_componentize i (.buttonRendered label)

theorem block_componentizeAll
    (henter : RespectsCalls Binding.componentize (fun event => some event.componentize)
      Node.componentizeAll enter) (i : Interpreter) : (nodes : List Node) →
      block .corrected enter i.componentize (Node.componentizeAll nodes) =
        (block .corrected enter i nodes).componentize
  | [] => rfl
  | node :: nodes => by
    rw [Node.componentizeAll, block, statement_componentize henter,
      block_componentizeAll henter _ nodes, block]

end

/-- Evaluating the program whose functions have been made components. -/
theorem interpret_componentizeAll (maxDepth : Nat) (program : List Node) :
    interpret ⟨.corrected, maxDepth⟩ {} (Node.componentizeAll program) =
      (interpret ⟨.corrected, maxDepth⟩ {} program).componentize :=
  block_componentizeAll
    (respectsCalls_enter (fun _ => by rfl) (fun _ henter => block_componentizeAll henter) maxDepth)
    ⟨∅, #[]⟩ program

/-- **In the corrected mode functions are components.** A program whose functions have all been made
components, those in views and bodies included, emits the same events, save that functions are
reported as components and the elements of views have changed with the program, and it leaves the
same bindings, save that each function is a component and the bodies stored have changed as well. -/
theorem interpret_componentizeAll_corrected (maxDepth : Nat) (program : List Node) :
    (interpret ⟨.corrected, maxDepth⟩ {} (Node.componentizeAll program)).events.toList =
        (interpret ⟨.corrected, maxDepth⟩ {} program).events.toList.map Event.componentize ∧
      (interpret ⟨.corrected, maxDepth⟩ {} (Node.componentizeAll program)).environment =
        (interpret ⟨.corrected, maxDepth⟩ {} program).environment.map Binding.componentize := by
  rw [interpret_componentizeAll]
  exact ⟨by simp [componentize, translate], rfl⟩

end Corrected

end Interpreter

end ViewLang
