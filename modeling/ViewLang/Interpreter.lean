import ViewLang.Environment
import ViewLang.Event.Sink

/-!
# Evaluation

Evaluating statements changes the bindings of names and emits events; it never fails. An event goes
to a sink at once, and unless another one is named, the sink is an array that keeps it. In the
reference mode the elements of a view are announced but not evaluated, and functions are defined but
cannot be called. The corrected mode evaluates the elements of views and calls functions like
components.

A call runs the body that its name is bound to at that moment, one level down. Where as many calls
are under way as the limit allows, a call is reported and not carried out. That is what makes
evaluation end: the body of a call runs with one level fewer to go.
-/

namespace ViewLang

/-- How views and functions are treated. -/
inductive Mode where
  | reference
  | corrected
deriving DecidableEq, Repr

/-- The rules of an evaluation. -/
structure Config where
  mode : Mode := .reference
  /-- How many calls may be under way at once. -/
  maxDepth : Nat := 10000
deriving DecidableEq, Repr

/-- An interpreter between two statements: the bindings in force, and the sink, which by itself
holds the events emitted and not yet taken away. -/
structure Interpreter (σ : Type := Array Event) where
  environment : Environment := ∅
  events : σ := by exact #[]

namespace Interpreter

variable {σ : Type} [Sink σ]

/-- Adds an event. -/
def emit (i : Interpreter σ) (event : Event) : Interpreter σ :=
  { i with events := Sink.emit i.events event }

/-- Binds a name and adds the event that says so. -/
def define (i : Interpreter σ) (name : String) (binding : Binding) (event : Event) :
    Interpreter σ :=
  { i with environment := i.environment.insert name binding }.emit event

/-- What a call of the name would run, and the event that announces it. Functions can be called in
the corrected mode only. -/
def callee? (mode : Mode) (env : Environment) (name : String) : Option (Event × List Node) :=
  match env.get? name with
  | some (.component body) => some (.componentRendering name, body)
  | some (.function body) =>
    match mode with
    | .reference => none
    | .corrected => some (.functionCalled name, body)
  | _ => none

mutual

/-- Evaluates a statement. A call that can be carried out is left to `enter`, which is given the
name, the event that announces the call, and the body. -/
def statement (mode : Mode) (enter : Interpreter σ → String → Event → List Node → Interpreter σ)
    (i : Interpreter σ) : Node → Interpreter σ
  | .view elements =>
    let i := i.emit (.viewRendered elements)
    match mode with
    | .reference => i
    | .corrected => block mode enter i elements
  | .assignment name value => i.define name (.value value) (.assigned name value)
  | .function name body =>
    match mode with
    | .reference => i.emit (.functionDefined name body)
    | .corrected => i.define name (.function body) (.functionDefined name body)
  | .component name body => i.define name (.component body) (.componentDefined name)
  | .call name =>
    match callee? mode i.environment name with
    | some (event, body) => enter i name event body
    | none => i.emit (.componentNotFound name)
  | .text content => i.emit (.textRendered content)
  | .button label => i.emit (.buttonRendered label)

/-- Evaluates statements in order. -/
def block (mode : Mode) (enter : Interpreter σ → String → Event → List Node → Interpreter σ)
    (i : Interpreter σ) : List Node → Interpreter σ
  | [] => i
  | node :: nodes => block mode enter (statement mode enter i node) nodes

end

/-- Carries out a call where `levels` more calls may be nested, this one included. -/
def enter (config : Config) :
    (levels : Nat) → Interpreter σ → String → Event → List Node → Interpreter σ
  | 0, i, name, _, _ => i.emit (.callDepthExceeded name config.maxDepth)
  | levels + 1, i, _, event, body => block config.mode (enter config levels) (i.emit event) body

/-- Evaluates one statement. -/
def evaluate (config : Config) (i : Interpreter) (node : Node) : Interpreter :=
  statement config.mode (enter config config.maxDepth) i node

/-- Evaluates a program. -/
def interpret (config : Config) (i : Interpreter) (program : List Node) : Interpreter :=
  block config.mode (enter config config.maxDepth) i program

/-- Evaluates a program from the start, with its events going to the sink. -/
def interpretInto (config : Config) (sink : σ) (program : List Node) : Interpreter σ :=
  block config.mode (enter config config.maxDepth) { events := sink } program

/-- Drops every binding. The events stay. -/
def reset (i : Interpreter) : Interpreter :=
  { i with environment := ∅ }

/-- Takes away the events. -/
def take (i : Interpreter) : Array Event × Interpreter :=
  (i.events, { i with events := #[] })

/-! ### The parts of an interpreter after each action -/

section Actions

variable (i : Interpreter) (name : String) (binding : Binding) (event : Event)

@[simp] theorem environment_emit : (i.emit event).environment = i.environment := rfl

@[simp] theorem events_emit : (i.emit event).events = i.events.push event := rfl

@[simp] theorem environment_define :
    (i.define name binding event).environment = i.environment.insert name binding := rfl

@[simp] theorem events_define : (i.define name binding event).events = i.events.push event := rfl

end Actions

/-- A call runs a component, or a function in the corrected mode. -/
theorem callee?_eq_some_iff {mode : Mode} {env : Environment} {name : String} {event : Event}
    {body : List Node} :
    callee? mode env name = some (event, body) ↔
      env.get? name = some (.component body) ∧ event = .componentRendering name ∨
        mode = .corrected ∧ env.get? name = some (.function body) ∧
          event = .functionCalled name := by
  unfold callee?
  split
  · next h => grind
  · next h => cases mode <;> grind
  · next hcomponent hfunction => grind

/-- A name stands for nothing that can be called if it is unbound, or has a value, or, in the
reference mode, a function. -/
theorem callee?_eq_none_iff {mode : Mode} {env : Environment} {name : String} :
    callee? mode env name = none ↔
      env.get? name = none ∨ (∃ value, env.get? name = some (.value value)) ∨
        mode = .reference ∧ ∃ body, env.get? name = some (.function body) := by
  unfold callee?
  split
  · next h => grind
  · next h => cases mode <;> grind
  · next hcomponent hfunction =>
    cases hget : env.get? name with
    | none => grind
    | some binding => cases binding <;> grind

/-! ### Evaluating several statements -/

theorem block_append (mode : Mode)
    (enter : Interpreter σ → String → Event → List Node → Interpreter σ) (i : Interpreter σ)
    (xs ys : List Node) :
    block mode enter i (xs ++ ys) = block mode enter (block mode enter i xs) ys := by
  induction xs generalizing i with
  | nil => simp [block]
  | cons x xs ih => simp [block, ih]

end Interpreter

end ViewLang
