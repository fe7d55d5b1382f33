import Mathlib.Logic.Relation
import ViewLang.Interpreter
import ViewLang.Proofs.Trees

/-!
# Evaluation one statement at a time

`Interpreter.interpret` evaluates a program as a whole: a body is evaluated inside the evaluation of
its call, and the calls still allowed are counted down. This module describes the same evaluation as
a machine, which knows nothing of what it will come to. A **machine** consists of an interpreter,
the number of calls under way, and a list of tasks. It carries out the first task: it evaluates one
statement, emits the event that belongs to it, and puts the statements to be evaluated next in front
of the other tasks, or it takes note that the body of a call has come to its end. Nothing but the
comparison of the two numbers keeps it from running for ever.

* `Machine.Move` lists all that a step can do. Every invariant of evaluation is read off from it.
* `Machine.reaches_interpret`: the machine comes to the end of its tasks, with no call under way and
  with the interpreter that `Interpreter.interpret` computes.
* `Machine.Grounded`: what the machine evaluates, and every body that it has stored, stems from the
  program.
-/

namespace ViewLang

/-- The event reports a call that was not carried out for the sake of the limit. -/
def Event.isCut : Event → Bool
  | callDepthExceeded _ _ => true
  | _ => false

namespace Binding

/-- The statement that gives the name such a binding. -/
def definition (name : String) : Binding → Node
  | .value literal => .assignment name literal
  | .component body => .component name body
  | .function body => .function name body

/-- The event that reports that the name has been given such a binding. -/
def report (name : String) : Binding → Event
  | .value literal => .assigned name literal
  | .component _ => .componentDefined name
  | .function body => .functionDefined name body

/-- Functions are bound in the corrected mode only. -/
def Allowed (mode : Mode) : Binding → Prop
  | .function _ => mode = .corrected
  | _ => True

end Binding

/-- What a machine has to do. -/
inductive Task where
  | evaluate (node : Node)
  /-- The body of a call has come to its end. -/
  | leave

/-- An evaluation under way. -/
structure Machine where
  interpreter : Interpreter
  /-- The number of calls under way. -/
  depth : Nat
  /-- What is still to be done, next first. -/
  tasks : List Task

namespace Machine

open Interpreter (callee?)

/-- A machine that is about to evaluate a program. -/
def load (i : Interpreter) (program : List Node) : Machine :=
  ⟨i, 0, program.map .evaluate⟩

/-- The machine after its first task; `none` when it has no task. -/
def next? (config : Config) : Machine → Option Machine
  | ⟨_, _, []⟩ => none
  | ⟨i, depth, .leave :: tasks⟩ => some ⟨i, depth - 1, tasks⟩
  | ⟨i, depth, .evaluate node :: tasks⟩ =>
    match node with
    | .view elements =>
      match config.mode with
      | .reference => some ⟨i.emit (.viewRendered elements), depth, tasks⟩
      | .corrected =>
        some ⟨i.emit (.viewRendered elements), depth, elements.map .evaluate ++ tasks⟩
    | .assignment name value =>
      some ⟨i.define name (.value value) (.assigned name value), depth, tasks⟩
    | .function name body =>
      match config.mode with
      | .reference => some ⟨i.emit (.functionDefined name body), depth, tasks⟩
      | .corrected => some ⟨i.define name (.function body) (.functionDefined name body), depth, tasks⟩
    | .component name body =>
      some ⟨i.define name (.component body) (.componentDefined name), depth, tasks⟩
    | .call name =>
      match callee? config.mode i.environment name with
      | none => some ⟨i.emit (.componentNotFound name), depth, tasks⟩
      | some (event, body) =>
        if config.maxDepth ≤ depth then
          some ⟨i.emit (.callDepthExceeded name depth), depth, tasks⟩
        else
          some ⟨i.emit event, depth + 1, body.map .evaluate ++ .leave :: tasks⟩
    | .text content => some ⟨i.emit (.textRendered content), depth, tasks⟩
    | .button label => some ⟨i.emit (.buttonRendered label), depth, tasks⟩

/-- One machine is the next one of the other. -/
def Step (config : Config) (m m' : Machine) : Prop :=
  next? config m = some m'

/-- The machine gets from one state to the other in some number of steps. -/
def Reaches (config : Config) : Machine → Machine → Prop :=
  Relation.ReflTransGen (Step config)

/-! ### What a step can do -/

/-- The statement does no more than show something, which the event reports. -/
inductive Shows (mode : Mode) : Node → Event → Prop where
  | view {elements : List Node} : mode = .reference →
      Shows mode (.view elements) (.viewRendered elements)
  | function {name : String} {body : List Node} : mode = .reference →
      Shows mode (.function name body) (.functionDefined name body)
  | text {content : String} : Shows mode (.text content) (.textRendered content)
  | button {label : String} : Shows mode (.button label) (.buttonRendered label)

/-- **What a step can do.** -/
inductive Move (config : Config) : Machine → Machine → Prop where
  | leave {i depth tasks} : Move config ⟨i, depth, .leave :: tasks⟩ ⟨i, depth - 1, tasks⟩
  | shown {i depth tasks node event} : Shows config.mode node event →
      Move config ⟨i, depth, .evaluate node :: tasks⟩ ⟨i.emit event, depth, tasks⟩
  | opened {i depth tasks elements} : config.mode = .corrected →
      Move config ⟨i, depth, .evaluate (.view elements) :: tasks⟩
        ⟨i.emit (.viewRendered elements), depth, elements.map .evaluate ++ tasks⟩
  | defined {i depth tasks} (name : String) (binding : Binding) : binding.Allowed config.mode →
      Move config ⟨i, depth, .evaluate (binding.definition name) :: tasks⟩
        ⟨i.define name binding (binding.report name), depth, tasks⟩
  | missing {i depth tasks name} : callee? config.mode i.environment name = none →
      Move config ⟨i, depth, .evaluate (.call name) :: tasks⟩
        ⟨i.emit (.componentNotFound name), depth, tasks⟩
  | cut {i depth tasks name event body} :
      callee? config.mode i.environment name = some (event, body) → config.maxDepth ≤ depth →
      Move config ⟨i, depth, .evaluate (.call name) :: tasks⟩
        ⟨i.emit (.callDepthExceeded name depth), depth, tasks⟩
  | entered {i depth tasks name event body} :
      callee? config.mode i.environment name = some (event, body) → depth < config.maxDepth →
      Move config ⟨i, depth, .evaluate (.call name) :: tasks⟩
        ⟨i.emit event, depth + 1, body.map .evaluate ++ .leave :: tasks⟩

section Steps

variable {config : Config} {m m' final : Machine}

theorem Step.move (h : Step config m m') : Move config m m' := by
  obtain ⟨i, depth, tasks⟩ := m
  rw [Step] at h
  match tasks with
  | [] => cases h
  | .leave :: tasks =>
    cases h
    exact .leave
  | .evaluate node :: tasks =>
    cases node with
    | view elements =>
      cases hmode : config.mode <;> simp only [next?, hmode] at h <;> cases h
      · exact .shown (.view hmode)
      · exact .opened hmode
    | assignment name value =>
      cases h
      exact .defined name (.value value) trivial
    | function name body =>
      cases hmode : config.mode <;> simp only [next?, hmode] at h <;> cases h
      · exact .shown (.function hmode)
      · exact .defined name (.function body) hmode
    | component name body =>
      cases h
      exact .defined name (.component body) trivial
    | call name =>
      cases hcallee : callee? config.mode i.environment name with
      | none =>
        simp only [next?, hcallee] at h
        cases h
        exact .missing hcallee
      | some callee =>
        simp only [next?, hcallee] at h
        split at h
        · next hdepth =>
          cases h
          exact .cut hcallee hdepth
        · next hdepth =>
          cases h
          exact .entered hcallee (Nat.lt_of_not_le hdepth)
    | text content =>
      cases h
      exact .shown .text
    | button label =>
      cases h
      exact .shown .button

theorem Move.step (h : Move config m m') : Step config m m' := by
  cases h with
  | leave => rfl
  | shown hshows =>
    cases hshows with
    | view hmode | function hmode => simp [Step, next?, hmode]
    | text | button => rfl
  | opened hmode => simp [Step, next?, hmode]
  | defined name binding hallowed =>
    cases binding with
    | value | component => rfl
    | function body =>
      have hmode : config.mode = .corrected := hallowed
      simp [Step, next?, Binding.definition, Binding.report, hmode]
  | missing hcallee => simp [Step, next?, hcallee]
  | cut hcallee hdepth => simp [Step, next?, hcallee, hdepth]
  | entered hcallee hdepth => simp [Step, next?, hcallee, Nat.not_le_of_lt hdepth]

theorem Shows.isCut_eq_false {mode : Mode} {node : Node} {event : Event}
    (h : Shows mode node event) : event.isCut = false := by
  cases h <;> rfl

theorem isCut_report {name : String} (binding : Binding) :
    (binding.report name).isCut = false := by
  cases binding <;> rfl

theorem isCut_eq_false_of_callee? {mode : Mode} {env : Environment} {name : String}
    {event : Event} {body : List Node} (h : callee? mode env name = some (event, body)) :
    event.isCut = false := by
  rcases Interpreter.callee?_eq_some_iff.mp h with ⟨-, rfl⟩ | ⟨-, -, rfl⟩ <;> rfl

/-- A step emits one event, unless it ends a call. It reports a cut only at the limit, and with the
depth that has been reached. -/
theorem Step.events (h : Step config m m') :
    m'.interpreter.events = m.interpreter.events ∨
      ∃ event, m'.interpreter.events = m.interpreter.events.push event ∧
        (event.isCut = true →
          config.maxDepth ≤ m.depth ∧ ∃ name, event = .callDepthExceeded name m.depth) := by
  cases h.move with
  | leave => exact .inl rfl
  | shown hshows => exact .inr ⟨_, rfl, by simp [hshows.isCut_eq_false]⟩
  | opened | missing => exact .inr ⟨_, rfl, by simp [Event.isCut]⟩
  | defined _ binding => exact .inr ⟨_, rfl, by simp [isCut_report binding]⟩
  | cut _ hdepth => exact .inr ⟨_, rfl, fun _ => ⟨hdepth, _, rfl⟩⟩
  | entered hcallee => exact .inr ⟨_, rfl, by simp [isCut_eq_false_of_callee? hcallee]⟩

/-- No event is ever taken back. -/
theorem Reaches.events_extend (h : Reaches config m m') :
    m.interpreter.events.toList <+: m'.interpreter.events.toList := by
  induction h with
  | refl => exact List.prefix_rfl
  | tail _ hstep ih =>
    rcases hstep.events with heq | ⟨event, heq, -⟩
    · rwa [heq]
    · rw [heq, Array.toList_push]
      exact ih.trans (List.prefix_append _ _)

theorem rightUnique_step (config : Config) : Relator.RightUnique (Step config) :=
  fun _ _ _ hfirst hsecond => Option.some.inj (hfirst.symm.trans hsecond)

/-- A machine without tasks stays as it is. -/
theorem Reaches.eq_of_tasks_eq_nil (h : Reaches config final m) (htasks : final.tasks = []) :
    final = m := by
  rcases h.cases_head with heq | ⟨_, hstep, _⟩
  · exact heq
  · obtain ⟨i, depth, tasks⟩ := final
    subst htasks
    cases hstep

/-- A machine that reaches the end of its tasks gets there from wherever it has come so far. -/
theorem Reaches.reaches_final (hfinal : Reaches config m final) (htasks : final.tasks = [])
    (h : Reaches config m m') : Reaches config m' final := by
  -- Of two states that are reached, one is on the way to the other.
  rcases Relation.ReflTransGen.total_of_right_unique (rightUnique_step config) h hfinal with
    hreach | hreach
  · exact hreach
  · exact Reaches.eq_of_tasks_eq_nil hreach htasks ▸ .refl

end Steps

/-! ### The machine computes the evaluation -/

section Evaluation

variable {config : Config} {depth : Nat}
  {enter : Interpreter → String → Event → List Node → Interpreter}

/-- At this depth, the machine carries out calls as `enter` does. -/
def CarriesOut (config : Config) (depth : Nat)
    (enter : Interpreter → String → Event → List Node → Interpreter) : Prop :=
  ∀ i name event body tasks, callee? config.mode i.environment name = some (event, body) →
    Reaches config ⟨i, depth, .evaluate (.call name) :: tasks⟩ ⟨enter i name event body, depth, tasks⟩

private theorem reaches_of_next? {m m' : Machine} (h : next? config m = some m') :
    Reaches config m m' :=
  .single h

mutual

theorem reaches_statement (h : CarriesOut config depth enter) (i : Interpreter)
    (tasks : List Task) : (node : Node) →
      Reaches config ⟨i, depth, .evaluate node :: tasks⟩
        ⟨i.statement config.mode enter node, depth, tasks⟩
  | .view elements => by
    cases hmode : config.mode with
    | reference => exact reaches_of_next? (by simp [next?, Interpreter.statement, hmode])
    | corrected =>
      have hopened : Reaches config ⟨i, depth, .evaluate (.view elements) :: tasks⟩
          ⟨i.emit (.viewRendered elements), depth, elements.map .evaluate ++ tasks⟩ :=
        reaches_of_next? (by simp [next?, hmode])
      have helements := reaches_block h (i.emit (.viewRendered elements)) tasks elements
      rw [hmode] at helements
      exact hopened.trans helements
  | .assignment name value => reaches_of_next? rfl
  | .function name body => by
    cases hmode : config.mode <;>
      exact reaches_of_next? (by simp [next?, Interpreter.statement, hmode])
  | .component name body => reaches_of_next? rfl
  | .call name => by
    rw [Interpreter.statement]
    split
    · next event body hcallee => exact h i name event body tasks hcallee
    · next hcallee => exact reaches_of_next? (by simp [next?, hcallee])
  | .text content => reaches_of_next? rfl
  | .button label => reaches_of_next? rfl

theorem reaches_block (h : CarriesOut config depth enter) (i : Interpreter) (tasks : List Task) :
    (nodes : List Node) →
      Reaches config ⟨i, depth, nodes.map .evaluate ++ tasks⟩
        ⟨i.block config.mode enter nodes, depth, tasks⟩
  | [] => .refl
  | node :: nodes =>
    (reaches_statement h i (nodes.map Task.evaluate ++ tasks) node).trans
      (reaches_block h (i.statement config.mode enter node) tasks nodes)

end

/-- Counting the calls under way comes to the same as counting the calls still allowed. -/
theorem carriesOut_enter {levels : Nat} (h : depth + levels = config.maxDepth) :
    CarriesOut config depth (Interpreter.enter config levels) := by
  induction levels generalizing depth with
  | zero =>
    -- As many calls are under way as the limit allows.
    intro i name event body tasks hcallee
    obtain rfl : config.maxDepth = depth := by omega
    exact reaches_of_next? (by simp [next?, hcallee, Interpreter.enter])
  | succ levels ih =>
    -- The call is entered, its body is evaluated one level down, and the call is left again.
    intro i name event body tasks hcallee
    have hdepth : ¬config.maxDepth ≤ depth := by omega
    have hentered : Reaches config ⟨i, depth, .evaluate (.call name) :: tasks⟩
        ⟨i.emit event, depth + 1, body.map .evaluate ++ .leave :: tasks⟩ :=
      reaches_of_next? (by simp [next?, hcallee, hdepth])
    have hinner : CarriesOut config (depth + 1) (Interpreter.enter config levels) :=
      ih (by omega)
    have hbody := reaches_block hinner (i.emit event) (.leave :: tasks) body
    exact (hentered.trans hbody).trans (reaches_of_next? rfl)

/-- **The machine computes the evaluation.** It comes to the end of its tasks, and then no call is
under way. -/
theorem reaches_interpret (config : Config) (i : Interpreter) (program : List Node) :
    Reaches config (load i program) ⟨i.interpret config program, 0, []⟩ := by
  have h := reaches_block (carriesOut_enter (Nat.zero_add config.maxDepth)) i [] program
  rwa [List.append_nil] at h

/-- However a machine comes to the end of its tasks, it has evaluated the program then. -/
theorem Reaches.interpreter_eq {i i' : Interpreter} {program : List Node}
    (h : Reaches config (load i program) ⟨i', depth, []⟩) : i' = i.interpret config program := by
  have hend := (reaches_interpret config i program).reaches_final rfl h
  exact congrArg Machine.interpreter (hend.eq_of_tasks_eq_nil rfl)

end Evaluation

end Machine

/-! ### Where statements and bodies come from -/

/-- Every binding is made by a statement that occurs in the trees. -/
def Environment.DefinedIn (trees : List Node) (env : Environment) : Prop :=
  ∀ name binding, env.get? name = some binding → (binding.definition name).WithinAny trees

namespace Machine

open Interpreter (callee?)

/-- What the machine has to evaluate, and every binding that it has made, stems from the trees. -/
structure Grounded (trees : List Node) (m : Machine) : Prop where
  pending : ∀ node, .evaluate node ∈ m.tasks → node.WithinAny trees
  stored : m.interpreter.environment.DefinedIn trees

section Grounded

variable {config : Config} {trees nodes program : List Node} {i : Interpreter} {m m' : Machine}
  {tasks : List Task} {env : Environment} {mode : Mode} {name : String} {event : Event}
  {body : List Node}

private theorem definedIn_insert {binding : Binding} (henv : env.DefinedIn trees)
    (hbinding : (binding.definition name).WithinAny trees) :
    (env.insert name binding).DefinedIn trees := by
  intro other found hget
  by_cases hname : other = name
  · subst hname
    rw [Environment.get?_insert_self] at hget
    cases hget
    exact hbinding
  · rw [Environment.get?_insert_of_ne _ _ hname] at hget
    exact henv other found hget

/-- The body of a call is that of the definition that its name is bound to. -/
theorem exists_binding_of_callee? (h : callee? mode env name = some (event, body)) :
    ∃ binding, env.get? name = some binding ∧ (binding.definition name).children = body := by
  rcases Interpreter.callee?_eq_some_iff.mp h with ⟨hget, -⟩ | ⟨-, hget, -⟩
  · exact ⟨_, hget, rfl⟩
  · exact ⟨_, hget, rfl⟩

private theorem pending_append (hnodes : ∀ node ∈ nodes, node.WithinAny trees)
    (htasks : ∀ node, .evaluate node ∈ tasks → node.WithinAny trees) :
    ∀ node, .evaluate node ∈ nodes.map Task.evaluate ++ tasks → node.WithinAny trees := by
  intro node hmem
  rcases List.mem_append.mp hmem with hmem | hmem
  · obtain ⟨_, hmem, heq⟩ := List.mem_map.mp hmem
    cases heq
    exact hnodes node hmem
  · exact htasks node hmem

theorem Step.grounded (h : Step config m m') (hm : m.Grounded trees) : m'.Grounded trees := by
  obtain ⟨hpending, hstored⟩ := hm
  cases h.move with
  | leave | shown | missing | cut =>
    exact ⟨fun node hmem => hpending node (.tail _ hmem), hstored⟩
  | opened =>
    have hview := hpending _ (.head _)
    exact ⟨pending_append (fun node hmem => hview.of_mem_children hmem)
      fun node hmem => hpending node (.tail _ hmem), hstored⟩
  | defined name binding =>
    have hdefinition := hpending _ (.head _)
    exact ⟨fun node hmem => hpending node (.tail _ hmem), definedIn_insert hstored hdefinition⟩
  | entered hcallee =>
    -- What is evaluated next is the body of a definition that occurs in the trees.
    obtain ⟨binding, hget, rfl⟩ := exists_binding_of_callee? hcallee
    have hdefinition := hstored _ binding hget
    refine ⟨pending_append (fun node hmem => hdefinition.of_mem_children hmem) ?_, hstored⟩
    intro node hmem
    cases hmem with
    | tail _ hmem => exact hpending node (.tail _ hmem)

theorem Reaches.grounded (h : Reaches config m m') (hm : m.Grounded trees) :
    m'.Grounded trees := by
  induction h with
  | refl => exact hm
  | tail _ hstep ih => exact hstep.grounded ih

theorem grounded_load (hprogram : ∀ node ∈ program, node.WithinAny trees)
    (hstored : i.environment.DefinedIn trees) : (load i program).Grounded trees := by
  refine ⟨?_, hstored⟩
  rw [load, ← List.append_nil (program.map Task.evaluate)]
  exact pending_append hprogram (by simp)

theorem grounded_load_empty (program : List Node) : (load {} program).Grounded program :=
  grounded_load (fun _ hmem => .of_mem hmem) (by intro name binding hget; cases hget)

end Grounded

end Machine

end ViewLang
