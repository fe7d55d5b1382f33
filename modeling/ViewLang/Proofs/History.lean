import Mathlib.Data.List.Dedup
import ViewLang.Proofs.Machine

/-!
# Bindings and the history of events

The bindings of an interpreter are a matter of its events: the last event that defined a name
decides what the name is bound to. This module says so for an interpreter that serves requests in
any order, among them that the bindings be dropped and that the events be taken away.

* **The record.** `Recorded mode history env` says that the environment is the one that the history
  reports, and that every event about a call was emitted for good reason: what the event says of the
  name is what the events before it say. One more event at the end of the history preserves it
  (`Recorded.emit`, `Recorded.define`), and so does every step of a machine (`Step.recorded`).
* **Watching an interpreter.** An interpreter forgets the events that are taken away. `Watched` adds
  what an observer keeps: those events, and how many there were when the bindings were dropped.

The main result is `environment_eq_history`.
-/

namespace ViewLang

/-! ### Defining events -/

/-- The name that the event defines. A function is defined in the corrected mode only. -/
def Event.defined? (mode : Mode) : Event → Option String
  | assigned name _ | componentDefined name => some name
  | functionDefined name _ =>
    match mode with
    | .reference => none
    | .corrected => some name
  | _ => none

/-- The last event of a history that defines the name. -/
def lastDefining? (mode : Mode) (history : List Event) (name : String) : Option Event :=
  (history.filter fun event => event.defined? mode == some name).getLast?

/-- What an event says of the name of a call is what the events before it say. -/
def Event.Justified (mode : Mode) (before : List Event) : Event → Prop
  | componentRendering name => lastDefining? mode before name = some (.componentDefined name)
  | functionCalled name =>
    mode = .corrected ∧ ∃ body, lastDefining? mode before name = some (.functionDefined name body)
  | callDepthExceeded name _ =>
    lastDefining? mode before name = some (.componentDefined name) ∨
      ∃ body, lastDefining? mode before name = some (.functionDefined name body)
  | componentNotFound name =>
    lastDefining? mode before name = none ∨
      ∃ value, lastDefining? mode before name = some (.assigned name value)
  | _ => True

section Defining

variable {mode : Mode} {history : List Event} {name : String} {event : Event} {binding : Binding}

theorem lastDefining?_concat :
    lastDefining? mode (history ++ [event]) name =
      if event.defined? mode = some name then some event else lastDefining? mode history name := by
  unfold lastDefining?
  by_cases h : event.defined? mode = some name <;> simp [h]

theorem lastDefining?_eq_none_iff :
    lastDefining? mode history name = none ↔
      ∀ event ∈ history, event.defined? mode ≠ some name := by
  simp [lastDefining?]

theorem defined?_of_lastDefining? (h : lastDefining? mode history name = some event) :
    event.defined? mode = some name := by
  have hmem := List.mem_of_getLast? h
  simpa using (List.mem_filter.mp hmem).2

theorem defined?_report (h : binding.Allowed mode) :
    (binding.report name).defined? mode = some name := by
  cases binding with
  | value | component => rfl
  | function body =>
    have hmode : mode = .corrected := h
    rw [hmode]
    rfl

end Defining

/-! ### The record -/

/-- The environment is the one that the history reports, and the history accounts for each of its
events about calls. -/
structure Recorded (mode : Mode) (history : List Event) (env : Environment) : Prop where
  last_eq : ∀ name, lastDefining? mode history name = (env.get? name).map (Binding.report name)
  justified : ∀ before event after, history = before ++ event :: after →
    event.Justified mode before

namespace Recorded

variable {mode : Mode} {history : List Event} {env : Environment} {name : String}
  {event : Event} {binding : Binding} {body : List Node}

theorem empty (mode : Mode) : Recorded mode [] ∅ :=
  ⟨fun _ => rfl, fun before event after h => by cases before <;> cases h⟩

private theorem justified_concat (h : Recorded mode history env)
    (hevent : event.Justified mode history) (before : List Event) (other : Event)
    (after : List Event) (heq : history ++ [event] = before ++ other :: after) :
    other.Justified mode before := by
  -- Either the event is the one at the end, or it has been in the history before.
  obtain rfl | ⟨between, last, rfl⟩ := after.eq_nil_or_concat
  · obtain ⟨rfl, hother⟩ := List.append_inj' heq rfl
    cases hother
    exact hevent
  · rw [List.concat_eq_append, ← List.cons_append, ← List.append_assoc] at heq
    obtain ⟨hhistory, -⟩ := List.append_inj' heq rfl
    exact h.justified before other between hhistory

/-- An event that defines nothing. -/
theorem emit (h : Recorded mode history env) (hdefined : event.defined? mode = none)
    (hevent : event.Justified mode history) : Recorded mode (history ++ [event]) env where
  last_eq other := by
    rw [lastDefining?_concat, hdefined, if_neg (by simp), h.last_eq]
  justified := h.justified_concat hevent

/-- A definition and the event that reports it. -/
theorem define (h : Recorded mode history env) (name : String) (hallowed : binding.Allowed mode) :
    Recorded mode (history ++ [binding.report name]) (env.insert name binding) where
  last_eq other := by
    rw [lastDefining?_concat, defined?_report hallowed]
    by_cases hname : other = name
    · subst hname
      rw [if_pos rfl, Environment.get?_insert_self, Option.map_some]
    · rw [if_neg fun heq => hname (Option.some.inj heq).symm, h.last_eq,
        Environment.get?_insert_of_ne _ _ hname]
  justified := h.justified_concat (by cases binding <;> trivial)

theorem lastDefining?_of_get? (h : Recorded mode history env) (hget : env.get? name = some binding) :
    lastDefining? mode history name = some (binding.report name) := by
  rw [h.last_eq, hget, Option.map_some]

/-- No function is bound in the reference mode. -/
theorem mode_eq_of_function (h : Recorded mode history env)
    (hget : env.get? name = some (.function body)) : mode = .corrected := by
  have hdefined := defined?_of_lastDefining? (h.lastDefining?_of_get? hget)
  cases mode with
  | reference => cases hdefined
  | corrected => rfl

theorem justified_missing (h : Recorded mode history env)
    (hcallee : Interpreter.callee? mode env name = none) :
    (Event.componentNotFound name).Justified mode history := by
  rcases Interpreter.callee?_eq_none_iff.mp hcallee with hget | ⟨value, hget⟩ | ⟨hmode, body, hget⟩
  · have hlast : lastDefining? mode history name = none := by
      rw [h.last_eq, hget, Option.map_none]
    exact .inl hlast
  · exact .inr ⟨value, h.lastDefining?_of_get? hget⟩
  · -- A function that is bound could have been called.
    cases hmode.symm.trans (h.mode_eq_of_function hget)

theorem justified_cut (h : Recorded mode history env)
    (hcallee : Interpreter.callee? mode env name = some (event, body)) (depth : Nat) :
    (Event.callDepthExceeded name depth).Justified mode history := by
  rcases Interpreter.callee?_eq_some_iff.mp hcallee with ⟨hget, -⟩ | ⟨-, hget, -⟩
  · exact .inl (h.lastDefining?_of_get? hget)
  · exact .inr ⟨body, h.lastDefining?_of_get? hget⟩

theorem justified_entered (h : Recorded mode history env)
    (hcallee : Interpreter.callee? mode env name = some (event, body)) :
    event.Justified mode history := by
  rcases Interpreter.callee?_eq_some_iff.mp hcallee with ⟨hget, rfl⟩ | ⟨hmode, hget, rfl⟩
  · exact h.lastDefining?_of_get? hget
  · exact ⟨hmode, body, h.lastDefining?_of_get? hget⟩

/-- There are as many bindings as names with a defining event. -/
theorem size_eq (h : Recorded mode history env) :
    env.size = (history.filterMap (Event.defined? mode)).dedup.length := by
  rw [Environment.size, ← List.length_map Prod.fst]
  refine ((List.perm_ext_iff_of_nodup env.nodup_names (List.nodup_dedup _)).mpr fun name => ?_).length_eq
  rw [List.mem_dedup, List.mem_filterMap, ← not_iff_not, ← Environment.get?_eq_none_iff,
    ← Option.map_eq_none_iff (f := Binding.report name), ← h.last_eq, lastDefining?_eq_none_iff]
  simp

end Recorded

/-! ### Watching an interpreter -/

/-- What can be asked of an interpreter. -/
inductive Request where
  | interpret (program : List Node)
  | evaluate (node : Node)
  /-- To drop every binding. -/
  | reset
  /-- To hand over the events. -/
  | take

/-- The interpreter after a request. -/
def Interpreter.serve (config : Config) (i : Interpreter) : Request → Interpreter
  | .interpret program => i.interpret config program
  | .evaluate node => i.evaluate config node
  | .reset => i.reset
  | .take => i.take.2

/-- An interpreter, with what it has forgotten. -/
structure Watched where
  interpreter : Interpreter := {}
  /-- The events that have been taken away. -/
  taken : List Event := []
  /-- The number of events emitted before the bindings were last dropped. -/
  mark : Nat := 0
  /-- The statements evaluated since then. -/
  trees : List Node := []

namespace Watched

/-- All events emitted so far. -/
def emitted (w : Watched) : List Event :=
  w.taken ++ w.interpreter.events.toList

/-- The events emitted since the bindings were last dropped, whether they have been taken away or
not. -/
def history (w : Watched) : List Event :=
  w.emitted.drop w.mark

/-- What is known after a request. -/
def serve (config : Config) (w : Watched) (request : Request) : Watched :=
  let next := { w with interpreter := w.interpreter.serve config request }
  match request with
  | .interpret program => { next with trees := w.trees ++ program }
  | .evaluate node => { next with trees := w.trees ++ [node] }
  | .reset => { next with mark := w.emitted.length, trees := [] }
  | .take => { next with taken := w.emitted }

/-- What is known of a new interpreter after the requests. -/
def watch (config : Config) (requests : List Request) : Watched :=
  requests.foldl (serve config) {}

/-- An observer does not interfere. -/
theorem interpreter_watch (config : Config) (requests : List Request) :
    (watch config requests).interpreter = requests.foldl (Interpreter.serve config) {} :=
  (List.foldl_hom interpreter fun _ request => by cases request <;> rfl).symm

/-- The bindings are those that the events emitted since the last reset report. -/
structure InStep (config : Config) (w : Watched) : Prop where
  mark_le : w.mark ≤ w.emitted.length
  recorded : Recorded config.mode w.history w.interpreter.environment

/-- Besides, they stem from the statements evaluated since then. -/
structure Sound (config : Config) (w : Watched) : Prop extends InStep config w where
  stored : w.interpreter.environment.DefinedIn w.trees

variable {config : Config} {w : Watched}

/-! ### One step -/

section Steps

variable {event : Event} {binding : Binding} {m m' : Machine}

/-- One more event, and the environment that goes with it. -/
theorem InStep.push (h : w.InStep config) {env : Environment}
    (hrecorded : Recorded config.mode (w.history ++ [event]) env) :
    InStep config { w with interpreter := ⟨env, w.interpreter.events.push event⟩ } := by
  have hemitted : emitted { w with interpreter := ⟨env, w.interpreter.events.push event⟩ } =
      w.emitted ++ [event] := by
    simp [emitted]
  constructor
  · rw [hemitted, List.length_append]
    exact Nat.le_add_right_of_le h.mark_le
  · -- The event comes after the mark, so it is added to the history.
    rw [history, hemitted, List.drop_append_of_le_length h.mark_le]
    exact hrecorded

theorem InStep.emit (h : w.InStep config) (hdefined : event.defined? config.mode = none)
    (hevent : event.Justified config.mode w.history) :
    InStep config { w with interpreter := w.interpreter.emit event } :=
  h.push (h.recorded.emit hdefined hevent)

theorem InStep.define (h : w.InStep config) (name : String) (hallowed : binding.Allowed config.mode) :
    InStep config
      { w with interpreter := w.interpreter.define name binding (binding.report name) } :=
  h.push (h.recorded.define name hallowed)

private theorem defined?_of_shows {mode : Mode} {node : Node}
    (h : Machine.Shows mode node event) : event.defined? mode = none := by
  cases h with
  | view | text | button => rfl
  | function hmode =>
    rw [hmode]
    rfl

private theorem justified_of_shows {mode : Mode} {node : Node} {before : List Event}
    (h : Machine.Shows mode node event) : event.Justified mode before := by
  cases h <;> trivial

private theorem defined?_of_callee? {mode : Mode} {env : Environment} {name : String}
    {body : List Node} (h : Interpreter.callee? mode env name = some (event, body)) :
    event.defined? mode = none := by
  rcases Interpreter.callee?_eq_some_iff.mp h with ⟨-, rfl⟩ | ⟨-, -, rfl⟩ <;> rfl

/-- While a machine evaluates, the bindings keep in step with the events. -/
theorem InStep.step (h : InStep config { w with interpreter := m.interpreter })
    (hstep : Machine.Step config m m') :
    InStep config { w with interpreter := m'.interpreter } := by
  cases hstep.move with
  | leave => exact h
  | shown hshows => exact h.emit (defined?_of_shows hshows) (justified_of_shows hshows)
  | opened => exact h.emit rfl trivial
  | defined name binding hallowed => exact h.define name hallowed
  | missing hcallee => exact h.emit rfl (h.recorded.justified_missing hcallee)
  | cut hcallee => exact h.emit rfl (h.recorded.justified_cut hcallee _)
  | entered hcallee =>
    exact h.emit (defined?_of_callee? hcallee) (h.recorded.justified_entered hcallee)

theorem InStep.reaches (h : InStep config { w with interpreter := m.interpreter })
    (hreaches : Machine.Reaches config m m') :
    InStep config { w with interpreter := m'.interpreter } := by
  induction hreaches with
  | refl => exact h
  | tail _ hstep ih => exact ih.step hstep

end Steps

/-! ### One request -/

theorem Sound.interpret (h : w.Sound config) (program : List Node) :
    (w.serve config (.interpret program)).Sound config := by
  have hreaches := Machine.reaches_interpret config w.interpreter program
  have hgrounded : (Machine.load w.interpreter program).Grounded (w.trees ++ program) :=
    Machine.grounded_load (fun _ hmem => .of_mem (List.mem_append_right _ hmem))
      (fun name binding hget => (h.stored name binding hget).mono (List.subset_append_left _ _))
  have hinstep := h.toInStep.reaches hreaches
  exact ⟨⟨hinstep.mark_le, hinstep.recorded⟩, (hreaches.grounded hgrounded).stored⟩

theorem Sound.evaluate (h : w.Sound config) (node : Node) :
    (w.serve config (.evaluate node)).Sound config := by
  have heq : w.serve config (.evaluate node) = w.serve config (.interpret [node]) := by
    simp [serve, Interpreter.serve, Interpreter.evaluate, Interpreter.interpret, Interpreter.block]
  rw [heq]
  exact h.interpret [node]

theorem sound_reset (w : Watched) : (w.serve config .reset).Sound config := by
  have hhistory : (w.serve config .reset).history = [] := List.drop_length
  refine ⟨⟨Nat.le_refl _, ?_⟩, fun name binding hget => ?_⟩
  · rw [hhistory]
    exact Recorded.empty config.mode
  · cases hget

theorem Sound.take (h : w.Sound config) : (w.serve config .take).Sound config := by
  have hemitted : (w.serve config .take).emitted = w.emitted := List.append_nil _
  have hhistory : (w.serve config .take).history = w.history := by
    rw [history, hemitted]
    rfl
  refine ⟨⟨?_, ?_⟩, h.stored⟩
  · rw [hemitted]
    exact h.mark_le
  · rw [hhistory]
    exact h.recorded

theorem Sound.serve (h : w.Sound config) (request : Request) :
    (w.serve config request).Sound config := by
  cases request with
  | interpret program => exact h.interpret program
  | evaluate node => exact h.evaluate node
  | reset => exact sound_reset w
  | take => exact h.take

theorem Sound.foldl_serve (h : w.Sound config) (requests : List Request) :
    (requests.foldl (Watched.serve config) w).Sound config := by
  induction requests generalizing w with
  | nil => exact h
  | cons request requests ih => exact ih (h.serve request)

/-- Whatever has been asked of it, the interpreter is sound. -/
theorem sound_watch (config : Config) (requests : List Request) :
    (watch config requests).Sound config := by
  have hnew : Sound config {} := by
    refine ⟨⟨Nat.le_refl _, Recorded.empty config.mode⟩, fun name binding hget => ?_⟩
    cases hget
  exact hnew.foldl_serve requests

end Watched

/-! ### Bindings as the history has them -/

/-- The event, the last one that defined the name, decides on the binding. The body of a component
is not part of the event; it is that of a definition in the trees. -/
def Event.Decides (trees : List Node) (name : String) : Event → Binding → Prop
  | assigned _ value, binding => binding = .value value
  | functionDefined _ body, binding => binding = .function body
  | componentDefined _, binding =>
    ∃ body, binding = .component body ∧ (Node.component name body).WithinAny trees
  | _, _ => False

private theorem decides_report {trees : List Node} {name : String} {binding : Binding}
    (h : (binding.definition name).WithinAny trees) :
    (binding.report name).Decides trees name binding := by
  cases binding with
  | value | function => rfl
  | component body => exact ⟨body, rfl, h⟩

/-- **The bindings are those of the history.** Whatever has been asked of a new interpreter, let the
history be the events emitted since the bindings were last dropped. A name is unbound if no event of
the history defines it, and otherwise the last event that does decides what it is bound to; there
are as many bindings as names defined; and what an event of the history says about a call agrees
with the last event before it that defined the name of the call. -/
theorem environment_eq_history (config : Config) (requests : List Request) :
    let w := Watched.watch config requests
    (∀ name,
        (w.interpreter.environment.get? name = none ↔
          ∀ event ∈ w.history, event.defined? config.mode ≠ some name) ∧
        ∀ event, lastDefining? config.mode w.history name = some event →
          ∃ binding, w.interpreter.environment.get? name = some binding ∧
            event.Decides w.trees name binding) ∧
      w.interpreter.environment.size =
        (w.history.filterMap (Event.defined? config.mode)).dedup.length ∧
      ∀ before event after, w.history = before ++ event :: after →
        event.Justified config.mode before := by
  intro w
  have h : w.Sound config := Watched.sound_watch config requests
  refine ⟨fun name => ⟨?_, fun event hlast => ?_⟩, h.recorded.size_eq, h.recorded.justified⟩
  · rw [← lastDefining?_eq_none_iff, h.recorded.last_eq, Option.map_eq_none_iff]
  · rw [h.recorded.last_eq] at hlast
    obtain ⟨binding, hget, rfl⟩ := Option.map_eq_some_iff.mp hlast
    exact ⟨binding, hget, decides_report (h.stored name binding hget)⟩

end ViewLang
