import ViewLang.Proofs.DepthLimit

/-!
# The body of a call

A call emits the event that announces it, and then does what its body does one level further down.
The body is the one that the name is bound to when the call begins, and it is evaluated with the
bindings of that moment. So it makes no difference whether a body is evaluated inside a call or as a
program by itself, with room for one call fewer, save for the depth that is reported where calls are
cut.

* **A machine inside another one.** `Machine.inside outer m` is the machine `m` as a part of an
  evaluation that has come as far as `outer`: it has the calls of `outer` under way beneath its own,
  and it goes on with the tasks of `outer` in the end. A step of `m` is a step of it, under a limit
  that is higher by the number of those calls (`Step.inside`). The only thing to be seen to is that
  `m` ends no calls but its own (`Machine.EndsOwnCalls`).
* **Calls.** A call is one step, a run of its body inside the machine, and one more step.

The main result is `evaluate_call_eq_body`.
-/

namespace ViewLang

/-- The event when so many more calls are under way. -/
def Event.deepen (calls : Nat) : Event → Event
  | callDepthExceeded name depth => callDepthExceeded name (depth + calls)
  | event => event

theorem Event.deepen_eq_self {event : Event} (h : event.isCut = false) (calls : Nat) :
    event.deepen calls = event := by
  cases event with
  | callDepthExceeded => cases h
  | _ => rfl

namespace Interpreter

/-- The interpreter when it has emitted the events `held` before, and has so many more calls under
way. -/
def beneath (held : Array Event) (calls : Nat) (i : Interpreter) : Interpreter where
  environment := i.environment
  events := held ++ i.events.map (Event.deepen calls)

section Beneath

variable {held : Array Event} {calls : Nat} {i : Interpreter} {event : Event}

theorem emit_beneath :
    (i.beneath held calls).emit (event.deepen calls) = (i.emit event).beneath held calls := by
  simp [beneath, emit, Array.map_push]

theorem define_beneath (name : String) (binding : Binding) :
    (i.beneath held calls).define name binding (event.deepen calls) =
      (i.define name binding event).beneath held calls := by
  simp [beneath, define, emit, Array.map_push]

end Beneath

end Interpreter

/-! ### A machine inside another one -/

namespace Machine

variable {mode : Mode} {limit : Nat} {config : Config} {m m' : Machine} {tasks : List Task}

/-- The number of calls that the tasks bring to an end. -/
def endings : List Task → Nat
  | [] => 0
  | .evaluate _ :: tasks => endings tasks
  | .leave :: tasks => endings tasks + 1

/-- The calls that the machine has still to end are under way. -/
def EndsOwnCalls (m : Machine) : Prop :=
  endings m.tasks ≤ m.depth

theorem endings_append (nodes : List Node) (tasks : List Task) :
    endings (nodes.map .evaluate ++ tasks) = endings tasks := by
  induction nodes with
  | nil => rfl
  | cons node nodes ih => exact ih

theorem Step.endsOwnCalls (h : Step config m m') (hm : m.EndsOwnCalls) : m'.EndsOwnCalls := by
  unfold EndsOwnCalls at hm ⊢
  cases h.move with
  | leave => exact Nat.le_sub_one_of_lt hm
  | shown | defined | missing | cut => exact hm
  | opened =>
    rw [endings_append]
    exact hm
  | entered =>
    rw [endings_append]
    exact Nat.succ_le_succ hm

theorem endsOwnCalls_load (i : Interpreter) (program : List Node) :
    (load i program).EndsOwnCalls := by
  have h := endings_append program []
  rw [List.append_nil] at h
  exact h.le

/-- The machine as a part of an evaluation that has come as far as `outer`. -/
def inside (outer m : Machine) : Machine where
  interpreter := m.interpreter.beneath outer.interpreter.events outer.depth
  depth := m.depth + outer.depth
  tasks := m.tasks ++ outer.tasks

/-- A step taken inside of a machine. -/
theorem Step.inside (outer : Machine) (h : Step ⟨mode, limit⟩ m m') (hm : m.EndsOwnCalls) :
    Step ⟨mode, limit + outer.depth⟩ (outer.inside m) (outer.inside m') := by
  have hpush : ∀ (i : Interpreter) (event : Event), event.isCut = false →
      (i.emit event).beneath outer.interpreter.events outer.depth =
        (i.beneath outer.interpreter.events outer.depth).emit event := by
    intro i event hcut
    rw [← Interpreter.emit_beneath, event.deepen_eq_self hcut]
  refine Move.step ?_
  unfold Machine.inside
  cases h.move with
  | @leave i depth tasks =>
    -- The call that ends is one of the machine's own, so those of the other one stay under way.
    have hdepth : 0 < depth := (Nat.succ_pos (endings tasks)).trans_le hm
    rw [← Nat.sub_add_comm hdepth]
    exact .leave
  | shown hshows =>
    rw [hpush _ _ hshows.isCut_eq_false]
    exact .shown hshows
  | opened hmode =>
    rw [hpush _ _ rfl, List.append_assoc]
    exact .opened hmode
  | defined name binding hallowed =>
    rw [← Interpreter.define_beneath, Event.deepen_eq_self (isCut_report binding)]
    exact .defined name binding hallowed
  | missing hcallee =>
    rw [hpush _ _ rfl]
    exact .missing hcallee
  | cut hcallee hdepth =>
    rw [← Interpreter.emit_beneath]
    exact .cut hcallee (Nat.add_le_add_right hdepth outer.depth)
  | entered hcallee hdepth =>
    rw [hpush _ _ (isCut_eq_false_of_callee? hcallee), List.append_assoc, Nat.add_right_comm]
    exact .entered hcallee (Nat.add_lt_add_right hdepth outer.depth)

/-- **A run inside of a machine.** What a machine does under a limit, it does as well with more
calls under way beneath its own, if the limit is higher by as many. -/
theorem Reaches.inside (outer : Machine) (h : Reaches ⟨mode, limit⟩ m m') (hm : m.EndsOwnCalls) :
    Reaches ⟨mode, limit + outer.depth⟩ (outer.inside m) (outer.inside m') ∧ m'.EndsOwnCalls := by
  induction h with
  | refl => exact ⟨.refl, hm⟩
  | tail _ hstep ih =>
    obtain ⟨hreaches, hends⟩ := ih
    exact ⟨hreaches.tail (hstep.inside outer hends), hstep.endsOwnCalls hends⟩

end Machine

/-! ### Calls -/

namespace Interpreter

open Machine (Reaches load)

variable {mode : Mode} {limit : Nat} {i : Interpreter} {name : String} {body : List Node}
  {event : Event}

/-- Evaluating a call leaves the interpreter that evaluating its body leaves, one level down and
behind the event that announces the call. -/
theorem evaluate_call (h : callee? mode i.environment name = some (event, body)) :
    i.evaluate ⟨mode, limit + 1⟩ (.call name) =
      (interpret ⟨mode, limit⟩ ⟨i.environment, #[]⟩ body).beneath (i.events.push event) 1 := by
  let outer : Machine := ⟨i.emit event, 1, [.leave]⟩
  have hentered : Reaches ⟨mode, limit + 1⟩ (load i [.call name])
      (outer.inside (load ⟨i.environment, #[]⟩ body)) := by
    have hstart : outer.inside (load ⟨i.environment, #[]⟩ body) =
        ⟨i.emit event, 1, body.map .evaluate ++ [.leave]⟩ := by
      simp [outer, Machine.inside, load, beneath, emit]
    rw [hstart]
    exact .single (Machine.Move.entered h (Nat.succ_pos limit)).step
  let alone := interpret ⟨mode, limit⟩ ⟨i.environment, #[]⟩ body
  have hbody := (Machine.reaches_interpret ⟨mode, limit⟩ ⟨i.environment, #[]⟩ body).inside outer
    (Machine.endsOwnCalls_load _ body)
  have hleft : Machine.Step ⟨mode, limit + 1⟩ (outer.inside ⟨alone, 0, []⟩)
      ⟨alone.beneath (i.events.push event) 1, 0, []⟩ := rfl
  have hcall := (hentered.trans hbody.1).tail hleft
  exact (Machine.Reaches.interpreter_eq hcall).symm

/-- **A call is its header and its body.** If the name is bound to a component, or to a function in
the corrected mode, evaluating a call of it emits the event that announces the call, and after that
the events of its body evaluated by itself under a limit that is lower by one, with the bindings
that are in force. Only the depth that is reported where calls are cut is the higher limit instead
of the lower one. The bindings in the end are those that the body leaves. -/
theorem evaluate_call_eq_body
    (h : i.environment.get? name = some (.component body) ∧ event = .componentRendering name ∨
      mode = .corrected ∧ i.environment.get? name = some (.function body) ∧
        event = .functionCalled name) :
    let called := i.evaluate ⟨mode, limit + 1⟩ (.call name)
    let alone := interpret ⟨mode, limit⟩ ⟨i.environment, #[]⟩ body
    called.events = i.events ++ #[event] ++ alone.events.map (Event.deepen 1) ∧
      (∀ callee depth, .callDepthExceeded callee depth ∈ alone.events → depth = limit) ∧
      called.environment = alone.environment := by
  intro called alone
  have hcalled : called = alone.beneath (i.events.push event) 1 :=
    evaluate_call (callee?_eq_some_iff.mpr h)
  refine ⟨?_, ?_, ?_⟩
  · rw [hcalled, ← Array.push_eq_append]
    rfl
  · have hnone : (load ⟨i.environment, #[]⟩ body).WithinLimit ⟨mode, limit⟩ :=
      ⟨Nat.zero_le _, by simp [load]⟩
    exact ((Machine.reaches_interpret _ _ body).withinLimit hnone).cut_at
  · rw [hcalled]
    rfl

/-- A function that shows a text, makes a component of its own name, and calls itself twice. -/
def selfReplacing : List Node :=
  [.text "a", .call "f", .component "f" [.call "f"], .call "f"]

theorem evaluate_call_selfReplacing :
    let env : Environment := (∅ : Environment).insert "f" (.function selfReplacing)
    let called := evaluate ⟨.corrected, 2⟩ ⟨env, #[.buttonRendered "b"]⟩ (.call "f")
    let alone := interpret ⟨.corrected, 1⟩ ⟨env, #[]⟩ selfReplacing
    env.get? "f" = some (.function selfReplacing) ∧
      called.events =
        #[.buttonRendered "b"] ++ #[.functionCalled "f"] ++ alone.events.map (Event.deepen 1) ∧
      (∀ callee depth, .callDepthExceeded callee depth ∈ alone.events → depth = 1) ∧
      called.environment = alone.environment ∧
      called.events.any Event.isCut := by
  intro env called alone
  have hget : env.get? "f" = some (.function selfReplacing) :=
    Environment.get?_insert_self _ _ _
  obtain ⟨hevents, hcut, henvironment⟩ :=
    @evaluate_call_eq_body .corrected 1 ⟨env, #[.buttonRendered "b"]⟩ "f" selfReplacing _
      (.inr ⟨rfl, hget, rfl⟩)
  exact ⟨hget, hevents, hcut, henvironment, by decide +kernel⟩

end Interpreter

end ViewLang
