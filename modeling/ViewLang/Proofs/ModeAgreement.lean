import ViewLang.Proofs.Machine

/-!
# Where the two modes agree

The modes differ in the elements of views and in functions. A program gives them no occasion to
differ if none of its views has elements and none of its functions is called (`Node.ModeBlind`).

The bindings do differ all the same while such a program is evaluated: a function is bound in the
corrected mode only, and there it takes the place of a component or a value of its name. What is
kept is weaker. The environments agree off the names of functions (`Environment.AgreeOff`), and a
call, whose name is none of these, cannot tell them apart. So a machine of either mode takes the
same steps (`Machine.Step.exists_corrected`), and `events_eq_of_modeBlind` follows.
-/

namespace ViewLang

namespace Node

/-- Somewhere in the program, a function of that name is defined. -/
def NamesFunction (program : List Node) (name : String) : Prop :=
  ∃ body, (function name body).WithinAny program

/-- The program has nothing in it that the modes treat differently. -/
structure ModeBlind (program : List Node) : Prop where
  views_empty : ∀ elements, (view elements).WithinAny program → elements = []
  not_called : ∀ name, NamesFunction program name → ¬(call name).WithinAny program

end Node

/-! ### Environments that agree off the names of functions -/

namespace Environment

/-- The environments bind every name alike that is none of the `hidden` ones. -/
def AgreeOff (hidden : String → Prop) (env env' : Environment) : Prop :=
  ∀ name, ¬hidden name → env.get? name = env'.get? name

variable {hidden : String → Prop} {env env' : Environment} {name : String} {binding : Binding}

theorem AgreeOff.insert (h : env.AgreeOff hidden env') (name : String) (binding : Binding) :
    (env.insert name binding).AgreeOff hidden (env'.insert name binding) := by
  intro other hother
  rw [get?_insert, get?_insert, h other hother]

theorem AgreeOff.insert_hidden (h : env.AgreeOff hidden env') (hname : hidden name)
    (binding : Binding) : env.AgreeOff hidden (env'.insert name binding) := by
  intro other hother
  have hne : other ≠ name := fun heq => hother (heq ▸ hname)
  rw [get?_insert_of_ne _ _ hne, h other hother]

end Environment

open Interpreter (callee?)

/-- A name that no function has stands for the same callee in either mode. -/
theorem callee?_corrected_of_agreeOff {program : List Node} {env env' : Environment}
    {name : String} (hagree : env.AgreeOff (Node.NamesFunction program) env')
    (hstored : env.DefinedIn program) (hname : ¬Node.NamesFunction program name) :
    callee? .corrected env' name = callee? .reference env name := by
  rw [callee?, callee?, ← hagree name hname]
  cases hget : env.get? name with
  | none => rfl
  | some binding =>
    cases binding with
    | value | component => rfl
    | function body => exact absurd ⟨body, hstored name _ hget⟩ hname

/-! ### Machines in lockstep -/

namespace Machine

variable {maxDepth : Nat} {program : List Node} {m n : Machine} {env' : Environment}

/-- The machine with other bindings. -/
def withEnvironment (m : Machine) (env : Environment) : Machine :=
  { m with interpreter := { m.interpreter with environment := env } }

/-- A machine of the corrected mode takes the step that one of the reference mode takes, and the
bindings still agree. -/
theorem Step.exists_corrected (hblind : Node.ModeBlind program)
    (hstep : Step ⟨.reference, maxDepth⟩ m n) (hm : m.Grounded program)
    (hagree : m.interpreter.environment.AgreeOff (Node.NamesFunction program) env') :
    ∃ env'', Step ⟨.corrected, maxDepth⟩ (m.withEnvironment env') (n.withEnvironment env'') ∧
      n.interpreter.environment.AgreeOff (Node.NamesFunction program) env'' := by
  have hcallee : ∀ name, (Node.call name).WithinAny program →
      callee? .corrected env' name = callee? .reference m.interpreter.environment name :=
    fun name hcall => callee?_corrected_of_agreeOff hagree hm.stored
      fun hfunction => hblind.not_called name hfunction hcall
  cases hstep.move with
  | leave => exact ⟨env', Move.leave.step, hagree⟩
  | @shown i depth tasks node event hshows =>
    cases hshows with
    | @view elements =>
      obtain rfl := hblind.views_empty elements (hm.pending _ (.head _))
      exact ⟨env', (Move.opened rfl).step, hagree⟩
    | @function name body =>
      -- Only the corrected mode binds the function.
      have hname : Node.NamesFunction program name := ⟨body, hm.pending _ (.head _)⟩
      have hallowed : (Binding.function body).Allowed .corrected := rfl
      exact ⟨env'.insert name (.function body), (Move.defined name (.function body) hallowed).step,
        hagree.insert_hidden hname _⟩
    | text => exact ⟨env', (Move.shown .text).step, hagree⟩
    | button => exact ⟨env', (Move.shown .button).step, hagree⟩
  | opened hmode => cases hmode
  | defined name binding hallowed =>
    have hcorrected : binding.Allowed .corrected := by
      cases binding with
      | value | component => trivial
      | function => cases hallowed
    exact ⟨env'.insert name binding, (Move.defined name binding hcorrected).step,
      hagree.insert name binding⟩
  | missing hmissing =>
    have hnone := (hcallee _ (hm.pending _ (.head _))).trans hmissing
    exact ⟨env', (Move.missing hnone).step, hagree⟩
  | @cut i depth _ _ _ _ hfound hdepth =>
    have hsome := (hcallee _ (hm.pending _ (.head _))).trans hfound
    have hdepth : maxDepth ≤ depth := hdepth
    exact ⟨env', (Move.cut hsome hdepth).step, hagree⟩
  | @entered i depth _ _ _ _ hfound hdepth =>
    have hsome := (hcallee _ (hm.pending _ (.head _))).trans hfound
    have hdepth : depth < maxDepth := hdepth
    exact ⟨env', (Move.entered hsome hdepth).step, hagree⟩

theorem Reaches.exists_corrected (hblind : Node.ModeBlind program)
    (h : Reaches ⟨.reference, maxDepth⟩ m n) (hm : m.Grounded program)
    (hagree : m.interpreter.environment.AgreeOff (Node.NamesFunction program) env') :
    ∃ env'', Reaches ⟨.corrected, maxDepth⟩ (m.withEnvironment env') (n.withEnvironment env'') ∧
      n.interpreter.environment.AgreeOff (Node.NamesFunction program) env'' := by
  induction h with
  | refl => exact ⟨env', .refl, hagree⟩
  | tail hreaches hstep ih =>
    obtain ⟨between, hbetween, hagree⟩ := ih
    obtain ⟨env'', hnext, hagree⟩ :=
      hstep.exists_corrected hblind (Reaches.grounded hreaches hm) hagree
    exact ⟨env'', hbetween.tail hnext, hagree⟩

end Machine

namespace Interpreter

/-- **Where the modes agree.** A program whose views have no elements and whose functions are never
called emits the same events in either mode, and it leaves the same bindings, save for the names of
its functions. -/
theorem events_eq_of_modeBlind (maxDepth : Nat) {program : List Node}
    (hblind : Node.ModeBlind program) :
    (interpret ⟨.reference, maxDepth⟩ {} program).events =
        (interpret ⟨.corrected, maxDepth⟩ {} program).events ∧
      ∀ name, ¬Node.NamesFunction program name →
        (interpret ⟨.reference, maxDepth⟩ {} program).environment.get? name =
          (interpret ⟨.corrected, maxDepth⟩ {} program).environment.get? name := by
  have hreference := Machine.reaches_interpret ⟨.reference, maxDepth⟩ {} program
  have hcorrected := Machine.reaches_interpret ⟨.corrected, maxDepth⟩ {} program
  have hempty : (∅ : Environment).AgreeOff (Node.NamesFunction program) ∅ := fun _ _ => rfl
  obtain ⟨env, hreaches, hagree⟩ :=
    hreference.exists_corrected hblind (Machine.grounded_load_empty program) hempty
  -- Both machines of the corrected mode have come to the end of their tasks.
  have hend := (hcorrected.reaches_final rfl hreaches).eq_of_tasks_eq_nil rfl
  have heq : ⟨env, (interpret ⟨.reference, maxDepth⟩ {} program).events⟩ =
      interpret ⟨.corrected, maxDepth⟩ {} program := congrArg Machine.interpreter hend
  rw [← heq]
  exact ⟨rfl, hagree⟩

/-- A function takes the name of a component that is not called, inside the body of one that is. -/
def uncalledFunction : List Node :=
  [.component "f" [.text "a"], .component "A" [.function "f" [.view []], .view [], .call "A"],
    .call "A"]

theorem events_eq_for_uncalledFunction :
    Node.ModeBlind uncalledFunction ∧
      (interpret ⟨.reference, 2⟩ {} uncalledFunction).events =
        (interpret ⟨.corrected, 2⟩ {} uncalledFunction).events ∧
      ¬Node.NamesFunction uncalledFunction "A" ∧
      (interpret ⟨.reference, 2⟩ {} uncalledFunction).environment.get? "A" =
        (interpret ⟨.corrected, 2⟩ {} uncalledFunction).environment.get? "A" := by
  have hblind : Node.ModeBlind uncalledFunction := by
    constructor <;> simp [uncalledFunction, Node.NamesFunction, Node.within_iff, Node.children]
  have hname : ¬Node.NamesFunction uncalledFunction "A" := by
    simp [uncalledFunction, Node.NamesFunction, Node.within_iff, Node.children]
  obtain ⟨hevents, hbindings⟩ := events_eq_of_modeBlind 2 hblind
  exact ⟨hblind, hevents, hname, hbindings "A" hname⟩

end Interpreter

end ViewLang
