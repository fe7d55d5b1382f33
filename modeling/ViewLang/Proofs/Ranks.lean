import ViewLang.Proofs.DepthLimit

/-!
# Programs without recursion

If no body of a program comes back to its own name by way of the names that it calls, the names can
be ranked: a body calls only names of lower rank than its own. Such a program needs no more room for
nested calls than it has ranks.

A name may be given several bodies, also while another of its bodies is evaluated, and which of them
a call runs is decided by what has been evaluated before. This does no harm, since the rank is one
of the name, and all of the bodies have to keep to it (`Node.Ranked`).

What a machine keeps to is `Machine.InRank`: the rank of every name that it is still going to call
fits between the number of calls under way and the limit. A step preserves it, since the body of a
call has names of lower rank only, and one call more is under way (`Step.inRank`).

The main result is `no_cut_of_ranked`.
-/

namespace ViewLang

namespace Node

/-! ### Ranked names -/

/-- Evaluating the statement calls the name by itself, be it in a view. What is called in the body
of a definition does not count. -/
inductive Calls (name : String) : Node → Prop where
  | call : Calls name (.call name)
  | view {elements : List Node} {element : Node} : element ∈ elements → Calls name element →
      Calls name (.view elements)

/-- Somewhere in the program, the name is given the body, as a component or as a function. -/
def Defines (program : List Node) (name : String) (body : List Node) : Prop :=
  (component name body).WithinAny program ∨ (function name body).WithinAny program

/-- The names that the program defines have ranks from one up to `limit`, and each of their bodies
calls only such names of lower rank. -/
structure Ranked (program : List Node) (limit : Nat) (rank : String → Nat) : Prop where
  one_le : ∀ name body, Defines program name body → 1 ≤ rank name
  le_limit : ∀ name body, Defines program name body → rank name ≤ limit
  lt_of_calls : ∀ name body callee inner, Defines program name body → Defines program callee inner →
    (∃ node ∈ body, node.Calls callee) → rank callee < rank name

/-- The rank of each name that the statement calls fits between the calls under way and the
limit. -/
def FitsAbove (program : List Node) (limit : Nat) (rank : String → Nat) (depth : Nat)
    (node : Node) : Prop :=
  ∀ name body, node.Calls name → Defines program name body → depth + rank name ≤ limit

theorem FitsAbove.of_mem_elements {program elements : List Node} {limit depth : Nat}
    {rank : String → Nat} {element : Node}
    (h : (view elements).FitsAbove program limit rank depth) (hmem : element ∈ elements) :
    element.FitsAbove program limit rank depth :=
  fun name body hcalls => h name body (.view hmem hcalls)

end Node

open Node (Ranked Defines)

/-- What a call runs is a body that the program has given to the name. -/
theorem defines_of_callee? {program : List Node} {mode : Mode} {env : Environment} {name : String}
    {event : Event} {body : List Node} (hstored : env.DefinedIn program)
    (h : Interpreter.callee? mode env name = some (event, body)) : Defines program name body := by
  rcases Interpreter.callee?_eq_some_iff.mp h with ⟨hget, -⟩ | ⟨-, hget, -⟩
  · exact .inl (hstored name _ hget)
  · exact .inr (hstored name _ hget)

/-! ### Machines that keep to the ranks -/

namespace Machine

/-- Each statement to be evaluated fits above the calls that are going to be under way then. -/
def TasksFit (program : List Node) (limit : Nat) (rank : String → Nat) : Nat → List Task → Prop
  | _, [] => True
  | depth, .evaluate node :: tasks =>
    node.FitsAbove program limit rank depth ∧ TasksFit program limit rank depth tasks
  | depth, .leave :: tasks => TasksFit program limit rank (depth - 1) tasks

/-- The machine is going to call only names whose ranks fit, and it has not cut a call. -/
structure InRank (program : List Node) (limit : Nat) (rank : String → Nat) (m : Machine) :
    Prop where
  fits : TasksFit program limit rank m.depth m.tasks
  uncut : m.Uncut

section Ranked

variable {mode : Mode} {program nodes : List Node} {limit depth : Nat} {rank : String → Nat}
  {tasks : List Task} {m m' : Machine}

theorem tasksFit_append (hnodes : ∀ node ∈ nodes, node.FitsAbove program limit rank depth)
    (htasks : TasksFit program limit rank depth tasks) :
    TasksFit program limit rank depth (nodes.map .evaluate ++ tasks) := by
  induction nodes with
  | nil => exact htasks
  | cons node nodes ih =>
    exact ⟨hnodes node List.mem_cons_self, ih fun other hmem => hnodes other (.tail _ hmem)⟩

theorem Uncut.push (h : m.Uncut) {event : Event} (hevent : event.isCut = false)
    (heq : m'.interpreter.events = m.interpreter.events.push event) : m'.Uncut := by
  intro other hmem
  rw [heq, Array.toList_push, List.mem_append, List.mem_singleton] at hmem
  rcases hmem with hmem | rfl
  · exact h other hmem
  · exact hevent

/-- **One step.** A name that is called has a rank that fits, so the call is carried out; and the
names that its body calls have lower ranks, so they fit above one call more. -/
theorem Step.inRank (hranked : Ranked program limit rank) (hstep : Step ⟨mode, limit⟩ m m')
    (hgrounded : m.Grounded program) (hm : m.InRank program limit rank) :
    m'.InRank program limit rank := by
  obtain ⟨hfits, huncut⟩ := hm
  cases hstep.move with
  | leave => exact ⟨hfits, huncut⟩
  | shown hshows => exact ⟨hfits.2, huncut.push hshows.isCut_eq_false rfl⟩
  | opened =>
    exact ⟨tasksFit_append (fun _ hmem => hfits.1.of_mem_elements hmem) hfits.2,
      huncut.push rfl rfl⟩
  | defined name binding => exact ⟨hfits.2, huncut.push (isCut_report binding) rfl⟩
  | missing => exact ⟨hfits.2, huncut.push rfl rfl⟩
  | @cut _ depth _ name _ body hcallee hdepth =>
    have hdefines := defines_of_callee? hgrounded.stored hcallee
    have hfit : depth + rank name ≤ limit := hfits.1 name body .call hdefines
    have hrank := hranked.one_le name body hdefines
    have hdepth : limit ≤ depth := hdepth
    omega
  | @entered _ depth _ name _ body hcallee =>
    have hdefines := defines_of_callee? hgrounded.stored hcallee
    have hfit : depth + rank name ≤ limit := hfits.1 name body .call hdefines
    have hbody : ∀ node ∈ body, node.FitsAbove program limit rank (depth + 1) := by
      intro node hmem callee inner hcalls hinner
      have := hranked.lt_of_calls name body callee inner hdefines hinner ⟨node, hmem, hcalls⟩
      omega
    exact ⟨tasksFit_append hbody hfits.2, huncut.push (isCut_eq_false_of_callee? hcallee) rfl⟩

theorem Reaches.inRank (hranked : Ranked program limit rank) (h : Reaches ⟨mode, limit⟩ m m')
    (hgrounded : m.Grounded program) (hm : m.InRank program limit rank) :
    m'.InRank program limit rank := by
  induction h with
  | refl => exact hm
  | tail hreaches hstep ih => exact hstep.inRank hranked (Reaches.grounded hreaches hgrounded) ih

theorem inRank_load (hranked : Ranked program limit rank) :
    (load {} program).InRank program limit rank := by
  refine ⟨?_, by simp [Uncut, load]⟩
  rw [load, ← List.append_nil (program.map Task.evaluate)]
  refine tasksFit_append (fun node _ name body _ hdefines => ?_) trivial
  rw [Nat.zero_add]
  exact hranked.le_limit name body hdefines

end Ranked

end Machine

namespace Interpreter

/-- **Without recursion no call is cut.** If the names that a program defines have ranks up to the
limit, so that each body calls only such names of lower rank, evaluating the program cuts no
call. -/
theorem no_cut_of_ranked (mode : Mode) {program : List Node} {limit : Nat} {rank : String → Nat}
    (h : Ranked program limit rank) (name : String) (depth : Nat) :
    .callDepthExceeded name depth ∉ (interpret ⟨mode, limit⟩ {} program).events := by
  intro hmem
  have hrun := (Machine.reaches_interpret ⟨mode, limit⟩ {} program).inRank h
    (Machine.grounded_load_empty program) (Machine.inRank_load h)
  cases hrun.uncut _ (Array.mem_toList_iff.mpr hmem)

/-- A body that calls a name in a view, and calls it again after it has given it another body. -/
def calling : List Node :=
  [.view [.call "A"], .function "A" [.button "b"], .call "A"]

private theorem calls_of_mem_calling {node : Node} {callee : String} (hmem : node ∈ calling)
    (hcalls : node.Calls callee) : callee = "A" := by
  simp only [calling, List.mem_cons, List.not_mem_nil, or_false] at hmem
  rcases hmem with rfl | rfl | rfl
  · cases hcalls with
    | view hmem hcalls =>
      obtain rfl := List.mem_singleton.mp hmem
      cases hcalls
      rfl
  · cases hcalls
  · cases hcalls
    rfl

/-- Two names, the second of which has a body that calls the first. -/
def twoRanks : List Node :=
  [.component "A" [.text "a"], .function "B" calling, .call "B", .call "A"]

theorem no_cut_of_twoRanks :
    Ranked twoRanks 2 (fun name => if name = "A" then 1 else 2) ∧
      .callDepthExceeded "A" 2 ∉ (interpret ⟨.corrected, 2⟩ {} twoRanks).events ∧
      (interpret ⟨.corrected, 1⟩ {} twoRanks).events.any Event.isCut := by
  have hranked : Ranked twoRanks 2 (fun name => if name = "A" then 1 else 2) := by
    have hdefines : ∀ name body, Defines twoRanks name body →
        name = "A" ∧ body = [.text "a"] ∨ name = "B" ∧ body = calling ∨
          name = "A" ∧ body = [.button "b"] := by
      simp [twoRanks, calling, Defines, Node.within_iff, Node.children]
    refine ⟨fun name _ _ => by grind, fun name _ _ => by grind, ?_⟩
    rintro name body callee inner hbody - ⟨node, hmem, hcalls⟩
    rcases hdefines name body hbody with ⟨-, rfl⟩ | ⟨rfl, rfl⟩ | ⟨-, rfl⟩
    · obtain rfl := List.mem_singleton.mp hmem
      cases hcalls
    · rw [calls_of_mem_calling hmem hcalls]
      decide
    · obtain rfl := List.mem_singleton.mp hmem
      cases hcalls
  exact ⟨hranked, no_cut_of_ranked .corrected hranked "A" 2, by decide +kernel⟩

end Interpreter

end ViewLang
