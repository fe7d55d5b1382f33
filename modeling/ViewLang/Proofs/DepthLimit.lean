import Mathlib.Algebra.BigOperators.Ring.Finset
import Mathlib.Data.List.TakeWhile
import Mathlib.Tactic.Ring
import ViewLang.Proofs.Machine

/-!
# The limit on nested calls

The number of calls under way is what bounds an evaluation, and the limit does nothing else to it.

* **Evaluation ends.** `Machine.potential` is the number of events that the tasks of a machine can
  still bring about: a statement evaluated where `levels` more calls may be nested is worth as many
  events as `Machine.allowance` says for each of the statements in it. No step lets the events
  emitted and the potential grow together, since a call hands on less than it is worth to its body,
  which is a part of the program. `interpret_ends_within_limit` puts this together with the number
  of calls under way, which stays within the limit and comes back to zero.
* **The limit only cuts.** Two machines with different limits take the same steps until a call is
  cut. `events_agree_until_cut` says what follows for whole evaluations.
-/

namespace ViewLang

namespace Machine

/-! ### The number of calls under way -/

section Depth

variable {config : Config} {m m' : Machine}

/-- No more calls are under way than the limit allows, and calls were cut at the limit only. -/
structure WithinLimit (config : Config) (m : Machine) : Prop where
  depth_le : m.depth ≤ config.maxDepth
  cut_at : ∀ name depth, .callDepthExceeded name depth ∈ m.interpreter.events →
    depth = config.maxDepth

theorem Step.depth_le (h : Step config m m') (hm : m.depth ≤ config.maxDepth) :
    m'.depth ≤ config.maxDepth := by
  cases h.move with
  | leave => exact (Nat.sub_le _ _).trans hm
  | shown | opened | defined | missing | cut => exact hm
  | entered _ hdepth => exact hdepth

theorem Step.withinLimit (h : Step config m m') (hm : m.WithinLimit config) :
    m'.WithinLimit config := by
  refine ⟨h.depth_le hm.depth_le, fun name depth hmem => ?_⟩
  rcases h.events with heq | ⟨event, heq, hcut⟩
  · rw [heq] at hmem
    exact hm.cut_at name depth hmem
  · rw [heq, Array.mem_push] at hmem
    rcases hmem with hmem | rfl
    · exact hm.cut_at name depth hmem
    · obtain ⟨hlimit, _, heq⟩ := hcut rfl
      cases heq
      exact hm.depth_le.antisymm hlimit

theorem Reaches.withinLimit (h : Reaches config m m') (hm : m.WithinLimit config) :
    m'.WithinLimit config := by
  induction h with
  | refl => exact hm
  | tail _ hstep ih => exact hstep.withinLimit ih

theorem withinLimit_load (config : Config) (program : List Node) :
    (load {} program).WithinLimit config :=
  ⟨Nat.zero_le _, by simp [load]⟩

end Depth

/-! ### The number of events -/

/-- How many events each of the statements in a block is worth where `levels` more calls may be
nested and a body has at most `size` statements. -/
def allowance (size levels : Nat) : Nat :=
  ∑ k ∈ Finset.range (levels + 1), size ^ k

/-- How many events the tasks can still bring about, where so many calls are under way. -/
def potential (config : Config) (size : Nat) : Nat → List Task → Nat
  | _, [] => 0
  | depth, .evaluate node :: tasks =>
    node.size * allowance size (config.maxDepth - depth) + potential config size depth tasks
  | depth, .leave :: tasks => potential config size (depth - 1) tasks

section Potential

variable {config : Config} {m m' : Machine} {program : List Node} (size levels : Nat)

theorem allowance_succ : allowance size (levels + 1) = 1 + size * allowance size levels := by
  rw [allowance, Finset.sum_range_succ', allowance, Finset.mul_sum, pow_zero, Nat.add_comm]
  simp only [pow_succ']

theorem one_le_allowance : 1 ≤ allowance size levels := by
  cases levels with
  | zero => simp [allowance]
  | succ levels => rw [allowance_succ]; omega

theorem mul_allowance_eq_sum :
    size * allowance size levels = ∑ k ∈ Finset.range (levels + 1), size ^ (k + 1) := by
  rw [allowance, Finset.mul_sum]
  simp only [pow_succ']

theorem potential_append (config : Config) (depth : Nat) (nodes : List Node) (tasks : List Task) :
    potential config size depth (nodes.map .evaluate ++ tasks) =
      Node.sizeAll nodes * allowance size (config.maxDepth - depth) +
        potential config size depth tasks := by
  induction nodes with
  | nil => simp [Node.sizeAll]
  | cons node nodes ih =>
    rw [List.map_cons, List.cons_append, potential, ih, Node.sizeAll]
    ring

/-- A statement is worth the event that it emits itself. -/
theorem potential_lt (config : Config) (depth : Nat) (node : Node) (tasks : List Task) :
    potential config size depth tasks < potential config size depth (.evaluate node :: tasks) := by
  have hsize : 1 ≤ node.size := by rw [Node.size_eq_sizeAll_children]; omega
  have := Nat.mul_le_mul hsize (one_le_allowance size (config.maxDepth - depth))
  rw [potential]
  omega

/-- What a step emits is taken from the potential. -/
theorem Step.size_events_add_potential_le (h : Step config m m') (hm : m.Grounded program) :
    m'.interpreter.events.size + potential config (Node.sizeAll program) m'.depth m'.tasks ≤
      m.interpreter.events.size + potential config (Node.sizeAll program) m.depth m.tasks := by
  cases h.move with
  | leave => exact le_rfl
  | @shown _ depth tasks node =>
    have := potential_lt (Node.sizeAll program) config depth node tasks
    simp only [Interpreter.events_emit, Array.size_push]
    omega
  | @defined _ depth tasks name binding =>
    have := potential_lt (Node.sizeAll program) config depth (binding.definition name) tasks
    simp only [Interpreter.events_define, Array.size_push]
    omega
  | @missing _ depth tasks name | @cut _ depth tasks name =>
    have := potential_lt (Node.sizeAll program) config depth (.call name) tasks
    simp only [Interpreter.events_emit, Array.size_push]
    omega
  | @opened _ depth tasks elements =>
    have := one_le_allowance (Node.sizeAll program) (config.maxDepth - depth)
    simp only [Interpreter.events_emit, Array.size_push, potential_append, potential, Node.size,
      Nat.add_mul, one_mul]
    omega
  | @entered i depth tasks name event body hcallee hdepth =>
    -- The body is that of a definition in the program, so each of its statements is paid for.
    have hbody : Node.sizeAll body ≤ Node.sizeAll program := by
      obtain ⟨binding, hget, rfl⟩ := exists_binding_of_callee? hcallee
      have := (hm.stored name binding hget).size_le
      rw [Node.size_eq_sizeAll_children] at this
      omega
    have hlevels : config.maxDepth - depth = config.maxDepth - (depth + 1) + 1 := by omega
    have := Nat.mul_le_mul_right
      (allowance (Node.sizeAll program) (config.maxDepth - (depth + 1))) hbody
    simp only [Interpreter.events_emit, Array.size_push, potential_append, potential, Node.size,
      one_mul, Nat.add_sub_cancel, hlevels, allowance_succ]
    omega

theorem Reaches.size_events_add_potential_le (h : Reaches config m m') (hm : m.Grounded program) :
    m'.interpreter.events.size + potential config (Node.sizeAll program) m'.depth m'.tasks ≤
      m.interpreter.events.size + potential config (Node.sizeAll program) m.depth m.tasks := by
  induction h with
  | refl => exact le_rfl
  | tail hreaches hstep ih =>
    exact (hstep.size_events_add_potential_le (Reaches.grounded hreaches hm)).trans ih

end Potential

/-! ### Machines with different limits -/

section Lockstep

variable {mode : Mode} {low high : Nat} {m m' : Machine}

/-- No call has been cut so far. -/
def Uncut (m : Machine) : Prop :=
  ∀ event ∈ m.interpreter.events.toList, event.isCut = false

/-- A machine whose limit is higher takes the same step, unless the step cuts a call. -/
theorem Step.of_maxDepth_le (hle : low ≤ high) (h : Step ⟨mode, low⟩ m m') (huncut : m'.Uncut) :
    Step ⟨mode, high⟩ m m' := by
  refine Move.step ?_
  cases h.move with
  | leave => exact .leave
  | shown hshows => exact .shown hshows
  | opened hmode => exact .opened hmode
  | defined name binding hallowed => exact .defined name binding hallowed
  | missing hcallee => exact .missing hcallee
  | @cut _ depth _ name =>
    have hfalse := huncut (.callDepthExceeded name depth) (by simp)
    cases hfalse
  | entered hcallee hdepth => exact .entered hcallee (Nat.lt_of_lt_of_le hdepth hle)

theorem Uncut.of_reaches {config : Config} (h : Reaches config m m') (huncut : m'.Uncut) :
    m.Uncut :=
  fun event hmem => huncut event (h.events_extend.mem hmem)

/-- Two machines are in lockstep as long as no call is cut. -/
theorem Reaches.of_maxDepth_le (hle : low ≤ high) (h : Reaches ⟨mode, low⟩ m m')
    (huncut : m'.Uncut) : Reaches ⟨mode, high⟩ m m' := by
  induction h with
  | refl => exact .refl
  | tail _ hstep ih =>
    have hbefore := Uncut.of_reaches (.single hstep) huncut
    exact (ih hbefore).tail (hstep.of_maxDepth_le hle huncut)

private theorem takeWhile_concat_of_not_all {α : Type} {p : α → Bool} {l : List α} {x : α}
    (h : ¬∀ y ∈ l ++ [x], p y = true) : (l ++ [x]).takeWhile p = l.takeWhile p := by
  induction l with
  | nil => simp_all
  | cons y l ih =>
    cases hy : p y with
    | false => simp [hy]
    | true =>
      rw [List.cons_append, List.takeWhile_cons_of_pos hy, List.takeWhile_cons_of_pos hy, ih]
      intro hall
      exact h (by simpa [hy] using hall)

/-- Before the first cut, the machine has come to a place where no call has been cut. -/
theorem Reaches.exists_uncut {config : Config} (h : Reaches config m m') (hm : m.Uncut) :
    ∃ before, Reaches config m before ∧ before.Uncut ∧
      before.interpreter.events.toList =
        m'.interpreter.events.toList.takeWhile (fun event => !event.isCut) := by
  induction h with
  | refl => exact ⟨m, .refl, hm, (List.takeWhile_eq_self_iff.mpr (by simpa [Uncut] using hm)).symm⟩
  | @tail b c hreaches hstep ih =>
    -- Once a call has been cut, the events before the first cut stay the same.
    by_cases hc : c.Uncut
    · exact ⟨c, hreaches.tail hstep, hc,
        (List.takeWhile_eq_self_iff.mpr (by simpa [Uncut] using hc)).symm⟩
    · obtain ⟨before, hbefore, huncut, heq⟩ := ih
      refine ⟨before, hbefore, huncut, heq.trans ?_⟩
      rcases hstep.events with hevents | ⟨event, hevents, -⟩
      · rw [hevents]
      · rw [Uncut, hevents, Array.toList_push] at hc
        rw [hevents, Array.toList_push, takeWhile_concat_of_not_all (by simpa using hc)]

end Lockstep

end Machine

namespace Interpreter

open Machine (load grounded_load_empty)

/-! ### Whole evaluations -/

/-- **Evaluation ends within the limit.** Evaluating a program of `N` statements one at a time comes
to an end. Never are more calls under way than the limit `D` allows, and none in the end; calls are
cut at the limit only; and there are at most `N + N ^ 2 + ... + N ^ (D + 1)` events. -/
theorem interpret_ends_within_limit (config : Config) (program : List Node) :
    (∀ m, Machine.Reaches config (load {} program) m →
        m.depth ≤ config.maxDepth ∧
          Machine.Reaches config m ⟨interpret config {} program, 0, []⟩) ∧
      (∀ name depth, .callDepthExceeded name depth ∈ (interpret config {} program).events →
        depth = config.maxDepth) ∧
      (interpret config {} program).events.size ≤
        ∑ k ∈ Finset.range (config.maxDepth + 1), Node.sizeAll program ^ (k + 1) := by
  have hends := Machine.reaches_interpret config {} program
  have hlimit := Machine.withinLimit_load config program
  refine ⟨fun m hm => ⟨(hm.withinLimit hlimit).depth_le, hends.reaches_final rfl hm⟩,
    (hends.withinLimit hlimit).cut_at, ?_⟩
  have hbound := hends.size_events_add_potential_le (grounded_load_empty program)
  have hstart := Machine.potential_append (Node.sizeAll program) config 0 program []
  rw [List.append_nil, Machine.potential, Nat.add_zero, Nat.sub_zero,
    Machine.mul_allowance_eq_sum] at hstart
  simpa [load, Machine.potential, hstart] using hbound

/-- **The limit only cuts.** What happens before the first call is cut happens under a higher limit
as well; and if no call is cut, a higher limit changes neither the events nor the bindings. -/
theorem events_agree_until_cut (mode : Mode) {low high : Nat} (hle : low ≤ high)
    (program : List Node) :
    (interpret ⟨mode, low⟩ {} program).events.toList.takeWhile (fun event => !event.isCut) <+:
        (interpret ⟨mode, high⟩ {} program).events.toList ∧
      ((∀ event ∈ (interpret ⟨mode, low⟩ {} program).events, event.isCut = false) →
        interpret ⟨mode, low⟩ {} program = interpret ⟨mode, high⟩ {} program) := by
  have hlow := Machine.reaches_interpret ⟨mode, low⟩ {} program
  have hhigh := Machine.reaches_interpret ⟨mode, high⟩ {} program
  constructor
  · -- Where the lower limit is about to cut a call, the higher one has come by as well.
    obtain ⟨before, hbefore, huncut, heq⟩ := hlow.exists_uncut (by simp [Machine.Uncut, load])
    have hreach := hbefore.of_maxDepth_le hle huncut
    rw [← heq]
    exact (hhigh.reaches_final rfl hreach).events_extend
  · intro huncut
    have hreach := hlow.of_maxDepth_le hle (by simpa [Machine.Uncut] using huncut)
    exact congrArg Machine.interpreter ((hhigh.reaches_final rfl hreach).eq_of_tasks_eq_nil rfl)

/-- A component that calls itself is cut, under any limit; one that does not, is not. -/
theorem events_agree_for_component_calls :
    1 ≤ 3 ∧
      [.componentDefined "A", .componentRendering "A", .textRendered "t"] <+:
        (interpret ⟨.reference, 3⟩ {}
          [.component "A" [.text "t", .call "A"], .call "A"]).events.toList ∧
      interpret ⟨.corrected, 1⟩ {} [.component "A" [.text "t"], .call "A"] =
        interpret ⟨.corrected, 3⟩ {} [.component "A" [.text "t"], .call "A"] := by
  have hle : 1 ≤ 3 := by decide
  have hcut : (interpret ⟨.reference, 1⟩ {}
      [.component "A" [.text "t", .call "A"], .call "A"]).events.toList.takeWhile
        (fun event => !event.isCut) =
      [.componentDefined "A", .componentRendering "A", .textRendered "t"] := rfl
  refine ⟨hle, ?_, (events_agree_until_cut .corrected hle _).2 (by decide +kernel)⟩
  exact hcut ▸ (events_agree_until_cut .reference hle _).1

end Interpreter

end ViewLang
