import ViewLang.Proofs.History
import ViewLang.Proofs.Streaming

/-!
# A new start

An interpreter whose bindings have been dropped is as good as new. Two things are left over from
before, and neither matters.

* **The number of calls under way.** A machine keeps it from one request to the next, and dropping
  the bindings does not touch it. But every request that is served brings it back to where it was,
  however often calls were cut on the way. So a machine serves requests just as an interpreter does
  that keeps no such number (`Machine.servesAll_iff`).
* **The events that have not been taken away.** No evaluation looks at them; they stay in front of
  those to come (`Watched.Resumes`).

The main result is `Watched.reset_renews`.
-/

namespace ViewLang

/-! ### The number of calls between requests -/

namespace Machine

/-- The machine serves the request and has nothing left to do in the end. An evaluation starts with
as many calls under way as the requests before it have left behind. -/
inductive Serves (config : Config) : Machine → Request → Machine → Prop where
  | interpret {i depth program m} : Reaches config ⟨i, depth, program.map .evaluate⟩ m →
      m.tasks = [] → Serves config ⟨i, depth, []⟩ (.interpret program) m
  | evaluate {i depth node m} : Reaches config ⟨i, depth, [.evaluate node]⟩ m →
      m.tasks = [] → Serves config ⟨i, depth, []⟩ (.evaluate node) m
  | reset {i depth} : Serves config ⟨i, depth, []⟩ .reset ⟨i.reset, depth, []⟩
  | take {i depth} : Serves config ⟨i, depth, []⟩ .take ⟨i.take.2, depth, []⟩

/-- The machine serves the requests one after the other. -/
inductive ServesAll (config : Config) : Machine → List Request → Machine → Prop where
  | nil {m} : ServesAll config m [] m
  | cons {m between final request requests} : Serves config m request between →
      ServesAll config between requests final → ServesAll config m (request :: requests) final

/-- A machine that has not been asked for anything. -/
def new : Machine :=
  ⟨{}, 0, []⟩

section Serving

variable {config : Config} {i : Interpreter} {m : Machine}

private theorem reaches_load_iff {program : List Node} :
    Reaches config (load i program) m ∧ m.tasks = [] ↔ m = ⟨i.interpret config program, 0, []⟩ := by
  have hfinal := reaches_interpret config i program
  constructor
  · rintro ⟨hreaches, htasks⟩
    exact (hfinal.reaches_final rfl hreaches).eq_of_tasks_eq_nil htasks
  · rintro rfl
    exact ⟨hfinal, rfl⟩

/-- **One request.** The machine serves it in one way, and no call is under way in the end. -/
theorem serves_iff (request : Request) :
    Serves config ⟨i, 0, []⟩ request m ↔ m = ⟨i.serve config request, 0, []⟩ := by
  cases request with
  | interpret program =>
    rw [Interpreter.serve, ← reaches_load_iff]
    constructor
    · rintro ⟨⟩
      exact ⟨‹_›, ‹_›⟩
    · exact fun h => .interpret h.1 h.2
  | evaluate node =>
    have hsingle : i.evaluate config node = i.interpret config [node] := rfl
    rw [Interpreter.serve, hsingle, ← reaches_load_iff]
    constructor
    · rintro ⟨⟩
      exact ⟨‹_›, ‹_›⟩
    · exact fun h => .evaluate h.1 h.2
  | reset =>
    constructor
    · rintro ⟨⟩
      rfl
    · rintro rfl
      exact .reset
  | take =>
    constructor
    · rintro ⟨⟩
      rfl
    · rintro rfl
      exact .take

/-- **Any requests.** The machine serves them as the interpreter does. -/
theorem servesAll_iff (requests : List Request) :
    ServesAll config ⟨i, 0, []⟩ requests m ↔
      m = ⟨requests.foldl (Interpreter.serve config) i, 0, []⟩ := by
  induction requests generalizing i with
  | nil =>
    constructor
    · rintro ⟨⟩
      rfl
    · rintro rfl
      exact .nil
  | cons request requests ih =>
    rw [List.foldl_cons, ← ih]
    constructor
    · intro h
      cases h with
      | cons hfirst hrest =>
        obtain rfl := (serves_iff request).mp hfirst
        exact hrest
    · exact fun hrest => .cons ((serves_iff request).mpr rfl) hrest

end Serving

end Machine

/-! ### The events held from before -/

namespace Interpreter

variable (config : Config) (held : Array Event) (i : Interpreter)

theorem interpret_into (program : List Node) :
    (i.into held).interpret config program = (i.interpret config program).into held :=
  block_into (carriesInto_enter config held config.maxDepth) i program

theorem evaluate_into (node : Node) :
    (i.into held).evaluate config node = (i.evaluate config node).into held :=
  statement_into (carriesInto_enter config held config.maxDepth) i node

end Interpreter

namespace Watched

/-- The interpreter `w` does what the interpreter `fresh` does. It holds the events `held` besides,
and all in all it has emitted the events `before` besides. -/
structure Resumes (before : List Event) (held : Array Event) (w fresh : Watched) : Prop where
  interpreter_eq : w.interpreter = fresh.interpreter.into held
  taken_eq : w.taken ++ held.toList = before ++ fresh.taken

section Resuming

variable (config : Config) {before : List Event} {held : Array Event} {w fresh : Watched}

theorem Resumes.emitted_eq (h : Resumes before held w fresh) :
    w.emitted = before ++ fresh.emitted := by
  rw [emitted, emitted, h.interpreter_eq, Interpreter.into_array, Array.toList_append,
    ← List.append_assoc, h.taken_eq, List.append_assoc]

theorem Resumes.events_eq (h : Resumes before held w fresh) :
    w.interpreter.events = held ++ fresh.interpreter.events := by
  rw [h.interpreter_eq, Interpreter.into_array]

/-- A request that leaves the events alone. -/
theorem Resumes.serve (h : Resumes before held w fresh) {request : Request}
    (hrequest : request ≠ .take) :
    Resumes before held (w.serve config request) (fresh.serve config request) := by
  cases request with
  | interpret program =>
    refine ⟨?_, h.taken_eq⟩
    rw [Watched.serve, Interpreter.serve, h.interpreter_eq]
    exact Interpreter.interpret_into config held _ program
  | evaluate node =>
    refine ⟨?_, h.taken_eq⟩
    rw [Watched.serve, Interpreter.serve, h.interpreter_eq]
    exact Interpreter.evaluate_into config held _ node
  | reset =>
    refine ⟨?_, h.taken_eq⟩
    rw [Watched.serve, Interpreter.serve, h.interpreter_eq]
    rfl
  | take => exact absurd rfl hrequest

/-- The events held from before are taken away with the others. -/
theorem Resumes.take (h : Resumes before held w fresh) :
    Resumes before #[] (w.serve config .take) (fresh.serve config .take) where
  interpreter_eq := by
    rw [Watched.serve, Interpreter.serve, h.interpreter_eq]
    rfl
  taken_eq := by
    rw [Array.toList_empty, List.append_nil]
    exact h.emitted_eq

/-- Requests in any number. The events held from before stay until events are taken away. -/
theorem Resumes.exists_foldl_serve (h : Resumes before held w fresh) (requests : List Request) :
    ∃ left, Resumes before left (requests.foldl (Watched.serve config) w)
        (requests.foldl (Watched.serve config) fresh) ∧
      (.take ∉ requests → left = held) ∧ (.take ∈ requests → left = #[]) := by
  induction requests generalizing w fresh held with
  | nil => exact ⟨held, h, fun _ => rfl, fun hmem => nomatch hmem⟩
  | cons request requests ih =>
    by_cases hrequest : request = .take
    · subst hrequest
      obtain ⟨left, hleft, hkept, htaken⟩ := ih (h.take config)
      refine ⟨left, hleft, fun hnot => absurd List.mem_cons_self hnot, fun _ => ?_⟩
      by_cases hmem : .take ∈ requests
      · exact htaken hmem
      · exact hkept hmem
    · obtain ⟨left, hleft, hkept, htaken⟩ := ih (h.serve config hrequest)
      have hmem : .take ∈ request :: requests ↔ .take ∈ requests := by
        simp [Ne.symm hrequest]
      rw [hmem]
      exact ⟨left, hleft, hkept, htaken⟩

/-- Dropping the bindings starts anew. -/
theorem resumes_reset (w : Watched) :
    Resumes w.emitted w.interpreter.events (w.serve config .reset) {} where
  interpreter_eq := by
    rw [Interpreter.into_array, Array.append_empty]
    rfl
  taken_eq := by
    rw [List.append_nil]
    rfl

end Resuming

/-- **An interpreter whose bindings have been dropped is as good as new.** Let `old` be an
interpreter after any requests, and `new` the same interpreter when its bindings have then been
dropped and it has served more requests, while `fresh` has served only these. A machine that counts
the calls under way from the first request on gets to both. All in all, `new` has emitted the events
of `fresh` after those of `old`, and both have the same bindings; and what `old` held is held by
`new` in front of what `fresh` holds, unless it has been taken away. -/
theorem reset_renews (config : Config) (history continuation : List Request) :
    let old := watch config history
    let new := watch config (history ++ .reset :: continuation)
    let fresh := watch config continuation
    (∀ m, Machine.ServesAll config .new (history ++ .reset :: continuation) m ↔
        m = ⟨new.interpreter, 0, []⟩) ∧
      (∀ m, Machine.ServesAll config .new continuation m ↔ m = ⟨fresh.interpreter, 0, []⟩) ∧
      new.emitted = old.emitted ++ fresh.emitted ∧
      new.interpreter.environment = fresh.interpreter.environment ∧
      (.take ∉ continuation →
        new.interpreter.events = old.interpreter.events ++ fresh.interpreter.events) ∧
      (.take ∈ continuation → new.interpreter.events = fresh.interpreter.events) := by
  intro old new fresh
  have hnew : new = continuation.foldl (Watched.serve config) (old.serve config .reset) := by
    simp [new, old, watch]
  obtain ⟨left, hresumes, hkept, htaken⟩ :=
    (resumes_reset config old).exists_foldl_serve config continuation
  rw [← hnew] at hresumes
  change Resumes old.emitted left new fresh at hresumes
  refine ⟨fun m => ?_, fun m => ?_, hresumes.emitted_eq, ?_, fun hnot => ?_, fun hmem => ?_⟩
  · rw [interpreter_watch]
    exact Machine.servesAll_iff _
  · rw [interpreter_watch]
    exact Machine.servesAll_iff _
  · rw [hresumes.interpreter_eq]
    rfl
  · rw [hresumes.events_eq, hkept hnot]
  · rw [hresumes.events_eq, htaken hmem, Array.empty_append]

end Watched

end ViewLang
