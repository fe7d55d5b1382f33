import ViewLang.Proofs.Commands
import ViewLang.Proofs.Machine
import ViewLang.Proofs.Printing
import ViewLang.Proofs.TextLines

/-!
# The lines of a log

A log has a line feed behind each event. All the same it may have more lines than there are events,
for the contents of strings are written as they stand, and a string of a program may go over several
lines. This module says which lines there are.

* **One event.** The line feeds in the form of an event are those in its **atoms**, the names,
  strings and numbers that it shows (`Event.lineFeedCount_display`). They are counted while the form
  is written.
* **A run.** An event shows atoms of the statement whose evaluation emits it, so whatever a run
  shows stems from the program (`Machine.Reaches.showsOnly`). In a program that has been read, a
  name has no line feed. That leaves the strings.

So the log of a run has one line for each event exactly when the events show no string that goes
over a line (`Session.lines_of_text_run`).
-/

namespace ViewLang

/-! ### Atoms of events -/

namespace Atom

/-- The number of line feeds in the form of an atom. -/
def lineFeedCount : Atom → ℕ
  | name text | string text => ViewLang.lineFeedCount text
  | number _ => 0

/-- The contents of the atom, if it is a string. -/
def contents? : Atom → Option String
  | string contents => some contents
  | _ => none

/-- The number of line feeds in the forms of atoms. -/
def lineFeedCountAll (atoms : List Atom) : ℕ :=
  (atoms.map lineFeedCount).sum

@[simp] theorem lineFeedCountAll_nil : lineFeedCountAll [] = 0 := rfl

@[simp] theorem lineFeedCountAll_cons (a : Atom) (atoms : List Atom) :
    lineFeedCountAll (a :: atoms) = a.lineFeedCount + lineFeedCountAll atoms := rfl

@[simp] theorem lineFeedCountAll_append (atoms more : List Atom) :
    lineFeedCountAll (atoms ++ more) = lineFeedCountAll atoms + lineFeedCountAll more := by
  simp [lineFeedCountAll]

/-- Of spellable atoms, only strings have line feeds. -/
theorem lineFeedCountAll_eq {atoms : List Atom} (h : ∀ a ∈ atoms, a.Spellable) :
    lineFeedCountAll atoms = ((atoms.filterMap contents?).map ViewLang.lineFeedCount).sum := by
  induction atoms with
  | nil => rfl
  | cons a atoms ih =>
    obtain ⟨ha, hatoms⟩ := List.forall_mem_cons.mp h
    rw [lineFeedCountAll_cons, ih hatoms]
    cases a with
    | name s =>
      have hname : ViewLang.lineFeedCount s = 0 :=
        lineFeedCount_eq_zero_iff.mpr fun hmem =>
          absurd (Token.isBlank_eq_false_of_isWordChar (ha.isWordChar hmem)) (by decide)
      simp [lineFeedCount, contents?, List.filterMap_cons, hname]
    | string | number => simp [lineFeedCount, contents?, List.filterMap_cons]

end Atom

namespace Event

/-- The names, strings and numbers that an event shows, in order. The number of calls under way is
not among them. -/
def atoms : Event → List Atom
  | viewRendered elements => Node.atomsAll elements
  | assigned name value => [.name name, value.atom]
  | functionDefined name body => .name name :: Node.atomsAll body
  | componentDefined name | componentRendering name | componentNotFound name
  | functionCalled name | callDepthExceeded name _ => [.name name]
  | buttonRendered text | textRendered text => [.string text]

/-- The contents of the strings that an event shows. -/
def strings (event : Event) : List String :=
  event.atoms.filterMap Atom.contents?

end Event

/-! ### Line feeds in the form of an event -/

section Counting

open Atom (lineFeedCountAll)

/-- Counts the line feeds of a piece. -/
def countPiece (count : ℕ) (piece : String) : ℕ :=
  count + lineFeedCount piece

theorem Literal.write_countPiece (count : ℕ) (value : Literal) :
    value.write countPiece count = count + value.atom.lineFeedCount := by
  cases value with
  | string contents => simp [write, countPiece, atom, Atom.lineFeedCount, lineFeedCount]
  | number n => simp [write, countPiece, atom, Atom.lineFeedCount, lineFeedCount_intRepr]

namespace Node

mutual

theorem write_countPiece (count : ℕ) :
    (node : Node) → node.write countPiece count = count + lineFeedCountAll node.atoms
  | view elements => by
    rw [write, writeAll_countPiece _ elements]
    simp [countPiece, atoms, lineFeedCount]
  | assignment name value => by
    rw [write, Literal.write_countPiece]
    simp [countPiece, atoms, Atom.lineFeedCount, lineFeedCount, Nat.add_assoc]
  | function name body | component name body => by
    rw [write, writeAll_countPiece _ body]
    simp [countPiece, atoms, Atom.lineFeedCount, lineFeedCount, Nat.add_assoc]
  | call entry | text entry | button entry => by
    simp [write, countPiece, atoms, Atom.lineFeedCount, lineFeedCount]

theorem writeAll_countPiece (count : ℕ) : (nodes : List Node) →
    writeAll countPiece count nodes = count + lineFeedCountAll (atomsAll nodes)
  | [] => rfl
  | node :: nodes => by
    rw [writeAll, writeAll_countPiece _ nodes, write_countPiece _ node]
    simp [countPiece, atomsAll, lineFeedCount, Nat.add_assoc]

end

theorem writeList_countPiece (count : ℕ) (nodes : List Node) :
    writeList countPiece count nodes = count + lineFeedCountAll (atomsAll nodes) := by
  cases nodes with
  | nil => rfl
  | cons node nodes =>
    have hrest : ∀ count, nodes.foldl (fun out node => node.write countPiece (countPiece out ", "))
        count = count + lineFeedCountAll (atomsAll nodes) := by
      induction nodes with
      | nil => exact fun _ => rfl
      | cons node nodes ih =>
        intro count
        rw [List.foldl_cons, ih, write_countPiece]
        simp [countPiece, atomsAll, lineFeedCount, Nat.add_assoc]
    simp only [writeList, hrest, write_countPiece _ node]
    simp [countPiece, atomsAll, lineFeedCount, Nat.add_assoc]

/-- The line feeds in a statement on one line are those in its atoms. -/
theorem lineFeedCount_display (node : Node) :
    lineFeedCount node.display = lineFeedCountAll node.atoms := by
  have hcount : node.write countPiece (lineFeedCount "") = lineFeedCount node.display :=
    map_write (f := lineFeedCount) (fun _ _ => lineFeedCount_append.symm) "" node
  rw [← hcount, write_countPiece]
  exact Nat.zero_add _

end Node

namespace Event

theorem write_countPiece (count : ℕ) (event : Event) :
    event.write countPiece count = count + lineFeedCountAll event.atoms := by
  cases event with
  | viewRendered elements =>
    rw [write, Node.writeList_countPiece]
    simp [countPiece, atoms, lineFeedCount]
  | assigned name value =>
    rw [write, Literal.write_countPiece]
    simp [countPiece, atoms, Atom.lineFeedCount, lineFeedCount, Nat.add_assoc]
  | functionDefined name body =>
    rw [write, Node.writeList_countPiece]
    simp [countPiece, atoms, Atom.lineFeedCount, lineFeedCount, Nat.add_assoc]
  | callDepthExceeded name depth =>
    have hdepth : (Nat.toDigits 10 depth).count '\n' = 0 :=
      Nat.toList_repr ▸ lineFeedCount_natRepr depth
    simp [write, countPiece, atoms, Atom.lineFeedCount, lineFeedCount, hdepth]
  | componentDefined | componentRendering | componentNotFound | functionCalled | buttonRendered
  | textRendered => simp [write, countPiece, atoms, Atom.lineFeedCount, lineFeedCount]

/-- **The line feeds in the form of an event are those in its atoms.** -/
theorem lineFeedCount_display (event : Event) :
    lineFeedCount event.display = lineFeedCountAll event.atoms := by
  -- Counting the pieces as they are written comes to the same as counting in the text.
  have hcount : event.write countPiece (lineFeedCount "") = lineFeedCount event.display :=
    map_write (f := lineFeedCount) (fun _ _ => lineFeedCount_append.symm) "" event
  rw [← hcount, write_countPiece]
  exact Nat.zero_add _

end Event

end Counting

/-! ### Where the atoms of events come from -/

namespace Node

section Occurrences

variable {node tree : Node} {nodes trees : List Node}

theorem atoms_subset_atomsAll (h : node ∈ nodes) : node.atoms ⊆ atomsAll nodes := by
  induction h with
  | head => exact List.subset_append_left _ _
  | tail _ _ ih => exact List.Subset.trans ih (List.subset_append_right _ _)

theorem atomsAll_children_subset (node : Node) : atomsAll node.children ⊆ node.atoms := by
  cases node with
  | view => exact List.Subset.refl _
  | function | component => exact List.subset_cons_self _ _
  | assignment | call | text | button => exact List.nil_subset _

theorem Within.atoms_subset (h : node.Within tree) : node.atoms ⊆ tree.atoms := by
  induction h with
  | self => exact List.Subset.refl _
  | @inner tree child hmem _ ih =>
    have hchild : child.atoms ⊆ tree.atoms :=
      List.Subset.trans (atoms_subset_atomsAll hmem) (atomsAll_children_subset tree)
    exact List.Subset.trans ih hchild

theorem WithinAny.atoms_subset (h : node.WithinAny trees) : node.atoms ⊆ atomsAll trees := by
  obtain ⟨tree, hmem, htree⟩ := h
  exact List.Subset.trans htree.atoms_subset (atoms_subset_atomsAll hmem)

end Occurrences

end Node

namespace Machine

open Interpreter (callee?)

/-- The events emitted so far show atoms of the trees only. -/
def ShowsOnly (trees : List Node) (m : Machine) : Prop :=
  ∀ event ∈ m.interpreter.events, event.atoms ⊆ Node.atomsAll trees

section Steps

variable {config : Config} {trees : List Node} {m m' : Machine}

private theorem Shows.atoms_eq {mode : Mode} {node : Node} {event : Event}
    (h : Shows mode node event) : event.atoms = node.atoms := by
  cases h <;> rfl

private theorem atoms_report_subset (name : String) (binding : Binding) :
    (binding.report name).atoms ⊆ (binding.definition name).atoms := by
  cases binding with
  | value | function => exact List.Subset.refl _
  | component body => simp [Binding.report, Binding.definition, Event.atoms, Node.atoms]

private theorem atoms_eq_of_callee? {mode : Mode} {env : Environment} {name : String}
    {event : Event} {body : List Node} (h : callee? mode env name = some (event, body)) :
    event.atoms = (Node.call name).atoms := by
  rcases Interpreter.callee?_eq_some_iff.mp h with ⟨-, rfl⟩ | ⟨-, -, rfl⟩ <;> rfl

/-- A step emits an event for the sake of the statement that it evaluates, or none. The event shows
atoms of the statement only. -/
theorem Step.exists_evaluated (h : Step config m m') :
    m'.interpreter.events = m.interpreter.events ∨
      ∃ node event, .evaluate node ∈ m.tasks ∧
        m'.interpreter.events = m.interpreter.events.push event ∧ event.atoms ⊆ node.atoms := by
  cases h.move with
  | leave => exact .inl rfl
  | shown hshows =>
    exact .inr ⟨_, _, List.mem_cons_self, rfl, fun _ ha => hshows.atoms_eq ▸ ha⟩
  | opened | missing | cut =>
    exact .inr ⟨_, _, List.mem_cons_self, rfl, List.Subset.refl _⟩
  | defined name binding =>
    exact .inr ⟨_, _, List.mem_cons_self, rfl, atoms_report_subset name binding⟩
  | entered hcallee =>
    exact .inr ⟨_, _, List.mem_cons_self, rfl, fun _ ha => atoms_eq_of_callee? hcallee ▸ ha⟩

theorem Step.showsOnly (h : Step config m m') (hgrounded : m.Grounded trees)
    (hm : m.ShowsOnly trees) : m'.ShowsOnly trees := by
  rcases h.exists_evaluated with hsame | ⟨node, event, hnode, hpush, hsub⟩
  · rwa [ShowsOnly, hsame]
  · intro shown hmem
    rw [hpush, Array.mem_push] at hmem
    rcases hmem with hmem | rfl
    · exact hm shown hmem
    · exact List.Subset.trans hsub (hgrounded.pending node hnode).atoms_subset

/-- **Whatever a run shows stems from the program.** -/
theorem Reaches.showsOnly (h : Reaches config m m') (hgrounded : m.Grounded trees)
    (hm : m.ShowsOnly trees) : m'.ShowsOnly trees := by
  induction h with
  | refl => exact hm
  | tail hreaches hstep ih => exact hstep.showsOnly (Reaches.grounded hreaches hgrounded) ih

end Steps

end Machine

theorem Interpreter.atoms_subset_of_mem_interpret {config : Config} {program : List Node}
    {event : Event} (h : event ∈ (interpret config {} program).events.toList) :
    event.atoms ⊆ Node.atomsAll program := by
  have hstart : (Machine.load {} program).ShowsOnly program := by
    intro event hmem
    cases Array.not_mem_empty event hmem
  have hend := (Machine.reaches_interpret config {} program).showsOnly
    (Machine.grounded_load_empty program) hstart
  exact hend event (Array.mem_toList_iff.mp h)

/-! ### The lines of a log -/

namespace Event

/-- Each event takes up the lines of its form, and behind the last line feed there is nothing. -/
theorem linesOf_log (events : List Event) :
    linesOf (log events) = (events.flatMap fun event => linesOf event.display) ++ [[]] := by
  rw [log_eq_join]
  induction events with
  | nil => rfl
  | cons event events ih =>
    rw [List.map_cons, String.join_cons, linesOf_append_lineFeed, ih, List.flatMap_cons,
      List.append_assoc]

/-- A log has a line feed for each event, and those in the forms of the events. -/
theorem lineFeedCount_log (events : List Event) :
    lineFeedCount (log events) =
      events.length + (events.map fun event => lineFeedCount event.display).sum := by
  rw [log_eq_join]
  induction events with
  | nil => rfl
  | cons event events ih =>
    have hfeed : lineFeedCount "\n" = 1 := rfl
    rw [List.map_cons, String.join_cons, lineFeedCount_append, lineFeedCount_append, ih, hfeed,
      List.length_cons, List.map_cons, List.sum_cons]
    omega

variable {events : List Event}

theorem lineFeedCount_log_eq_length_iff :
    lineFeedCount (log events) = events.length ↔
      ∀ event ∈ events, lineFeedCount event.display = 0 := by
  rw [lineFeedCount_log, Nat.add_eq_left, List.sum_eq_zero_iff]
  simp

theorem linesOf_log_eq_map_iff :
    linesOf (log events) = (events.map fun event => event.display.toList) ++ [[]] ↔
      ∀ event ∈ events, lineFeedCount event.display = 0 := by
  constructor
  · intro h
    have hlength := congrArg List.length h
    rw [length_linesOf, List.length_append, List.length_map] at hlength
    exact lineFeedCount_log_eq_length_iff.mp (Nat.succ.inj hlength)
  · intro h
    have hsingle : events.flatMap (fun event => linesOf event.display) =
        events.flatMap fun event => [event.display.toList] :=
      List.flatMap_congr fun event hmem => linesOf_eq_singleton (h event hmem)
    rw [linesOf_log, hsingle, ← List.map_eq_flatMap]

end Event

/-! ### The lines of a run -/

section Runs

variable {config : Config} {source : String} {events : List Event} {event : Event}

theorem run_eq_ok_iff :
    run config source = .ok events ↔
      ∃ nodes, readProgram source = .ok nodes ∧
        (Interpreter.interpret config {} nodes).events.toList = events := by
  rw [run]
  cases readProgram source with
  | error e => simp
  | ok nodes => simp

/-- The atoms that a run shows are those of a program that has been read. -/
theorem spellable_of_mem_run (h : run config source = .ok events) (hmem : event ∈ events) :
    ∀ a ∈ event.atoms, a.Spellable := by
  obtain ⟨nodes, hread, rfl⟩ := run_eq_ok_iff.mp h
  obtain ⟨ts, hts, hparse⟩ := readProgram_eq_ok_iff.mp hread
  intro a ha
  exact spellable_of_derivesProgram (tokenize_eq_ok_iff_lexed.mp hts)
    (derivesProgram_of_parse hparse) a (Interpreter.atoms_subset_of_mem_interpret hmem ha)

/-- In a run, the line feeds of an event are those of its strings. -/
theorem lineFeedCount_display_of_mem_run (h : run config source = .ok events)
    (hmem : event ∈ events) :
    lineFeedCount event.display = (event.strings.map lineFeedCount).sum := by
  rw [Event.lineFeedCount_display, Atom.lineFeedCountAll_eq (spellable_of_mem_run h hmem)]
  rfl

theorem lineFeedCount_display_eq_zero_iff_of_mem_run (h : run config source = .ok events)
    (hmem : event ∈ events) :
    lineFeedCount event.display = 0 ↔ ∀ s ∈ event.strings, '\n' ∉ s.toList := by
  rw [lineFeedCount_display_of_mem_run h hmem, List.sum_eq_zero_iff, List.forall_mem_map]
  simp only [lineFeedCount_eq_zero_iff]

end Runs

/-- **The lines of the log of a run.** For a source that runs, a log without a limit holds the log
of its events, and so does the output of the command. It has a line feed for each event, and one
more for each line feed in a string that an event shows; each event takes up the lines of its own
form. So there are as many line feeds as events, and each line is the form of an event, exactly when
no string that an event shows goes over a line. -/
theorem Session.lines_of_text_run {s : Session} {config : Config} {events : List Event}
    (h : run config s.source.text = .ok events) (input : Input) :
    let out := Event.log events
    (events.foldl Sink.emit ({} : Log)).finish = .ok { written := out.toUTF8 } ∧
      s.execute {} (.run input config .text) = s.printed {} out ∧
      lineFeedCount out =
        events.length + (events.map fun event => (event.strings.map lineFeedCount).sum).sum ∧
      linesOf out = (events.flatMap fun event => linesOf event.display) ++ [[]] ∧
      (lineFeedCount out = events.length ↔
        ∀ event ∈ events, ∀ text ∈ event.strings, '\n' ∉ text.toList) ∧
      (linesOf out = (events.map fun event => event.display.toList) ++ [[]] ↔
        ∀ event ∈ events, ∀ text ∈ event.strings, '\n' ∉ text.toList) := by
  intro out
  have hzero : (∀ event ∈ events, lineFeedCount event.display = 0) ↔
      ∀ event ∈ events, ∀ text ∈ event.strings, '\n' ∉ text.toList :=
    forall₂_congr fun event hmem => lineFeedCount_display_eq_zero_iff_of_mem_run h hmem
  have hexecute : s.execute {} (.run input config .text) = s.printed {} out := by
    obtain ⟨nodes, hread, rfl⟩ := run_eq_ok_iff.mp h
    exact execute_run_text_of_ok input config rfl rfl hread
  refine ⟨?_, hexecute, ?_, Event.linesOf_log events, ?_, ?_⟩
  · have hlog : events.foldl Sink.emit ({} : Log) = Log.holding {} out :=
      Log.foldl_emit_eq_holding rfl events
    rw [hlog]
    simp [Log.finish, Log.holding, Writer.add]
  · have hstrings : (events.map fun event => lineFeedCount event.display) =
        events.map fun event => (event.strings.map lineFeedCount).sum :=
      List.map_congr_left fun event hmem => lineFeedCount_display_of_mem_run h hmem
    rw [Event.lineFeedCount_log, hstrings]
  · rw [← hzero]
    exact Event.lineFeedCount_log_eq_length_iff
  · rw [← hzero]
    exact Event.linesOf_log_eq_map_iff

/-- A text that goes over a line is one event on two lines. -/
theorem Session.lines_of_text_run_broken_text :
    run {} "Text(\"a\nb\")" = .ok [.textRendered "a\nb"] ∧
      lineFeedCount (Event.log [.textRendered "a\nb"]) ≠ [Event.textRendered "a\nb"].length := by
  have hrun : run {} "Text(\"a\nb\")" = .ok [.textRendered "a\nb"] := by cbv
  refine ⟨hrun, fun hcount => ?_⟩
  have hlines := lines_of_text_run (s := ⟨.ofText "" "Text(\"a\nb\")", []⟩) hrun ⟨"", false⟩
  obtain ⟨-, -, -, -, hiff, -⟩ := hlines
  exact hiff.mp hcount _ List.mem_cons_self "a\nb" (by decide) (by decide)

end ViewLang
