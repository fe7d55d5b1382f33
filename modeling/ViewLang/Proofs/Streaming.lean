import ViewLang.Event.Log
import ViewLang.Interpreter

/-!
# Collecting and streaming

What an evaluation brings about can be collected first and looked at later, or it can be passed on
while the evaluation runs. This module shows that the two ways come to the same.

* **Events.** `Interpreter.into sink i` is the interpreter `i` when the events that it has collected
  are handed to a sink instead. Evaluation respects the change (`Interpreter.block_into`), so an
  evaluation into a sink leaves there what the collected events would have left one after the other
  (`Interpreter.interpretInto_eq`).
* **Pieces.** The form of an event is written piece by piece to an output of any sort. A map between
  two sorts of output that takes a piece added here to the same piece added there also takes what is
  written here to what is written there (`Event.map_write`). With the text as the one output and a
  log as the other, a log without a limit holds the text (`Log.foldl_emit_eq_holding`).
-/

namespace ViewLang

/-! ### Events -/

/-- Events handed to a collection come after those that it holds. -/
theorem Sink.foldl_emit_array (events : Array Event) (more : List Event) :
    more.foldl emit events = events ++ more.toArray := by
  simp [emit]

namespace Interpreter

variable {σ : Type} [Sink σ] {sink : σ}

/-- The interpreter when its events are handed to the sink. -/
def into (sink : σ) (i : Interpreter) : Interpreter σ where
  environment := i.environment
  events := i.events.toList.foldl Sink.emit sink

@[simp] theorem environment_into (i : Interpreter) : (i.into sink).environment = i.environment :=
  rfl

theorem emit_into (i : Interpreter) (event : Event) :
    (i.into sink).emit event = (i.emit event).into sink := by
  simp [into, emit]

theorem define_into (i : Interpreter) (name : String) (binding : Binding) (event : Event) :
    (i.into sink).define name binding event = (i.define name binding event).into sink := by
  simp [into, define, emit]

/-- Calls are carried out alike, whether their events are collected or handed to the sink. -/
def CarriesInto (sink : σ) (enter : Interpreter → String → Event → List Node → Interpreter)
    (enterInto : Interpreter σ → String → Event → List Node → Interpreter σ) : Prop :=
  ∀ i name event body, enterInto (i.into sink) name event body = (enter i name event body).into sink

section Evaluation

variable {mode : Mode} {enter : Interpreter → String → Event → List Node → Interpreter}
  {enterInto : Interpreter σ → String → Event → List Node → Interpreter σ}

mutual

theorem statement_into (h : CarriesInto sink enter enterInto) (i : Interpreter) :
    (node : Node) →
      statement mode enterInto (i.into sink) node = (statement mode enter i node).into sink
  | .view elements => by
    have helements := block_into h (i.emit (.viewRendered elements)) elements
    cases mode with
    | reference => exact emit_into i (.viewRendered elements)
    | corrected =>
      rw [statement, statement, emit_into]
      exact helements
  | .assignment name value => define_into i name (.value value) (.assigned name value)
  | .function name body => by
    cases mode with
    | reference => exact emit_into i (.functionDefined name body)
    | corrected => exact define_into i name (.function body) (.functionDefined name body)
  | .component name body => define_into i name (.component body) (.componentDefined name)
  | .call name => by
    rw [statement, statement, environment_into]
    cases callee? mode i.environment name with
    | none => exact emit_into i (.componentNotFound name)
    | some callee => exact h i name callee.1 callee.2
  | .text content => emit_into i (.textRendered content)
  | .button label => emit_into i (.buttonRendered label)

/-- **Evaluation respects sinks.** -/
theorem block_into (h : CarriesInto sink enter enterInto) (i : Interpreter) :
    (nodes : List Node) →
      block mode enterInto (i.into sink) nodes = (block mode enter i nodes).into sink
  | [] => rfl
  | node :: nodes => by
    rw [block, statement_into h, block_into h _ nodes, block]

end

end Evaluation

/-- The levels of calls do not see the sink either. -/
theorem carriesInto_enter (config : Config) (sink : σ) (levels : Nat) :
    CarriesInto sink (enter config levels) (enter config levels) := by
  induction levels with
  | zero => exact fun i name event body => emit_into i _
  | succ levels ih =>
    intro i name event body
    rw [enter, enter, emit_into]
    exact block_into ih (i.emit event) body

/-- **Evaluating into a sink.** The bindings are those of an evaluation that collects its events,
and the sink has been given the events in order. -/
theorem interpretInto_eq (config : Config) (sink : σ) (program : List Node) :
    interpretInto config sink program = (interpret config {} program).into sink :=
  block_into (carriesInto_enter config sink config.maxDepth) ⟨∅, #[]⟩ program

theorem into_array (events : Array Event) (i : Interpreter) :
    i.into events = ⟨i.environment, events ++ i.events⟩ := by
  rw [into, Sink.foldl_emit_array]

end Interpreter

/-! ### Pieces -/

section Pieces

variable {ω ω' : Type} {put : ω → String → ω} {put' : ω' → String → ω'} {f : ω → ω'}

theorem Literal.map_write (h : ∀ out piece, put' (f out) piece = f (put out piece)) (out : ω)
    (value : Literal) : value.write put' (f out) = f (value.write put out) := by
  cases value <;> simp only [write, h]

namespace Node

mutual

theorem map_write (h : ∀ out piece, put' (f out) piece = f (put out piece)) (out : ω) :
    (node : Node) → node.write put' (f out) = f (node.write put out)
  | view elements => by simp only [write, h, map_writeAll h _ elements]
  | assignment name value => by simp only [write, h, Literal.map_write h]
  | function name body => by simp only [write, h, map_writeAll h _ body]
  | component name body => by simp only [write, h, map_writeAll h _ body]
  | call name => by simp only [write, h]
  | text content => by simp only [write, h]
  | button label => by simp only [write, h]

theorem map_writeAll (h : ∀ out piece, put' (f out) piece = f (put out piece)) (out : ω) :
    (nodes : List Node) → writeAll put' (f out) nodes = f (writeAll put out nodes)
  | [] => rfl
  | node :: nodes => by simp only [writeAll, h, map_write h _ node, map_writeAll h _ nodes]

end

theorem map_writeList (h : ∀ out piece, put' (f out) piece = f (put out piece)) (out : ω)
    (nodes : List Node) : writeList put' (f out) nodes = f (writeList put out nodes) := by
  cases nodes with
  | nil => simp only [writeList, h]
  | cons node nodes =>
    have hnodes : ∀ out, nodes.foldl (fun out node => write put' (put' out ", ") node) (f out) =
        f (nodes.foldl (fun out node => write put (put out ", ") node) out) :=
      fun out => List.foldl_hom f fun out node => by rw [h, map_write h]
    simp only [writeList, h, map_write h, hnodes]

/-- The form of a statement after the text `out`. -/
theorem write_append (out : String) (node : Node) :
    node.write (· ++ ·) out = out ++ node.display := by
  simpa [display] using map_write (f := (out ++ ·)) (fun _ _ => String.append_assoc) "" node

theorem writeList_append (out : String) (nodes : List Node) :
    writeList (· ++ ·) out nodes = out ++ displayList nodes := by
  simpa [displayList] using
    map_writeList (f := (out ++ ·)) (fun _ _ => String.append_assoc) "" nodes

end Node

namespace Event

/-- **Writing is natural in the output.** -/
theorem map_write (h : ∀ out piece, put' (f out) piece = f (put out piece)) (out : ω)
    (event : Event) : event.write put' (f out) = f (event.write put out) := by
  cases event <;> simp only [write, h, Literal.map_write h, Node.map_writeList h]

theorem map_writeLine (h : ∀ out piece, put' (f out) piece = f (put out piece)) (out : ω)
    (event : Event) : event.writeLine put' (f out) = f (event.writeLine put out) := by
  rw [writeLine, writeLine, map_write h, h]

/-- Two outputs as one, which keeps a relation between them. -/
private def putBoth {R : ω → ω' → Prop} (put : ω → String → ω) (put' : ω' → String → ω')
    (h : ∀ {out out'} piece, R out out' → R (put out piece) (put' out' piece))
    (outs : {outs : ω × ω' // R outs.1 outs.2}) (piece : String) :
    {outs : ω × ω' // R outs.1 outs.2} :=
  ⟨(put outs.1.1 piece, put' outs.1.2 piece), h piece outs.2⟩

/-- A relation that every piece keeps between two outputs is kept by a whole line. -/
theorem rel_writeLine {R : ω → ω' → Prop}
    (h : ∀ {out out'} piece, R out out' → R (put out piece) (put' out' piece)) {out : ω} {out' : ω'}
    (hout : R out out') (event : Event) :
    R (event.writeLine put out) (event.writeLine put' out') := by
  let outs : {outs : ω × ω' // R outs.1 outs.2} := ⟨(out, out'), hout⟩
  have hleft : event.writeLine put out = (event.writeLine (putBoth put put' h) outs).1.1 :=
    map_writeLine (f := fun outs => outs.1.1) (fun _ _ => rfl) outs event
  have hright : event.writeLine put' out' = (event.writeLine (putBoth put put' h) outs).1.2 :=
    map_writeLine (f := fun outs => outs.1.2) (fun _ _ => rfl) outs event
  rw [hleft, hright]
  exact (event.writeLine (putBoth put put' h) outs).2

/-- The line of an event after the text `out`. -/
theorem writeLine_append (out : String) (event : Event) :
    event.writeLine (· ++ ·) out = out ++ (event.display ++ "\n") := by
  have hwrite : event.write (· ++ ·) out = out ++ event.display := by
    simpa [display] using map_write (f := (out ++ ·)) (fun _ _ => String.append_assoc) "" event
  rw [writeLine, hwrite, String.append_assoc]

/-- A log is the lines of its events one after the other. -/
theorem log_eq_join (events : List Event) :
    log events = String.join (events.map fun event => event.display ++ "\n") := by
  rw [log, String.join, List.foldl_map]
  exact congrArg (fun step => events.foldl step "")
    (funext fun out => funext fun event => writeLine_append out event)

end Event

end Pieces

/-! ### Logs -/

/-- The writer when it has accepted the text as well. -/
def Writer.add (w : Writer) (text : String) : Writer :=
  { w with written := w.written ++ text.toUTF8 }

section Logs

variable {w : Writer}

theorem Writer.add_add (w : Writer) (text more : String) :
    (w.add text).add more = w.add (text ++ more) := by
  simp [add, String.toByteArray_append, ByteArray.append_assoc]

/-- A writer without a limit accepts every text. -/
theorem Writer.print_eq (h : w.room = none) (text : String) :
    w.print text = (none, w.add text) := by
  simp [print, write, add, h]

theorem Writer.printAll_eq (h : w.room = none) (texts : List String) :
    w.printAll texts = (none, w.add (String.join texts)) := by
  induction texts generalizing w with
  | nil => simp [printAll, add]
  | cons text texts ih =>
    rw [printAll, print_eq h, String.join_cons, ← add_add]
    exact ih h

end Logs

namespace Log

/-- The log that holds the text, after what its writer has accepted before. -/
def holding (w : Writer) (text : String) : Log :=
  ⟨w.add text, none⟩

variable {w : Writer}

@[simp] theorem holding_empty (w : Writer) : holding w "" = ⟨w, none⟩ := by
  simp [holding, Writer.add]

theorem put_holding (h : w.room = none) (text piece : String) :
    (holding w text).put piece = holding w (text ++ piece) := by
  have hprint : (w.add text).write piece.toUTF8 = (none, w.add (text ++ piece)) := by
    rw [← Writer.add_add]
    exact Writer.print_eq (w := w.add text) h piece
  simp only [put, holding, hprint]

/-- **A log without a limit.** It holds the log of the events that it has been given. -/
theorem foldl_emit_eq_holding (h : w.room = none) (events : List Event) :
    events.foldl Sink.emit ⟨w, none⟩ = holding w (Event.log events) := by
  have hline : ∀ text event,
      Sink.emit (holding w text) event = holding w (event.writeLine (· ++ ·) text) :=
    fun text event => Event.map_writeLine (put_holding h) text event
  rw [← holding_empty]
  exact List.foldl_hom (holding w) hline

end Log

end ViewLang
