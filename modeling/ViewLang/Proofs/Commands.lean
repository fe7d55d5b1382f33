import ViewLang.Proofs.JsonText

/-!
# Commands and the library

A source can be run in several ways: by `run`, which collects the events; by a session, which hands
them to a sink; and by a command, which prints them as text while the source runs, or as JSON in the
end. The stages of a session are those of `run` one by one (`Session.program_eq_of_ok`,
`Session.program_eq_of_error`), and what comes of the events does not depend on when they are handed
over (`Session.evaluate_eq_of_ok`). So all ways agree on what happens, and a source that has an
error is refused by all of them alike, before anything has been printed
(`Session.execute_agrees_with_run`).
-/

namespace ViewLang

/-! ### The stages of a session -/

namespace Session

variable {s : Session} {ts : List Token} {nodes : List Node}

theorem tokens_eq_of_ok (h : tokenize s.source.text = .ok ts) : s.tokens = (some ts, s) := by
  rw [tokens, h, check]

theorem tokens_eq_of_error {e : LexError} (h : tokenize s.source.text = .error e) :
    s.tokens = (none, s.report e.diagnostic) := by
  rw [tokens, h, check]

/-- A session that reads a program adds no diagnostic. -/
theorem program_eq_of_ok (h : readProgram s.source.text = .ok nodes) :
    s.program = (some nodes, s) := by
  cases htokens : tokenize s.source.text with
  | error e => simp [readProgram, htokens] at h
  | ok ts =>
    rw [program, tokens_eq_of_ok htokens]
    cases hparse : parse ts with
    | error e => simp [readProgram, htokens, hparse] at h
    | ok others =>
      obtain rfl : others = nodes := by simpa [readProgram, htokens, hparse] using h
      simp only [hparse, check]

/-- Whichever stage fails, its error is reported once. -/
theorem program_eq_of_error {e : ProgramError} (h : readProgram s.source.text = .error e) :
    s.program = (none, s.report e.diagnostic) := by
  cases htokens : tokenize s.source.text with
  | error lexError =>
    obtain rfl : .lex lexError = e := by simpa [readProgram, htokens] using h
    rw [program, tokens_eq_of_error htokens]
    rfl
  | ok ts =>
    cases hparse : parse ts with
    | ok nodes => simp [readProgram, htokens, hparse] at h
    | error parseError =>
      obtain rfl : .parse parseError = e := by simpa [readProgram, htokens, hparse] using h
      rw [program, tokens_eq_of_ok htokens]
      simp only [hparse, check]
      rfl

section Evaluation

variable {σ : Type} [Sink σ] (sink : σ) (config : Config)

/-- The sink is given the events of the program one after the other. -/
theorem evaluate_eq_of_ok (h : readProgram s.source.text = .ok nodes) :
    s.evaluate sink config =
      (some ((Interpreter.interpret config {} nodes).events.toList.foldl Sink.emit sink), s) := by
  rw [evaluate, program_eq_of_ok h]
  simp only [Interpreter.interpretInto_eq, Interpreter.into]

/-- A collection ends up with the events of the program. -/
theorem evaluate_array_of_ok (h : readProgram s.source.text = .ok nodes) :
    s.evaluate (#[] : Array Event) config =
      (some (Interpreter.interpret config {} nodes).events, s) := by
  rw [evaluate_eq_of_ok _ config h, Sink.foldl_emit_array, Array.empty_append]

theorem evaluate_eq_of_error {e : ProgramError} (h : readProgram s.source.text = .error e) :
    s.evaluate sink config = (none, s.report e.diagnostic) := by
  rw [evaluate, program_eq_of_error h]

end Evaluation

end Session

/-! ### Printing -/

section Printing

variable {w : Writer}

theorem Log.close_holding (h : w.flushFailure = none) (text : String) :
    (Log.holding w text).close = (none, w.add text) := by
  have hflush : (w.add text).flushFailure = none := h
  simp only [close, finish, holding, hflush, Option.or_none]

theorem Token.listing_eq_join (ts : List Token) : listing ts = String.join (ts.map row) := by
  rw [listing, String.join, List.foldl_map]

end Printing

/-! ### What commands leave behind -/

namespace Session

variable {s : Session} {output : Writer} {ts : List Token} {nodes : List Node}

/-- What a command leaves behind that prints the text and does nothing else. -/
def printed (s : Session) (output : Writer) (text : String) : Execution :=
  ⟨s, output.add text, none⟩

/-- What a command leaves behind that fails for an error of the source: one more diagnostic, and
nothing printed. -/
def refused (s : Session) (output : Writer) (e : ProgramError) : Execution :=
  ⟨{ s with diagnostics := s.diagnostics ++ [e.diagnostic] }, output, some .reported⟩

section Commands

variable (input : Input) (config : Config)

theorem execute_run_text_of_ok (hroom : output.room = none) (hflush : output.flushFailure = none)
    (h : readProgram s.source.text = .ok nodes) :
    s.execute output (.run input config .text) =
      s.printed output (Event.log (Interpreter.interpret config {} nodes).events.toList) := by
  rw [execute, evaluate_eq_of_ok _ config h, Log.foldl_emit_eq_holding hroom]
  simp only [Execution.after, Log.close_holding hflush, printed]

theorem execute_run_json_of_ok (hroom : output.room = none)
    (h : readProgram s.source.text = .ok nodes) :
    s.execute output (.run input config .json) =
      s.printed output
        (Event.encode (Interpreter.interpret config {} nodes).events.toList ++ "\n") := by
  rw [execute, evaluate_array_of_ok config h]
  simp only [Execution.after, Writer.printEvents_eq hroom, printed]

theorem execute_ast_of_ok (hroom : output.room = none) (h : readProgram s.source.text = .ok nodes) :
    s.execute output (.ast input) = s.printed output (Node.print Node.defaultIndent nodes) := by
  rw [execute, program_eq_of_ok h]
  simp only [Execution.after, Writer.print_eq hroom, printed, Prod.map, Option.map_none, id]

theorem execute_tokens_of_ok (hroom : output.room = none) (h : tokenize s.source.text = .ok ts) :
    s.execute output (.tokens input) = s.printed output (Token.listing ts) := by
  rw [execute, tokens_eq_of_ok h]
  simp only [Execution.after, Writer.printAll_eq hroom, printed, Token.listing_eq_join, Prod.map,
    Option.map_none, id]

theorem execute_tokens_of_error {e : LexError} (h : tokenize s.source.text = .error e) :
    s.execute output (.tokens input) = s.refused output (.lex e) := by
  rw [execute, tokens_eq_of_error h]
  rfl

variable {e : ProgramError}

theorem execute_run_of_error (format : Format) (h : readProgram s.source.text = .error e) :
    s.execute output (.run input config format) = s.refused output e := by
  cases format <;> rw [execute, evaluate_eq_of_error _ config h] <;> rfl

theorem execute_ast_of_error (h : readProgram s.source.text = .error e) :
    s.execute output (.ast input) = s.refused output e := by
  rw [execute, program_eq_of_error h]
  rfl

end Commands

/-- **Commands agree with the library, and fail cleanly.** Let the output be a writer that never
fails, and let the session have any diagnostics already. If the source runs, a session that collects
the events has those of `run`, and the commands print each of them on a line, or their JSON, which
is that of no other events, or the program, without any diagnostic. If it does not run, the session
and all these commands fail with the error of `run`, which is reported once, and print nothing. The
tokens are listed unless the characters are in error, whether or not the tokens make up a program.
-/
theorem execute_agrees_with_run (s : Session) (written : ByteArray) (input : Input)
    (config : Config) :
    let output : Writer := { written }
    (match run config s.source.text with
      | .ok events =>
        s.evaluate (#[] : Array Event) config = (some events.toArray, s) ∧
          s.execute output (.run input config .text) =
            s.printed output (String.join (events.map fun event => event.display ++ "\n")) ∧
          s.execute output (.run input config .json) =
            s.printed output (Event.encode events ++ "\n") ∧
          (∀ others, Event.encode others = Event.encode events → others = events) ∧
          ∃ nodes, readProgram s.source.text = .ok nodes ∧
            s.execute output (.ast input) =
              s.printed output (Node.print Node.defaultIndent nodes)
      | .error e =>
        s.evaluate (#[] : Array Event) config =
            (none, { s with diagnostics := s.diagnostics ++ [e.diagnostic] }) ∧
          (∀ format, s.execute output (.run input config format) = s.refused output e) ∧
          s.execute output (.ast input) = s.refused output e) ∧
      match tokenize s.source.text with
      | .ok ts => s.execute output (.tokens input) = s.printed output (Token.listing ts)
      | .error e => s.execute output (.tokens input) = s.refused output (.lex e) := by
  intro output
  refine ⟨?_, ?_⟩
  · cases h : readProgram s.source.text with
    | ok nodes =>
      simp only [run, h]
      refine ⟨evaluate_array_of_ok config h, ?_, execute_run_json_of_ok input config rfl h,
        fun others heq => Event.encode_injective heq, nodes, rfl, execute_ast_of_ok input rfl h⟩
      rw [← Event.log_eq_join]
      exact execute_run_text_of_ok input config rfl rfl h
    | error e =>
      simp only [run, h]
      exact ⟨evaluate_eq_of_error _ config h,
        fun format => execute_run_of_error input config format h, execute_ast_of_error input h⟩
  · cases h : tokenize s.source.text with
    | ok ts => exact execute_tokens_of_ok input rfl h
    | error e => exact execute_tokens_of_error input h

end Session

end ViewLang
