import ViewLang.Event.Sink

/-!
# Logs that can fail

A log writes events, one per line, to a writer that accepts a limited number of bytes. The pieces of
a line are handed over one by one, and a piece may be cut short in the middle, even of a character.
The first failure is kept: from then on the log is left alone, and the failure is what is reported
in the end. Only a log without one is flushed.
-/

namespace ViewLang

/-- Why a write failed. A call that is interrupted is made again, so that is no reason. -/
inductive WriteError where
  | brokenPipe
  | permissionDenied
  /-- The writer accepted no byte of a piece that was not empty. -/
  | writeZero
deriving DecidableEq, Repr

/-- The error in words. -/
def WriteError.message : WriteError → String
  | brokenPipe => "broken pipe"
  | permissionDenied => "permission denied"
  | writeZero => "failed to write whole buffer"

/-- A writer, with all that it has been given. -/
structure Writer where
  /-- The number of bytes that it still accepts, if there is a limit. -/
  room : Option Nat := none
  /-- How it fails when there is no room left. -/
  failure : WriteError := .brokenPipe
  /-- How flushing it fails, if it does. -/
  flushFailure : Option WriteError := none
  /-- The bytes accepted so far. -/
  written : ByteArray := .empty

namespace Writer

/-- Hands over bytes. The writer accepts those for which it has room, and fails if that is not all
of them. -/
def write (w : Writer) (bytes : ByteArray) : Option WriteError × Writer :=
  match w.room with
  | none => (none, { w with written := w.written ++ bytes })
  | some room =>
    if bytes.size ≤ room then
      (none, { w with room := some (room - bytes.size), written := w.written ++ bytes })
    else
      (some w.failure, { w with room := some 0, written := w.written ++ bytes.extract 0 room })

/-- Hands over a text. -/
def print (w : Writer) (text : String) : Option WriteError × Writer :=
  w.write text.toUTF8

/-- Hands over texts in order, up to the first failure. -/
def printAll (w : Writer) : List String → Option WriteError × Writer
  | [] => (none, w)
  | text :: texts =>
    match w.print text with
    | (some e, w) => (some e, w)
    | (none, w) => w.printAll texts

end Writer

/-- A log on a writer, with the first failure. -/
structure Log where
  writer : Writer := {}
  error : Option WriteError := none

namespace Log

/-- Writes a piece, unless the log has failed. -/
def put (log : Log) (piece : String) : Log :=
  match log.error with
  | some _ => log
  | none =>
    let (error, writer) := log.writer.write piece.toUTF8
    { writer, error }

/-- Writes an event as one line. -/
def emit (log : Log) (event : Event) : Log :=
  event.writeLine put log

instance : Sink Log where
  emit := emit

/-- The failure of the log as a whole: the first failure to write, or that of flushing. -/
def finish (log : Log) : Except WriteError Writer :=
  match log.error.or log.writer.flushFailure with
  | some e => .error e
  | none => .ok log.writer

end Log

end ViewLang
