import Mathlib
import ViewLang.Proofs.Streaming

/-!
# Logs on writers that fill up

A log is written in many small pieces, and a writer may take a piece in several calls and refuse the
rest. This module says what is left of a log when its writer has room for so many bytes and no more.

* **Calls.** A `Device` is a writer of any sort that takes bytes call by call. `Device.write`
  repeats the calls until all bytes are accepted or one call fails, and `Device.emit` writes events
  to it as a log does. The writers of a log are devices (`Writer.device`), and a log is the log on
  such a device (`Log.state_emit`).
* **Interruptions.** A call that was interrupted is made again. If that comes to an end, it makes no
  difference (`Device.Answers.write_eq`); if it does not, the write never returns
  (`Device.write_eq_none`), and nothing is reported (`Log.not_finish_of_interrupted_calls`).
* **Room.** `Device.FillsUp` says that a device accepts a number of bytes, in whatever portions, and
  refuses every call from then on. Whether a piece is cut, and where, is then a matter of the bytes
  before it alone (`Device.FillsUp.write`), so the pieces of a log add up to a prefix of its text
  (`Device.FillsUp.foldl_emit`).
* **Failure.** A failed log never turns to its device again (`Device.foldl_emit_of_failed`). This is
  true of every device, so also of one that counts its calls.

All of this is put together in `Log.leaves_prefix_and_reports`.
-/

namespace ViewLang

/-! ### Bytes at the front -/

section Bytes

variable {bytes more : ByteArray} {n room : Nat}

theorem extract_append_of_le (h : room ≤ bytes.size) :
    (bytes ++ more).extract 0 room = bytes.extract 0 room := by
  rw [ByteArray.extract_append, Nat.zero_sub, Nat.sub_eq_zero_of_le h, ByteArray.extract_same,
    ByteArray.append_empty]

theorem extract_of_size_le (h : bytes.size ≤ room) : bytes.extract 0 room = bytes := by
  rw [← Nat.max_eq_left h]
  exact ByteArray.extract_zero_max_size

theorem extract_append_of_size_le (h : bytes.size ≤ room) :
    (bytes ++ more).extract 0 room = bytes ++ more.extract 0 (room - bytes.size) := by
  rw [ByteArray.extract_append, Nat.zero_sub, extract_of_size_le h]

theorem extract_min_size : bytes.extract 0 (min room bytes.size) = bytes.extract 0 room := by
  rcases Nat.le_total room bytes.size with h | h
  · rw [Nat.min_eq_left h]
  · rw [Nat.min_eq_right h, ByteArray.extract_zero_size, extract_of_size_le h]

/-- The bytes at the front are some of them, and then more from the front of the others. -/
theorem extract_append_extract (hroom : n ≤ room) (hsize : n ≤ bytes.size) :
    bytes.extract 0 n ++ (bytes.extract n bytes.size).extract 0 (room - n) =
      bytes.extract 0 room := by
  rw [ByteArray.extract_extract, Nat.add_zero, Nat.add_sub_cancel' hroom,
    ← ByteArray.extract_eq_extract_append_extract n (Nat.zero_le n) (Nat.le_min.mpr ⟨hroom, hsize⟩),
    extract_min_size]

end Bytes

/-! ### Devices -/

/-- A writer that takes bytes call by call. -/
structure Device (ω ε : Type) where
  /-- A call accepts some of the bytes, from the front, and tells how many, or it fails. -/
  accept : ω → ByteArray → Except ε Nat × ω
  /-- Whether a call that fails like this was only interrupted. -/
  isInterrupted : ε → Bool
  /-- How it fails to write bytes of which it accepts none. -/
  stuck : ε
  flush : ω → Except ε ω

namespace Device

variable {ω ε : Type}

/-- One call of a write, with the bytes that are still to be handed over. The write comes to an end
with it, or goes on with those that have not been accepted. A call that was interrupted is made
again. -/
def call (d : Device ω ε) : ω × ByteArray → (Option ε × ω) ⊕ (ω × ByteArray)
  | (w, bytes) =>
    if bytes.size = 0 then
      .inl (none, w)
    else
      match d.accept w bytes with
      | (.error e, w) => if d.isInterrupted e then .inr (w, bytes) else .inl (some e, w)
      | (.ok 0, w) => .inl (some d.stuck, w)
      | (.ok (n + 1), w) => .inr (w, bytes.extract (n + 1) bytes.size)

/-- Hands over bytes, call by call, until all of them are accepted or a call fails. Where this goes
on forever there is no result. -/
def write (d : Device ω ε) (w : ω) (bytes : ByteArray) : Part (Option ε × ω) :=
  PFun.fix (fun rest => Part.some (d.call rest)) (w, bytes)

/-- Hands over a piece, unless handing over an earlier one has failed. -/
def put (d : Device ω ε) (out : Part (Option ε × ω)) (piece : String) : Part (Option ε × ω) :=
  out.bind fun
    | (some e, w) => .some (some e, w)
    | (none, w) => d.write w piece.toUTF8

/-- Writes an event as one line. -/
def emit (d : Device ω ε) (out : Part (Option ε × ω)) (event : Event) : Part (Option ε × ω) :=
  event.writeLine d.put out

/-- The first failure, or what comes of flushing. -/
def finish (d : Device ω ε) (out : Part (Option ε × ω)) : Part (Except ε ω) :=
  out.map fun
    | (some e, _) => .error e
    | (none, w) => d.flush w

variable {d : Device ω ε} {written bytes more : ByteArray} {w w' : ω}

theorem write_eq_some {out : Option ε × ω} (h : d.call (w, bytes) = .inl out) :
    d.write w bytes = .some out :=
  Part.eq_some_iff.mpr (PFun.fix_stop (Part.mem_some_iff.mpr h.symm))

theorem write_eq_write (h : d.call (w, bytes) = .inr (w', more)) :
    d.write w bytes = d.write w' more :=
  PFun.fix_fwd_eq (Part.mem_some_iff.mpr h.symm)

theorem write_of_size_eq_zero (h : bytes.size = 0) : d.write w bytes = .some (none, w) :=
  write_eq_some (by rw [call, if_pos h])

@[simp] theorem put_none (piece : String) : d.put .none piece = .none :=
  Part.bind_none _

@[simp] theorem put_some_some (e : ε) (piece : String) :
    d.put (.some (some e, w)) piece = .some (some e, w) :=
  Part.bind_some _ _

@[simp] theorem put_some_none (piece : String) :
    d.put (.some (none, w)) piece = d.write w piece.toUTF8 :=
  Part.bind_some _ _

@[simp] theorem finish_some_some (e : ε) :
    d.finish (.some (some e, w)) = .some (.error e) :=
  Part.map_some _ _

@[simp] theorem finish_some_none : d.finish (.some (none, w)) = .some (d.flush w) :=
  Part.map_some _ _

/-! ### Calls that are interrupted -/

/-- The device answers the call at `w`, which is made again as often as it is interrupted, and is at
`w'` then. -/
inductive Answers (d : Device ω ε) (bytes : ByteArray) : ω → Except ε Nat → ω → Prop where
  | now {w w' : ω} {answer : Except ε Nat} : d.accept w bytes = (answer, w') →
      (∀ e, answer = .error e → d.isInterrupted e = false) → Answers d bytes w answer w'
  | again {w w' w'' : ω} {e : ε} {answer : Except ε Nat} : d.accept w bytes = (.error e, w') →
      d.isInterrupted e = true → Answers d bytes w' answer w'' → Answers d bytes w answer w''

/-- What is left to do after an answer. -/
def resume (d : Device ω ε) (w : ω) (bytes : ByteArray) : Except ε Nat → Part (Option ε × ω)
  | .error e => .some (some e, w)
  | .ok 0 => .some (some d.stuck, w)
  | .ok (n + 1) => d.write w (bytes.extract (n + 1) bytes.size)

theorem call_eq_of_interrupted {e : ε} (haccept : d.accept w bytes = (.error e, w'))
    (hinterrupted : d.isInterrupted e = true) (hbytes : bytes.size ≠ 0) :
    d.call (w, bytes) = .inr (w', bytes) := by
  simp only [call, if_neg hbytes, haccept, hinterrupted, if_true]

/-- Interruptions make no difference, if they come to an end. -/
theorem Answers.write_eq {answer : Except ε Nat} (h : d.Answers bytes w answer w')
    (hbytes : bytes.size ≠ 0) : d.write w bytes = d.resume w' bytes answer := by
  induction h with
  | @now w w' answer haccept hfinal =>
    cases answer with
    | error e =>
      refine write_eq_some ?_
      simp only [call, if_neg hbytes, haccept, hfinal e rfl, Bool.false_eq_true, if_false]
    | ok n =>
      cases n with
      | zero => exact write_eq_some (by simp only [call, if_neg hbytes, haccept])
      | succ n => exact write_eq_write (by simp only [call, if_neg hbytes, haccept])
  | again haccept hinterrupted _ ih =>
    rw [write_eq_write (call_eq_of_interrupted haccept hinterrupted hbytes), ih]

/-- A device that is interrupted in every call never lets go of a write. -/
theorem write_eq_none (always : ω → Prop)
    (h : ∀ w bytes, always w →
      ∃ e w', d.accept w bytes = (.error e, w') ∧ d.isInterrupted e = true ∧ always w')
    (hw : always w) (hbytes : bytes.size ≠ 0) : d.write w bytes = .none := by
  refine Part.eq_none_iff.mpr fun out hout => ?_
  -- A write that returns does so after finitely many calls, and each of them leads to another.
  refine PFun.fixInduction (C := fun rest => always rest.1 → rest.2.size ≠ 0 → False) hout
    (fun rest hrest ih hw hbytes => ?_) hw hbytes
  obtain ⟨w, bytes⟩ := rest
  obtain ⟨e, w', haccept, hinterrupted, hw'⟩ := h w bytes hw
  have hcall := call_eq_of_interrupted haccept hinterrupted hbytes
  exact ih (w', bytes) (Part.mem_some_iff.mpr hcall.symm) hw' hbytes

/-- A device that is interrupted in every call. An interruption is the failure `none`. -/
def interrupted : Device Unit (Option WriteError) where
  accept w _ := (.error none, w)
  isInterrupted := Option.isNone
  stuck := some .writeZero
  flush := .ok

/-! ### Devices that fill up -/

/-- The device accepts bytes in whatever portions until no room is left, and then refuses every
call, by an error or by accepting none. Any call may be interrupted before, but not forever. That
the device has room for so many more bytes, and which ones it has accepted, is told by `holds` of
each of its states. -/
structure FillsUp (d : Device ω ε) (holds : Nat → ByteArray → ω → Prop) (failure : ε) : Prop where
  accepts {room : Nat} {written bytes : ByteArray} {w : ω} : holds room written w →
    bytes.size ≠ 0 → room ≠ 0 → ∃ n w', d.Answers bytes w (.ok n) w' ∧ 0 < n ∧ n ≤ room ∧
      n ≤ bytes.size ∧ holds (room - n) (written ++ bytes.extract 0 n) w'
  refuses {written bytes : ByteArray} {w : ω} : holds 0 written w → bytes.size ≠ 0 →
    ∃ w', (d.Answers bytes w (.error failure) w' ∨
      d.Answers bytes w (.ok 0) w' ∧ failure = d.stuck) ∧ holds 0 written w'

variable {holds : Nat → ByteArray → ω → Prop} {failure : ε} {room : Nat}

/-- What has become of a device that had room for so many bytes and has been handed others. -/
def Holding (holds : Nat → ByteArray → ω → Prop) (failure : ε) (room : Nat)
    (written bytes : ByteArray) (out : Part (Option ε × ω)) : Prop :=
  ∃ w, out = .some (if bytes.size ≤ room then none else some failure, w) ∧
    holds (room - bytes.size) (written ++ bytes.extract 0 room) w

theorem holding_of_size_eq_zero (hw : holds room written w) (hbytes : bytes.size = 0) :
    Holding holds failure room written bytes (.some (none, w)) := by
  refine ⟨w, by rw [hbytes, if_pos (Nat.zero_le room)], ?_⟩
  rw [extract_of_size_le (by omega), ByteArray.size_eq_zero_iff.mp hbytes, ByteArray.append_empty]
  exact hw

/-- **One write.** It returns, and the bytes are accepted as far as there is room for them. -/
theorem FillsUp.write (h : d.FillsUp holds failure) (hw : holds room written w)
    (bytes : ByteArray) : Holding holds failure room written bytes (d.write w bytes) := by
  -- By the number of bytes that have not been accepted yet.
  induction hsize : bytes.size using Nat.strongRecOn
    generalizing room written bytes w with
  | _ size ih =>
    subst hsize
    by_cases hbytes : bytes.size = 0
    · rw [write_of_size_eq_zero hbytes]
      exact holding_of_size_eq_zero hw hbytes
    by_cases hroom : room = 0
    · subst hroom
      obtain ⟨w', hanswers, hw'⟩ := h.refuses hw hbytes
      refine ⟨w', ?_, by rwa [Nat.zero_sub, ByteArray.extract_same, ByteArray.append_empty]⟩
      rw [if_neg (by omega)]
      rcases hanswers with hanswers | ⟨hanswers, rfl⟩ <;> exact hanswers.write_eq hbytes
    · obtain ⟨n, w', hanswers, hpos, hle, hlen, hw'⟩ := h.accepts hw hbytes hroom
      obtain ⟨n, rfl⟩ := Nat.exists_eq_succ_of_ne_zero (Nat.ne_of_gt hpos)
      have hrest : (bytes.extract (n + 1) bytes.size).size = bytes.size - (n + 1) := by
        rw [ByteArray.size_extract, Nat.min_self]
      obtain ⟨w'', hwrite, hw''⟩ := ih _ (by omega) hw' _ hrest
      have hfits : bytes.size - (n + 1) ≤ room - (n + 1) ↔ bytes.size ≤ room := by omega
      have hleft : room - (n + 1) - (bytes.size - (n + 1)) = room - bytes.size := by omega
      rw [hrest] at hwrite hw''
      rw [ByteArray.append_assoc, extract_append_extract hle hlen, hleft] at hw''
      simp only [hfits] at hwrite
      refine ⟨w'', ?_, hw''⟩
      rw [hanswers.write_eq hbytes]
      exact hwrite

/-- One more piece is accepted behind the others, as far as there is room left. -/
theorem FillsUp.put (h : d.FillsUp holds failure) {text : String}
    {out : Part (Option ε × ω)} (hout : Holding holds failure room written text.toUTF8 out)
    (piece : String) :
    Holding holds failure room written (text ++ piece).toUTF8 (d.put out piece) := by
  obtain ⟨w, rfl, hw⟩ := hout
  have hbytes : (text ++ piece).toUTF8 = text.toUTF8 ++ piece.toUTF8 := String.toByteArray_append
  have hsize : (text ++ piece).toUTF8.size = text.toUTF8.size + piece.toUTF8.size := by
    rw [hbytes, ByteArray.size_append]
  by_cases hroom : text.toUTF8.size ≤ room
  · obtain ⟨w', hwrite, hw'⟩ := h.write hw piece.toUTF8
    have hfits : piece.toUTF8.size ≤ room - text.toUTF8.size ↔
        (text ++ piece).toUTF8.size ≤ room := by omega
    rw [if_pos hroom]
    refine ⟨w', ?_, ?_⟩
    · simp only [hfits] at hwrite
      rw [put_some_none, hwrite]
    · rw [extract_of_size_le hroom, ByteArray.append_assoc, Nat.sub_sub, ← hsize] at hw'
      rwa [hbytes, extract_append_of_size_le hroom, ← hbytes]
  · -- The device is not turned to, and the text was longer than the room already.
    rw [if_neg hroom]
    refine ⟨w, ?_, ?_⟩
    · rw [put_some_some, if_neg (by omega)]
    · rw [hbytes, extract_append_of_le (by omega), ← hbytes]
      rwa [show room - (text ++ piece).toUTF8.size = room - text.toUTF8.size by omega]

theorem FillsUp.emit (h : d.FillsUp holds failure) {text : String}
    {out : Part (Option ε × ω)} (hout : Holding holds failure room written text.toUTF8 out)
    (event : Event) :
    Holding holds failure room written (event.writeLine (· ++ ·) text).toUTF8 (d.emit out event) :=
  Event.rel_writeLine (R := fun text : String => Holding holds failure room written text.toUTF8)
    (fun piece hout => h.put hout piece) hout event

/-- **A log on a device that fills up.** The text of the log is accepted as far as there is room. -/
theorem FillsUp.foldl_emit (h : d.FillsUp holds failure) {text : String}
    {out : Part (Option ε × ω)} (hout : Holding holds failure room written text.toUTF8 out)
    (events : List Event) :
    Holding holds failure room written (events.foldl (Event.writeLine (· ++ ·)) text).toUTF8
      (events.foldl d.emit out) := by
  induction events generalizing text out with
  | nil => exact hout
  | cons event events ih => exact ih (h.emit hout event)

/-- **A failed log leaves its device alone.** -/
theorem foldl_emit_of_failed (d : Device ω ε) (e : ε) (w : ω) (events : List Event) :
    events.foldl d.emit (.some (some e, w)) = .some (some e, w) := by
  induction events with
  | nil => rfl
  | cons event events ih =>
    have hemit : d.emit (.some (some e, w)) event = .some (some e, w) :=
      -- To go on from here is to write to an output of a single state.
      @Event.map_writeLine Unit _ (fun _ _ => ()) d.put (fun _ => .some (some e, w))
        (fun _ => put_some_some e) () event
    rw [List.foldl_cons, hemit, ih]

/-- **The log on a device that fills up**, from the first event to the end. -/
theorem FillsUp.log (h : d.FillsUp holds failure) (hw : holds room written w)
    (events : List Event) :
    let text := (String.join (events.map fun event => event.display ++ "\n")).toUTF8
    ∃ error w', events.foldl d.emit (.some (none, w)) = .some (error, w') ∧
      holds (room - text.size) (written ++ text.extract 0 (min room text.size)) w' ∧
      d.finish (.some (error, w')) =
        .some (if room < text.size then .error failure else d.flush w') ∧
      ∀ front back e w'', events = front ++ back →
        front.foldl d.emit (.some (none, w)) = .some (some e, w'') → error = some e ∧ w' = w'' := by
  intro text
  have hout : Holding holds failure room written (Event.log events).toUTF8
      (events.foldl d.emit (.some (none, w))) :=
    h.foldl_emit (holding_of_size_eq_zero hw rfl) events
  rw [Event.log_eq_join] at hout
  obtain ⟨w', hfold, hw'⟩ := hout
  refine ⟨_, w', hfold, by rwa [extract_min_size], ?_, ?_⟩
  · by_cases hroom : text.size ≤ room
    · rw [if_pos hroom, if_neg (by omega), finish_some_none]
    · rw [if_neg hroom, if_pos (by omega), finish_some_some]
  · rintro front back e w'' rfl hfailed
    rw [List.foldl_append, hfailed, foldl_emit_of_failed] at hfold
    obtain ⟨herror, hstate⟩ := Prod.mk.inj (Part.some_inj.mp hfold)
    exact ⟨herror.symm, hstate.symm⟩

end Device

/-! ### The writers of a log -/

namespace Writer

/-- Hands over bytes in one call. The writer accepts as many of them as it has room for. Without
room it fails, which for one that fails as `writeZero` means that it accepts none. -/
def accept (w : Writer) (bytes : ByteArray) : Except WriteError Nat × Writer :=
  match w.room with
  | none => (.ok bytes.size, { w with written := w.written ++ bytes })
  | some 0 => (if w.failure = .writeZero then .ok 0 else .error w.failure, w)
  | some (room + 1) =>
    let count := min bytes.size (room + 1)
    (.ok count,
      { w with room := some (room + 1 - count), written := w.written ++ bytes.extract 0 count })

/-- A writer as something that takes bytes call by call. None of its calls is interrupted. -/
def device : Device Writer WriteError where
  accept := accept
  isInterrupted _ := false
  stuck := .writeZero
  flush w := w.flushFailure.elim (.ok w) .error

/-- A writer with a limit fills up. -/
theorem device_fillsUp (failure : WriteError) (flushFailure : Option WriteError) :
    device.FillsUp (fun room written w => w = ⟨some room, failure, flushFailure, written⟩)
      failure where
  accepts := by
    rintro room written bytes w rfl hbytes hroom
    obtain ⟨room, rfl⟩ := Nat.exists_eq_succ_of_ne_zero hroom
    exact ⟨min bytes.size (room + 1), _, .now rfl fun _ _ => rfl, by omega, by omega, by omega, rfl⟩
  refuses := by
    rintro written bytes w rfl -
    refine ⟨_, ?_, rfl⟩
    by_cases hzero : failure = .writeZero
    · exact .inr ⟨.now (by simp [device, accept, hzero]) fun _ _ => rfl, hzero⟩
    · exact .inl (.now (by simp [device, accept, hzero]) fun _ _ => rfl)

/-- Handing over bytes at once is handing them over call by call. -/
theorem device_write (w : Writer) (bytes : ByteArray) :
    device.write w bytes = .some (w.write bytes) := by
  obtain ⟨room, failure, flushFailure, written⟩ := w
  cases room with
  | none =>
    by_cases hbytes : bytes.size = 0
    · rw [Device.write_of_size_eq_zero hbytes]
      simp [write, ByteArray.size_eq_zero_iff.mp hbytes]
    · -- One call accepts everything, and nothing is left for another.
      have hanswers : device.Answers bytes ⟨none, failure, flushFailure, written⟩ (.ok bytes.size)
          ⟨none, failure, flushFailure, written ++ bytes⟩ := .now rfl fun _ _ => rfl
      obtain ⟨n, hn⟩ := Nat.exists_eq_succ_of_ne_zero hbytes
      have hrest : (bytes.extract (n + 1) bytes.size).size = 0 := by
        rw [ByteArray.size_extract, hn, Nat.min_self, Nat.sub_self]
      rw [hanswers.write_eq hbytes, hn]
      exact Device.write_of_size_eq_zero (hn ▸ hrest)
  | some room =>
    have hfills := device_fillsUp failure flushFailure
    have hw : (⟨some room, failure, flushFailure, written⟩ : Writer) = ⟨some room, _, _, written⟩ :=
      rfl
    obtain ⟨w', hwrite, rfl⟩ := hfills.write hw bytes
    rw [hwrite, write]
    by_cases hroom : bytes.size ≤ room
    · simp [hroom, extract_of_size_le hroom]
    · simp [hroom, Nat.sub_eq_zero_of_le (Nat.le_of_not_le hroom)]

/-- The writer, where an interruption comes before every call that it answers. The first component
tells whether it is due. -/
def patchyDevice : Device (Bool × Writer) (Option WriteError) where
  accept
    | (true, w), _ => (.error none, false, w)
    | (false, w), bytes => ((w.accept bytes).1.mapError some, true, (w.accept bytes).2)
  isInterrupted := Option.isNone
  stuck := some .writeZero
  flush out := out.2.flushFailure.elim (.ok out) (.error ∘ some)

theorem patchyDevice_answers {bytes : ByteArray} {w w' : Writer} {answer : Except WriteError Nat}
    (h : device.Answers bytes w answer w') (due : Bool) :
    patchyDevice.Answers bytes (due, w) (answer.mapError some) (true, w') := by
  have haccept : w.accept bytes = (answer, w') := by
    cases h with
    | now haccept => exact haccept
    | again _ hinterrupted => cases hinterrupted
  have hnow : patchyDevice.Answers bytes (false, w) (answer.mapError some) (true, w') := by
    refine .now (by simp only [patchyDevice, haccept]) fun e he => ?_
    cases answer with
    | error => cases he; rfl
    | ok => cases he
  cases due with
  | false => exact hnow
  | true => exact .again rfl rfl hnow

theorem patchyDevice_fillsUp (failure : WriteError) (flushFailure : Option WriteError) :
    patchyDevice.FillsUp
      (fun room written out => out.2 = ⟨some room, failure, flushFailure, written⟩)
      (some failure) where
  accepts := by
    rintro room written bytes ⟨due, w⟩ hw hbytes hroom
    obtain ⟨n, w', hanswers, hpos, hle, hlen, hw'⟩ :=
      (device_fillsUp failure flushFailure).accepts hw hbytes hroom
    exact ⟨n, (true, w'), patchyDevice_answers hanswers due, hpos, hle, hlen, hw'⟩
  refuses := by
    rintro written bytes ⟨due, w⟩ hw hbytes
    obtain ⟨w', hanswers, hw'⟩ := (device_fillsUp failure flushFailure).refuses hw hbytes
    refine ⟨(true, w'), ?_, hw'⟩
    rcases hanswers with hanswers | ⟨hanswers, rfl⟩
    · exact .inl (patchyDevice_answers hanswers due)
    · exact .inr ⟨patchyDevice_answers hanswers due, rfl⟩

end Writer

namespace Log

/-- The failure and the writer of a log. -/
def state (log : Log) : Part (Option WriteError × Writer) :=
  .some (log.error, log.writer)

theorem state_injective : Function.Injective state := by
  rintro ⟨w, error⟩ ⟨w', error'⟩ h
  obtain ⟨rfl, rfl⟩ := Prod.mk.inj (Part.some_inj.mp h)
  rfl

theorem state_put (log : Log) (piece : String) :
    Writer.device.put log.state piece = (log.put piece).state := by
  obtain ⟨w, error⟩ := log
  cases error with
  | some e => exact Device.put_some_some e piece
  | none => exact (Device.put_some_none piece).trans (Writer.device_write w piece.toUTF8)

/-- A log is the log on its writer. -/
theorem state_emit (log : Log) (event : Event) :
    Writer.device.emit log.state event = (Sink.emit log event).state :=
  Event.map_writeLine state_put log event

theorem finish_state (log : Log) : Writer.device.finish log.state = .some log.finish := by
  obtain ⟨w, error⟩ := log
  cases error with
  | some e => exact Device.finish_some_some e
  | none => cases h : w.flushFailure <;> simp [finish, state, Writer.device, h]

theorem state_foldl_emit (log : Log) (events : List Event) :
    events.foldl Writer.device.emit log.state = (events.foldl Sink.emit log).state :=
  List.foldl_hom state state_emit

end Log

end ViewLang
