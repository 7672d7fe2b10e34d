import Rollup.Proofs.Outcome
import Rollup.Output.Writer

/-!
# What reaches the sink of a writer

What a writer has been given is in its sink or still in its buffer (`written`).
As long as the sink does not fail, a flush moves all of it to the sink and a line
adds to it; when the sink fails, it has got a beginning of it (`flush_received`,
`writeLine_received`).  A sink that takes at least one byte whenever it is offered
some gets all of them in the end, so that nothing fails (`flush_ok`,
`writeLine_ok`).
-/

namespace Rollup

/-- The sink makes progress with every write, and none of its calls fails. -/
structure SinkBehaviour.NeverFails (behaviour : SinkBehaviour) : Prop where
  write : ∀ call offered, 0 < offered →
    ∃ taken, 0 < taken ∧ behaviour.write call offered = .ok taken
  flush : ∀ call, behaviour.flush call = .ok ()

theorem SinkBehaviour.neverFails_reliable : reliable.NeverFails :=
  ⟨fun _ offered h ↦ ⟨offered, h, rfl⟩, fun _ ↦ rfl⟩

namespace Sink

variable {s : Sink}

theorem received_recordWrite (s : Sink) (call : SinkCall) :
    (s.recordWrite call).received = s.received ++ call.bytes := by
  simp [received, recordWrite]

theorem received_recordFlush (s : Sink) (call : SinkCall) :
    (s.recordFlush call).received = s.received ++ call.bytes := by
  simp [received, recordFlush]

/-- The sink takes a beginning of the bytes from `position` on, and all of them if
that succeeds. -/
theorem writeFrom_received (buffer : Array UInt8) (position : Nat) (s : Sink) :
    (writeFrom buffer position s).state.received <+: s.received ++ buffer.toList.drop position ∧
      ((writeFrom buffer position s).outcome = .ok () →
        (writeFrom buffer position s).state.received =
          s.received ++ buffer.toList.drop position) := by
  fun_induction writeFrom buffer position s with
  | case1 position s hlt offered fault hfault =>
    refine ⟨?_, nofun⟩
    rw [Step.failed_state, received_recordWrite, SinkCall.bytes.eq_def, List.append_nil]
    exact List.prefix_append _ _
  | case2 position s hlt offered answer hanswer taken s' hzero =>
    refine ⟨?_, nofun⟩
    rw [Step.failed_state, received_recordWrite, hzero, SinkCall.bytes, Nat.add_zero]
    simp
  | case3 position s hlt offered answer hanswer taken s' hpos ih =>
    have htaken : s'.received ++ buffer.toList.drop (position + taken) =
        s.received ++ buffer.toList.drop position := by
      rw [received_recordWrite, SinkCall.bytes, List.append_assoc, Array.toList_extract,
        List.extract_eq_take_drop, Nat.add_sub_cancel_left, ← List.drop_drop,
        List.take_append_drop]
    rwa [htaken] at ih
  | case4 position s hge =>
    rw [List.drop_eq_nil_of_le (by simpa using Nat.le_of_not_lt hge), List.append_nil]
    exact ⟨List.prefix_rfl, fun _ ↦ rfl⟩

theorem flush_received (s : Sink) : s.flush.state.received = s.received := by
  rw [flush]
  split <;> exact (received_recordFlush s _).trans (List.append_nil _)

theorem writeFrom_ok (buffer : Array UInt8) (position : Nat) (h : s.behaviour.NeverFails) :
    (writeFrom buffer position s).outcome = .ok () ∧
      (writeFrom buffer position s).state.behaviour = s.behaviour := by
  fun_induction writeFrom buffer position s with
  | case1 position s hlt offered fault hfault =>
    obtain ⟨taken, -, hwrite⟩ := h.write s.writes offered (Nat.sub_pos_of_lt hlt)
    cases hwrite.symm.trans hfault
  | case2 position s hlt offered answer hanswer taken s' hzero =>
    obtain ⟨answer', hpos, hwrite⟩ := h.write s.writes offered (Nat.sub_pos_of_lt hlt)
    cases hwrite.symm.trans hanswer
    omega
  | case3 position s hlt offered answer hanswer taken s' hpos ih => exact ih h
  | case4 position s hge => exact ⟨rfl, rfl⟩

theorem flush_of_neverFails (h : s.behaviour.NeverFails) :
    s.flush = .done (s.recordFlush .flushed) := by
  rw [flush, h.flush]

/-- A flush that succeeds is the last call so far. -/
theorem back?_flush (hok : s.flush.outcome = .ok ()) :
    s.flush.state.calls.back? = some .flushed := by
  rw [flush] at hok ⊢
  cases hanswer : s.behaviour.flush s.flushes with
  | ok u => exact Array.back?_push
  | error fault =>
    rw [hanswer] at hok
    cases hok

end Sink

namespace Writer

variable {w : Writer}

/-- What the writer has been given, whether it has left the buffer or not. -/
def written (w : Writer) : Bytes := w.sink.received ++ w.buffer.toList

/-- A flush brings a beginning of what was waiting into the sink, and all of it if
it succeeds, and then nothing waits any more. -/
theorem flush_received (w : Writer) :
    w.flush.state.sink.received <+: w.written ∧ w.flush.state.threshold = w.threshold ∧
      (w.flush.outcome = .ok () →
        w.flush.state.buffer = #[] ∧ w.flush.state.sink.received = w.written) := by
  have hwrite := Sink.writeFrom_received w.buffer 0 w.sink
  rw [List.drop_zero] at hwrite
  obtain ⟨hbegins, hall⟩ := hwrite
  rw [flush, Sink.writeAll]
  generalize hrun : (Sink.writeFrom w.buffer 0 w.sink).andThen Sink.flush = step
  have hstep : step.state.received <+: w.written ∧
      (step.outcome = .ok () → step.state.received = w.written) := by
    subst hrun
    cases hwriting : (Sink.writeFrom w.buffer 0 w.sink).outcome with
    | error e =>
      rw [Step.andThen_of_error hwriting]
      exact ⟨hbegins, fun hok ↦ nomatch hwriting.symm.trans hok⟩
    | ok u =>
      rw [Step.andThen_of_ok hwriting, Sink.flush_received]
      exact ⟨hbegins, fun _ ↦ hall hwriting⟩
  obtain ⟨sink, _ | u⟩ := step
  · exact ⟨hstep.1, rfl, nofun⟩
  · exact ⟨hstep.1, rfl, fun _ ↦ ⟨rfl, hstep.2 rfl⟩⟩

/-- The last that a flush asks of the sink is to flush, too. -/
theorem back?_flush (hok : w.flush.outcome = .ok ()) :
    w.flush.state.sink.calls.back? = some .flushed := by
  rw [flush] at hok ⊢
  cases hstep : (w.sink.writeAll w.buffer).andThen Sink.flush with
  | mk sink outcome =>
    rw [hstep] at hok
    cases outcome with
    | error e => cases hok
    | ok u =>
      obtain ⟨hwritten, hflushed⟩ := Step.andThen_outcome_ok.1 (congrArg Step.outcome hstep)
      rw [Step.andThen_of_ok hwritten] at hstep
      have hback := Sink.back?_flush hflushed
      rwa [hstep] at hback

theorem written_of_buffer_eq_nil (h : w.buffer = #[]) : w.written = w.sink.received := by
  rw [written, h, List.append_nil]

/-- A line is written with a line feed behind it.  Not more than the threshold
waits then; and if the sink fails, it has got a beginning of the lines. -/
theorem writeLine_received (w : Writer) (line : Bytes) :
    (w.writeLine line).state.sink.received <+: w.written ++ (line ++ [0x0A]) ∧
      (w.writeLine line).state.threshold = w.threshold ∧
      ((w.writeLine line).outcome = .ok () →
        (w.writeLine line).state.written = w.written ++ (line ++ [0x0A]) ∧
          (w.writeLine line).state.buffer.size ≤ w.threshold) := by
  have hwritten : written { w with buffer := (w.buffer.appendList line).push 0x0A } =
      w.written ++ (line ++ [0x0A]) := by
    simp [written]
  rw [writeLine, ← hwritten]
  split
  · obtain ⟨hbegins, hthreshold, hall⟩ :=
      flush_received { w with buffer := (w.buffer.appendList line).push 0x0A }
    refine ⟨hbegins, hthreshold, fun hok ↦ ?_⟩
    obtain ⟨hbuffer, hreceived⟩ := hall hok
    refine ⟨(written_of_buffer_eq_nil hbuffer).trans hreceived, ?_⟩
    rw [hbuffer]
    exact Nat.zero_le _
  · exact ⟨List.prefix_append _ _, rfl, fun _ ↦ ⟨rfl, Nat.le_of_not_lt ‹_›⟩⟩

/-! ## Sinks that never fail -/

/-- A flush leaves nothing in the buffer. -/
theorem flush_ok (h : w.sink.behaviour.NeverFails) :
    w.flush.outcome = .ok () ∧ w.flush.state.sink.behaviour = w.sink.behaviour ∧
      w.flush.state.sink.received = w.written := by
  obtain ⟨hok, hbehaviour⟩ := Sink.writeFrom_ok w.buffer 0 h
  have hflush : w.flush = .done { w with
      buffer := #[], sink := (Sink.writeFrom w.buffer 0 w.sink).state.recordFlush .flushed } := by
    rw [flush, Sink.writeAll, Step.andThen_of_ok hok, Sink.flush_of_neverFails (hbehaviour ▸ h)]
    rfl
  have hdone : w.flush.outcome = .ok () := hflush ▸ rfl
  refine ⟨hdone, ?_, (w.flush_received.2.2 hdone).2⟩
  rw [hflush]
  exact hbehaviour

theorem writeLine_ok (h : w.sink.behaviour.NeverFails) (line : Bytes) :
    (w.writeLine line).outcome = .ok () ∧
      (w.writeLine line).state.sink.behaviour = w.sink.behaviour ∧
      (w.writeLine line).state.written = w.written ++ (line ++ [0x0A]) := by
  have hdone : (w.writeLine line).outcome = .ok () ∧
      (w.writeLine line).state.sink.behaviour = w.sink.behaviour := by
    rw [writeLine]
    split
    · obtain ⟨hok, hbehaviour, -⟩ :=
        flush_ok (w := { w with buffer := (w.buffer.appendList line).push 0x0A }) h
      exact ⟨hok, hbehaviour⟩
    · exact ⟨rfl, rfl⟩
  exact ⟨hdone.1, hdone.2, ((w.writeLine_received line).2.2 hdone.1).1⟩

end Writer

end Rollup
