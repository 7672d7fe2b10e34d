import Rollup.Number.Standard
import Rollup.Proofs.Output.Writer
import Rollup.Proofs.Row
import Rollup.Proofs.Table.Meaning

/-!
# Lines on their way to the sink

A stage fills its columns, ends the line when they are complete, and finishes
after the last one (`OutputCall`).  For the last stage every ended line is to be
printed (`OutputCall.printed`).

A call that succeeds keeps the ended lines complete, in the sink or in the buffer
(`Delivered`), and one that fails has brought a beginning of them into the sink;
both are shown once for a single call (`Delivered.run`) and from that for a run of
calls (`run_delivers`).  The threshold and the way the sink takes the bytes do not
occur in what is printed.
-/

namespace Rollup

/-- What a stage asks of its columns and of the table behind them. -/
inductive OutputCall where
  /-- Writes a column. -/
  | set (column : Nat) (value : Bytes)
  /-- Empties a column, for its value to be made in place. -/
  | edit (column : Nat) (change : Bytes → Bytes)
  | endLine
  | finish

namespace OutputCall

def write (column : Nat) (value : Bytes) (state : Columns × Table) :
    Step Error (Columns × Table) :=
  (Step.ofExcept state.1 (state.1.put column value)).map fun columns ↦ (columns, state.2)

section

variable [NumberReader]

/-- The call, on the columns and the table behind them. -/
def run (state : Columns × Table) : OutputCall → Step Error (Columns × Table)
  | .set column value => write column value state
  | .edit column change => write column (change []) state
  | .endLine => (state.2.push (.ofFields state.1.toList)).map fun next ↦ (state.1, next)
  | .finish => state.2.finish.1.map fun next ↦ (state.1, next)

/-- The calls until the first that fails, on blank columns in front of a writer that
has not been used. -/
def runAll (behaviour : SinkBehaviour) (threshold width : Nat) (calls : List OutputCall) :
    Step Error (Columns × Table) :=
  Step.each run calls (.blank width, .writer (.new behaviour threshold))

/-- The call writes no column behind the last one. -/
def Fits (width : Nat) : OutputCall → Prop
  | .set column _ | .edit column _ => column < width
  | .endLine | .finish => True

theorem run_endLine (columns : Columns) (out : Writer) :
    run (columns, .writer out) .endLine =
      (out.writeRow columns.toList).map fun out ↦ (columns, .writer out) := by
  rw [run, Table.push, Row.fields_ofFields]
  rfl

theorem run_finish (columns : Columns) (out : Writer) :
    run (columns, .writer out) .finish = out.flush.map fun out ↦ (columns, .writer out) := by
  rw [run, Table.finish]
  rfl

end

/-! ## What is to be printed -/

/-- The columns after the call. -/
def fill (record : Record) : OutputCall → Record
  | .set column value => record.set column value
  | .edit column change => record.set column (change [])
  | .endLine | .finish => record

/-- The row that the call ends. -/
def ended (record : Record) : OutputCall → List Record
  | .endLine => [record]
  | .set _ _ | .edit _ _ | .finish => []

/-- The rows that calls end, one after the other. -/
def rows : Record → List OutputCall → List Record
  | _, [] => []
  | record, call :: calls => call.ended record ++ rows (call.fill record) calls

/-- The lines that calls end. -/
def printed (width : Nat) (calls : List OutputCall) : Bytes :=
  Record.printed (rows (List.replicate width []) calls)

theorem rows_append (record : Record) (calls calls' : List OutputCall) :
    rows record (calls ++ calls') = rows record calls ++ rows (calls.foldl fill record) calls' := by
  induction calls generalizing record with
  | nil => rfl
  | cons call calls ih => rw [List.cons_append, rows, ih, rows, List.append_assoc, List.foldl_cons]

theorem printed_snoc (width : Nat) (calls : List OutputCall) (call : OutputCall) :
    printed width (calls ++ [call]) = printed width calls ++
      Record.printed (call.ended (calls.foldl fill (List.replicate width []))) := by
  rw [printed, rows_append, Record.printed, List.flatMap_append, rows, rows, List.append_nil]
  rfl

end OutputCall

namespace OutputCall

/-- What may wait in the buffer after the call. -/
def Allows (threshold : Nat) (buffer : Array UInt8) : OutputCall → Prop
  | .set _ _ | .edit _ _ => True
  | .endLine => buffer.size ≤ threshold
  | .finish => buffer = #[]

end OutputCall

open OutputCall

variable {behaviour : SinkBehaviour} {threshold width : Nat} {past : List OutputCall}
  {columns : Columns} {out : Writer}

/-! ## A single call -/

/-- After calls that succeeded the ended lines are complete in the sink and the
buffer, and the buffer holds no more of them than the last call allows. -/
structure Delivered (threshold width : Nat) (past : List OutputCall) (columns : Columns)
    (out : Writer) : Prop where
  columns_eq : columns.toList = past.foldl fill (List.replicate width [])
  threshold_eq : out.threshold = threshold
  written_eq : out.written = printed width past
  allows : ∀ call, past.getLast? = some call → call.Allows threshold out.buffer

/-- What calls leave: a beginning of the ended lines in the sink and, if they
succeeded, all of them in the sink and the buffer. -/
def Leaves (threshold width : Nat) (past : List OutputCall) (step : Step Error (Columns × Table)) :
    Prop :=
  ∃ columns out, step.state = (columns, .writer out) ∧
    out.sink.received <+: printed width past ∧
    (step.outcome = .ok () → Delivered threshold width past columns out)

namespace Delivered

theorem new (behaviour : SinkBehaviour) (threshold width : Nat) :
    Delivered threshold width [] (.blank width) (.new behaviour threshold) where
  columns_eq := Array.toList_replicate
  threshold_eq := rfl
  written_eq := rfl
  allows := nofun

/-- The sink has got no byte that was not to be printed. -/
theorem received_prefix (h : Delivered threshold width past columns out) :
    out.sink.received <+: printed width past :=
  h.written_eq ▸ List.prefix_append _ _

/-- One call more, that leaves the writer as `allows` and `written_eq` say. -/
theorem snoc (h : Delivered threshold width past columns out) {call : OutputCall}
    {columns' : Columns} {out' : Writer} (hcolumns : columns'.toList = call.fill columns.toList)
    (hthreshold : out'.threshold = out.threshold)
    (hwritten : out'.written = out.written ++ Record.printed (call.ended columns.toList))
    (hallows : call.Allows threshold out'.buffer) :
    Delivered threshold width (past ++ [call]) columns' out' where
  columns_eq := by rw [hcolumns, h.columns_eq, List.foldl_append]; rfl
  threshold_eq := hthreshold.trans h.threshold_eq
  written_eq := by rw [hwritten, h.written_eq, h.columns_eq, printed_snoc]
  allows call' hlast := by
    rw [List.getLast?_concat] at hlast
    exact Option.some.inj hlast ▸ hallows

theorem printed_snoc (h : Delivered threshold width past columns out) (call : OutputCall) :
    printed width (past ++ [call]) =
      out.written ++ Record.printed (call.ended columns.toList) := by
  rw [OutputCall.printed_snoc, h.written_eq, h.columns_eq]

theorem write (h : Delivered threshold width past columns out) {call : OutputCall} {column : Nat}
    {value : Bytes} (hfill : ∀ record, call.fill record = record.set column value)
    (hended : ∀ record, call.ended record = []) (hallows : call.Allows threshold out.buffer) :
    Leaves threshold width (past ++ [call]) (write column value (columns, .writer out)) := by
  have hprinted : printed width (past ++ [call]) = printed width past := by
    rw [h.printed_snoc, hended, h.written_eq]
    exact List.append_nil _
  rw [OutputCall.write, Columns.put]
  split
  · have hcolumns : (columns.setIfInBounds column value).toList = call.fill columns.toList := by
      rw [hfill, Array.toList_setIfInBounds]
    refine ⟨_, out, rfl, hprinted ▸ h.received_prefix, fun _ ↦ h.snoc hcolumns rfl ?_ hallows⟩
    rw [hended]
    exact (List.append_nil _).symm
  · exact ⟨columns, out, rfl, hprinted ▸ h.received_prefix, nofun⟩

variable [NumberReader]

theorem endLine (h : Delivered threshold width past columns out) :
    Leaves threshold width (past ++ [.endLine]) (run (columns, .writer out) .endLine) := by
  obtain ⟨hbegins, hthreshold, hall⟩ := out.writeLine_received (Writer.tabbed columns.toList)
  have hline : Record.printed (OutputCall.endLine.ended columns.toList) =
      Writer.tabbed columns.toList ++ [0x0A] :=
    List.append_nil _
  rw [← hline] at hbegins hall
  rw [run_endLine]
  refine ⟨columns, _, rfl, h.printed_snoc _ ▸ hbegins, fun hok ↦ ?_⟩
  obtain ⟨hwritten, hsize⟩ := hall hok
  exact h.snoc rfl hthreshold hwritten (h.threshold_eq ▸ hsize)

theorem finish (h : Delivered threshold width past columns out) :
    Leaves threshold width (past ++ [.finish]) (run (columns, .writer out) .finish) := by
  have hprinted : printed width (past ++ [.finish]) = out.written :=
    (h.printed_snoc _).trans (List.append_nil _)
  obtain ⟨hbegins, hthreshold, hall⟩ := out.flush_received
  rw [run_finish]
  refine ⟨columns, _, rfl, hprinted ▸ hbegins, fun hok ↦ ?_⟩
  obtain ⟨hbuffer, hreceived⟩ := hall hok
  refine h.snoc rfl hthreshold ?_ hbuffer
  rw [Writer.written_of_buffer_eq_nil hbuffer, hreceived]
  exact (List.append_nil _).symm

theorem run (h : Delivered threshold width past columns out) (call : OutputCall) :
    Leaves threshold width (past ++ [call]) (run (columns, .writer out) call) := by
  cases call with
  | set column value => exact h.write (fun _ ↦ rfl) (fun _ ↦ rfl) trivial
  | edit column change => exact h.write (fun _ ↦ rfl) (fun _ ↦ rfl) trivial
  | endLine => exact h.endLine
  | finish => exact h.finish

end Delivered

/-! ## Runs of calls -/

namespace OutputCall

variable {calls : List OutputCall}

section

variable [NumberReader]

theorem delivered_of_runAll_ok (h : (runAll behaviour threshold width calls).outcome = .ok ()) :
    ∃ columns out, (runAll behaviour threshold width calls).state = (columns, .writer out) ∧
      Delivered threshold width calls columns out := by
  refine Step.each_history (p := fun state past ↦ ∃ columns out, state = (columns, .writer out) ∧
    Delivered threshold width past columns out) ?_ ⟨_, _, rfl, .new behaviour threshold width⟩ h
  rintro state past call ⟨columns, out, rfl, hdelivered⟩ hok
  obtain ⟨columns', out', hstate, -, hafter⟩ := hdelivered.run call
  exact ⟨columns', out', hstate, hafter hok⟩

/-- The calls up to the first that fails leave a beginning of the lines they ended. -/
theorem received_of_runAll_error {e : Error}
    (h : (runAll behaviour threshold width calls).outcome = .error e) :
    ∃ front call behind columns out, calls = front ++ call :: behind ∧
      (runAll behaviour threshold width front).outcome = .ok () ∧
      runAll behaviour threshold width calls =
        runAll behaviour threshold width (front ++ [call]) ∧
      (runAll behaviour threshold width calls).state = (columns, .writer out) ∧
      out.sink.received <+: printed width (front ++ [call]) := by
  obtain ⟨front, call, behind, state, rfl, hfront, hrun, hcall⟩ := Step.exists_refused h
  have hok : (runAll behaviour threshold width front).outcome = .ok () := by
    rw [runAll, hfront]
    rfl
  have hlast : runAll behaviour threshold width (front ++ call :: behind) =
      runAll behaviour threshold width (front ++ [call]) := by
    rw [runAll, hrun, runAll, Step.each_append, hfront, Step.done_andThen, Step.each_cons,
      Step.andThen_of_error hcall]
  obtain ⟨columns, out, hstate, hdelivered⟩ := delivered_of_runAll_ok hok
  obtain rfl : state = (columns, .writer out) := by rw [← hstate, runAll, hfront]; rfl
  obtain ⟨columns', out', hstate', hbegins, -⟩ := hdelivered.run call
  exact ⟨front, call, behind, columns', out', rfl, hok, hlast,
    (congrArg Step.state hrun).trans hstate', hbegins⟩

/-! ### Sinks that never fail -/

theorem run_ok (hsink : out.sink.behaviour.NeverFails) {call : OutputCall}
    (hfits : call.Fits columns.size) :
    ∃ columns' out', run (columns, .writer out) call = .done (columns', .writer out') ∧
      columns'.size = columns.size ∧ out'.sink.behaviour.NeverFails := by
  have hwrite : ∀ column value, column < columns.size →
      ∃ columns' out', write column value (columns, .writer out) =
          .done (columns', .writer out') ∧
        columns'.size = columns.size ∧ out'.sink.behaviour.NeverFails := by
    intro column value hcolumn
    rw [write, Columns.put, if_pos hcolumn]
    exact ⟨_, out, rfl, Array.size_setIfInBounds, hsink⟩
  cases call with
  | set column value => exact hwrite column value hfits
  | edit column change => exact hwrite column (change []) hfits
  | endLine =>
    obtain ⟨hok, hbehaviour, -⟩ := Writer.writeLine_ok hsink (Writer.tabbed columns.toList)
    rw [run_endLine]
    refine ⟨columns, _, congrArg (Step.mk _) hok, rfl, hbehaviour ▸ hsink⟩
  | finish =>
    obtain ⟨hok, hbehaviour, -⟩ := Writer.flush_ok hsink
    rw [run_finish]
    refine ⟨columns, _, congrArg (Step.mk _) hok, rfl, hbehaviour ▸ hsink⟩

/-- Nothing but a column that does not exist can fail in front of a sink that never
fails. -/
theorem runAll_ok (hsink : behaviour.NeverFails) (hfits : ∀ call ∈ calls, call.Fits width) :
    (runAll behaviour threshold width calls).outcome = .ok () := by
  suffices aux : ∀ columns out, columns.size = width → out.sink.behaviour.NeverFails →
      (Step.each run calls (columns, .writer out)).outcome = .ok () from
    aux _ _ Array.size_replicate hsink
  induction calls with
  | nil => exact fun _ _ _ _ ↦ rfl
  | cons call calls ih =>
    intro columns out hsize hsink
    rw [List.forall_mem_cons, ← hsize] at hfits
    obtain ⟨columns', out', hrun, hsize', hsink'⟩ := run_ok hsink hfits.1
    rw [Step.each_cons, hrun, Step.done_andThen]
    exact ih (hsize ▸ hfits.2) columns' out' (hsize'.trans hsize) hsink'

/-- The ended lines reach the sink whole and in order, whatever the threshold is and
however the sink takes its bytes.  As long as no call fails, they are what the sink
has received and what still waits, which is not more than the threshold after an
ended line and nothing after finishing.  When a call fails, the sink has received a
beginning of the lines, that of the failing call included.  With a sink that never
fails, no call fails that keeps to the columns there are. -/
theorem runAll_delivers (behaviour : SinkBehaviour) (threshold width : Nat)
    (calls : List OutputCall) :
    ((runAll behaviour threshold width calls).outcome = .ok () →
      ∃ columns out, (runAll behaviour threshold width calls).state = (columns, .writer out) ∧
        out.sink.received ++ out.buffer.toList = printed width calls ∧
        (calls.getLast? = some .endLine → out.buffer.size ≤ threshold) ∧
        (calls.getLast? = some .finish →
          out.buffer = #[] ∧ out.sink.received = printed width calls)) ∧
    (∀ e, (runAll behaviour threshold width calls).outcome = .error e →
      ∃ front call behind columns out, calls = front ++ call :: behind ∧
        (runAll behaviour threshold width front).outcome = .ok () ∧
        runAll behaviour threshold width calls =
          runAll behaviour threshold width (front ++ [call]) ∧
        (runAll behaviour threshold width calls).state = (columns, .writer out) ∧
        out.sink.received <+: printed width (front ++ [call])) ∧
    (behaviour.NeverFails → (∀ call ∈ calls, call.Fits width) →
      (runAll behaviour threshold width calls).outcome = .ok ()) := by
  refine ⟨fun hok ↦ ?_, fun e ↦ received_of_runAll_error, runAll_ok⟩
  obtain ⟨columns, out, hstate, hdelivered⟩ := delivered_of_runAll_ok hok
  refine ⟨columns, out, hstate, hdelivered.written_eq, hdelivered.allows _, fun hlast ↦ ?_⟩
  have hbuffer : out.buffer = #[] := hdelivered.allows _ hlast
  exact ⟨hbuffer, (Writer.written_of_buffer_eq_nil hbuffer).symm.trans hdelivered.written_eq⟩

end

open Standard

/-- Two lines to a sink that takes two bytes at a time: both arrive if it keeps on
taking them, and a beginning of them if its third call fails. -/
theorem runAll_delivers_halves :
    let steady : SinkBehaviour := ⟨fun _ _ ↦ .ok 2, fun _ ↦ .ok ()⟩
    let broken : SinkBehaviour :=
      ⟨fun call _ ↦ if call < 2 then .ok 2 else .error .brokenPipe, fun _ ↦ .ok ()⟩
    let calls : List OutputCall :=
      [.set 0 [97], .edit 1 fun column ↦ column ++ [98], .endLine, .set 0 [99], .endLine, .finish]
    (∃ columns out, (runAll steady 4 2 calls).state = (columns, .writer out) ∧
      out.sink.received = [97, 9, 98, 10, 99, 9, 98, 10]) ∧
    ∃ front call behind columns out, calls = front ++ call :: behind ∧
      (runAll broken 4 2 calls).state = (columns, .writer out) ∧
      out.sink.received <+: printed 2 (front ++ [call]) := by
  intro steady broken calls
  obtain ⟨hok, -, hfine⟩ := runAll_delivers steady 4 2 calls
  obtain ⟨-, herror, -⟩ := runAll_delivers broken 4 2 calls
  constructor
  · have hsteady : steady.NeverFails := ⟨fun _ _ _ ↦ ⟨2, Nat.two_pos, rfl⟩, fun _ ↦ rfl⟩
    have hfits : ∀ call ∈ calls, call.Fits 2 := by simp [calls, Fits]
    obtain ⟨columns, out, hstate, -, -, hlast⟩ := hok (hfine hsteady hfits)
    exact ⟨columns, out, hstate, (hlast rfl).2⟩
  · have hbroken : (runAll broken 4 2 calls).outcome = .error (.io .brokenPipe) := by
      decide +kernel
    obtain ⟨front, call, behind, columns, out, hcalls, -, -, hstate, hbegins⟩ := herror _ hbroken
    exact ⟨front, call, behind, columns, out, hcalls, hstate, hbegins⟩

end OutputCall

end Rollup
