import Rollup.Config
import Rollup.Processor

/-!
# The command

One run of the command as a function: from its settings and its input to what
it prints and the code it exits with.

The output goes to standard output in the pieces in which the writer flushes
it; when the run fails, what still waited in the buffer is lost.  Errors go to
the other channel.  A spec that cannot be read is shown there with a caret under
the place of its fault, in columns counted as bytes.
-/

namespace Rollup.Command

/-- What a run prints, and its exit code. -/
structure Report where
  code : Nat
  output : Bytes
  errors : String
  deriving DecidableEq, Repr

/-- Where the input comes from. -/
inductive Input where
  /-- What a reader of standard input delivers. -/
  | standard (answers : List ReadAnswer)
  /-- The content of the file that the settings name, if it exists. -/
  | file (content : Option Bytes)
  deriving DecidableEq, Repr

/-- A line with a caret behind `position` blanks. -/
def caretLine (position : Nat) : String := String.ofList (List.replicate position ' ' ++ ['^'])

/-- The report of an error: the spec and a caret if it is one of the spec, and
the error itself. -/
def complaint (spec : String) (e : Error) : String :=
  let shown := match e with
    | .spec refusal => spec ++ "\n" ++ caretLine refusal.position ++ "\n"
    | _ => ""
  shown ++ "Error: " ++ e.message ++ "\n"

/-- Gives the input to a processor. -/
def consume [NumberReader] (p : Processor) : Input → Step Error Processor
  | .standard answers => p.read answers
  | .file content => p.processFile content

/-- What the sink behind a table has received. -/
def received (table : Table) : Bytes :=
  match table.sink? with
  | some sink => sink.received
  | none => []

/-- A command whose spec has been read and whose tables have been built. -/
structure Prepared where
  config : Config
  /-- The pipeline, if it is to be shown. -/
  shown : String
  processor : Processor

/-- The report of a run that failed, with what the sink had received by then. -/
def Prepared.failure (c : Prepared) (table : Table) (e : Error) : Report :=
  ⟨1, received table, c.shown ++ complaint c.config.spec e⟩

/-- Everything that is done before the input is touched. -/
def prepare (engine : PatternEngine) (orders : Nat → GroupOrder) (config : Config) :
    Except Report Prepared :=
  match Spec.parse config.spec with
  | .error refusal => .error ⟨1, [], complaint config.spec (.spec refusal)⟩
  | .ok pipeline =>
    let shown := if config.explain then pipeline.render ++ "\n" else ""
    match Processor.new engine orders pipeline .reliable config.flushThreshold with
    | .error e => .error ⟨1, [], shown ++ complaint config.spec e⟩
    | .ok (processor, _) => .ok ⟨config, shown, processor⟩

/-- Takes the input and ends the run. -/
def Prepared.conclude [NumberReader] (c : Prepared) (input : Input) : Report :=
  let reading := consume c.processor input
  match reading.outcome with
  | .error e => c.failure reading.state.table e
  | .ok _ =>
    let ending := reading.state.finish.1
    match ending.outcome with
    | .error e => c.failure ending.state.table e
    | .ok _ => ⟨0, received ending.state.table, c.shown⟩

/-- Runs the command. -/
def run [NumberReader] (engine : PatternEngine) (orders : Nat → GroupOrder) (config : Config)
    (input : Input) : Report :=
  match prepare engine orders config with
  | .error report => report
  | .ok prepared => prepared.conclude input

end Rollup.Command
