import Rollup.Command
import Rollup.Number.Standard
import Rollup.Pattern.Parser

/-!
# The program

Reads the command line and the input, runs the command, and prints its report.
All decisions are made by `Rollup.Config` and `Rollup.Command`.
-/

namespace Rollup

/-- Everything that a stream delivers, piece by piece, up to its end. -/
partial def readAnswers (stream : IO.FS.Stream) (answers : Array ReadAnswer) :
    IO (List ReadAnswer) := do
  let data ← stream.read 65536
  if data.isEmpty then return answers.toList
  else readAnswers stream (answers.push (.bytes data.toList))

/-- The content of a file, if it can be read. -/
def readFile (path : String) : IO (Option Bytes) :=
  try return some (← IO.FS.readBinFile path).toList
  catch _ => return none

/-- The input that the settings ask for. -/
def readInput (config : Config) : IO Command.Input :=
  match config.input with
  | some path => return .file (← readFile path)
  | none => return .standard (← readAnswers (← IO.getStdin) #[])

/-- Prints what a run has to say, and gives its exit code. -/
def emit (report : Command.Report) : IO UInt32 := do
  (← IO.getStderr).putStr report.errors
  let out ← IO.getStdout
  out.write ⟨report.output.toArray⟩
  out.flush
  return report.code.toUInt32

end Rollup

open Rollup Standard in
def main (arguments : List String) : IO UInt32 :=
  match Config.ofArguments arguments with
  | .error text => do
    (← IO.getStderr).putStr ("error: " ++ text ++ "\n")
    return 2
  | .ok config =>
    match Command.prepare Pattern.compile (fun _ ↦ .sorted) config with
    | .error report => emit report
    | .ok prepared => do
      let input ← readInput config
      emit (prepared.conclude input)
