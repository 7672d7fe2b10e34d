import Rollup.Outcome
import Rollup.Pattern.Fault
import Rollup.Spec.Token
import Rollup.Text.Utf8

/-!
# Errors

Everything that can end a run, by cause.  Each cause has one text, given by
`Error.message`; nothing else in the library words an error.

| Cause | Arises from |
|---|---|
| `io` | reading the input or writing the output |
| `spec` | a spec that is not well formed |
| `pattern` | a filter pattern that is not well formed |
| `tooMuchState` | too many aggregates in one stage |
| `notANumber` | a field that an aggregate cannot read |
| `noData` | an aggregate over no rows and no keys |
| `keyTooLong` | a key or carried field of 2³² bytes or more |
| `defect` | a pipeline that no spec denotes |
| `outOfRange` | an access outside a row, a table or a buffer, or a counter that is full |
-/

namespace Rollup

/-- What can go wrong between the program and its files. -/
inductive IoFault where
  | brokenPipe
  | nothingWritten
  | readFailed
  | noSuchFile
  /-- Anything else, in the words of the operating system. -/
  | other (text : String)
  deriving DecidableEq, Repr

def IoFault.message : IoFault → String
  | .brokenPipe => "broken pipe"
  | .nothingWritten => "failed to write whole buffer"
  | .readFailed => "read failed"
  | .noSuchFile => "No such file or directory (os error 2)"
  | .other text => text

/-- What only a pipeline built by hand can be guilty of. -/
inductive Defect where
  | slotSize (size : Nat)
  | slotAlignment (size align : Nat)
  | implicitInside
  | noStages
  | noColumns
  | noValueField
  | noKeys
  | handlesExhausted
  | groupsExhausted
  deriving DecidableEq, Repr

def Defect.message : Defect → String
  | .slotSize size => s!"state slot size {size} is not a power of two up to 64"
  | .slotAlignment size align => s!"state alignment {align} incompatible with slot size {size}"
  | .implicitInside => "implicit output inside the pipeline"
  | .noStages => "pipeline without stages"
  | .noColumns => "aggregated stage without output columns"
  | .noValueField => "min/max without a value field"
  | .noKeys => "distinct table without keys"
  | .handlesExhausted => "storage handle space exhausted"
  | .groupsExhausted => "too many groups for count(distinct)"

/-- What can turn out too small for an access or a count. -/
inductive Access where
  | span
  | column
  | handle
  | encoding
  | slot
  | alignment
  | counter
  deriving DecidableEq, Repr

inductive Error where
  | io (fault : IoFault)
  | spec (refusal : Spec.Refusal)
  | defect (defect : Defect)
  | tooMuchState (bytes : Nat)
  | notANumber (field : Bytes)
  | noData
  | keyTooLong (length : Nat)
  | pattern (fault : Pattern.Fault)
  | outOfRange (access : Access)
  deriving DecidableEq, Repr

namespace Error

/-- What stands in front of the wording of a pattern's fault. -/
def patternHeading : String := "Invalid filter regex: "

def message : Error → String
  | .io fault => "IO error: " ++ fault.message
  | .spec refusal => s!"Parse error at column {refusal.position}: {refusal.fault.message}"
  | .defect d => "Should never happen (tm): " ++ d.message
  | .tooMuchState bytes => s!"Too much state: {bytes} bytes of aggregator state per group"
  | .notANumber field => "Failed to parse number: " ++ Quoted.text (Utf8.lossy field)
  | .noData => "No data to aggregate"
  | .keyTooLong length => s!"Key too long, length={length}"
  | .pattern fault => patternHeading ++ fault.message
  | .outOfRange .span => "a field lies outside its line"
  | .outOfRange .column => "there is no such column"
  | .outOfRange .handle => "there is no such handle"
  | .outOfRange .encoding => "an encoding ends too early"
  | .outOfRange .slot => "a state lies outside its buffer"
  | .outOfRange .alignment => "an alignment is zero"
  | .outOfRange .counter => "a counter is full"

end Error

end Rollup
