import Rollup.Output.Writer

/-!
# Settings of a run

A run is set up by words: those of the spec, and a few options between them.

| Option | Meaning |
|---|---|
| `-i FILE`, `--input FILE` | read this file instead of standard input |
| `--flush-bytes N` | let up to N bytes of output wait |
| `--explain` | show the pipeline before running it |
| `--` | the words behind this are all spec |

The value of an option may also stand in the same word, behind an equals sign
or, for the short option, with nothing in between.
-/

namespace Rollup

structure Config where
  /-- The words of the spec with a space between two of them. -/
  spec : String
  /-- The file to read; standard input if there is none. -/
  input : Option String
  /-- How many bytes of output may wait. -/
  flushThreshold : Nat
  /-- Whether to show the pipeline before running it. -/
  explain : Bool
  deriving DecidableEq, Repr

namespace Config

/-- A run of the spec made of these words, with nothing else set. -/
def ofWords (words : List String) : Config where
  spec := String.intercalate " " words
  input := none
  flushThreshold := Writer.defaultThreshold
  explain := false

/-! ## Options -/

/-- An option that takes a value. -/
inductive Setting where
  | input
  | flushBytes
  deriving DecidableEq, Repr

/-- What a word of the command line is. -/
inductive Argument where
  /-- A word of the spec. -/
  | word
  | explain
  /-- The mark in front of words that are all spec. -/
  | onlyWords
  /-- An option whose value is the next word. -/
  | setting (s : Setting)
  /-- An option with its value. -/
  | assignment (s : Setting) (value : String)
  | unknown
  deriving DecidableEq, Repr

/-- What follows the beginning `start` of a word. -/
def behind? (start word : String) : Option String :=
  if start.toList.isPrefixOf word.toList then
    some (String.ofList (word.toList.drop start.toList.length))
  else none

/-- An option and its value in one word. -/
def assignment? (word : String) : Option (Setting × String) :=
  match behind? "--input=" word, behind? "--flush-bytes=" word, behind? "-i=" word,
    behind? "-i" word with
  | some file, _, _, _ => some (.input, file)
  | none, some count, _, _ => some (.flushBytes, count)
  | none, none, some file, _ => some (.input, file)
  | none, none, none, some file => some (.input, file)
  | none, none, none, none => none

def Argument.ofWord (word : String) : Argument :=
  if word = "--" then .onlyWords
  else if word = "--explain" then .explain
  else if word = "-i" || word = "--input" then .setting .input
  else if word = "--flush-bytes" then .setting .flushBytes
  else match assignment? word with
    | some (s, value) => .assignment s value
    | none => if word.toList.head? = some '-' && word ≠ "-" then .unknown else .word

/-- Reads a number of bytes, which has to fit in 64 bits. -/
def byteCount? (text : String) : Option Nat :=
  let digits := text.toList
  if digits.isEmpty || !digits.all Char.isDigit then none
  else
    let n := Nat.ofDigitChars 10 digits 0
    if n < 1 <<< 64 then some n else none

/-- Gives a setting its value. -/
def assign (config : Config) (value : String) : Setting → Except String Config
  | .input => .ok { config with input := some value }
  | .flushBytes => match byteCount? value with
    | some n => .ok { config with flushThreshold := n }
    | none => .error ("invalid value '" ++ value ++ "' for '--flush-bytes'")

/-! ## Command lines -/

/-- Reads the words of a command line.  `config` holds the options read so far,
`waiting` the option that waits for its value, and `words` the words of the
spec, back to front. -/
def ofArgumentsFrom (config : Config) (waiting : Option Setting) (words : List String) :
    List String → Except String Config
  | [] => match waiting with
    | some _ => .error "a value is required for the last option"
    | none => .ok { config with spec := String.intercalate " " words.reverse }
  | word :: rest => match waiting with
    | some setting => do ofArgumentsFrom (← config.assign word setting) none words rest
    | none => match Argument.ofWord word with
      | .word => ofArgumentsFrom config none (word :: words) rest
      | .explain => ofArgumentsFrom { config with explain := true } none words rest
      | .onlyWords => .ok { config with spec := String.intercalate " " (words.reverse ++ rest) }
      | .setting setting => ofArgumentsFrom config (some setting) words rest
      | .assignment setting value => do
        ofArgumentsFrom (← config.assign value setting) none words rest
      | .unknown => .error ("unexpected argument '" ++ word ++ "'")

/-- The settings that a command line asks for. -/
def ofArguments (arguments : List String) : Except String Config :=
  ofArgumentsFrom (ofWords []) none [] arguments

end Config

end Rollup
