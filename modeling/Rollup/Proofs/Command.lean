import Rollup.Command
import Rollup.Number.Standard
import Rollup.Proofs.Spec.Placement

/-!
# The caret under a fault

A run whose spec cannot be read shows the spec, and a caret in the line below.  The fault is at one
of the characters of the spec, or at its end (`Spec.Offends.stopsAt`).  In front of the caret there
are as many blanks as there are bytes in front of the fault (`caretColumn?_complaint`).  These are
more than there are characters unless all of them are ASCII, so that a fault behind any other
character does not have the caret below it.
-/

namespace Rollup.Command

open Spec

variable {engine : PatternEngine} {orders : Nat → GroupOrder} {config : Config} {input : Input}
  {refusal : Refusal} {spec : String}

/-! ## Lines with a caret -/

/-- The lines of what is shown, and what is behind the last of them. -/
def lines (shown : String) : List (List Char) := shown.toList.splitOn '\n'

/-- How many characters stand in front of the caret in the second line, if there is one. -/
def caretColumn? (shown : String) : Option Nat :=
  match lines shown with
  | _ :: marked :: _ => marked.idxOf? '^'
  | _ => none

theorem lines_append {line : List Char} (h : '\n' ∉ line) (rest : List Char) :
    (line ++ '\n' :: rest).splitOn '\n' = line :: rest.splitOn '\n' := by
  refine List.splitOnP_append_cons_of_forall_mem (fun c hc ↦ ?_) '\n' rfl rest
  exact beq_false_of_ne fun heq ↦ h (heq ▸ hc)

theorem newline_notMem_caretLine (position : Nat) : '\n' ∉ (caretLine position).toList := by
  rw [caretLine, String.toList_ofList, List.mem_append, List.mem_replicate, List.mem_singleton]
  rintro (⟨-, h⟩ | h)
  · cases h
  · cases h

theorem idxOf?_caretLine (position : Nat) :
    (caretLine position).toList.idxOf? '^' = some position := by
  rw [caretLine, String.toList_ofList]
  induction position with
  | zero => rfl
  | succ position ih =>
    rw [List.replicate_succ, List.cons_append, List.idxOf?_cons, ih]
    rfl

/-! ## Reports of faults -/

theorem run_of_error [NumberReader] (h : parse config.spec = .error refusal) :
    run engine orders config input = ⟨1, [], complaint config.spec (.spec refusal)⟩ := by
  rw [run, prepare, h]

theorem lines_complaint (h : '\n' ∉ spec.toList) (refusal : Refusal) :
    ∃ more, lines (complaint spec (.spec refusal)) =
      spec.toList :: (caretLine refusal.position).toList :: more := by
  have hshown : (complaint spec (.spec refusal)).toList =
      spec.toList ++ '\n' :: ((caretLine refusal.position).toList ++
        '\n' :: ("Error: " ++ (Error.spec refusal).message ++ "\n").toList) := by
    simp [complaint, String.toList_append]
  rw [lines, hshown, lines_append h, lines_append (newline_notMem_caretLine _)]
  exact ⟨_, rfl⟩

theorem caretColumn?_complaint (h : '\n' ∉ spec.toList) (refusal : Refusal) :
    caretColumn? (complaint spec (.spec refusal)) = some refusal.position := by
  obtain ⟨more, hlines⟩ := lines_complaint h refusal
  rw [caretColumn?, hlines]
  exact idxOf?_caretLine _

/-- A spec of one line that cannot be parsed is shown with a caret in the line below.  The fault is
that of a token, or the reader of tokens has found it, and it is at a character of the spec or at
its end.  In front of the caret stand as many characters as there are bytes in front of the fault.
So the caret is below the fault, and not to its right, exactly if all characters in front of it are
ASCII. -/
theorem caret_below_iff_ascii [NumberReader] (hline : '\n' ∉ config.spec.toList)
    (h : parse config.spec = .error refusal) :
    let report := run engine orders config input
    report.code = 1 ∧ report.output = [] ∧
      (lines report.errors).head? = some config.spec.toList ∧ Offends config.spec refusal ∧
      ∃ front behind, config.spec.toList = front ++ behind ∧
        byteLength front = refusal.position ∧
        caretColumn? report.errors = some (byteLength front) ∧
        front.length ≤ byteLength front ∧
        (caretColumn? report.errors = some front.length ↔ ∀ c ∈ front, c.val ≤ 0x7F) := by
  intro report
  have hreport : report = ⟨1, [], complaint config.spec (.spec refusal)⟩ := run_of_error h
  obtain ⟨more, hlines⟩ := lines_complaint hline refusal
  have hcolumn := caretColumn?_complaint hline refusal
  have hoffends := offends_of_parse h
  obtain ⟨front, behind, htext, hposition⟩ := hoffends.stopsAt
  rw [Nat.zero_add] at hposition
  rw [hposition] at hcolumn
  rw [hreport]
  refine ⟨rfl, rfl, congrArg List.head? hlines, hoffends, front, behind, htext, hposition.symm,
    hcolumn, length_le_byteLength front, ?_⟩
  rw [hcolumn, Option.some.injEq, byteLength_eq_length_iff]
  exact forall₂_congr fun c _ ↦ Char.utf8Size_eq_one_iff

open Standard

/-- An unknown word behind ASCII has the caret below its first letter. -/
theorem caret_below_iff_ascii_bogus :
    let config := Config.ofWords ["k1", "bogus"]
    let report := run (fun _ ↦ .ok fun _ ↦ true) (fun _ ↦ .sorted) config (.standard [])
    '\n' ∉ config.spec.toList ∧ parse config.spec = .error ⟨3, .unknownItem "bogus"⟩ ∧
      (lines report.errors).head? = some "k1 bogus".toList ∧
      caretColumn? report.errors = some "k1 ".length := by
  intro config report
  have hline : '\n' ∉ config.spec.toList := by decide +kernel
  have hparse : parse config.spec = .error ⟨3, .unknownItem "bogus"⟩ := by decide +kernel
  obtain ⟨-, -, hhead, -, front, behind, -, hposition, hcolumn, -⟩ :=
    @caret_below_iff_ascii (fun _ ↦ .ok fun _ ↦ true) (fun _ ↦ .sorted) config (.standard []) _ _
      hline hparse
  rw [hposition] at hcolumn
  exact ⟨hline, hparse, hhead, hcolumn⟩

/-- A printable character of ASCII or a letter of Latin-1.  Each takes one column. -/
def isLatin (c : Char) : Bool :=
  decide (0x20 ≤ c.val ∧ c.val ≤ 0x7E) || decide (0xC0 ≤ c.val ∧ c.val ≤ 0xFF)

/-- The caret is not always below the fault: a pattern with a letter of two bytes puts it below the
second letter of the unknown word behind it. -/
theorem caret_not_below :
    ¬ ∀ (engine : PatternEngine) (orders : Nat → GroupOrder) (config : Config) (input : Input)
        (refusal : Refusal) (front behind : List Char),
      (∀ c ∈ config.spec.toList, isLatin c = true) → parse config.spec = .error refusal →
        config.spec.toList = front ++ behind → byteLength front = refusal.position →
          caretColumn? (run engine orders config input).errors = some front.length := by
  intro h
  have hparse : parse (Config.ofWords ["f~ö", "bogus"]).spec =
      .error ⟨5, .unknownItem "bogus"⟩ := by decide +kernel
  have hlatin : (Config.ofWords ["f~ö", "bogus"]).spec.toList.all isLatin = true := by
    decide +kernel
  have hcolumn := h (fun _ ↦ .ok fun _ ↦ true) (fun _ ↦ .sorted) _ (.standard []) _
    "f~ö ".toList "bogus".toList (List.all_eq_true.1 hlatin) hparse (by decide +kernel)
    (by decide +kernel)
  rw [run_of_error hparse, caretColumn?_complaint (by decide +kernel)] at hcolumn
  exact absurd hcolumn (by decide +kernel)

end Rollup.Command
