import Rollup.Proofs.Outcome
import Rollup.Processor

/-!
# Input in pieces

Bytes fall into lines in one way only (`Lines.Cuts`, `Cuts.unique`), which is how
`Lines.cut` cuts them (`Cuts.cut_eq`).  What the cutting has to remember is the
beginning of the unfinished line, so the pieces that a reader delivers can be cut
one by one: a piece completes some lines and leaves the beginning of another, which
is put in front of the next piece (`Cuts.append`).  By this a reader's lines are
those of all its bytes at once (`readFrom_eq`).

A processor counts the lines that it was given, up to the one that failed and
with it (`rows_pushLines`).
-/

namespace Rollup

/-! ## Lines -/

namespace Lines

/-- The bytes are these lines with their line feeds, and behind them the beginning of
a further line. -/
structure Cuts (data : Bytes) (lines : List Bytes) (rest : Bytes) : Prop where
  data_eq : data = (lines.flatMap fun line ↦ line ++ [0x0A]) ++ rest
  whole : ∀ line ∈ lines, (0x0A : UInt8) ∉ line
  unfinished : (0x0A : UInt8) ∉ rest

variable {data more line rest rest' pending : Bytes} {lines lines' done : List Bytes}

theorem cut_append (h : (0x0A : UInt8) ∉ line) (pending : Bytes) (done : List Bytes)
    (data : Bytes) : cut pending done (line ++ data) = cut (line.reverse ++ pending) done data := by
  induction line generalizing pending with
  | nil => rfl
  | cons b line ih =>
    rw [List.mem_cons, not_or] at h
    rw [List.cons_append, cut, if_neg fun hb ↦ h.1 hb.symm, ih h.2, List.reverse_cons,
      List.append_assoc]
    rfl

namespace Cuts

theorem nil (h : (0x0A : UInt8) ∉ rest) : Cuts rest [] rest := ⟨rfl, nofun, h⟩

theorem nil_append (h : (0x0A : UInt8) ∉ pending) :
    Cuts (pending.reverse ++ []) [] pending.reverse := by
  rw [List.append_nil]
  exact .nil (mt List.mem_reverse.1 h)

theorem cons (h : Cuts data lines rest) (hline : (0x0A : UInt8) ∉ line) :
    Cuts (line ++ 0x0A :: data) (line :: lines) rest where
  data_eq := by rw [h.data_eq]; simp
  whole := List.forall_mem_cons.2 ⟨hline, h.whole⟩
  unfinished := h.unfinished

theorem append (h : Cuts data lines rest) (h' : Cuts (rest ++ more) lines' rest') :
    Cuts (data ++ more) (lines ++ lines') rest' where
  data_eq := by
    rw [h.data_eq, List.append_assoc, h'.data_eq, List.flatMap_append, List.append_assoc]
  whole line hline := (List.mem_append.1 hline).elim (h.whole line) (h'.whole line)
  unfinished := h'.unfinished

theorem cut_eq (h : Cuts data lines rest) (done : List Bytes) :
    cut [] done data = (done.reverse ++ lines, rest.reverse) := by
  obtain ⟨rfl, hlines, hrest⟩ := h
  induction lines generalizing done with
  | nil =>
    have hcut := cut_append hrest [] done []
    rw [List.append_nil] at hcut
    rw [List.flatMap_nil, List.nil_append, hcut, cut, List.append_nil, List.append_nil]
  | cons line lines ih =>
    rw [List.forall_mem_cons] at hlines
    rw [List.flatMap_cons, List.append_assoc, List.append_assoc, cut_append hlines.1,
      List.singleton_append, cut, if_pos rfl, ih _ hlines.2, List.append_nil, List.reverse_reverse,
      List.reverse_cons, List.append_assoc]
    rfl

/-- The bytes of an unfinished line can be cut on later. -/
theorem cut_pending_eq (h : Cuts (pending.reverse ++ data) lines rest)
    (hpending : (0x0A : UInt8) ∉ pending) (done : List Bytes) :
    cut pending done data = (done.reverse ++ lines, rest.reverse) := by
  have hcut := cut_append (mt List.mem_reverse.1 hpending) [] done data
  rw [h.cut_eq, List.reverse_reverse, List.append_nil] at hcut
  exact hcut.symm

theorem unique (h : Cuts data lines rest) (h' : Cuts data lines' rest') :
    lines' = lines ∧ rest' = rest := by
  have hcut := (h'.cut_eq []).symm.trans (h.cut_eq [])
  exact ⟨congrArg Prod.fst hcut, List.reverse_injective (congrArg Prod.snd hcut)⟩

end Cuts

theorem exists_cuts (data : Bytes) : ∃ lines rest, Cuts data lines rest := by
  induction data with
  | nil => exact ⟨[], [], .nil List.not_mem_nil⟩
  | cons b data ih =>
    obtain ⟨lines, rest, h⟩ := ih
    by_cases hb : b = 0x0A
    · exact ⟨[] :: lines, rest, hb ▸ h.cons List.not_mem_nil⟩
    · have hfirst : ∀ {line : Bytes}, (0x0A : UInt8) ∉ line → (0x0A : UInt8) ∉ b :: line :=
        fun hline ↦ List.not_mem_cons_of_ne_of_not_mem (Ne.symm hb) hline
      obtain ⟨rfl, hlines, hrest⟩ := h
      cases lines with
      | nil => exact ⟨[], b :: rest, .nil (hfirst hrest)⟩
      | cons line lines =>
        rw [List.forall_mem_cons] at hlines
        refine ⟨(b :: line) :: lines, rest, ?_, ?_, hrest⟩
        · rw [List.flatMap_cons, List.flatMap_cons]
          rfl
        · exact List.forall_mem_cons.2 ⟨hfirst hlines.1, hlines.2⟩

theorem ending_eq (pending : Bytes) :
    ending pending = if pending.reverse = [] then [] else [pending.reverse] := by
  simp [ending]

end Lines

/-! ## Readers -/

/-- The bytes that a reader delivers, and the fault it ends with. -/
def ReadAnswer.delivered : List ReadAnswer → Bytes × Option IoFault
  | [] => ([], none)
  | .interrupted :: answers => delivered answers
  | .failed fault :: _ => ([], some fault)
  | .bytes data :: answers =>
    if data.isEmpty then ([], none)
    else (data ++ (delivered answers).1, (delivered answers).2)

namespace Processor

variable [NumberReader] {lines : List Bytes} {rest pending : Bytes}

theorem pushLines_append (p : Processor) (lines lines' : List Bytes) :
    p.pushLines (lines ++ lines') = (p.pushLines lines).andThen fun p ↦ p.pushLines lines' :=
  Step.each_append pushLine lines lines' p

/-- Reading gives the processor the lines of what is delivered, with `pending` in front
of it, and a last line without a line feed unless the reader fails. -/
theorem readFrom_eq (answers : List ReadAnswer) (p : Processor)
    (hcuts : Lines.Cuts (pending.reverse ++ (ReadAnswer.delivered answers).1) lines rest)
    (hpending : (0x0A : UInt8) ∉ pending) :
    readFrom pending answers p = (p.pushLines lines).andThen fun p ↦
      match (ReadAnswer.delivered answers).2 with
      | none => p.pushLines (if rest = [] then [] else [rest])
      | some fault => .failed p (.io fault) := by
  induction answers generalizing pending lines p with
  | nil =>
    obtain ⟨rfl, rfl⟩ := (Lines.Cuts.nil_append hpending).unique hcuts
    exact congrArg p.pushLines (Lines.ending_eq pending)
  | cons answer answers ih =>
    cases answer with
    | interrupted => exact ih p hcuts hpending
    | failed fault =>
      obtain ⟨rfl, rfl⟩ := (Lines.Cuts.nil_append hpending).unique hcuts
      rfl
    | bytes data =>
      rw [ReadAnswer.delivered] at hcuts ⊢
      rw [readFrom]
      split
      case isTrue hempty =>
        rw [if_pos hempty] at hcuts
        obtain ⟨rfl, rfl⟩ := (Lines.Cuts.nil_append hpending).unique hcuts
        exact congrArg p.pushLines (Lines.ending_eq pending)
      case isFalse hempty =>
        rw [if_neg hempty, ← List.append_assoc] at hcuts
        -- The first piece completes `first` and leaves the beginning `carried` of a line.
        obtain ⟨first, carried, hfirst⟩ := Lines.exists_cuts (pending.reverse ++ data)
        obtain ⟨later, rest', hlater⟩ :=
          Lines.exists_cuts (carried ++ (ReadAnswer.delivered answers).1)
        obtain ⟨rfl, rfl⟩ := (hfirst.append hlater).unique hcuts
        rw [hfirst.cut_pending_eq hpending, pushLines_append, Step.andThen_assoc]
        rw [← List.reverse_reverse carried] at hlater
        exact congrArg (p.pushLines first).andThen
          (funext fun p ↦ ih p hlater (mt List.mem_reverse.1 hfirst.unfinished))

/-! ### Counting -/

theorem rows_pushLine (p : Processor) (line : Bytes) :
    (p.pushLine line).state.rows = p.rows + 1 :=
  rfl

theorem rows_pushLines_of_ok {p : Processor} (h : (p.pushLines lines).outcome = .ok ()) :
    (p.pushLines lines).state.rows = p.rows + lines.length :=
  Step.each_history (p := fun p' past ↦ p'.rows = p.rows + past.length)
    (fun p' past line hrows _ ↦ by
      rw [rows_pushLine, hrows, List.length_append, List.length_singleton, Nat.add_assoc])
    rfl h

/-- The line that failed is the last one given, and is counted. -/
theorem pushLines_refused {p : Processor} {e : Error}
    (h : (p.pushLines lines).outcome = .error e) :
    ∃ front line behind p', lines = front ++ line :: behind ∧ p.pushLines front = .done p' ∧
      p.pushLines lines = p'.pushLine line ∧
      (p.pushLines lines).state.rows = p.rows + (front.length + 1) := by
  obtain ⟨front, line, behind, p', rfl, hfront, hrun, -⟩ := Step.exists_refused h
  refine ⟨front, line, behind, p', rfl, hfront, hrun, ?_⟩
  have hdone : (p.pushLines front).outcome = .ok () := congrArg Step.outcome hfront
  have hrows := rows_pushLines_of_ok hdone
  rw [pushLines, hfront] at hrows
  rw [pushLines, hrun, rows_pushLine, ← Nat.add_assoc, ← hrows]
  rfl

/-- However a reader hands out its bytes, the processor is given the lines between
their line feeds, blank ones too, and a last one that lacks its line feed if it is not
empty; as it is when it gets all bytes at once, or from a file.  If the reader fails,
the processor has been given the complete lines.  A line that fails is the last one
given, and is counted. -/
theorem read_eq_process (p : Processor) (answers : List ReadAnswer) :
    let data := (ReadAnswer.delivered answers).1
    (∃ lines rest, Lines.Cuts data lines rest ∧
      (∀ lines' rest', Lines.Cuts data lines' rest' → lines' = lines ∧ rest' = rest) ∧
      p.process data = p.pushLines (lines ++ if rest = [] then [] else [rest]) ∧
      p.processFile (some data) = p.process data ∧
      p.read answers = match (ReadAnswer.delivered answers).2 with
        | none => p.process data
        | some fault => (p.pushLines lines).andThen fun p ↦ .failed p (.io fault)) ∧
    ∀ lines : List Bytes,
      ((p.pushLines lines).outcome = .ok () →
        (p.pushLines lines).state.rows = p.rows + lines.length) ∧
      ∀ e, (p.pushLines lines).outcome = .error e →
        ∃ front line behind p', lines = front ++ line :: behind ∧ p.pushLines front = .done p' ∧
          p.pushLines lines = p'.pushLine line ∧
          (p.pushLines lines).state.rows = p.rows + (front.length + 1) := by
  intro data
  refine ⟨?_, fun lines ↦ ⟨rows_pushLines_of_ok, fun e ↦ pushLines_refused⟩⟩
  obtain ⟨lines, rest, hcuts⟩ := Lines.exists_cuts data
  have hprocess : p.process data = p.pushLines (lines ++ if rest = [] then [] else [rest]) := by
    rw [process, Lines.of, hcuts.cut_eq]
    change p.pushLines (lines ++ Lines.ending rest.reverse) = _
    rw [Lines.ending_eq, List.reverse_reverse]
  refine ⟨lines, rest, hcuts, fun _ _ ↦ hcuts.unique, hprocess, rfl, ?_⟩
  have hcuts' : Lines.Cuts (([] : Bytes).reverse ++ (ReadAnswer.delivered answers).1) lines rest :=
    hcuts
  rw [read, readFrom_eq answers p hcuts' List.not_mem_nil]
  cases (ReadAnswer.delivered answers).2 with
  | none => rw [hprocess, pushLines_append]
  | some fault => rfl

/-- The bytes of `ab`, a blank line and an unfinished `c`, in pieces that end in the
middle of lines, with an interruption in between. -/
example : ReadAnswer.delivered [.bytes [97], .interrupted, .bytes [98, 10, 10], .bytes [99]] =
      ([97, 98, 10, 10, 99], none) ∧ Lines.of [97, 98, 10, 10, 99] = [[97, 98], [], [99]] := by
  decide

end Processor

end Rollup
