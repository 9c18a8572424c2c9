import Funge93.Grid.Layout
import Funge93.Proofs.Console.Numerals
import Funge93.Proofs.Machine.Outcome

/-!
# Programs that read what others print

A program prints cells as numbers, and another program reads the output. This module proves that
the second one reads back the cells that the first one printed, in order and unchanged, whatever
else the two programs do between their prints and reads.

Results:
1. `written_ticked`: the output of a program that writes numbers only.
2. `numbersRead_ticked`: what a program reads from the numerals ahead of it.
3. `numbers_read_back`: consoles and programs read back what others print.
-/

namespace Funge93.Machine

/-- The cell that the next tick prints as a number, if it prints one. -/
def prints? (m : Machine) : Option Cell :=
  if m.upcoming? = some .writeNumber then some m.stack.peek else none

/-- The cell that the next tick reads as a number and pushes, if it reads one. -/
def readsNumber? (m : Machine) : Option Cell :=
  if m.upcoming? = some .readNumber then some m.tick.1.stack.peek else none

/-- The cells that so many ticks print as numbers. -/
def printed (m : Machine) (n : Nat) : List Cell :=
  (List.range n).filterMap fun i => (m.ticked i).prints?

/-- The cells that so many ticks read as numbers. -/
def numbersRead (m : Machine) (n : Nat) : List Cell :=
  (List.range n).filterMap fun i => (m.ticked i).readsNumber?

/-- The numerals of some cells, each with a space behind it. -/
def numerals (cells : List Cell) : Text := Text.numerals (cells.map Int64.toInt)

variable {m m' : Machine} {i : Instruction}

theorem numerals_append (cells more : List Cell) :
    numerals (cells ++ more) = numerals cells ++ numerals more := by
  unfold numerals Text.numerals
  rw [List.map_append, List.flatMap_append]

/-! ## Printing -/

theorem printed_succ (m : Machine) (n : Nat) :
    m.printed (n + 1) = m.printed n ++ (m.ticked n).prints?.toList :=
  filterMap_ticked_succ prints? m n

theorem written_tick (hc : m.console.InMemory) (hw : m.upcoming? ≠ some .writeChar) :
    m.tick.1.console.written = m.console.written ++ numerals m.prints?.toList := by
  unfold prints?
  by_cases hi : m.upcoming? = some .writeNumber
  · rw [if_pos hi, (effects_tick m).console, hi]
    exact (Console.writeNumber_of_inMemory hc m.top).2.2.trans
      (congrArg _ (Text.numerals_concat [] m.top).symm)
  · rw [if_neg hi, written_tick_of_ne hi hw]
    exact (List.append_nil _).symm

/-- The output of a program that writes numbers only is their numerals. -/
theorem written_ticked (hc : m.console.InMemory) {n : Nat}
    (hn : ∀ i < n, (m.ticked i).upcoming? ≠ some .writeChar) :
    (m.ticked n).console.written = m.console.written ++ numerals (m.printed n) := by
  induction n with
  | zero => exact (List.append_nil _).symm
  | succ n ih =>
    rw [ticked_succ, written_tick (inMemory_ticked hc n) (hn n (Nat.lt_succ_self n)),
      ih fun i hi => hn i (Nat.lt_succ_of_lt hi), printed_succ, numerals_append, List.append_assoc]

/-! ## Reading -/

theorem execute_readNumber {v : Option Cell} {c : Console}
    (hr : m.console.readNumber = (.ok v, c)) :
    m.execute .readNumber =
      .ok (({ m with console := c } : Machine).push (v.getD 0)).countRead := by
  show m.read Console.readNumber 0 = _
  unfold read
  rw [hr]

/-- With numerals ahead, a tick that reads a number reads the first of them. -/
theorem readsNumber?_of_numerals (hc : m.console.Unbroken) (hi : m.upcoming? = some .readNumber)
    {spaces : Nat} {v : Cell} {cells : List Cell} {t : Text}
    (hu : m.console.unread =
      List.replicate spaces CodePoint.space ++ (numerals (v :: cells) ++ t)) :
    m.readsNumber? = some v ∧
      m.tick.1.console.unread = List.replicate 1 CodePoint.space ++ (numerals cells ++ t) := by
  obtain ⟨c, hread, hrest, -⟩ := Console.readNumber_of_unbroken hc
  have hahead : m.console.unread.numberAhead = (some v.toInt, " " ++ (numerals cells ++ t)) := by
    rw [hu, numerals, List.map_cons, Text.numerals_cons, Text.numberAhead_ofInt]
    rfl
  rw [hahead, Option.map_some, Cell.ofInt_toInt] at hread
  rw [hahead] at hrest
  constructor
  · unfold readsNumber?
    rw [if_pos hi, stack_tick hi (execute_readNumber (m := m.countStep) hread)]
    rfl
  · rw [(effects_tick m).console, hi]
    show m.console.readNumber.2.unread = _
    rw [hread]
    exact hrest

theorem numbersRead_succ (m : Machine) (n : Nat) :
    m.numbersRead (n + 1) = m.numbersRead n ++ (m.ticked n).readsNumber?.toList :=
  filterMap_ticked_succ readsNumber? m n

/-- As long as a program reads numbers only, and no more than there are numerals ahead of it, it
reads the first of them, and the others stay ahead of it. -/
theorem numbersRead_ticked (hc : m.console.InMemory) {spaces : Nat} {cells : List Cell} {t : Text}
    (hu : m.console.unread = List.replicate spaces CodePoint.space ++ (numerals cells ++ t))
    {n : Nat} (hn : ∀ i < n, (m.ticked i).upcoming? ≠ some .readChar)
    (hle : (m.numbersRead n).length ≤ cells.length) :
    ∃ left spaces, cells = m.numbersRead n ++ left ∧ (m.ticked n).console.unread =
      List.replicate spaces CodePoint.space ++ (numerals left ++ t) := by
  induction n with
  | zero => exact ⟨cells, spaces, rfl, hu⟩
  | succ n ih =>
    rw [numbersRead_succ] at hle ⊢
    rw [List.length_append] at hle
    obtain ⟨left, spaces, hcells, hahead⟩ := ih (fun i hi => hn i (Nat.lt_succ_of_lt hi)) (by omega)
    rw [ticked_succ]
    by_cases hi : (m.ticked n).upcoming? = some .readNumber
    · cases left with
      | nil =>
        -- All numerals would have been read before, so this read would be one too many.
        rw [hcells, List.append_nil, readsNumber?, if_pos hi] at hle
        exact absurd hle (Nat.not_succ_le_self _)
      | cons v left =>
        obtain ⟨hv, hafter⟩ := readsNumber?_of_numerals (inMemory_ticked hc n).input hi hahead
        refine ⟨left, 1, ?_, hafter⟩
        rw [hv, hcells, Option.toList_some, List.append_assoc, List.singleton_append]
    · refine ⟨left, spaces, ?_, ?_⟩
      · rw [readsNumber?, if_neg hi, Option.toList_none, List.append_nil]
        exact hcells
      · rw [unread_tick_of_ne hi (hn n (Nat.lt_succ_self n))]
        exact hahead

/-! ## Reading what others print -/

/-- A program that reads the output of another one reads the cells that the other one printed. -/
theorem numbersRead_isPrefix (hm : m.console.InMemory) (hm' : m'.console.InMemory) {t : Text}
    (hempty : m.console.written = []) {k k' : Nat}
    (hu : m'.console.unread = (m.ticked k).console.written ++ t)
    (hk : ∀ i < k, (m.ticked i).upcoming? ≠ some .writeChar)
    (hk' : ∀ i < k', (m'.ticked i).upcoming? ≠ some .readChar)
    (hle : (m'.numbersRead k').length ≤ (m.printed k).length) :
    m'.numbersRead k' <+: m.printed k := by
  rw [written_ticked hm hk, hempty] at hu
  have hahead : m'.console.unread =
      List.replicate 0 CodePoint.space ++ (numerals (m.printed k) ++ t) := hu
  obtain ⟨left, spaces, hcells, -⟩ := numbersRead_ticked hm' hahead hk' hle
  exact ⟨left, hcells.symm⟩

/-- Take unbounded numbers that are printed in turn on a console in memory, and a fresh console with
that output and any text behind it. Reading as many numbers there gives the cells of the printed
numbers in order, which are the numbers themselves where they are cell values, and leaves the last
space and the text. Take a program that writes numbers only, and another one that starts with the
output of the first and any text behind it and reads numbers only. Whatever else they do, the second
one reads the cells that the first one printed, in order and unchanged, for as many reads as there
were prints. -/
theorem numbers_read_back (c : Console) (hc : c.InMemory) (hempty : c.written = [])
    (ns : List Int) (t : Text) :
    let printing := c.writeNumbers ns
    let reading := Console.transcript Console.serve (ns.map fun _ => .readNumber)
      (.buffer (printing.2.written ++ t))
    printing.1 = none ∧
      reading.1 = ns.map (fun n => .ok (.number (some (Cell.ofInt n)))) ∧
      (∀ n ∈ ns, IsCellValue n → (Cell.ofInt n).toInt = n) ∧
      (ns ≠ [] → reading.2.unread = " " ++ t) ∧
      ∀ (g g' : Grid) (u : Text) (d d' : Draws) (limit limit' : Option Int) (k k' : Nat),
        let printer := start g (.buffer u) d limit
        let reader := start g' (.buffer ((printer.ticked k).console.written ++ t)) d' limit'
        (∀ i < k, (printer.ticked i).upcoming? ≠ some .writeChar) →
        (∀ i < k', (reader.ticked i).upcoming? ≠ some .readChar) →
        (reader.numbersRead k').length ≤ (printer.printed k).length →
        reader.numbersRead k' <+: printer.printed k := by
  intro printing reading
  obtain ⟨hnone, hwritten⟩ := Console.writeNumbers_of_inMemory hc ns
  rw [hempty] at hwritten
  obtain ⟨hanswers, hrest⟩ := Console.follows_of_unbroken
    (c := .buffer (printing.2.written ++ t)) rfl (ns.map fun _ => .readNumber)
  have hunread : (Console.buffer (printing.2.written ++ t)).unread = Text.numerals ns ++ t :=
    congrArg (· ++ t) hwritten
  have hcursor : Console.transcript Console.cursor (ns.map fun _ => .readNumber)
      (Text.numerals ns ++ t) = _ := Console.transcript_numerals 0 ns t
  rw [hunread, hcursor] at hanswers hrest
  refine ⟨hnone, ?_, fun n _ hn => Int64.toInt_ofInt_of_le hn.1 hn.2, fun hne => ?_, ?_⟩
  · rw [List.map_map] at hanswers
    exact hanswers
  · rw [if_neg hne] at hrest
    exact hrest
  · intro g g' u d d' limit limit' k k' printer reader hk hk' hle
    exact numbersRead_isPrefix (Console.inMemory_buffer u) (Console.inMemory_buffer _) rfl rfl
      hk hk' hle

/-- The smallest cell and a number with a sign come back, with more digits right behind them. The
largest number is no cell value. -/
theorem numbers_read_back_smallest_cell :
    let ns := [-9223372036854775808, -7, 9223372036854775808]
    let reading := Console.transcript Console.serve [.readNumber, .readNumber, .readNumber]
      (.buffer (((Console.buffer []).writeNumbers ns).2.written ++ "-5"))
    reading.1 = [.ok (.number (some (-9223372036854775808))), .ok (.number (some (-7))),
        .ok (.number (some (-9223372036854775808)))] ∧
      (Cell.ofInt (-9223372036854775808)).toInt = -9223372036854775808 ∧
      reading.2.unread = " -5" ∧
      let printer := start (Grid.ofLines ["&.&.@"]) (.buffer "-9223372036854775808 7") (.ofSeed none)
        none
      let reader := start (Grid.ofLines ["&&@"])
        (.buffer ((printer.ticked 4).console.written ++ "-5")) (.ofSeed none) none
      printer.printed 4 = [-9223372036854775808, 7] ∧
        reader.numbersRead 2 <+: printer.printed 4 := by
  intro ns reading
  obtain ⟨-, hread, hcells, hrest, hprograms⟩ :=
    numbers_read_back (.buffer []) (Console.inMemory_buffer []) rfl ns "-5"
  refine ⟨hread, hcells _ List.mem_cons_self ⟨by decide, by decide⟩, hrest (by decide), ?_⟩
  exact ⟨by decide +kernel, hprograms _ _ _ _ _ _ _ _ _ (by decide +kernel) (by decide +kernel)
    (by decide +kernel)⟩

end Funge93.Machine
