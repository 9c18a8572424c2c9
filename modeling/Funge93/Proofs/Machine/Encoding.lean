import Funge93.Proofs.Console.Encoding
import Funge93.Proofs.Console.Numerals
import Funge93.Proofs.Machine.Outcome
import Funge93.Proofs.Machine.Simulation
import Funge93.Proofs.Machine.Streams

/-!
# Machines that write UTF-8

A machine on streams of which the output writes UTF-8 runs like a machine in memory up to the first
surrogate. It faults at that write, which takes its operand and writes nothing. In memory the write
goes through, and the surrogate is seen in the output.

Results:
1. `tick_encoding`, `ticked_encoding`: ticks that write no surrogate.
2. `tick_of_surrogate`: the tick on streams that writes one.
3. `encodable_ticked`: an output without surrogates comes from ticks that write none.
-/

namespace Funge93

/-- One console is in memory and the other one writes UTF-8, and all else is equal. -/
def Likeness.encoding : Likeness := onConsole Console.Encodes

namespace Machine

/-- The next tick writes the surrogate `ch`. -/
structure WritesSurrogate (m : Machine) (ch : CodePoint) : Prop where
  upcoming : m.upcoming? = some .writeChar
  top : CodePoint.ofInt? m.top = some ch
  isSurrogate : ch.isSurrogate = true

/-- So many ticks write no surrogate. -/
def WritesNoSurrogate (m : Machine) (n : Nat) : Prop :=
  ∀ i < n, ∀ ch, ¬ (m.ticked i).WritesSurrogate ch

variable {m m' : Machine} {ch : CodePoint}

/-! ## Ticks on two consoles -/

/-- The calls of an instruction are answered alike unless one writes a surrogate. -/
theorem usesAlike_encoding (h : Alike .encoding m m') {i : Instruction}
    (hw : i = .writeChar → ∀ ch, CodePoint.ofInt? m.top = some ch → ch.isSurrogate = false) :
    UsesAlike .encoding m m' i := by
  have hencodes : Console.Encodes m.console m'.console := h.console
  refine usesAlike_onConsole h (fun _ => hencodes.writeText ?_)
    (fun hi => hencodes.writeChar (hw hi)) (fun _ => hencodes.readNumber)
    (fun _ => hencodes.readChar)
  exact Text.encodable_append.mpr ⟨Text.encodable_ofInt _, by decide⟩

/-- A tick that writes no surrogate does the same on both consoles. -/
theorem tick_encoding (h : Alike .encoding m m') (hw : ∀ ch, ¬ m.WritesSurrogate ch) :
    Alike .encoding m.tick.1 m'.tick.1 := by
  refine (tick_onConsole h fun i hi => usesAlike_encoding h ?_).1
  rintro rfl ch hch
  exact Bool.eq_false_iff.mpr fun hs => hw ch ⟨hi, hch, hs⟩

/-- Streams refuse the surrogate, which takes the operand and writes nothing. -/
theorem tick_of_surrogate (h : Alike .encoding m m') (hw : m.WritesSurrogate ch) :
    ∃ reason, Utf8.encodeRefusal? [ch] = some reason ∧
      m'.tick = ({ m.countStep with
        stack := m.stack.discard, console := m'.console,
        status := .faulted (.outputFailed reason) }, none) := by
  have hencodes : Console.Encodes m.console m'.console := h.console
  have hrefusal : Utf8.encodeRefusal? [ch] ≠ none := by
    rw [Ne, Utf8.encodeRefusal?_eq_none, List.forall_mem_singleton, hw.isSurrogate]
    exact nofun
  obtain ⟨reason, hreason⟩ := Option.ne_none_iff_exists'.mp hrefusal
  have hwrite : m'.console.writeChar m'.top =
      (some (.fault (.outputFailed reason)), m'.console) := by
    rw [top_eq (Likeness.kept_onConsole _) h]
    unfold Console.writeChar
    rw [hw.top]
    exact hencodes.writeText_of_refused hreason
  have htick := tick_of_refusedWrite ((upcoming?_onConsole h).trans hw.upcoming) rfl hwrite
  refine ⟨reason, hreason, htick.trans ?_⟩
  rw [eq_of_onConsole h]
  rfl

/-- Up to the first surrogate, ticks do the same on both consoles. -/
theorem ticked_encoding (h : Alike .encoding m m') {n : Nat} (hn : m.WritesNoSurrogate n) :
    Alike .encoding (m.ticked n) (m'.ticked n) :=
  ticked_alike (C := fun m => ∀ ch, ¬ m.WritesSurrogate ch) tick_encoding h hn

/-! ## Surrogates in the output -/

theorem encodable_tick (hc : m.console.InMemory) :
    m.tick.1.console.written.Encodable ↔
      m.console.written.Encodable ∧ ∀ ch, ¬ m.WritesSurrogate ch := by
  by_cases hi : m.upcoming? = some .writeChar
  · rw [(effects_tick m).console, hi]
    show (m.console.writeChar m.top).2.written.Encodable ↔ _
    unfold Console.writeChar
    cases htop : CodePoint.ofInt? m.top with
    | none =>
      -- A number that is no character writes nothing, and it is no surrogate either.
      refine (and_iff_left fun ch hw => ?_).symm
      rw [hw.top] at htop
      cases htop
    | some ch =>
      dsimp only
      rw [Console.writeText_of_inMemory hc]
      show (m.console.output.take [ch]).text.Encodable ↔ _
      rw [Output.text_take, Text.encodable_append]
      refine and_congr_right fun _ => List.forall_mem_singleton.trans ⟨?_, ?_⟩
      · rintro hch ch' ⟨-, htop', hch'⟩
        rw [htop] at htop'
        cases htop'
        rw [hch] at hch'
        cases hch'
      · exact fun hnone => Bool.eq_false_iff.mpr fun hch => hnone ch ⟨hi, htop, hch⟩
  · have hnone (ch : CodePoint) : ¬ m.WritesSurrogate ch := fun hw => hi hw.upcoming
    refine Iff.trans ?_ (and_iff_left hnone).symm
    by_cases hn : m.upcoming? = some .writeNumber
    · rw [(effects_tick m).console, hn]
      show (m.console.writeNumber m.top).2.written.Encodable ↔ _
      rw [(Console.writeNumber_of_inMemory hc m.top).2.2, Text.encodable_append,
        Text.encodable_append]
      exact and_iff_left ⟨Text.encodable_ofInt _, by decide⟩
    · rw [written_tick_of_ne hn hi]

/-- The output can be encoded exactly if no surrogate was written. -/
theorem encodable_ticked (hc : m.console.InMemory) (hm : m.console.written.Encodable) (n : Nat) :
    (m.ticked n).console.written.Encodable ↔ m.WritesNoSurrogate n := by
  induction n with
  | zero => exact iff_of_true hm nofun
  | succ n ih =>
    rw [ticked_succ, encodable_tick (inMemory_ticked hc n), ih]
    constructor
    · rintro ⟨hbefore, hlast⟩ i hi
      rcases Nat.lt_succ_iff_lt_or_eq.mp hi with hlt | rfl
      · exact hbefore i hlt
      · exact hlast
    · exact fun hall => ⟨fun i hi => hall i (Nat.lt_succ_of_lt hi), hall n (Nat.lt_succ_self n)⟩

end Machine

end Funge93
