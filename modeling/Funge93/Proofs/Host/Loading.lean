import Funge93.Proofs.Grid.Lines
import Funge93.Proofs.Host.Files
import Funge93.Proofs.Text.Terminators

/-!
# Loading lines

A host loads a text by its lines, and its answer does not depend on what ends them. This module says
what the answer is. A strict host checks the lines and not the grid: lines without any character are
too many if there are more of them than rows allowed, although their grid is a single cell.

Results:
1. `load_lenient`, `load_strict`: the answer of a host that is not strict, and of one that is.
2. `load_written`: what is loaded from lines with any terminators.
-/

namespace Funge93.Host

variable {h : Host} {t : Text}

theorem load_lenient (hs : h.strict = false) : (h.load t).1 = .ok (Grid.ofText t) := by
  rw [load_eq, loadOf, hs, if_neg fun hsize => Bool.false_ne_true hsize.1,
    ← Text.lines_eq_linesAsTheyStand]
  rfl

/-- A strict host loads what is not too large as any host does, and refuses all else. -/
theorem load_strict (hs : h.strict = true) :
    (h.load t).1 = if Grid.longest t.lines ≤ 80 ∧ t.lines.length ≤ 25 then .ok (Grid.ofText t)
      else .error (.tooLarge (Grid.longest t.lines) t.lines.length) := by
  rw [load_eq, loadOf, hs, ← Text.lines_eq_linesAsTheyStand]
  by_cases hsize : Grid.longest t.lines ≤ 80 ∧ t.lines.length ≤ 25
  · rw [if_pos hsize, if_neg]
    · rfl
    · rintro ⟨-, hwide | hhigh⟩
      · exact Nat.not_lt.mpr hsize.1 hwide
      · exact Nat.not_lt.mpr hsize.2 hhigh
  · rw [if_neg hsize, if_pos]
    refine ⟨rfl, ?_⟩
    by_cases hwide : Grid.longest t.lines ≤ 80
    · exact .inr (Nat.not_le.mp fun hhigh => hsize ⟨hwide, hhigh⟩)
    · exact .inl (Nat.not_le.mp hwide)

theorem exists_load_strict_iff (hs : h.strict = true) :
    (∃ g, (h.load t).1 = .ok g) ↔
      (∀ line ∈ t.lines, line.length ≤ 80) ∧ t.lines.length ≤ 25 := by
  rw [load_strict hs, ← Grid.longest_le_iff]
  split
  · next hsize => exact ⟨fun _ => hsize, fun _ => ⟨_, rfl⟩⟩
  · next hsize => exact ⟨nofun, fun hfits => absurd hfits hsize⟩

theorem eq_ofText_of_load_ok {g : Grid} (hl : (h.load t).1 = .ok g) : g = Grid.ofText t := by
  rw [load_eq, loadOf, ← Text.lines_eq_linesAsTheyStand] at hl
  split at hl <;> cases hl
  rfl

/-- Write lines without a terminator in them one after the other, each with any terminator after it
and the last one perhaps with none, and no empty line that a line feed ends after one that a
carriage return ends. The grid of the text is the grid of the lines: the one that the lines describe
if there is a character in them, and otherwise the single blank cell. A strict host accepts the text
exactly if no line is longer than 80 and there are no more than 25 of them, and then loads the same
grid as a host that is not strict. -/
theorem load_written (ended : List Text.EndedLine) (last : Text)
    (hended : ∀ l ∈ ended, l.line.Unbroken) (hlast : last.Unbroken)
    (hapart : ended.IsChain Text.EndedLine.Apart) :
    let lines := Text.writtenLines ended last
    let t := Text.written ended last
    Grid.ofText t = Grid.ofLines lines ∧
      ((∃ line ∈ lines, line ≠ []) → Grid.Describes lines (Grid.ofLines lines)) ∧
      ((∀ line ∈ lines, line = []) → Grid.ofLines lines = Grid.blank) ∧
      ∀ h : Host,
        ({ h with strict := false }.load t).1 = .ok (Grid.ofLines lines) ∧
        ((∃ g, ({ h with strict := true }.load t).1 = .ok g) ↔
          (∀ line ∈ lines, line.length ≤ 80) ∧ lines.length ≤ 25) ∧
        ∀ g, ({ h with strict := true }.load t).1 = .ok g →
          ({ h with strict := false }.load t).1 = .ok g := by
  intro lines t
  have hlines : t.lines = lines := Text.lines_written hended hlast hapart
  have hgrid : Grid.ofText t = Grid.ofLines lines := congrArg Grid.ofLines hlines
  refine ⟨hgrid, fun hsome => ?_, fun hnone => ?_, fun h => ⟨?_, ?_, fun g hg => ?_⟩⟩
  · exact Grid.describes_ofLines (Grid.longest_pos_iff.mpr hsome)
  · exact Grid.ofLines_of_longest_eq_zero (Grid.longest_eq_zero_iff.mpr hnone)
  · rw [load_lenient rfl, hgrid]
  · rw [exists_load_strict_iff rfl, hlines]
  · rw [load_lenient rfl, eq_ofText_of_load_ok hg]

/-- A line, an empty line that a carriage return ends, an empty line that both end together, and two
more lines of which nothing ends the last. -/
theorem load_written_mixed_terminators :
    Grid.ofText "ab\r\n\r\r\nc\u2028d@." = Grid.ofLines ["ab", [], [], "c", "d@."] ∧
      Grid.Describes ["ab", [], [], "c", "d@."] (Grid.ofLines ["ab", [], [], "c", "d@."]) := by
  obtain ⟨hgrid, hdescribes, -⟩ := load_written
    [⟨"ab", .returnAndFeed⟩, ⟨[], .carriageReturn⟩, ⟨[], .returnAndFeed⟩, ⟨"c", .lineSeparator⟩]
    "d@." (by decide) (by decide) (by decide)
  exact ⟨hgrid, hdescribes ⟨"ab", List.mem_cons_self, by decide⟩⟩

end Funge93.Host
