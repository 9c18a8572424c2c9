import Mathlib.Data.List.Chain
import Funge93.Proofs.Text.Lines

/-!
# Lines and what ends them

A text can be written line by line, each line with a terminator after it. There are eleven
terminators, and one of them is two others in a row. So a line that a carriage return ends must not
be followed by an empty line that a line feed ends: the two terminators would read as one. This
module proves that nothing else can go wrong.

Results:
1. `lines_append`: a line and its terminator split off the text after them.
2. `lines_written`: a text has the lines that it was written from.
3. `unbroken_of_mem_lines`: the lines of a text, whatever it is, have no terminators in them.
-/

namespace Funge93.Text

/-- What ends a line. -/
inductive Terminator
  | lineFeed
  | carriageReturn
  /-- A carriage return and a line feed, which end one line together. -/
  | returnAndFeed
  | verticalTab
  | formFeed
  | fileSeparator
  | groupSeparator
  | recordSeparator
  | nextLine
  | lineSeparator
  | paragraphSeparator
deriving DecidableEq, Repr

/-- The code points of a terminator. -/
def Terminator.text : Terminator → Text
  | lineFeed => [0x0A]
  | carriageReturn => [0x0D]
  | returnAndFeed => [0x0D, 0x0A]
  | verticalTab => [0x0B]
  | formFeed => [0x0C]
  | fileSeparator => [0x1C]
  | groupSeparator => [0x1D]
  | recordSeparator => [0x1E]
  | nextLine => [0x85]
  | lineSeparator => [0x2028]
  | paragraphSeparator => [0x2029]

/-- No line ends within the text. -/
def Unbroken (t : Text) : Prop := ∀ c ∈ t, c.endsLine = false

-- The instance for all elements of a list, and not the one for all code points there are.
instance Unbroken.decidable (t : Text) : Decidable t.Unbroken := List.decidableBAll _ t

/-- A line with what ends it. -/
structure EndedLine where
  line : Text
  terminator : Terminator
deriving DecidableEq, Repr

namespace EndedLine

/-- The terminators of two lines in a row stay two. -/
def Apart (first next : EndedLine) : Prop :=
  ¬ (first.terminator = .carriageReturn ∧ next.line = [] ∧ next.terminator = .lineFeed)

instance (first next : EndedLine) : Decidable (Apart first next) :=
  inferInstanceAs (Decidable (¬ _))

end EndedLine

/-- Lines that end, one after the other, and a last one that does not. -/
def written (ended : List EndedLine) (last : Text) : Text :=
  ended.flatMap (fun l => l.line ++ l.terminator.text) ++ last

/-- The lines that a text is written from. Without a character the last one is none. -/
def writtenLines (ended : List EndedLine) (last : Text) : List Text :=
  ended.map EndedLine.line ++ if last = [] then [] else [last]

variable {line rest last : Text} {ended : List EndedLine}

theorem written_cons (l : EndedLine) (ended : List EndedLine) (last : Text) :
    written (l :: ended) last = l.line ++ l.terminator.text ++ written ended last := by
  unfold written
  rw [List.flatMap_cons, List.append_assoc _ _ last]

theorem Unbroken.head?_ne_lineFeed (hline : line.Unbroken) :
    line.head? ≠ some CodePoint.lineFeed := by
  intro hhead
  have hends := hline _ (List.mem_of_mem_head? hhead)
  cases hends

theorem lines_of_unbroken (hline : line.Unbroken) (hne : line ≠ []) : line.lines = [line] := by
  have hreturn : CodePoint.carriageReturn ∉ line := fun hmem => by cases hline _ hmem
  rw [lines, foldNewlines_of_notMem hreturn, splitLines_unbroken hline hne]

/-- Only one terminator starts with a line feed. -/
theorem Terminator.eq_lineFeed_of_head? {e : Terminator}
    (h : (e.text ++ rest).head? = some CodePoint.lineFeed) : e = .lineFeed := by
  cases e with
  | lineFeed => rfl
  | _ => cases h

/-- A terminator ends an empty line, unless a line feed takes a carriage return along. -/
theorem lines_terminator_append (e : Terminator)
    (hapart : e = .carriageReturn → rest.head? ≠ some CodePoint.lineFeed) :
    (e.text ++ rest).lines = [] :: rest.lines := by
  cases e with
  | carriageReturn =>
    cases rest with
    | nil => rfl
    | cons c rest =>
      have hother : c ≠ CodePoint.lineFeed := fun hc => hapart rfl (congrArg some hc)
      exact (lines_return_cons c rest).trans (by rw [if_neg hother])
  | returnAndFeed => exact lines_return_cons CodePoint.lineFeed rest
  | _ => exact lines_cons_of_endsLine rfl (by decide)

theorem lines_append (e : Terminator) (hline : line.Unbroken)
    (hapart : e = .carriageReturn → rest.head? ≠ some CodePoint.lineFeed) :
    (line ++ e.text ++ rest).lines = line :: rest.lines := by
  induction line with
  | nil => exact lines_terminator_append e hapart
  | cons c line ih =>
    have hc : ¬ c.endsLine = true := by
      rw [hline c List.mem_cons_self]
      exact Bool.false_ne_true
    rw [List.cons_append, List.cons_append, lines_cons_of_within hc,
      ih fun d hd => hline d (List.mem_cons_of_mem c hd)]

/-- What stands after a line that a carriage return ends does not start with a line feed. -/
theorem head?_written_ne_lineFeed {l : EndedLine} (hl : l.terminator = .carriageReturn)
    (hended : ∀ l ∈ ended, l.line.Unbroken) (hlast : last.Unbroken)
    (hapart : (l :: ended).IsChain EndedLine.Apart) :
    (written ended last).head? ≠ some CodePoint.lineFeed := by
  cases ended with
  | nil => exact hlast.head?_ne_lineFeed
  | cons next ended =>
    obtain ⟨hnext, -⟩ := List.isChain_cons_cons.mp hapart
    obtain ⟨line, e⟩ := next
    rw [written_cons]
    cases line with
    | nil => exact fun hhead => hnext ⟨hl, rfl, Terminator.eq_lineFeed_of_head? hhead⟩
    | cons c line => exact (hended _ List.mem_cons_self).head?_ne_lineFeed

/-- A text has the lines that it was written from, whatever ends them. -/
theorem lines_written (hended : ∀ l ∈ ended, l.line.Unbroken) (hlast : last.Unbroken)
    (hapart : ended.IsChain EndedLine.Apart) :
    (written ended last).lines = writtenLines ended last := by
  induction ended with
  | nil =>
    unfold written writtenLines
    split
    · next hnone =>
      rw [hnone]
      rfl
    · next hsome => exact lines_of_unbroken hlast hsome
  | cons l ended ih =>
    have hmore : ∀ l ∈ ended, l.line.Unbroken := fun l hl => hended l (List.mem_cons_of_mem _ hl)
    calc
      (written (l :: ended) last).lines = l.line :: (written ended last).lines := by
        rw [written_cons]
        exact lines_append l.terminator (hended l List.mem_cons_self) fun hl =>
          head?_written_ne_lineFeed hl hmore hlast hapart
      _ = writtenLines (l :: ended) last := by
        rw [ih hmore hapart.tail]
        rfl

/-- A text in which a line feed ends each line. -/
theorem lines_flatMap_lineFeed {lines : List Text} (h : ∀ line ∈ lines, line.Unbroken) :
    Text.lines (lines.flatMap (· ++ [CodePoint.lineFeed])) = lines := by
  induction lines with
  | nil => rfl
  | cons line more ih =>
    obtain ⟨hline, hmore⟩ := List.forall_mem_cons.mp h
    rw [List.flatMap_cons]
    exact (lines_append .lineFeed hline nofun).trans (congrArg (line :: ·) (ih hmore))

/-- The lines of a text have no terminators left in them. -/
theorem unbroken_of_mem_lines {t : Text} (h : line ∈ t.lines) : line.Unbroken := by
  unfold lines at h
  generalize t.foldNewlines = u at h
  induction u generalizing line with
  | nil => cases h
  | cons c rest ih =>
    rw [splitLines] at h
    split at h
    · rcases List.mem_cons.mp h with rfl | hmem
      · exact List.forall_mem_nil _
      · exact ih hmem
    · next hc =>
      replace hc : c.endsLine = false := Bool.eq_false_iff.mpr hc
      cases hrest : splitLines rest with
      | nil =>
        rw [hrest] at h
        obtain rfl := List.mem_singleton.mp h
        exact List.forall_mem_singleton.mpr hc
      | cons first more =>
        rw [hrest] at h ih
        rcases List.mem_cons.mp h with rfl | hmem
        · exact List.forall_mem_cons.mpr ⟨hc, ih List.mem_cons_self⟩
        · exact ih (List.mem_cons_of_mem _ hmem)

end Funge93.Text
