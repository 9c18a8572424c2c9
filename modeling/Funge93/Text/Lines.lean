import Funge93.Text.Basic

/-!
# Lines

A carriage return, alone or before a line feed, stands for one line feed (`foldNewlines`). Text
splits after every line terminator (`lines`); a terminator at the very end opens no further line.
-/

namespace Funge93

/-- The code points that end a line. -/
def CodePoint.endsLine (c : CodePoint) : Bool :=
  c.inRanges [(0x0A, 0x0D), (0x1C, 0x1E), (0x85, 0x85), (0x2028, 0x2029)]

namespace Text

/-- Folds newlines, given whether a carriage return stands right before the text. -/
def foldNewlinesAfter (afterReturn : Bool) : Text → Text
  | [] => []
  | c :: rest =>
    if c = CodePoint.carriageReturn then CodePoint.lineFeed :: foldNewlinesAfter true rest
    else if afterReturn && c = CodePoint.lineFeed then foldNewlinesAfter false rest
    else c :: foldNewlinesAfter false rest

/-- Writes every carriage return, with the line feed that may follow it, as one line feed. -/
def foldNewlines (t : Text) : Text := foldNewlinesAfter false t

/-- Splits after every code point that ends a line, and drops that code point. -/
def splitLines : Text → List Text
  | [] => []
  | c :: rest =>
    if c.endsLine then [] :: splitLines rest
    else
      match splitLines rest with
      | [] => [[c]]
      | line :: more => (c :: line) :: more

/-- The lines of a text. -/
def lines (t : Text) : List Text := splitLines t.foldNewlines

theorem splitLines_append {line : Text} {c : CodePoint} (rest : Text)
    (unbroken : ∀ d ∈ line, d.endsLine = false) (ends : c.endsLine = true) :
    splitLines (line ++ c :: rest) = line :: splitLines rest := by
  induction line with
  | nil => rw [List.nil_append, splitLines, if_pos ends]
  | cons d line ih =>
    have within : ¬ d.endsLine = true := by rw [unbroken d List.mem_cons_self]; decide
    rw [List.cons_append, splitLines, if_neg within,
      ih fun e member => unbroken e (List.mem_cons_of_mem d member)]

theorem splitLines_unbroken {line : Text} (unbroken : ∀ d ∈ line, d.endsLine = false)
    (nonempty : line ≠ []) : splitLines line = [line] := by
  induction line with
  | nil => exact absurd rfl nonempty
  | cons d line ih =>
    have within : ¬ d.endsLine = true := by rw [unbroken d List.mem_cons_self]; decide
    rw [splitLines, if_neg within]
    by_cases last : line = []
    · rw [last, splitLines]
    · rw [ih (fun e member => unbroken e (List.mem_cons_of_mem d member)) last]

theorem carriageReturn_notMem_foldNewlinesAfter (afterReturn : Bool) (t : Text) :
    CodePoint.carriageReturn ∉ foldNewlinesAfter afterReturn t := by
  induction t generalizing afterReturn with
  | nil => simp [foldNewlinesAfter]
  | cons c rest ih =>
    rw [foldNewlinesAfter]
    split
    · exact List.not_mem_cons_of_ne_of_not_mem (by decide) (ih true)
    · split
      · exact ih false
      · exact List.not_mem_cons_of_ne_of_not_mem (Ne.symm ‹_›) (ih false)

theorem foldNewlines_of_notMem {t : Text} (absent : CodePoint.carriageReturn ∉ t) :
    t.foldNewlines = t := by
  induction t with
  | nil => rfl
  | cons c rest ih =>
    have other : c ≠ CodePoint.carriageReturn := fun same => absent (same ▸ List.mem_cons_self)
    have folded := ih fun member => absent (List.mem_cons_of_mem c member)
    rw [foldNewlines] at folded ⊢
    rw [foldNewlinesAfter, if_neg other, Bool.false_and, if_neg Bool.false_ne_true, folded]

theorem foldNewlines_idem (t : Text) : t.foldNewlines.foldNewlines = t.foldNewlines :=
  foldNewlines_of_notMem (carriageReturn_notMem_foldNewlinesAfter false t)

/-- Folding newlines first does not change the lines. -/
theorem lines_foldNewlines (t : Text) : t.foldNewlines.lines = t.lines := by
  rw [lines, foldNewlines_idem, lines]

end Text

end Funge93
