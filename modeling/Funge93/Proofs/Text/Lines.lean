import Funge93.Text.Lines

/-!
# Lines read in one pass

`Text.lines` folds newlines before it splits. A text in memory is split as it stands, where a
carriage return and a line feed after it end one line together (`linesAsTheyStand`). This module
proves that both give the same lines, whatever terminators follow each other.

Results:
1. `lines_return_cons`: the lines of a text that starts with a carriage return.
2. `lines_eq_linesAsTheyStand`: the lines of a text in memory.
-/

namespace Funge93.Text

/-- The lines of a text that is split as it stands. -/
def linesAsTheyStand : Text → List Text
  | [] => []
  | [c] => if c.endsLine then [[]] else [[c]]
  | c :: d :: rest =>
    if c = CodePoint.carriageReturn ∧ d = CodePoint.lineFeed then [] :: linesAsTheyStand rest
    else if c.endsLine then [] :: linesAsTheyStand (d :: rest)
    else
      match linesAsTheyStand (d :: rest) with
      | [] => [[c]]
      | line :: more => (c :: line) :: more

variable {c : CodePoint} {rest : Text}

theorem foldNewlines_cons (hc : c ≠ CodePoint.carriageReturn) :
    foldNewlines (c :: rest) = c :: rest.foldNewlines := by
  unfold foldNewlines
  rw [foldNewlinesAfter, if_neg hc, Bool.false_and, if_neg Bool.false_ne_true]

theorem foldNewlines_return_cons (rest : Text) :
    foldNewlines (CodePoint.carriageReturn :: rest) =
      CodePoint.lineFeed :: foldNewlinesAfter true rest := by
  unfold foldNewlines
  rw [foldNewlinesAfter, if_pos rfl]

/-- A carriage return takes a line feed right after it along, and changes nothing else. -/
theorem foldNewlinesAfter_true_cons (c : CodePoint) (rest : Text) :
    foldNewlinesAfter true (c :: rest) =
      if c = CodePoint.lineFeed then rest.foldNewlines else foldNewlines (c :: rest) := by
  split
  · next hc =>
    rw [hc, foldNewlinesAfter, if_neg (by decide), if_pos (by decide)]
    rfl
  · next hc =>
    unfold foldNewlines
    rw [foldNewlinesAfter, foldNewlinesAfter, decide_eq_false hc, Bool.and_false, Bool.and_false]

theorem lines_cons_of_within (hc : ¬ c.endsLine = true) :
    lines (c :: rest) = match rest.lines with
      | [] => [[c]]
      | line :: more => (c :: line) :: more := by
  have hother : c ≠ CodePoint.carriageReturn := by
    rintro rfl
    exact hc rfl
  calc
    lines (c :: rest) = splitLines (c :: rest.foldNewlines) :=
      congrArg splitLines (foldNewlines_cons hother)
    _ = _ := if_neg hc

theorem lines_cons_of_endsLine (hc : c.endsLine = true) (hother : c ≠ CodePoint.carriageReturn) :
    lines (c :: rest) = [] :: rest.lines := by
  unfold lines
  rw [foldNewlines_cons hother, splitLines, if_pos hc]

/-- A carriage return ends a line, together with a line feed right after it. -/
theorem lines_return_cons (c : CodePoint) (rest : Text) :
    lines (CodePoint.carriageReturn :: c :: rest) =
      [] :: if c = CodePoint.lineFeed then rest.lines else lines (c :: rest) := by
  have hends : CodePoint.lineFeed.endsLine = true := rfl
  unfold lines
  rw [foldNewlines_return_cons, splitLines, if_pos hends, foldNewlinesAfter_true_cons]
  split <;> rfl

/-- Folding newlines before the split gives the lines of the text as it stands. -/
theorem lines_eq_linesAsTheyStand (t : Text) : t.lines = t.linesAsTheyStand := by
  -- The induction looks at two characters at once, as the split does.
  induction t using linesAsTheyStand.induct with
  | case1 => rfl
  | case2 c hc =>
    rw [linesAsTheyStand, if_pos hc]
    by_cases hreturn : c = CodePoint.carriageReturn
    · rw [hreturn]
      rfl
    · rw [lines_cons_of_endsLine hc hreturn]
      rfl
  | case3 c hc =>
    rw [linesAsTheyStand, if_neg hc, lines_cons_of_within hc]
    rfl
  | case4 c d rest hboth ih =>
    rw [linesAsTheyStand, if_pos hboth, hboth.1, lines_return_cons, if_pos hboth.2, ih]
  | case5 c d rest hboth hc ih =>
    rw [linesAsTheyStand, if_neg hboth, if_pos hc, ← ih]
    by_cases hreturn : c = CodePoint.carriageReturn
    · rw [hreturn, lines_return_cons, if_neg fun hfeed => hboth ⟨hreturn, hfeed⟩]
    · rw [lines_cons_of_endsLine hc hreturn]
  | case6 c d rest hboth hc hnone ih =>
    rw [linesAsTheyStand, if_neg hboth, if_neg hc, hnone,
      lines_cons_of_within hc, ih, hnone]
  | case7 c d rest hboth hc line more hsome ih =>
    rw [linesAsTheyStand, if_neg hboth, if_neg hc, hsome,
      lines_cons_of_within hc, ih, hsome]

end Funge93.Text
