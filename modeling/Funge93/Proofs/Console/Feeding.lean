import Funge93.Proofs.Console.Streams

/-!
# Consoles fed in pieces

Take two consoles in memory. One of them lags behind: it is still to be fed some text that the
other already has, and some of its output has been drained. This module shows that a read on the one
gives the same answer as a read on the other, unless it meets the end of the input too early. A
number that ends right where the text ends is such a read, because it looks for a further digit.

Results:
1. `reach_readChar`, `reach_readNumber`: a read that leaves nothing unread has met the end.
2. `numberAhead_append`: more text after a number that has an end does not change it.
3. `Lags.readChar`, `Lags.readNumber`: reads on two consoles of which one lags behind.
-/

namespace Funge93

namespace Text

/-- Where a split stops within a text, more text changes only what is left. -/
theorem span_append {p : CodePoint → Bool} {u : Text} (h : u.dropWhile p ≠ []) (rest : Text) :
    (u ++ rest).takeWhile p = u.takeWhile p ∧
      (u ++ rest).dropWhile p = u.dropWhile p ++ rest := by
  have hlength : (u.takeWhile p).length ≠ u.length := by
    have hsplit := congrArg List.length (List.takeWhile_append_dropWhile (p := p) (l := u))
    have hleft := List.length_pos_iff.mpr h
    rw [List.length_append] at hsplit
    omega
  rw [List.takeWhile_append, List.dropWhile_append, if_neg hlength,
    if_neg (by rwa [List.isEmpty_iff])]
  exact ⟨rfl, rfl⟩

/-- A number with something behind it stays the number ahead when text is added. -/
theorem numberAhead_append {u : Text} (h : u.numberAhead.2 ≠ []) (rest : Text) :
    (u ++ rest).numberAhead = (u.numberAhead.1, u.numberAhead.2 ++ rest) := by
  unfold numberAhead at h ⊢
  dsimp only at h ⊢
  by_cases hu : u.dropWhile (!isDigit ·) = []
  · rw [if_pos hu] at h
    exact absurd rfl h
  · rw [if_neg hu] at h ⊢
    obtain ⟨hbefore, hfrom⟩ := span_append hu rest
    obtain ⟨hdigits, hafter⟩ := span_append h rest
    have hne : u.dropWhile (!isDigit ·) ++ rest ≠ [] := List.append_ne_nil_of_left_ne_nil hu rest
    rw [hbefore, hfrom, if_neg hne, hdigits, hafter]

end Text

namespace Console

/-- The number of reads so far and of characters still to be read. A read that meets a character
turns one into the other, so only a read at the end of the input adds to the sum. -/
def reach (c : Console) : Nat := c.input.reads + c.input.text.length

/-- `Lags out rest c c'`: the two consoles are in memory, and the console `c` is as `c'` but for the
text `rest` that it is still to be fed and the output `out` that has been drained from it. -/
structure Lags (out rest : Text) (c c' : Console) : Prop where
  left : c.InMemory
  right : c'.InMemory
  unread : c'.unread = c.unread ++ rest
  written : c'.written = out ++ c.written

/-- A call on a lagging console gets the same answer, and the console lags as before. -/
def SameCall {α : Type} (out rest : Text) (r r' : α × Console) : Prop :=
  r'.1 = r.1 ∧ Lags out rest r.2 r'.2

variable {c c' : Console}

/-! ## Reads at the end of the input -/

theorem reach_of_take_some {ch : CodePoint} (h : c.take = .ok (some ch, c')) :
    c'.reach = c.reach := by
  unfold reach
  rcases take_cases h with ⟨-, -, rfl⟩ | ⟨-, hch, rfl⟩
  · rfl
  · cases ht : c.input.text with
    | nil =>
      rw [ht] at hch
      cases hch
    | cons first text =>
      show c.input.reads + 1 + text.length = c.input.reads + (text.length + 1)
      omega

theorem reach_of_take_none (h : c.take = .ok (none, c')) : c'.reach = c.reach + 1 := by
  unfold reach
  rcases take_cases h with ⟨hp, hch, -⟩ | ⟨-, hch, rfl⟩
  · rw [← hch] at hp
    cases hp
  · rw [List.head?_eq_none_iff.mp hch.symm]
    rfl

theorem lt_reach_of_take_none (h : c.take = .ok (none, c')) : c.reach < c'.reach :=
  Nat.lt_of_lt_of_eq (Nat.lt_succ_self _) (reach_of_take_none h).symm

theorem reach_readChar (hc : c.Unbroken) : c.reach ≤ c.readChar.2.reach ∧
    (c.unread = [] → c.reach < c.readChar.2.reach) := by
  obtain ⟨c', ht, -⟩ := take_of_unbroken hc
  unfold readChar
  rw [ht]
  cases hu : c.unread with
  | nil =>
    rw [hu] at ht
    have hlt := lt_reach_of_take_none ht
    exact ⟨Nat.le_of_lt hlt, fun _ => hlt⟩
  | cons ch u =>
    rw [hu] at ht
    exact ⟨Nat.le_of_eq (reach_of_take_some ht).symm, nofun⟩

theorem reach_seekDigit (hc : c.Unbroken) (afterMinus : Bool) :
    c.reach ≤ (c.seekDigit afterMinus).2.reach ∧
      ((c.seekDigit afterMinus).1 = .ok none → c.reach < (c.seekDigit afterMinus).2.reach) := by
  fun_induction seekDigit c afterMinus with
  | case1 c _ e h => exact absurd h (take_ne_error hc e)
  | case2 c _ c' h =>
    have hlt := lt_reach_of_take_none h
    exact ⟨Nat.le_of_lt hlt, fun _ => hlt⟩
  | case3 c _ ch c' h =>
    refine ⟨Nat.le_of_eq (reach_of_take_some h).symm, fun hnone => ?_⟩
    cases hnone
  | case4 c _ ch c' h _ ih =>
    rw [← reach_of_take_some h]
    exact ih (unbroken_of_take hc h)

theorem reach_takeDigits (hc : c.Unbroken) (v : Cell) :
    c.reach ≤ (c.takeDigits v).2.reach ∧
      ((c.takeDigits v).2.unread = [] → c.reach < (c.takeDigits v).2.reach) := by
  fun_induction takeDigits c v with
  | case1 c _ e h => exact absurd h (take_ne_error hc e)
  | case2 c _ c' h =>
    have hlt := lt_reach_of_take_none h
    exact ⟨Nat.le_of_lt hlt, fun _ => hlt⟩
  | case3 c _ ch c' h _ _ ih =>
    rw [← reach_of_take_some h]
    exact ih (unbroken_of_take hc h)
  | case4 c _ ch c' h =>
    -- The character that ended the number is still unread.
    have hpending : ({ c' with pending := some ch } : Console).unread ≠ [] := List.cons_ne_nil _ _
    exact ⟨Nat.le_of_eq (reach_of_take_some h).symm, fun hu => absurd hu hpending⟩

/-- A number has an end within the text, or the read of it has met the end of the text. -/
theorem reach_readNumber (hc : c.Unbroken) : c.reach ≤ c.readNumber.2.reach ∧
    (c.readNumber.2.unread = [] → c.reach < c.readNumber.2.reach) := by
  have hseek := reach_seekDigit hc false
  have hkept := (served_seekDigit c false).1
  rcases hs : c.seekDigit false with ⟨e | none | lead, c'⟩
  · obtain ⟨_, hread, -⟩ := readNumber_of_unbroken hc
    have herror := readNumber_of_error (congrArg Prod.fst hs)
    rw [hread] at herror
    cases herror
  · rw [hs] at hseek
    rw [readNumber_of_end hs]
    exact ⟨hseek.1, fun _ => hseek.2 rfl⟩
  · rw [hs] at hseek hkept
    have hb : c'.Unbroken := (Prod.mk.inj hkept).1.trans hc
    obtain ⟨hle, hlt⟩ := reach_takeDigits hb (appendDigit 0 lead.digit)
    rw [readNumber_of_lead hs]
    exact ⟨Nat.le_trans hseek.1 hle, fun hu => Nat.lt_of_le_of_lt hseek.1 (hlt hu)⟩

/-! ## Calls on a console that lags behind -/

namespace Lags

variable {out rest : Text}

theorem feed {t : Text} (h : Lags out (t ++ rest) c c') : Lags out rest (c.feed t) c' where
  left := ⟨h.left.input, h.left.output, h.left.stage, h.left.lax⟩
  right := h.right
  unread := by rw [unread_feed, List.append_assoc, h.unread]
  written := h.written

theorem drain (h : Lags out rest c c') : Lags (out ++ c.written) rest c.drain.2 c' where
  left := ⟨h.left.input, h.left.output, h.left.stage, h.left.lax⟩
  right := h.right
  unread := h.unread
  written := by rw [written_drain, List.append_nil, h.written]

theorem writeText (h : Lags out rest c c') (t : Text) :
    SameCall out rest (c.writeText t) (c'.writeText t) := by
  have hwritten : (c'.output.take t).text = out ++ (c.output.take t).text := by
    rw [Output.text_take, Output.text_take, ← List.append_assoc]
    exact congrArg (· ++ t) h.written
  have hleft := h.left.writeText t
  have hright := h.right.writeText t
  rw [writeText_of_inMemory h.left] at hleft ⊢
  rw [writeText_of_inMemory h.right] at hright ⊢
  exact ⟨rfl, hleft, hright, h.unread, hwritten⟩

theorem writeChar (h : Lags out rest c c') (n : Int) :
    SameCall out rest (c.writeChar n) (c'.writeChar n) := by
  unfold Console.writeChar
  cases CodePoint.ofInt? n with
  | some ch => exact h.writeText [ch]
  | none => exact ⟨rfl, h⟩

/-- After a read, a console lags as before if the unread text still differs by the same text. -/
theorem readOn {c₁ c₁' : Console} {e? e?' : Option Failure} (h : Lags out rest c c')
    (hread : ReadOn c c₁) (hread' : ReadOn c' c₁') (hs : Served c c₁ e?) (hs' : Served c' c₁' e?')
    (hu : c₁'.unread = c₁.unread ++ rest) : Lags out rest c₁ c₁' where
  left := h.left.readOn hread hs
  right := h.right.readOn hread' hs'
  unread := hu
  written := by
    unfold Console.written
    rw [hread.output, hread'.output]
    exact h.written

theorem readChar (h : Lags out rest c c') (hr : rest = [] ∨ c.readChar.2.reach ≤ c.reach) :
    SameCall out rest c.readChar c'.readChar := by
  obtain ⟨c₁, hread, hu, -⟩ := readChar_of_unbroken h.left.input
  obtain ⟨c₁', hread', hu', -⟩ := readChar_of_unbroken h.right.input
  have hsame : c'.unread.head? = c.unread.head? ∧ c'.unread.tail = c.unread.tail ++ rest := by
    rw [h.unread]
    rcases hr with rfl | hle
    · rw [List.append_nil, List.append_nil]
      exact ⟨rfl, rfl⟩
    · have hne : c.unread ≠ [] := fun hnil =>
        absurd ((reach_readChar h.left.input).2 hnil) (Nat.not_lt.mpr hle)
      obtain ⟨ch, u, hcons⟩ := List.exists_cons_of_ne_nil hne
      rw [hcons]
      exact ⟨rfl, rfl⟩
  refine ⟨?_, h.readOn (readOn_readChar c) (readOn_readChar c') (served_readChar c)
    (served_readChar c') ?_⟩
  · rw [hread, hread', hsame.1]
  · rw [hread, hread', hu, hu', hsame.2]

theorem readNumber (h : Lags out rest c c') (hr : rest = [] ∨ c.readNumber.2.reach ≤ c.reach) :
    SameCall out rest c.readNumber c'.readNumber := by
  obtain ⟨c₁, hread, hu, -⟩ := readNumber_of_unbroken h.left.input
  obtain ⟨c₁', hread', hu', -⟩ := readNumber_of_unbroken h.right.input
  have hsame : c'.unread.numberAhead =
      (c.unread.numberAhead.1, c.unread.numberAhead.2 ++ rest) := by
    rw [h.unread]
    rcases hr with rfl | hle
    · rw [List.append_nil, List.append_nil]
    · have hmet := (reach_readNumber h.left.input).2
      rw [hread] at hmet hle
      exact Text.numberAhead_append
        (fun hnil => absurd (hmet (hu.trans hnil)) (Nat.not_lt.mpr hle)) rest
  refine ⟨?_, h.readOn (readOn_readNumber c) (readOn_readNumber c') (served_readNumber c)
    (served_readNumber c') ?_⟩
  · rw [hread, hread', hsame]
  · rw [hread, hread', hu, hu', hsame]

end Lags

end Console

end Funge93
