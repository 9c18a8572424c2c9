import Funge93.Proofs.Console.Streams

/-!
# Printed numbers read back

A console prints a number in decimal with a space behind it, and reads a number from its first digit
on. This module proves that reading undoes printing: the space ends a number and is skipped before
the next one, so it takes no sign away and adds no digit. The numbers are unbounded, and what is
read is the cell of what was printed.

Results:
1. `value_ofNat`: a numeral has the value of its number.
2. `numberAhead_ofInt`: a numeral is read as its number, whatever follows the space behind it.
3. `transcript_numerals`: numbers printed in turn are read in turn.
-/

namespace Funge93

namespace Text

/-- Numbers as they are printed in turn: each in decimal with a space behind it. -/
def numerals (ns : List Int) : Text := ns.flatMap fun n => ofInt n ++ " "

/-! ## One numeral -/

theorem value_append_digit (digits : Text) (d : Fin 10) :
    value (digits ++ [digit d]) = value digits * 10 + d.val := by
  unfold value
  rw [List.foldl_append, List.foldl_cons, List.foldl_nil]
  unfold appendValue
  rw [digit?_digit, Option.elim_some]

/-- A numeral has the value of its number. -/
theorem value_ofNat (n : Nat) : value (ofNat n) = n := by
  induction n using Nat.strongRecOn with
  | ind n ih =>
    rw [ofNat_eq, value_append_digit]
    split
    · next small => exact (Nat.zero_add _).trans (Nat.mod_eq_of_lt small)
    · next large =>
      rw [ih (n / 10) (by omega), Nat.mul_comm]
      exact Nat.div_add_mod n 10

theorem ofNat_ne_nil (n : Nat) : ofNat n ≠ [] := by
  rw [ofNat_eq]
  exact List.append_ne_nil_of_right_ne_nil _ (List.cons_ne_nil _ _)

/-- The digits ahead give the number ahead, with the sign right before them. -/
theorem numberAhead_of_digits {before digits rest : Text}
    (hbefore : ∀ c ∈ before, isDigit c = false) (hdigits : ∀ c ∈ digits, isDigit c = true)
    (hne : digits ≠ []) (hrest : rest.takeWhile isDigit = []) :
    (before ++ (digits ++ rest)).numberAhead =
      (some (if before.getLast? = some CodePoint.minus then -(value digits : Int)
        else value digits), rest) := by
  obtain ⟨d, ds, rfl⟩ := List.exists_cons_of_ne_nil hne
  obtain ⟨hd, hds⟩ := List.forall_mem_cons.mp hdigits
  have hskip : ∀ c ∈ before, (!isDigit c) = true := fun c hc => by rw [hbefore c hc]; rfl
  have hstop : ¬ (!isDigit d) = true := by rw [hd]; decide
  have htake : (before ++ d :: (ds ++ rest)).takeWhile (!isDigit ·) = before := by
    rw [List.takeWhile_append_of_pos hskip, List.takeWhile_cons_of_neg (p := (!isDigit ·)) hstop,
      List.append_nil]
  have hdrop : (before ++ d :: (ds ++ rest)).dropWhile (!isDigit ·) = d :: (ds ++ rest) := by
    rw [List.dropWhile_append_of_pos hskip, List.dropWhile_cons_of_neg (p := (!isDigit ·)) hstop]
  have hbehind : rest.dropWhile isDigit = rest := by
    have hsplit := List.takeWhile_append_dropWhile (p := isDigit) (l := rest)
    rwa [hrest, List.nil_append] at hsplit
  rw [List.cons_append, numberAhead_of_digit hdrop hd, htake, List.takeWhile_append_of_pos hds,
    List.dropWhile_append_of_pos hds, hrest, hbehind, List.append_nil]

/-- A numeral with a space behind it is read as its number, also after further spaces. The space
behind it stays unread. -/
theorem numberAhead_ofInt (spaces : Nat) (n : Int) (rest : Text) :
    numberAhead (List.replicate spaces CodePoint.space ++ (ofInt n ++ (" " ++ rest))) =
      (some n, " " ++ rest) := by
  have hspaces : ∀ c ∈ List.replicate spaces CodePoint.space, isDigit c = false := fun c hc => by
    rw [List.eq_of_mem_replicate hc]
    rfl
  have hdigits : ∀ c ∈ ofNat n.natAbs, isDigit c = true := fun c => digit?_of_mem_ofNat
  have hend : (" " ++ rest : Text).takeWhile isDigit = [] := rfl
  have hread (before : Text) (hbefore : ∀ c ∈ before, isDigit c = false) :=
    numberAhead_of_digits hbefore hdigits (ofNat_ne_nil n.natAbs) hend
  unfold ofInt
  split
  · next negative =>
    have h := hread (List.replicate spaces CodePoint.space ++ [CodePoint.minus]) fun c hc => by
      rcases List.mem_append.mp hc with hc | hc
      · exact hspaces c hc
      · rw [List.mem_singleton.mp hc]
        rfl
    rw [if_pos List.getLast?_concat, value_ofNat, List.append_assoc] at h
    rw [show -(n.natAbs : Int) = n by omega] at h
    exact h
  · next nonnegative =>
    have hsign : (List.replicate spaces CodePoint.space).getLast? ≠ some CodePoint.minus := by
      rw [List.getLast?_replicate]
      split <;> decide
    have h := hread (List.replicate spaces CodePoint.space) hspaces
    rw [if_neg hsign, value_ofNat] at h
    rw [show (n.natAbs : Int) = n by omega] at h
    exact h

/-! ## Numerals in turn -/

theorem numerals_cons (n : Int) (ns : List Int) (t : Text) :
    numerals (n :: ns) ++ t = ofInt n ++ (" " ++ (numerals ns ++ t)) := by
  unfold numerals
  rw [List.flatMap_cons, List.append_assoc, List.append_assoc]

theorem numerals_concat (ns : List Int) (n : Int) :
    numerals (ns ++ [n]) = numerals ns ++ (ofInt n ++ " ") := by
  unfold numerals
  rw [List.flatMap_append, List.flatMap_singleton]

end Text

namespace Console

/-- Writes numbers in turn, up to the first failure. -/
def writeNumbers (c : Console) : List Int → Option Failure × Console
  | [] => (none, c)
  | n :: ns =>
    match c.writeNumber n with
    | (none, c') => c'.writeNumbers ns
    | (some e, c') => (some e, c')

theorem writeNumber_of_inMemory {c : Console} (hc : c.InMemory) (n : Int) :
    (c.writeNumber n).1 = none ∧ (c.writeNumber n).2.InMemory ∧
      (c.writeNumber n).2.written = c.written ++ (Text.ofInt n ++ " ") := by
  have hmemory := hc.writeText (Text.ofInt n ++ " ")
  unfold writeNumber
  rw [writeText_of_inMemory hc] at hmemory ⊢
  exact ⟨rfl, hmemory, Output.text_take _ _⟩

theorem writeNumbers_of_inMemory {c : Console} (hc : c.InMemory) (ns : List Int) :
    (c.writeNumbers ns).1 = none ∧
      (c.writeNumbers ns).2.written = c.written ++ Text.numerals ns := by
  induction ns generalizing c with
  | nil => exact ⟨rfl, (List.append_nil _).symm⟩
  | cons n ns ih =>
    obtain ⟨hnone, hc', hwritten⟩ := writeNumber_of_inMemory hc n
    obtain ⟨hrest, hwritten'⟩ := ih hc'
    have hfirst : c.writeNumber n = (none, (c.writeNumber n).2) := Prod.ext hnone rfl
    unfold writeNumbers
    rw [hfirst]
    refine ⟨hrest, hwritten'.trans ?_⟩
    rw [hwritten, List.append_assoc]
    rfl

/-- Reading as many numbers as were printed gives the cells of these numbers, and leaves the space
behind the last one. -/
theorem transcript_numerals (spaces : Nat) (ns : List Int) (t : Text) :
    transcript cursor (ns.map fun _ => .readNumber)
        (List.replicate spaces CodePoint.space ++ (Text.numerals ns ++ t)) =
      (ns.map fun n => .number (some (Cell.ofInt n)),
        List.replicate (if ns = [] then spaces else 1) CodePoint.space ++ t) := by
  induction ns generalizing spaces with
  | nil => rfl
  | cons n ns ih =>
    have hnext : " " ++ (Text.numerals ns ++ t) =
        List.replicate 1 CodePoint.space ++ (Text.numerals ns ++ t) := rfl
    rw [List.map_cons, transcript_cons, cursor, Text.numerals_cons, Text.numberAhead_ofInt]
    dsimp only
    rw [hnext, ih 1, if_neg (List.cons_ne_nil n ns), ite_self]
    rfl

end Console

end Funge93
