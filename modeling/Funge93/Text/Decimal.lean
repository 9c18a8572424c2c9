import Funge93.Text.Basic

/-!
# Decimal numerals

Integers in decimal: no leading zeros, and a minus sign before a negative number.

This file proves how a numeral grows by its last digit (`ofNat_eq`) and that every code point of it
is a digit (`digit?_of_mem_ofNat`).
-/

namespace Funge93.Text

/-- The code point of a digit. -/
def digit (d : Fin 10) : CodePoint := ⟨0x30 + d.val, by omega⟩

/-- The value of an ASCII digit. -/
def digit? (c : CodePoint) : Option (Fin 10) :=
  if h : 0x30 ≤ c.val ∧ c.val ≤ 0x39 then some ⟨c.val - 0x30, by omega⟩ else none

/-- The digits of a natural number before a text. -/
def digitsBefore (n : Nat) (rest : Text) : Text :=
  let text := digit ⟨n % 10, Nat.mod_lt _ (by decide)⟩ :: rest
  if n < 10 then text else digitsBefore (n / 10) text
termination_by n

/-- A natural number in decimal. -/
def ofNat (n : Nat) : Text := digitsBefore n []

/-- An integer in decimal. -/
def ofInt (n : Int) : Text :=
  if n < 0 then CodePoint.minus :: ofNat n.natAbs else ofNat n.natAbs

theorem digit?_digit (d : Fin 10) : digit? (digit d) = some d := by
  revert d
  decide

theorem digit_of_digit? {c : CodePoint} {d : Fin 10} (read : digit? c = some d) :
    digit d = c := by
  unfold digit? at read
  split at read <;> simp_all [digit, Fin.ext_iff]
  omega

theorem digitsBefore_eq (n : Nat) (rest : Text) : digitsBefore n rest = ofNat n ++ rest := by
  induction n using Nat.strongRecOn generalizing rest with
  | ind n ih =>
    have unfolded (t : Text) : digitsBefore n t =
        if n < 10 then digit ⟨n % 10, Nat.mod_lt _ (by decide)⟩ :: t
        else digitsBefore (n / 10) (digit ⟨n % 10, Nat.mod_lt _ (by decide)⟩ :: t) := by
      rw [digitsBefore]
    rw [ofNat, unfolded rest, unfolded []]
    split
    · rfl
    · have smaller : n / 10 < n := by omega
      rw [ih _ smaller (_ :: rest), ih _ smaller [_], List.append_assoc, List.singleton_append]

/-- The last digit comes after the numeral of the other digits. -/
theorem ofNat_eq (n : Nat) :
    ofNat n = (if n < 10 then [] else ofNat (n / 10)) ++
      [digit ⟨n % 10, Nat.mod_lt _ (by decide)⟩] := by
  conv => lhs; rw [ofNat, digitsBefore]
  split
  · rfl
  · rw [digitsBefore_eq]

theorem digit?_of_mem_ofNat {n : Nat} {c : CodePoint} (member : c ∈ ofNat n) :
    (digit? c).isSome = true := by
  induction n using Nat.strongRecOn with
  | ind n ih =>
    rw [ofNat_eq, List.mem_append, List.mem_singleton] at member
    cases member with
    | inl earlier =>
      split at earlier
      · cases earlier
      · exact ih (n / 10) (by omega) earlier
    | inr last =>
      rw [last, digit?_digit]
      rfl

end Funge93.Text
