import Funge93.Proofs.Console.Streams

/-!
# Consoles that write UTF-8

UTF-8 has no encoding for surrogates, so a device that writes UTF-8 refuses a text with a surrogate
in it. This module compares a console in memory with a console on devices that never fail, of which
the output writes UTF-8. They give the same answer to every call, unless it writes a surrogate.

Results:
1. `encodable_ofInt`: numerals can be encoded.
2. `Encodes.writeText`, `Encodes.readNumber`, `Encodes.readChar`: calls that get the same answer.
3. `Encodes.writeText_of_refused`: a text that cannot be encoded is refused, and nothing is kept.
-/

namespace Funge93

namespace Text

/-- UTF-8 can encode the text: there are no surrogates in it. -/
def Encodable (t : Text) : Prop := ∀ ch ∈ t, ch.isSurrogate = false

-- The instance for all elements of a list, and not the one for all code points there are.
instance Encodable.decidable (t : Text) : Decidable t.Encodable := List.decidableBAll _ t

theorem encodable_append {t u : Text} : (t ++ u).Encodable ↔ t.Encodable ∧ u.Encodable :=
  List.forall_mem_append

theorem encodable_ofNat (n : Nat) : (ofNat n).Encodable := by
  intro ch hch
  have hdigit := digit?_of_mem_ofNat hch
  unfold digit? at hdigit
  split at hdigit
  · next hrange =>
    have hlow : ¬ 0xD800 ≤ ch.val := fun h => absurd (Nat.le_trans h hrange.2) (by decide)
    exact Bool.and_eq_false_imp.mpr fun h => absurd (of_decide_eq_true h) hlow
  · cases hdigit

theorem encodable_ofInt (n : Int) : (ofInt n).Encodable := by
  unfold ofInt
  split
  · exact List.forall_mem_cons.mpr ⟨rfl, encodable_ofNat _⟩
  · exact encodable_ofNat _

end Text

/-- A device that writes UTF-8 and never fails takes a text unless the encoding refuses it. -/
theorem Output.put_of_utf8 {o : Output} (unbroken : o.breakdown = none) (strict : o.utf8 = true)
    (t : Text) :
    o.put t = match Utf8.encodeRefusal? t with
      | none => (none, o.take t)
      | some reason => (some (.refused reason), o) := by
  have hrefusal : o.refusal t = (Utf8.encodeRefusal? t).map .refused := by
    rw [refusal_of_unbroken unbroken, strict]
    rfl
  unfold put
  rw [hrefusal]
  cases Utf8.encodeRefusal? t with
  | none => exact congrArg (·, o.take t) (aftermath_of_unbroken unbroken)
  | some reason => rfl

namespace Console

/-- `Encodes c c'`: the console `c` is in memory, and the console `c'` has the same text ahead of it
and behind it, on devices that never fail, of which the output writes UTF-8. -/
structure Encodes (c c' : Console) : Prop where
  inMemory : c.InMemory
  unbroken : c'.Unbroken
  lasting : c'.output.breakdown = none
  strict : c'.output.utf8 = true
  unread : c'.unread = c.unread
  written : c'.written = c.written

variable {c c' : Console}

namespace Encodes

/-! ## Writes -/

theorem writeText (h : Encodes c c') {t : Text} (ht : t.Encodable) :
    (c'.writeText t).1 = (c.writeText t).1 ∧ Encodes (c.writeText t).2 (c'.writeText t).2 := by
  have hput := Output.put_of_utf8 h.lasting h.strict t
  rw [Utf8.encodeRefusal?_eq_none.mpr ht] at hput
  have hwrite : c'.writeText t = (none, { c' with output := c'.output.take t }) := by
    unfold Console.writeText
    rw [hput]
    rfl
  have hwritten : (c'.output.take t).text = (c.output.take t).text := by
    rw [Output.text_take, Output.text_take]
    exact congrArg (· ++ t) h.written
  have hmemory := h.inMemory.writeText t
  rw [writeText_of_inMemory h.inMemory] at hmemory ⊢
  rw [hwrite]
  exact ⟨rfl, hmemory, h.unbroken, h.lasting, h.strict, h.unread, hwritten⟩

/-- A text that cannot be encoded is refused, and nothing of it is kept. -/
theorem writeText_of_refused (h : Encodes c c') {t reason : Text}
    (ht : Utf8.encodeRefusal? t = some reason) :
    c'.writeText t = (some (.fault (.outputFailed reason)), c') := by
  have hput := Output.put_of_utf8 h.lasting h.strict t
  rw [ht] at hput
  unfold Console.writeText
  rw [hput]
  rfl

theorem writeChar (h : Encodes c c') {n : Int}
    (hn : ∀ ch, CodePoint.ofInt? n = some ch → ch.isSurrogate = false) :
    (c'.writeChar n).1 = (c.writeChar n).1 ∧ Encodes (c.writeChar n).2 (c'.writeChar n).2 := by
  unfold Console.writeChar
  cases hch : CodePoint.ofInt? n with
  | some ch => exact h.writeText (List.forall_mem_singleton.mpr (hn ch hch))
  | none => exact ⟨rfl, h⟩

/-! ## Reads -/

/-- After a read, the consoles are as before if the same text is left unread. -/
theorem readOn {c₁ c₁' : Console} {e? e?' : Option Failure} (h : Encodes c c')
    (hread : ReadOn c c₁) (hread' : ReadOn c' c₁') (hs : Served c c₁ e?) (hs' : Served c' c₁' e?')
    (hu : c₁'.unread = c₁.unread) : Encodes c₁ c₁' where
  inMemory := h.inMemory.readOn hread hs
  unbroken := (Prod.mk.inj hs'.1).1.trans h.unbroken
  lasting := hread'.output ▸ h.lasting
  strict := hread'.output ▸ h.strict
  unread := hu
  written := by
    unfold Console.written
    rw [hread.output, hread'.output]
    exact h.written

theorem readNumber (h : Encodes c c') :
    c'.readNumber.1 = c.readNumber.1 ∧ Encodes c.readNumber.2 c'.readNumber.2 := by
  obtain ⟨c₁, hread, hu, -⟩ := readNumber_of_unbroken h.inMemory.input
  obtain ⟨c₁', hread', hu', -⟩ := readNumber_of_unbroken h.unbroken
  refine ⟨?_, h.readOn (readOn_readNumber c) (readOn_readNumber c') (served_readNumber c)
    (served_readNumber c') ?_⟩
  · rw [hread, hread', h.unread]
  · rw [hread, hread', hu, hu', h.unread]

theorem readChar (h : Encodes c c') :
    c'.readChar.1 = c.readChar.1 ∧ Encodes c.readChar.2 c'.readChar.2 := by
  obtain ⟨c₁, hread, hu, -⟩ := readChar_of_unbroken h.inMemory.input
  obtain ⟨c₁', hread', hu', -⟩ := readChar_of_unbroken h.unbroken
  refine ⟨?_, h.readOn (readOn_readChar c) (readOn_readChar c') (served_readChar c)
    (served_readChar c') ?_⟩
  · rw [hread, hread', h.unread]
  · rw [hread, hread', hu, hu', h.unread]

end Encodes

end Console

end Funge93
