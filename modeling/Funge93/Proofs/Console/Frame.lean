import Funge93.Proofs.Console.Devices

/-!
# What console calls leave alone

A read takes from the input and never touches the output, however it ends. A write never touches
the input. On a device that drops the text of a failed write, a failed write changes nothing at all.

Results:
1. `readOn_readChar`, `readOn_readNumber`: a read keeps the output and only counts reads up. No call
   changes the kind of a console.
2. `writeText_of_failed`, `writeChar_of_failed`: a failed write leaves the console as it was.
3. `DropsFailedWrites.writeText`, `DropsFailedWrites.readOn`: no call changes how writes fail.
-/

namespace Funge93

/-- Nothing of a failed write is kept. -/
def Output.DropsFailedWrites (o : Output) : Prop := o.stage = .write ∨ o.breakdown = none

theorem Output.put_of_failed {o : Output} (h : o.DropsFailedWrites) {t : Text} {e : DeviceError}
    (he : (o.put t).1 = some e) : (o.put t).2 = o := by
  unfold put at he ⊢
  cases hr : o.refusal t with
  | some e' => rfl
  | none =>
    rw [hr] at he
    replace he : o.aftermath = some e := he
    unfold aftermath at he
    rcases h with hs | hb
    · rw [hs] at he
      cases he
    · rw [hb] at he
      cases hs : o.stage <;> rw [hs] at he <;> cases he

theorem Output.DropsFailedWrites.put {o : Output} (h : o.DropsFailedWrites) (t : Text) :
    (o.put t).2.DropsFailedWrites := by
  unfold Output.put
  cases o.refusal t with
  | some e => exact h
  | none => exact h

namespace Console

/-- Nothing of a failed write is kept. -/
def DropsFailedWrites (c : Console) : Prop := c.output.DropsFailedWrites

/-- `ReadOn c c'`: reads lead from the console `c` to the console `c'`. -/
structure ReadOn (c c' : Console) : Prop where
  kind : c'.kind = c.kind
  output : c'.output = c.output
  reads : c.input.reads ≤ c'.input.reads

/-! ## Reads -/

theorem ReadOn.refl (c : Console) : ReadOn c c := ⟨rfl, rfl, Nat.le_refl _⟩

theorem ReadOn.trans {c c' c'' : Console} (h : ReadOn c c') (h' : ReadOn c' c'') :
    ReadOn c c'' :=
  ⟨h'.kind.trans h.kind, h'.output.trans h.output, Nat.le_trans h.reads h'.reads⟩

theorem readOn_of_take {c c' : Console} {ch : Option CodePoint} (h : c.take = .ok (ch, c')) :
    ReadOn c c' := by
  unfold take at h
  split at h
  · cases h
    exact ⟨rfl, rfl, Nat.le_refl _⟩
  · split at h <;> cases h
    next read =>
    unfold Input.next at read
    split at read <;> cases read
    exact ⟨rfl, rfl, Nat.le_succ _⟩

theorem readOn_readChar (c : Console) : ReadOn c c.readChar.2 := by
  unfold readChar
  split
  · exact .refl c
  · next h => exact readOn_of_take h

theorem readOn_seekDigit (c : Console) (afterMinus : Bool) :
    ReadOn c (c.seekDigit afterMinus).2 := by
  fun_induction seekDigit c afterMinus with
  | case1 c _ e h => exact .refl c
  | case2 c _ c' h => exact readOn_of_take h
  | case3 c _ ch c' h => exact readOn_of_take h
  | case4 c _ ch c' h _ ih => exact (readOn_of_take h).trans ih

theorem readOn_takeDigits (c : Console) (value : Cell) : ReadOn c (c.takeDigits value).2 := by
  fun_induction takeDigits c value with
  | case1 c _ e h => exact .refl c
  | case2 c _ c' h => exact readOn_of_take h
  | case3 c _ ch c' h _ _ ih => exact (readOn_of_take h).trans ih
  | case4 c _ ch c' h =>
    have hc := readOn_of_take h
    exact ⟨hc.kind, hc.output, hc.reads⟩

theorem readOn_readNumber (c : Console) : ReadOn c c.readNumber.2 := by
  have hseek := readOn_seekDigit c false
  unfold readNumber
  split
  · next hs => rwa [hs] at hseek
  · next hs => rwa [hs] at hseek
  · next lead c' hs =>
    rw [hs] at hseek
    have htake := readOn_takeDigits c' (appendDigit 0 lead.digit)
    split <;> next ht => rw [ht] at htake; exact hseek.trans htake

theorem DropsFailedWrites.readOn {c c' : Console} (h : c.DropsFailedWrites) (hc : ReadOn c c') :
    c'.DropsFailedWrites := by
  unfold DropsFailedWrites
  rw [hc.output]
  exact h

/-! ## Writes -/

theorem input_writeChar (c : Console) (n : Int) : (c.writeChar n).2.input = c.input := by
  unfold writeChar
  split <;> rfl

theorem kind_writeChar (c : Console) (n : Int) : (c.writeChar n).2.kind = c.kind := by
  unfold writeChar
  split <;> rfl

theorem unread_writeChar (c : Console) (n : Int) : (c.writeChar n).2.unread = c.unread := by
  unfold writeChar
  split <;> rfl

theorem writeText_of_failed {c : Console} (h : c.DropsFailedWrites) {t : Text} {e : Failure}
    (he : (c.writeText t).1 = some e) : (c.writeText t).2 = c := by
  obtain ⟨d, hd, -⟩ := Option.map_eq_some_iff.mp he
  show { c with output := (c.output.put t).2 } = c
  rw [Output.put_of_failed h hd]

theorem writeChar_of_failed {c : Console} (h : c.DropsFailedWrites) {n : Int} {e : Failure}
    (he : (c.writeChar n).1 = some e) : (c.writeChar n).2 = c := by
  unfold writeChar at he ⊢
  cases hn : CodePoint.ofInt? n with
  | some ch =>
    rw [hn] at he
    exact writeText_of_failed h he
  | none => rfl

theorem DropsFailedWrites.writeText {c : Console} (h : c.DropsFailedWrites) (t : Text) :
    (c.writeText t).2.DropsFailedWrites :=
  Output.DropsFailedWrites.put h t

theorem DropsFailedWrites.writeChar {c : Console} (h : c.DropsFailedWrites) (n : Int) :
    (c.writeChar n).2.DropsFailedWrites := by
  unfold Console.writeChar
  split
  · exact h.writeText _
  · exact h

end Console

end Funge93
