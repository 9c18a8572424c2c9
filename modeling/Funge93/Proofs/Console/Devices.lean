import Funge93.Console

/-!
# What console calls keep, and how they fail

A read or a write moves text and counts calls. It never changes how the two devices of a console
are set to break down. So the ways in which a console can fail are known from the start, however
long it has been in use.

Results:
1. `served_readChar`, `served_readNumber`, `served_writeNumber`, `served_writeChar`: every call
   keeps the breakdowns, and fails only for one of the reasons in `Fails`.
2. `Fails.isFault`: on devices that only refuse calls, every failure is a fault.
-/

namespace Funge93.Console

/-- How the two devices are set to break down. -/
def breakdowns (c : Console) : Option Breakdown × Option Breakdown :=
  (c.input.breakdown, c.output.breakdown)

/-- The ways in which a call on a console can fail. -/
inductive Fails (c : Console) : Failure → Prop
  | read {b : Breakdown} : c.input.breakdown = some b → Fails c b.error.ofRead
  | write {b : Breakdown} : c.output.breakdown = some b → Fails c b.error.ofWrite
  | unencodable (reason : Text) : Fails c (.fault (.outputFailed reason))
  | notACharacter (number : Int) : Fails c (.fault (.notACharacter number))

/-- A call keeps the breakdowns of a console and has a reason for every failure. -/
def Served (c c' : Console) (failure? : Option Failure) : Prop :=
  c'.breakdowns = c.breakdowns ∧ ∀ e, failure? = some e → c.Fails e

/-- The failure in the answer of a read. -/
def failure? {α : Type} : Except Failure α → Option Failure
  | .ok _ => none
  | .error e => some e

/-- The devices never break down in another way than by refusing calls. -/
def FaultsOnly (c : Console) : Prop :=
  (∀ b, c.input.breakdown = some b → ∃ reason, b.error = .refused reason) ∧
  (∀ b, c.output.breakdown = some b → ∃ reason, b.error = .refused reason)

namespace Fails

theorem congr {c c' : Console} {e : Failure} (hb : c'.breakdowns = c.breakdowns)
    (h : c'.Fails e) : c.Fails e := by
  obtain ⟨hi, ho⟩ := Prod.mk.inj hb
  cases h with
  | read h => exact .read (hi ▸ h)
  | write h => exact .write (ho ▸ h)
  | unencodable reason => exact .unencodable reason
  | notACharacter number => exact .notACharacter number

theorem isFault {c : Console} {e : Failure} (hc : c.FaultsOnly) (h : c.Fails e) :
    ∃ f, e = .fault f := by
  cases h with
  | read h =>
    obtain ⟨reason, hr⟩ := hc.1 _ h
    exact ⟨.inputFailed reason, by rw [hr]; rfl⟩
  | write h =>
    obtain ⟨reason, hr⟩ := hc.2 _ h
    exact ⟨.outputFailed reason, by rw [hr]; rfl⟩
  | unencodable reason => exact ⟨_, rfl⟩
  | notACharacter number => exact ⟨_, rfl⟩

end Fails

theorem FaultsOnly.congr {c c' : Console} (hb : c'.breakdowns = c.breakdowns)
    (h : c.FaultsOnly) : c'.FaultsOnly := by
  obtain ⟨hi, ho⟩ := Prod.mk.inj hb
  exact ⟨fun b hb => h.1 b (hi ▸ hb), fun b hb => h.2 b (ho ▸ hb)⟩

/-! ## Reads -/

theorem Served.trans {c c' c'' : Console} {e? : Option Failure} (h : Served c c' none)
    (h' : Served c' c'' e?) : Served c c'' e? :=
  ⟨h'.1.trans h.1, fun e he => (h'.2 e he).congr h.1⟩

theorem served_of_take_eq_ok {c c' : Console} {ch : Option CodePoint}
    (h : c.take = .ok (ch, c')) : Served c c' none := by
  unfold take at h
  split at h
  · cases h
    exact ⟨rfl, nofun⟩
  · split at h <;> cases h
    next read =>
    unfold Input.next at read
    split at read <;> cases read
    exact ⟨rfl, nofun⟩

theorem fails_of_take_eq_error {c : Console} {e : Failure} (h : c.take = .error e) :
    c.Fails e := by
  unfold take at h
  split at h
  · cases h
  · split at h <;> cases h
    next read =>
    unfold Input.next at read
    split at read <;> cases read
    next due =>
    obtain ⟨b, hb, hdue⟩ := Option.bind_eq_some_iff.mp due
    split at hdue <;> cases hdue
    exact .read hb

theorem served_readChar (c : Console) : Served c c.readChar.2 (failure? c.readChar.1) := by
  unfold readChar
  split
  · next h => exact ⟨rfl, fun e he => Option.some.inj he ▸ fails_of_take_eq_error h⟩
  · next h => exact served_of_take_eq_ok h

theorem served_seekDigit (c : Console) (afterMinus : Bool) :
    Served c (c.seekDigit afterMinus).2 (failure? (c.seekDigit afterMinus).1) := by
  fun_induction seekDigit c afterMinus with
  | case1 c _ e h => exact ⟨rfl, fun _ he => Option.some.inj he ▸ fails_of_take_eq_error h⟩
  | case2 c _ c' h => exact served_of_take_eq_ok h
  | case3 c _ ch c' h => exact served_of_take_eq_ok h
  | case4 c _ ch c' h _ ih => exact (served_of_take_eq_ok h).trans ih

theorem served_takeDigits (c : Console) (value : Cell) :
    Served c (c.takeDigits value).2 (failure? (c.takeDigits value).1) := by
  fun_induction takeDigits c value with
  | case1 c _ e h => exact ⟨rfl, fun _ he => Option.some.inj he ▸ fails_of_take_eq_error h⟩
  | case2 c _ c' h => exact served_of_take_eq_ok h
  | case3 c _ ch c' h _ _ ih => exact (served_of_take_eq_ok h).trans ih
  | case4 c _ ch c' h => exact ⟨(served_of_take_eq_ok h).1, nofun⟩

theorem served_readNumber (c : Console) :
    Served c c.readNumber.2 (failure? c.readNumber.1) := by
  have hseek := served_seekDigit c false
  unfold readNumber
  split
  · next hs => rwa [hs] at hseek
  · next hs => rwa [hs] at hseek
  · next lead c' hs =>
    rw [hs] at hseek
    have htake := served_takeDigits c' (appendDigit 0 lead.digit)
    split <;> next ht => rw [ht] at htake; exact hseek.trans htake

/-! ## Writes -/

theorem breakdown_put (o : Output) (t : Text) : (o.put t).2.breakdown = o.breakdown := by
  unfold Output.put
  split <;> rfl

/-- A device fails as it is set to break down, or because a text has no encoding. -/
theorem eq_of_put_eq_some {o : Output} {t : Text} {e : DeviceError} (h : (o.put t).1 = some e) :
    (∃ b, o.breakdown = some b ∧ e = b.error) ∨ ∃ reason, e = .refused reason := by
  have planned (hd : Breakdown.due o.breakdown o.writes = some e) :
      ∃ b, o.breakdown = some b ∧ e = b.error := by
    obtain ⟨b, hb, hdue⟩ := Option.bind_eq_some_iff.mp hd
    split at hdue <;> cases hdue
    exact ⟨b, hb, rfl⟩
  unfold Output.put at h
  split at h
  · next hr =>
    cases h
    unfold Output.refusal at hr
    split at hr
    · next hd => cases hr; exact .inl (planned hd)
    · split at hr
      · obtain ⟨reason, _, rfl⟩ := Option.map_eq_some_iff.mp hr
        exact .inr ⟨reason, rfl⟩
      · cases hr
  · replace h : o.aftermath = some e := h
    unfold Output.aftermath at h
    split at h
    · cases h
    · exact .inl (planned h)

theorem served_writeText (c : Console) (t : Text) :
    Served c (c.writeText t).2 (c.writeText t).1 := by
  unfold writeText
  refine ⟨Prod.ext rfl (breakdown_put c.output t), fun e he => ?_⟩
  obtain ⟨d, hd, rfl⟩ := Option.map_eq_some_iff.mp he
  rcases eq_of_put_eq_some hd with ⟨b, hb, rfl⟩ | ⟨reason, rfl⟩
  · exact .write hb
  · exact .unencodable reason

theorem served_writeNumber (c : Console) (n : Int) :
    Served c (c.writeNumber n).2 (c.writeNumber n).1 := served_writeText c _

theorem served_writeChar (c : Console) (n : Int) :
    Served c (c.writeChar n).2 (c.writeChar n).1 := by
  unfold writeChar
  split
  · exact served_writeText c _
  · exact ⟨rfl, fun e he => Option.some.inj he ▸ .notACharacter n⟩

end Funge93.Console
