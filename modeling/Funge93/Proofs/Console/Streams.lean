import Funge93.Proofs.Console.Cursor
import Funge93.Proofs.Console.Frame

/-!
# Consoles over streams that break down

Take a console in memory and put it on two streams that refuse every call after a number of calls.
As long as a call on the console in memory stays within these numbers, the call on the streams does
the same. As soon as it goes beyond, the call on the streams is refused, even in the middle of a
number.

Results:
1. `cut_readChar`, `cut_readNumber`: a read on streams, against the same read in memory.
2. `cut_writeText`, `cut_writeChar`: a write on streams, against the same write in memory.
-/

namespace Funge93

/-- How many reads and writes two streams allow, and with what reason they refuse the others. -/
structure StreamPlan where
  reads : Nat
  readReason : Text
  writes : Nat
  writeReason : Text

namespace StreamPlan

/-- The failure of a read beyond the plan. -/
def readFailure (p : StreamPlan) : Failure := .fault (.inputFailed p.readReason)

/-- The failure of a write beyond the plan. -/
def writeFailure (p : StreamPlan) : Failure := .fault (.outputFailed p.writeReason)

/-- The input device with the breakdown that a plan has for it. -/
def ofInput (p : StreamPlan) (i : Input) : Input :=
  { i with breakdown := some ⟨p.reads, .refused p.readReason⟩ }

/-- The output device with the breakdown that a plan has for it. -/
def ofOutput (p : StreamPlan) (o : Output) : Output :=
  { o with breakdown := some ⟨p.writes, .refused p.writeReason⟩ }

end StreamPlan

namespace Console

/-- The devices of the console never fail, and take every text. -/
structure InMemory (c : Console) : Prop where
  input : c.Unbroken
  output : c.output.breakdown = none
  stage : c.output.stage = .write
  lax : c.output.utf8 = false

/-- The console with its devices made into two streams that break down as planned. -/
def onStreams (p : StreamPlan) (c : Console) : Console where
  kind := .stream
  pending := c.pending
  input := p.ofInput c.input
  output := p.ofOutput c.output

/-- `CutRead p r r'`: the result `r'` of a read on streams is the result `r` of the read in memory
if the plan allows for all its reads, and is refused otherwise. -/
structure CutRead {α : Type} (p : StreamPlan) (r r' : Except Failure α × Console) : Prop where
  within : r.2.input.reads ≤ p.reads → r' = (r.1, r.2.onStreams p)
  beyond : p.reads < r.2.input.reads → r'.1 = .error p.readFailure

/-- `CutWrite p c r r'`: the result `r'` of a write on streams is the result `r` of the write in
memory if the plan allows for it, and is refused otherwise, with the console left as it was. -/
structure CutWrite (p : StreamPlan) (c : Console) (r r' : Option Failure × Console) : Prop where
  within : r.2.output.writes ≤ p.writes → r' = (r.1, r.2.onStreams p)
  beyond : p.writes < r.2.output.writes → r' = (some p.writeFailure, c.onStreams p)

variable {p : StreamPlan} {c c' : Console}

/-! ## Single characters -/

theorem unbroken_of_take {ch : Option CodePoint} (hc : c.Unbroken) (h : c.take = .ok (ch, c')) :
    c'.Unbroken := by
  have hb := (served_of_take_eq_ok h).1
  exact (Prod.mk.inj hb).1.trans hc

theorem take_ne_error (hc : c.Unbroken) (e : Failure) : c.take ≠ .error e := by
  intro he
  obtain ⟨c', ht, -⟩ := take_of_unbroken hc
  rw [ht] at he
  cases he

/-- Taking gives up the pending character, or else reads one. -/
theorem take_cases {ch : Option CodePoint} (h : c.take = .ok (ch, c')) :
    (c.pending.isSome ∧ ch = c.pending ∧ c' = { c with pending := none }) ∨
    (c.pending = none ∧ ch = c.input.text.head? ∧ c' = { c with
      input := { c.input with text := c.input.text.tail, reads := c.input.reads + 1 } }) := by
  unfold take at h
  cases hp : c.pending with
  | some pending =>
    rw [hp] at h
    cases h
    exact .inl ⟨rfl, rfl, rfl⟩
  | none =>
    rw [hp] at h
    dsimp only at h
    cases hnext : c.input.next with
    | error e =>
      rw [hnext] at h
      cases h
    | ok r =>
      rw [hnext] at h
      cases h
      unfold Input.next at hnext
      split at hnext <;> cases hnext
      exact .inr ⟨rfl, rfl, by rw [← hp]⟩

theorem take_within {ch : Option CodePoint} (h : c.take = .ok (ch, c'))
    (hc : c'.input.reads ≤ p.reads) : (c.onStreams p).take = .ok (ch, c'.onStreams p) := by
  unfold take
  rw [show (c.onStreams p).pending = c.pending from rfl]
  rcases take_cases h with ⟨hp, rfl, rfl⟩ | ⟨hp, rfl, rfl⟩
  · obtain ⟨pending, hp⟩ := Option.isSome_iff_exists.mp hp
    rw [hp]
    rfl
  · have hdue : Breakdown.due (c.onStreams p).input.breakdown (c.onStreams p).input.reads = none :=
      if_neg (Nat.not_le.mpr hc)
    rw [hp]
    dsimp only
    unfold Input.next
    rw [hdue]
    simp only [onStreams, hp]
    rfl

theorem take_beyond {ch : Option CodePoint} (h : c.take = .ok (ch, c'))
    (hle : c.input.reads ≤ p.reads) (hc : p.reads < c'.input.reads) :
    (c.onStreams p).take = .error p.readFailure := by
  unfold take
  rw [show (c.onStreams p).pending = c.pending from rfl]
  rcases take_cases h with ⟨hp, rfl, rfl⟩ | ⟨hp, rfl, rfl⟩
  · -- A pending character is taken without a read, so it cannot go beyond the plan.
    exact absurd hc (Nat.not_lt.mpr hle)
  · have hdue : Breakdown.due (c.onStreams p).input.breakdown (c.onStreams p).input.reads =
        some (.refused p.readReason) := if_pos (Nat.le_of_lt_succ hc)
    rw [hp]
    dsimp only
    unfold Input.next
    rw [hdue]
    rfl

theorem cut_readChar (hc : c.Unbroken) (hle : c.input.reads ≤ p.reads) :
    CutRead p c.readChar (c.onStreams p).readChar := by
  obtain ⟨c', ht, -⟩ := take_of_unbroken hc
  unfold readChar
  rw [ht]
  constructor
  · intro hwithin
    rw [take_within ht hwithin]
  · intro hbeyond
    rw [take_beyond ht hle hbeyond]

/-! ## Numbers -/

/-- A call whose first read is beyond the plan is refused, whatever it does in memory. -/
theorem CutRead.of_refused {α : Type} {r r' : Except Failure α × Console}
    (hr : p.reads < r.2.input.reads) (h : r'.1 = .error p.readFailure) : CutRead p r r' :=
  ⟨fun hle => absurd hr (Nat.not_lt.mpr hle), fun _ => h⟩

theorem CutRead.map {α β : Type} {r r' : Except Failure α × Console} (h : CutRead p r r')
    (f : α → β) : CutRead p (r.1.map f, r.2) (r'.1.map f, r'.2) where
  within hwithin := by rw [h.within hwithin]
  beyond hbeyond := by
    rw [h.beyond hbeyond]
    rfl

theorem cut_seekDigit (hc : c.Unbroken) (hle : c.input.reads ≤ p.reads) (afterMinus : Bool) :
    CutRead p (c.seekDigit afterMinus) ((c.onStreams p).seekDigit afterMinus) := by
  fun_induction seekDigit c afterMinus with
  | case1 c _ e h => exact absurd h (take_ne_error hc e)
  | case2 c afterMinus c' h =>
    constructor
    · intro hwithin
      rw [seekDigit_of_end (take_within h hwithin)]
    · intro hbeyond
      rw [seekDigit_of_error (take_beyond h hle hbeyond)]
  | case3 c afterMinus ch c' h d hd =>
    constructor
    · intro hwithin
      rw [seekDigit_of_some (take_within h hwithin), hd]
    · intro hbeyond
      rw [seekDigit_of_error (take_beyond h hle hbeyond)]
  | case4 c afterMinus ch c' h hd ih =>
    rcases Nat.lt_or_ge p.reads c'.input.reads with hbeyond | hwithin
    · refine .of_refused (Nat.lt_of_lt_of_le hbeyond (readOn_seekDigit c' _).reads) ?_
      rw [seekDigit_of_error (take_beyond h hle hbeyond)]
    · rw [seekDigit_of_some (take_within h hwithin), hd]
      exact ih (unbroken_of_take hc h) hwithin

theorem cut_takeDigits (hc : c.Unbroken) (hle : c.input.reads ≤ p.reads) (v : Cell) :
    CutRead p (c.takeDigits v) ((c.onStreams p).takeDigits v) := by
  fun_induction takeDigits c v with
  | case1 c _ e h => exact absurd h (take_ne_error hc e)
  | case2 c v c' h =>
    constructor
    · intro hwithin
      rw [takeDigits_of_end (take_within h hwithin)]
    · intro hbeyond
      rw [takeDigits_of_error (take_beyond h hle hbeyond)]
  | case3 c v ch c' h d hd ih =>
    rcases Nat.lt_or_ge p.reads c'.input.reads with hbeyond | hwithin
    · refine .of_refused (Nat.lt_of_lt_of_le hbeyond (readOn_takeDigits c' _).reads) ?_
      rw [takeDigits_of_error (take_beyond h hle hbeyond)]
    · rw [takeDigits_of_some (take_within h hwithin), hd]
      exact ih (unbroken_of_take hc h) hwithin
  | case4 c v ch c' h hd =>
    constructor
    · intro hwithin
      rw [takeDigits_of_some (take_within h hwithin), hd]
      rfl
    · intro hbeyond
      rw [takeDigits_of_error (take_beyond h hle hbeyond)]

/-- Reading a number is cut at the search for its first digit or between its digits. -/
theorem cut_readNumber (hc : c.Unbroken) (hle : c.input.reads ≤ p.reads) :
    CutRead p c.readNumber (c.onStreams p).readNumber := by
  have hseek := cut_seekDigit hc hle false
  have hkept := (served_seekDigit c false).1
  have hrefused (hbeyond : p.reads < (c.seekDigit false).2.input.reads) :
      (c.onStreams p).readNumber.1 = .error p.readFailure :=
    congrArg Prod.fst (readNumber_of_error (hseek.beyond hbeyond))
  rcases hs : c.seekDigit false with ⟨e | none | lead, c'⟩
  · rw [hs] at hseek hrefused
    rw [readNumber_of_error (congrArg Prod.fst hs), hs]
    refine ⟨fun hwithin => ?_, hrefused⟩
    have hfound := hseek.within hwithin
    rw [readNumber_of_error (congrArg Prod.fst hfound), hfound]
  · rw [hs] at hseek hrefused
    rw [readNumber_of_end hs]
    exact ⟨fun hwithin => readNumber_of_end (hseek.within hwithin), hrefused⟩
  · rw [hs] at hseek hrefused hkept
    have hb : c'.Unbroken := (Prod.mk.inj hkept).1.trans hc
    rw [readNumber_of_lead hs]
    rcases Nat.lt_or_ge p.reads c'.input.reads with hbeyond | hwithin
    · refine .of_refused ?_ (hrefused hbeyond)
      exact Nat.lt_of_lt_of_le hbeyond (readOn_takeDigits c' _).reads
    · rw [readNumber_of_lead (hseek.within hwithin)]
      exact (cut_takeDigits hb hwithin _).map _

/-! ## Writes -/

theorem writeText_of_inMemory (hc : c.InMemory) (t : Text) :
    c.writeText t = (none, { c with output := c.output.take t }) := by
  unfold writeText
  rw [Output.put_of_unlimited hc.output hc.lax t]
  rfl

theorem cut_writeText (hc : c.InMemory) (t : Text) :
    CutWrite p c (c.writeText t) ((c.onStreams p).writeText t) := by
  rw [writeText_of_inMemory hc]
  constructor
  · intro hwithin
    have hlt : ¬ p.writes ≤ c.output.writes := Nat.not_le.mpr hwithin
    have hdue : Breakdown.due (p.ofOutput c.output).breakdown (p.ofOutput c.output).writes = none :=
      if_neg hlt
    have haccepted : (p.ofOutput c.output).refusal t = none := by
      unfold Output.refusal
      rw [hdue, show (p.ofOutput c.output).utf8 = false from hc.lax]
      cases (p.ofOutput c.output).stage <;> rfl
    have hcalm : (p.ofOutput c.output).aftermath = none := by
      unfold Output.aftermath
      rw [hdue]
      cases (p.ofOutput c.output).stage <;> rfl
    unfold writeText Output.put
    rw [show (c.onStreams p).output = p.ofOutput c.output from rfl, haccepted]
    dsimp only
    rw [hcalm]
    rfl
  · intro hbeyond
    have hspent : p.writes ≤ c.output.writes := Nat.le_of_lt_succ hbeyond
    have hdue : Breakdown.due (p.ofOutput c.output).breakdown (p.ofOutput c.output).writes =
        some (.refused p.writeReason) := if_pos hspent
    have hrefused : (p.ofOutput c.output).refusal t = some (.refused p.writeReason) := by
      unfold Output.refusal
      rw [hdue, show (p.ofOutput c.output).stage = .write from hc.stage]
    unfold writeText Output.put
    rw [show (c.onStreams p).output = p.ofOutput c.output from rfl, hrefused]
    rfl

theorem cut_writeChar (hc : c.InMemory) (hle : c.output.writes ≤ p.writes) (n : Int) :
    CutWrite p c (c.writeChar n) ((c.onStreams p).writeChar n) := by
  unfold writeChar
  cases CodePoint.ofInt? n with
  | some ch => exact cut_writeText hc [ch]
  | none => exact ⟨fun _ => rfl, fun h => absurd h (Nat.not_lt.mpr hle)⟩

/-! ## Consoles that stay in memory -/

theorem inMemory_buffer (t : Text) : (buffer t).InMemory := ⟨rfl, rfl, rfl, rfl⟩

theorem InMemory.readOn (hc : c.InMemory) (h : ReadOn c c') {e? : Option Failure}
    (hs : Served c c' e?) : c'.InMemory where
  input := (Prod.mk.inj hs.1).1.trans hc.input
  output := h.output ▸ hc.output
  stage := h.output ▸ hc.stage
  lax := h.output ▸ hc.lax

theorem InMemory.readNumber (hc : c.InMemory) : c.readNumber.2.InMemory :=
  hc.readOn (readOn_readNumber c) (served_readNumber c)

theorem InMemory.readChar (hc : c.InMemory) : c.readChar.2.InMemory :=
  hc.readOn (readOn_readChar c) (served_readChar c)

theorem InMemory.writeText (hc : c.InMemory) (t : Text) : (c.writeText t).2.InMemory := by
  rw [writeText_of_inMemory hc]
  exact ⟨hc.input, hc.output, hc.stage, hc.lax⟩

theorem InMemory.writeChar (hc : c.InMemory) (n : Int) : (c.writeChar n).2.InMemory := by
  unfold Console.writeChar
  split
  · exact hc.writeText _
  · exact hc

end Console

end Funge93
