import Funge93.Text.Utf8

/-!
# What UTF-8 spells

This module says once which bytes spell a character (`Spells`) and proves that writing and reading
agree with it. So decoding accepts exactly the bytes that some text is encoded as, and gives that
text back: nothing overlong, no surrogate and nothing cut short gets through.

Results:
1. `encodeChar?_eq_some_iff`: a character is written as the bytes that spell it.
2. `readChar_eq_ok_iff`: a character is read from the bytes that spell it.
3. `exists_encode?_iff`: the texts that can be encoded.
4. `decode?_eq_ok_iff`: bytes decode to the text that is encoded as them, and to no other.
-/

namespace Funge93.Utf8

/-- The byte holds six bits of a character that began before it. -/
def Continues (b : UInt8) : Prop := 0x80 ≤ b.toNat ∧ b.toNat ≤ 0xBF

/-- `Spells n bytes`: the bytes spell the character with the number `n`. The first byte tells how
many there are and holds the first bits. There are as few bytes as the number needs, and surrogates
and numbers beyond the last code point have no spelling. -/
inductive Spells (n : Nat) : List UInt8 → Prop
  | one {a : UInt8} : n = a.toNat → n < 0x80 → Spells n [a]
  | two {a b : UInt8} : 0xC0 ≤ a.toNat → a.toNat < 0xE0 → Continues b →
      n = (a.toNat - 0xC0) * 64 + b.toNat % 64 → 0x80 ≤ n → Spells n [a, b]
  | three {a b c : UInt8} : 0xE0 ≤ a.toNat → a.toNat < 0xF0 → Continues b → Continues c →
      n = ((a.toNat - 0xE0) * 64 + b.toNat % 64) * 64 + c.toNat % 64 → 0x800 ≤ n →
      n < 0xD800 ∨ 0xDFFF < n → Spells n [a, b, c]
  | four {a b c d : UInt8} : 0xF0 ≤ a.toNat → a.toNat < 0xF8 → Continues b → Continues c →
      Continues d →
      n = (((a.toNat - 0xF0) * 64 + b.toNat % 64) * 64 + c.toNat % 64) * 64 + d.toNat % 64 →
      0x10000 ≤ n → n < 0x110000 → Spells n [a, b, c, d]

variable {b : UInt8} {rest bytes : List UInt8} {value following n : Nat} {ch : CodePoint} {t : Text}

/-! ## Writing a character -/

theorem toNat_followingByte (n : Nat) : (followingByte n).toNat = 0x80 + n % 64 := by
  unfold followingByte
  rw [UInt8.toNat_ofNat']
  omega

theorem continues_followingByte (n : Nat) : Continues (followingByte n) := by
  unfold Continues
  rw [toNat_followingByte]
  omega

theorem ofNat_eq_of_toNat (h : n = b.toNat) : UInt8.ofNat n = b := by
  rw [h, UInt8.ofNat_toNat]

theorem followingByte_eq (hb : Continues b) (hn : n % 64 = b.toNat % 64) : followingByte n = b := by
  obtain ⟨hlow, hhigh⟩ := hb
  exact ofNat_eq_of_toNat (by omega)

theorem isSurrogate_eq_false_iff :
    ch.isSurrogate = false ↔ ch.val < 0xD800 ∨ 0xDFFF < ch.val := by
  unfold CodePoint.isSurrogate
  rw [Bool.and_eq_false_iff, decide_eq_false_iff_not, decide_eq_false_iff_not, Nat.not_le,
    Nat.not_le]

theorem spells_of_encodeChar? (h : encodeChar? ch = some bytes) : Spells ch.val bytes := by
  have hlast := ch.isLt
  unfold encodeChar? at h
  dsimp only at h
  split at h
  · cases h
  next hscalar =>
  rw [Bool.not_eq_true, isSurrogate_eq_false_iff] at hscalar
  -- Four lengths, each for the numbers that the shorter ones cannot hold.
  split at h
  · cases h
    have hlead : (UInt8.ofNat ch.val).toNat = ch.val := by
      rw [UInt8.toNat_ofNat']
      omega
    exact .one hlead.symm (by omega)
  split at h
  · cases h
    have hlead : (UInt8.ofNat (0xC0 + ch.val / 64)).toNat = 0xC0 + ch.val / 64 := by
      rw [UInt8.toNat_ofNat']
      omega
    refine .two (by omega) (by omega) (continues_followingByte _) ?_ (by omega)
    rw [hlead, toNat_followingByte]
    omega
  split at h
  · cases h
    have hlead : (UInt8.ofNat (0xE0 + ch.val / 4096)).toNat = 0xE0 + ch.val / 4096 := by
      rw [UInt8.toNat_ofNat']
      omega
    refine .three (by omega) (by omega) (continues_followingByte _) (continues_followingByte _) ?_
      (by omega) hscalar
    rw [hlead, toNat_followingByte, toNat_followingByte]
    omega
  · cases h
    have hlead : (UInt8.ofNat (0xF0 + ch.val / 262144)).toNat = 0xF0 + ch.val / 262144 := by
      rw [UInt8.toNat_ofNat']
      omega
    refine .four (by omega) (by omega) (continues_followingByte _) (continues_followingByte _)
      (continues_followingByte _) ?_ (by omega) hlast
    rw [hlead, toNat_followingByte, toNat_followingByte, toNat_followingByte]
    omega

theorem isSurrogate_eq_false_of_spells (h : Spells ch.val bytes) : ch.isSurrogate = false := by
  rw [isSurrogate_eq_false_iff]
  cases h with
  | one _ _ => omega
  | two _ _ _ _ _ => omega
  | three _ _ _ _ _ _ hscalar => exact hscalar
  | four _ _ _ _ _ _ _ _ => omega

theorem encodeChar?_of_spells (h : Spells ch.val bytes) : encodeChar? ch = some bytes := by
  unfold encodeChar?
  rw [isSurrogate_eq_false_of_spells h, if_neg Bool.false_ne_true]
  cases h with
  | one hn hmax => rw [if_pos hmax, ofNat_eq_of_toNat hn]
  | @two a b _ _ hb hn hmin =>
    have hlead : 0xC0 + ch.val / 64 = a.toNat := by omega
    rw [if_neg (by omega), if_pos (by omega), ofNat_eq_of_toNat hlead,
      followingByte_eq hb (by omega)]
  | @three a b c _ _ hb hc hn hmin _ =>
    have hlead : 0xE0 + ch.val / 4096 = a.toNat := by omega
    rw [if_neg (by omega), if_neg (by omega), if_pos (by omega), ofNat_eq_of_toNat hlead,
      followingByte_eq hb (by omega), followingByte_eq hc (by omega)]
  | @four a b c d _ _ hb hc hd hn hmin _ =>
    have hlead : 0xF0 + ch.val / 262144 = a.toNat := by omega
    rw [if_neg (by omega), if_neg (by omega), if_neg (by omega), ofNat_eq_of_toNat hlead,
      followingByte_eq hb (by omega), followingByte_eq hc (by omega),
      followingByte_eq hd (by omega)]

theorem encodeChar?_eq_some_iff : encodeChar? ch = some bytes ↔ Spells ch.val bytes :=
  ⟨spells_of_encodeChar?, encodeChar?_of_spells⟩

/-! ## Reading a character -/

/-- The table of lead bytes, by their numbers. -/
theorem lead?_eq (b : UInt8) : lead? b =
    if b.toNat < 0x80 then some ⟨b.toNat, 0, 0x80, 0xBF⟩
    else if b.toNat < 0xC2 then none
    else if b.toNat < 0xE0 then some ⟨b.toNat - 0xC0, 1, 0x80, 0xBF⟩
    else if b.toNat < 0xF0 then
      some ⟨b.toNat - 0xE0, 2, if b.toNat = 0xE0 then 0xA0 else 0x80,
        if b.toNat = 0xED then 0x9F else 0xBF⟩
    else if b.toNat < 0xF5 then
      some ⟨b.toNat - 0xF0, 3, if b.toNat = 0xF0 then 0x90 else 0x80,
        if b.toNat = 0xF4 then 0x8F else 0xBF⟩
    else none := by
  unfold lead?
  simp only [UInt8.lt_iff_toNat_lt, ← UInt8.toNat_inj]
  rfl

theorem readFollowing_succ_eq_ok_iff {low high : UInt8} {bits count : Nat} :
    readFollowing low high bits (count + 1) rest = .ok value ↔
      ∃ b more, rest = b :: more ∧ (low.toNat ≤ b.toNat ∧ b.toNat ≤ high.toNat) ∧
        readFollowing 0x80 0xBF (bits * 64 + b.toNat % 64) count more = .ok value := by
  cases rest with
  | nil => exact ⟨nofun, nofun⟩
  | cons b more =>
    have hfirst (P : UInt8 → List UInt8 → Prop) :
        (∃ b' more', b :: more = b' :: more' ∧ P b' more') ↔ P b more :=
      ⟨by rintro ⟨_, _, ⟨⟩, h⟩; exact h, fun h => ⟨b, more, rfl, h⟩⟩
    rw [hfirst, readFollowing]
    simp only [UInt8.le_iff_toNat_le]
    split
    · next hrange =>
      rw [and_iff_right hrange]
      cases readFollowing 0x80 0xBF (bits * 64 + b.toNat % 64) count more with
      | ok v => exact Iff.rfl
      | error e => exact ⟨nofun, nofun⟩
    · next hrange => exact ⟨nofun, fun h => absurd h.1 hrange⟩

theorem readChar_of_lead {bits count : Nat} {low high : UInt8}
    (h : lead? b = some ⟨bits, count, low, high⟩) :
    readChar b rest = .ok (value, following) ↔
      count = following ∧ readFollowing low high bits count rest = .ok value := by
  unfold readChar
  rw [h]
  dsimp only
  cases readFollowing low high bits count rest with
  | error e => exact ⟨nofun, nofun⟩
  | ok v =>
    show Except.ok (v, count) = _ ↔ _
    rw [Except.ok.injEq, Prod.mk.injEq, Except.ok.injEq, and_comm]

theorem spells_of_readChar (h : readChar b rest = .ok (value, following)) :
    ∃ tail more, rest = tail ++ more ∧ tail.length = following ∧ Spells value (b :: tail) := by
  have hlead := lead?_eq b
  split at hlead
  · next hmax =>
    obtain ⟨rfl, ⟨⟩⟩ := (readChar_of_lead hlead).mp h
    exact ⟨[], rest, rfl, rfl, .one rfl hmax⟩
  split at hlead
  · unfold readChar at h
    rw [hlead] at h
    cases h
  split at hlead
  · obtain ⟨rfl, htail⟩ := (readChar_of_lead hlead).mp h
    obtain ⟨c, more, rfl, hc, ⟨⟩⟩ := readFollowing_succ_eq_ok_iff.mp htail
    exact ⟨[c], more, rfl, rfl, .two (by omega) (by omega) hc rfl (by omega)⟩
  split at hlead
  · obtain ⟨rfl, htail⟩ := (readChar_of_lead hlead).mp h
    obtain ⟨c, more, rfl, ⟨hlow, hhigh⟩, hlast⟩ := readFollowing_succ_eq_ok_iff.mp htail
    obtain ⟨d, more, rfl, (hd : Continues d), ⟨⟩⟩ := readFollowing_succ_eq_ok_iff.mp hlast
    rw [apply_ite UInt8.toNat] at hlow hhigh
    simp only [UInt8.reduceToNat] at hlow hhigh
    have hc : Continues c := ⟨by split at hlow <;> omega, by split at hhigh <;> omega⟩
    refine ⟨[c, d], more, rfl, rfl, .three (by omega) (by omega) hc hd rfl ?_ ?_⟩
    all_goals unfold Continues at hc hd
    · split at hlow <;> omega
    · split at hhigh <;> omega
  split at hlead
  · obtain ⟨rfl, htail⟩ := (readChar_of_lead hlead).mp h
    obtain ⟨c, more, rfl, ⟨hlow, hhigh⟩, hlast⟩ := readFollowing_succ_eq_ok_iff.mp htail
    obtain ⟨d, more, rfl, (hd : Continues d), hlast⟩ := readFollowing_succ_eq_ok_iff.mp hlast
    obtain ⟨e, more, rfl, (he : Continues e), ⟨⟩⟩ := readFollowing_succ_eq_ok_iff.mp hlast
    rw [apply_ite UInt8.toNat] at hlow hhigh
    simp only [UInt8.reduceToNat] at hlow hhigh
    have hc : Continues c := ⟨by split at hlow <;> omega, by split at hhigh <;> omega⟩
    refine ⟨[c, d, e], more, rfl, rfl, .four (by omega) (by omega) hc hd he rfl ?_ ?_⟩
    all_goals unfold Continues at hc hd he
    · split at hlow <;> omega
    · split at hhigh <;> omega
  · unfold readChar at h
    rw [hlead] at h
    cases h

theorem readChar_of_spells {tail : List UInt8} (h : Spells value (b :: tail))
    (more : List UInt8) : readChar b (tail ++ more) = .ok (value, tail.length) := by
  have hlead := lead?_eq b
  cases h with
  | one hn hmax =>
    rw [if_pos (by omega)] at hlead
    exact (readChar_of_lead hlead).mpr ⟨rfl, congrArg Except.ok hn.symm⟩
  | two _ _ hb hn hmin =>
    rw [if_neg (by omega), if_neg (by omega), if_pos (by omega)] at hlead
    refine (readChar_of_lead hlead).mpr ⟨rfl, ?_⟩
    exact readFollowing_succ_eq_ok_iff.mpr ⟨_, _, rfl, hb, congrArg Except.ok hn.symm⟩
  | three _ _ hb hc hn hmin hscalar =>
    obtain ⟨hlow, hhigh⟩ := hb
    rw [if_neg (by omega), if_neg (by omega), if_neg (by omega), if_pos (by omega)] at hlead
    refine (readChar_of_lead hlead).mpr ⟨rfl, ?_⟩
    refine readFollowing_succ_eq_ok_iff.mpr ⟨_, _, rfl, ?_, ?_⟩
    · rw [apply_ite UInt8.toNat, apply_ite UInt8.toNat]
      simp only [UInt8.reduceToNat]
      split <;> split <;> omega
    · exact readFollowing_succ_eq_ok_iff.mpr ⟨_, _, rfl, hc, congrArg Except.ok hn.symm⟩
  | four _ _ hb hc hd hn hmin hmax =>
    obtain ⟨hlow, hhigh⟩ := hb
    rw [if_neg (by omega), if_neg (by omega), if_neg (by omega), if_neg (by omega),
      if_pos (by omega)] at hlead
    refine (readChar_of_lead hlead).mpr ⟨rfl, ?_⟩
    refine readFollowing_succ_eq_ok_iff.mpr ⟨_, _, rfl, ?_, ?_⟩
    · rw [apply_ite UInt8.toNat, apply_ite UInt8.toNat]
      simp only [UInt8.reduceToNat]
      split <;> split <;> omega
    · refine readFollowing_succ_eq_ok_iff.mpr ⟨_, _, rfl, hc, ?_⟩
      exact readFollowing_succ_eq_ok_iff.mpr ⟨_, _, rfl, hd, congrArg Except.ok hn.symm⟩

theorem readChar_eq_ok_iff : readChar b rest = .ok (value, following) ↔
    ∃ tail more, rest = tail ++ more ∧ tail.length = following ∧ Spells value (b :: tail) := by
  constructor
  · exact spells_of_readChar
  · rintro ⟨tail, more, rfl, rfl, h⟩
    exact readChar_of_spells h more

/-! ## Texts -/

theorem encode?_cons_eq_some_iff : encode? (ch :: t) = some bytes ↔
    ∃ first more, encodeChar? ch = some first ∧ encode? t = some more ∧ first ++ more = bytes := by
  rw [encode?]
  simp only [Option.bind_eq_bind, Option.bind_eq_some_iff, Option.pure_def, Option.some.injEq,
    exists_and_left]

theorem exists_encodeChar? (h : ch.isSurrogate = false) : ∃ bytes, encodeChar? ch = some bytes := by
  unfold encodeChar?
  rw [h, if_neg Bool.false_ne_true]
  split
  · exact ⟨_, rfl⟩
  split
  · exact ⟨_, rfl⟩
  split <;> exact ⟨_, rfl⟩

/-- The texts that can be encoded are those without surrogates. -/
theorem exists_encode?_iff :
    (∃ bytes, encode? t = some bytes) ↔ ∀ ch ∈ t, ch.isSurrogate = false := by
  induction t with
  | nil => exact ⟨fun _ => nofun, fun _ => ⟨[], rfl⟩⟩
  | cons ch t ih =>
    rw [List.forall_mem_cons, ← ih]
    constructor
    · rintro ⟨bytes, h⟩
      obtain ⟨first, more, hfirst, hmore, -⟩ := encode?_cons_eq_some_iff.mp h
      exact ⟨isSurrogate_eq_false_of_spells (spells_of_encodeChar? hfirst), more, hmore⟩
    · rintro ⟨hch, more, hmore⟩
      obtain ⟨first, hfirst⟩ := exists_encodeChar? hch
      exact ⟨first ++ more, encode?_cons_eq_some_iff.mpr ⟨first, more, hfirst, hmore, rfl⟩⟩

theorem lt_of_spells (h : Spells n bytes) : n < 0x110000 := by
  cases h with
  | one _ hmax => omega
  | two _ _ _ _ _ => omega
  | three _ _ _ _ _ _ _ => omega
  | four _ _ _ _ _ _ _ hmax => exact hmax

/-- The character in front is decoded first, wherever it stands. -/
theorem decodeAt_of_spells {tail : List UInt8} (h : Spells ch.val (b :: tail)) (position : Nat)
    (more : List UInt8) :
    decodeAt position (b :: (tail ++ more)) =
      (ch :: (decodeAt (position + tail.length + 1) more).1,
        (decodeAt (position + tail.length + 1) more).2) := by
  have hvalue : Fin.ofNat 0x110000 ch.val = ch := Fin.ofNat_val_eq_self ch
  rw [decodeAt, readChar_of_spells h more]
  dsimp only
  rw [List.drop_left, hvalue]

theorem spells_ne_nil (h : Spells n bytes) : bytes ≠ [] := by
  cases h <;> exact List.cons_ne_nil _ _

/-- Decoding undoes encoding. -/
theorem decodeAt_of_encode? (h : encode? t = some bytes) (position : Nat) :
    decodeAt position bytes = (t, none) := by
  induction t generalizing bytes position with
  | nil =>
    cases h
    rw [decodeAt]
  | cons ch t ih =>
    obtain ⟨first, more, hfirst, hmore, rfl⟩ := encode?_cons_eq_some_iff.mp h
    have hspells := spells_of_encodeChar? hfirst
    obtain ⟨b, tail, rfl⟩ := List.exists_cons_of_ne_nil (spells_ne_nil hspells)
    rw [List.cons_append, decodeAt_of_spells hspells, ih hmore]

/-- Encoding undoes decoding, if the bytes are right from start to end. -/
theorem encode?_of_decodeAt {position : Nat} (h : decodeAt position bytes = (t, none)) :
    encode? t = some bytes := by
  induction position, bytes using decodeAt.induct generalizing t with
  | case1 position =>
    rw [decodeAt] at h
    cases h
    rfl
  | case2 position b rest right flaw hread =>
    rw [decodeAt, hread] at h
    cases h
  | case3 position b rest value following hread _ _ _ ih =>
    obtain ⟨tail, more, rfl, rfl, hspells⟩ := spells_of_readChar hread
    have hvalue : (Fin.ofNat 0x110000 value).val = value := Nat.mod_eq_of_lt (lt_of_spells hspells)
    rw [← hvalue] at hspells
    rw [decodeAt_of_spells hspells] at h
    rw [List.drop_left] at ih
    obtain ⟨rfl, hrest⟩ := Prod.mk.inj h
    exact encode?_cons_eq_some_iff.mpr
      ⟨_, more, encodeChar?_of_spells hspells, ih (Prod.ext rfl hrest), rfl⟩

/-- Bytes decode to a text exactly if the text is encoded as them. -/
theorem decode?_eq_ok_iff : decode? bytes = .ok t ↔ encode? t = some bytes := by
  constructor
  · intro h
    unfold decode? decode at h
    rcases hdecode : decodeAt 0 bytes with ⟨u, _ | e⟩
    · rw [hdecode] at h
      cases h
      exact encode?_of_decodeAt hdecode
    · rw [hdecode] at h
      cases h
  · intro h
    unfold decode? decode
    rw [decodeAt_of_encode? h]

end Funge93.Utf8
