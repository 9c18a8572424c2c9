/-!
# The seeded generator

A Mersenne twister of 624 words of 32 bits. A seed of any size fills the words; each full round of
words is made from the one before. A draw from four takes words until one has its leading bit
clear, and returns the two bits after it.
-/

namespace Funge93

/-- The words of a generator and the place of the next one. -/
structure Twister where
  words : Vector UInt32 624
  place : Nat

namespace Twister

/-- The word at a place, counted around. -/
def word (v : Vector UInt32 624) (i : Nat) : UInt32 := v.get ⟨i % 624, Nat.mod_lt _ (by decide)⟩

/-- Replaces the word at a place, counted around. -/
def putWord (v : Vector UInt32 624) (i : Nat) (w : UInt32) : Vector UInt32 624 :=
  v.set (i % 624) w (Nat.mod_lt _ (by decide))

/-- A word mixed with its own leading bits. -/
def mixed (w : UInt32) : UInt32 := w ^^^ (w >>> 30)

/-- The 32-bit words of a number, the least first. Zero has one word. -/
def key (n : Nat) : List UInt32 :=
  if n < UInt32.size then [UInt32.ofNat n] else UInt32.ofNat n :: key (n / UInt32.size)
termination_by n
decreasing_by
  unfold UInt32.size at *
  omega

/-- The words that every seeding starts from. -/
def base : Vector UInt32 624 :=
  (List.range 623).foldl
    (fun v i => putWord v (i + 1) (1812433253 * mixed (word v i) + UInt32.ofNat (i + 1)))
    (Vector.replicate 624 19650218)

/-- Changes the word at a place by a function of the word before it, and moves on. From the last
place it moves to the second, after copying the last word to the first place. -/
def stir (change : UInt32 → UInt32 → UInt32) (state : Vector UInt32 624 × Nat) :
    Vector UInt32 624 × Nat :=
  let (v, i) := state
  let v := putWord v i (change (word v i) (mixed (word v (i - 1))))
  if i + 1 < 624 then (v, i + 1) else (putWord v 0 (word v 623), 1)

/-- The generator of a seed. Its sign does not count. -/
def ofSeed (seed : Int) : Twister :=
  let key := (key seed.natAbs).toArray
  let rounds := max 624 key.size
  let absorbed := (List.range rounds).foldl
    (fun state n =>
      let j := n % key.size
      stir (fun w m => (w ^^^ (m * 1664525)) + key.getD j 0 + UInt32.ofNat j) state)
    (base, 1)
  let spread := (List.range 623).foldl
    (fun state _ => stir (fun w m => (w ^^^ (m * 1566083941)) - UInt32.ofNat state.2) state)
    absorbed
  ⟨putWord spread.1 0 0x80000000, 624⟩

/-- The next round of words, made in place. -/
def nextRound (v : Vector UInt32 624) : Vector UInt32 624 :=
  (List.range 624).foldl
    (fun v k =>
      let y := (word v k &&& 0x80000000) ||| (word v (k + 1) &&& 0x7FFFFFFF)
      let odd : UInt32 := if y &&& 1 = 0 then 0 else 0x9908B0DF
      putWord v k (word v (k + 397) ^^^ (y >>> 1) ^^^ odd))
    v

/-- Scrambles a word before it is given out. -/
def temper (y : UInt32) : UInt32 :=
  let y := y ^^^ (y >>> 11)
  let y := y ^^^ ((y <<< 7) &&& 0x9D2C5680)
  let y := y ^^^ ((y <<< 15) &&& 0xEFC60000)
  y ^^^ (y >>> 18)

/-- The next word. -/
def next (t : Twister) : UInt32 × Twister :=
  let t := if t.place < 624 then t else ⟨nextRound t.words, 0⟩
  (temper (word t.words t.place), { t with place := t.place + 1 })

/-- A number below four from the first of so many words whose leading bit is clear. -/
def drawWithin : Nat → Twister → Nat × Twister
  | 0, t => (0, t)
  | words + 1, t =>
    let (y, t) := t.next
    let n := (y >>> 29).toNat
    if n < 4 then (n, t) else drawWithin words t

/-- A number below four. The leading bits obey a linear recurrence of degree 19937 in which a run
of ones ends after at most 19937 words, so the bound on the words is never met. -/
def draw (t : Twister) : Nat × Twister := drawWithin 19938 t

end Twister

end Funge93
