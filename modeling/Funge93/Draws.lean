import Funge93.Draws.Twister

/-!
# Random sources

A machine draws the direction of a random turn from a source. A source either follows a script,
which can hold any numbers, or a seeded generator, which draws from 0 to 3.
-/

namespace Funge93

/-- A random source. -/
inductive Draws
  /-- Follows a script from a place on. -/
  | script (number : Nat → Int) (place : Nat)
  /-- Draws numbers below four. -/
  | seeded (generator : Twister)

namespace Draws

/-- A source that gives some numbers in turn, over and over. -/
def cycle (numbers : List Int) : Draws :=
  let numbers := numbers.toArray
  .script (fun n => numbers.getD (n % numbers.size) 0) 0

/-- The source of a seed. Without one the seed is zero. -/
def ofSeed (seed : Option Int) : Draws := .seeded (Twister.ofSeed (seed.getD 0))

/-- The next number, and the source after it. -/
def next : Draws → Int × Draws
  | .script number place => (number place, .script number (place + 1))
  | .seeded generator =>
    let (n, generator) := generator.draw
    (n, .seeded generator)

/-- The source after so many draws. -/
def advance : Nat → Draws → Draws
  | 0, d => d
  | n + 1, d => advance n d.next.2

end Draws

end Funge93
