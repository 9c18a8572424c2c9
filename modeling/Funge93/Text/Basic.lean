/-!
# Text

Text is a list of code points. Surrogates are code points like any other, because a program can
hold and print them; they only fail where text is written as UTF-8.
-/

namespace Funge93

/-- A Unicode code point, surrogates included. -/
abbrev CodePoint := Fin 0x110000

/-- There are code points, so number literals stand for code points. -/
instance CodePoint.neZero : @NeZero Nat Zero.ofOfNat0 0x110000 := Nat.instNeZeroSucc

/-- A sequence of code points. -/
abbrev Text := List CodePoint

namespace CodePoint

/-- The code point of a character. -/
def ofChar (c : Char) : CodePoint :=
  ⟨c.toNat, by rcases c.valid with h | h <;> simp only [Char.toNat] <;> omega⟩

/-- The code point with a given number, if there is one. -/
def ofInt? (n : Int) : Option CodePoint :=
  if h : 0 ≤ n ∧ n < 0x110000 then some ⟨n.toNat, by omega⟩ else none

/-- Surrogates have no encoding of their own. -/
def isSurrogate (c : CodePoint) : Bool := 0xD800 ≤ c.val && c.val ≤ 0xDFFF

/-- Some ranges given by their first and last code points hold a code point. -/
def inRanges (c : CodePoint) (ranges : List (Nat × Nat)) : Bool :=
  ranges.any fun range => range.1 ≤ c.val && c.val ≤ range.2

/-- The line feed, the newline of this library. -/
def lineFeed : CodePoint := 0x0A

/-- The carriage return. -/
def carriageReturn : CodePoint := 0x0D

/-- The space. -/
def space : CodePoint := 0x20

/-- The hyphen that also serves as the minus sign. -/
def minus : CodePoint := 0x2D

theorem ofInt?_eq_some {n : Int} {c : CodePoint} : ofInt? n = some c ↔ n = c.val := by
  unfold ofInt?
  split <;> rename_i bounds
  · simp only [Option.some.injEq, Fin.ext_iff]
    omega
  · have := c.isLt
    simp only [reduceCtorEq, false_iff]
    omega

theorem ofInt?_eq_none {n : Int} : ofInt? n = none ↔ n < 0 ∨ 0x110000 ≤ n := by
  unfold ofInt?
  split <;> simp <;> omega

end CodePoint

namespace Text

/-- The code points of a string. -/
def ofString (s : String) : Text := s.toList.map CodePoint.ofChar

/-- Some text occurs at the start. -/
def startsWith (t start : Text) : Bool := start.isPrefixOf t

/-- Texts in order with a separator between each two. -/
def join (separator : Text) : List Text → Text
  | [] => []
  | [t] => t
  | t :: u :: more => t ++ separator ++ join separator (u :: more)

/-- The part before the first occurrence of a code point and the part after it. -/
def splitFirst (c : CodePoint) : Text → Option (Text × Text)
  | [] => none
  | d :: rest =>
    if d = c then some ([], rest)
    else (splitFirst c rest).map fun parts => (d :: parts.1, parts.2)

theorem splitFirst_eq_some {c : CodePoint} {t before after : Text}
    (found : splitFirst c t = some (before, after)) :
    t = before ++ c :: after ∧ c ∉ before := by
  induction t generalizing before with
  | nil => simp [splitFirst] at found
  | cons d rest ih =>
    rw [splitFirst] at found
    split at found
    · simp_all
    · obtain ⟨parts, split, rfl, rfl⟩ := by simpa using found
      obtain ⟨rfl, fresh⟩ := ih split
      simp_all [eq_comm]

end Text

instance : Coe String Text := ⟨Text.ofString⟩

end Funge93
