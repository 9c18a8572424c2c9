import Funge93.Text.Decimal
import Funge93.Text.Hex

/-!
# UTF-8

Strict UTF-8. A character takes one to four bytes; overlong forms, surrogates and numbers beyond
the last code point are refused. `decode` gives the text up to the first error and that error;
`encode?` refuses surrogates.

An error names the bytes it spans. A lead byte that starts no character spans one byte. A character
that goes wrong spans the bytes that were right so far.
-/

namespace Funge93.Utf8

/-- What is wrong with some bytes. -/
inductive Flaw
  | start
  | continuation
  | unfinished
deriving DecidableEq, Repr

/-- The wording of a flaw. -/
def Flaw.message : Flaw → Text
  | start => "invalid start byte"
  | continuation => "invalid continuation byte"
  | unfinished => "unexpected end of data"

/-- Bytes that cannot be decoded: where they start, how many there are, the first of them, and what
is wrong. -/
structure DecodeError where
  position : Nat
  count : Nat
  first : UInt8
  flaw : Flaw
deriving DecidableEq, Repr

/-- The message of a decoding error. -/
def DecodeError.message (e : DecodeError) : Text :=
  (if e.count = 1 then
    "'utf-8' codec can't decode byte 0x" ++ Text.hex 2 e.first.toNat ++ " in position " ++
      Text.ofNat e.position
  else
    "'utf-8' codec can't decode bytes in position " ++ Text.ofNat e.position ++ "-" ++
      Text.ofNat (e.position + e.count - 1)) ++ ": " ++ e.flaw.message

/-- What a lead byte announces: the bits it holds itself, how many bytes follow, and the range of
the first of them. -/
structure Lead where
  bits : Nat
  following : Nat
  low : UInt8
  high : UInt8
deriving DecidableEq, Repr

/-- Reads a lead byte. -/
def lead? (b : UInt8) : Option Lead :=
  if b < 0x80 then some ⟨b.toNat, 0, 0x80, 0xBF⟩
  else if b < 0xC2 then none
  else if b < 0xE0 then some ⟨b.toNat - 0xC0, 1, 0x80, 0xBF⟩
  else if b < 0xF0 then
    some ⟨b.toNat - 0xE0, 2, if b = 0xE0 then 0xA0 else 0x80, if b = 0xED then 0x9F else 0xBF⟩
  else if b < 0xF5 then
    some ⟨b.toNat - 0xF0, 3, if b = 0xF0 then 0x90 else 0x80, if b = 0xF4 then 0x8F else 0xBF⟩
  else none

/-- Reads the bytes that follow a lead byte, the first of them within a range. An error comes with
the number of bytes that were right. -/
def readFollowing (low high : UInt8) (bits : Nat) : Nat → List UInt8 → Except (Nat × Flaw) Nat
  | 0, _ => .ok bits
  | _ + 1, [] => .error (0, .unfinished)
  | count + 1, b :: rest =>
    if low ≤ b ∧ b ≤ high then
      match readFollowing 0x80 0xBF (bits * 64 + b.toNat % 64) count rest with
      | .ok value => .ok value
      | .error (right, flaw) => .error (right + 1, flaw)
    else .error (0, .continuation)

/-- Reads one character: its number and how many bytes follow its first one. -/
def readChar (b : UInt8) (rest : List UInt8) : Except (Nat × Flaw) (Nat × Nat) :=
  match lead? b with
  | none => .error (0, .start)
  | some lead =>
    (readFollowing lead.low lead.high lead.bits lead.following rest).map (·, lead.following)

/-- Decodes bytes that start at a position: the text up to the first error, and the error. -/
def decodeAt (position : Nat) : List UInt8 → Text × Option DecodeError
  | [] => ([], none)
  | b :: rest =>
    match readChar b rest with
    | .error (right, flaw) => ([], some ⟨position, right + 1, b, flaw⟩)
    | .ok (value, following) =>
      let (t, e) := decodeAt (position + following + 1) (rest.drop following)
      (Fin.ofNat 0x110000 value :: t, e)
termination_by bytes => bytes.length
decreasing_by
  rw [List.length_drop, List.length_cons]
  omega

/-- Decodes bytes: the text up to the first error, and the error. -/
def decode (bytes : List UInt8) : Text × Option DecodeError := decodeAt 0 bytes

/-- Decodes bytes that are right from start to end. -/
def decode? (bytes : List UInt8) : Except DecodeError Text :=
  match decode bytes with
  | (t, none) => .ok t
  | (_, some e) => .error e

/-- The byte that follows a lead byte with the last six bits of a number. -/
def followingByte (n : Nat) : UInt8 := UInt8.ofNat (0x80 + n % 64)

/-- The bytes of a code point. Surrogates have none. -/
def encodeChar? (c : CodePoint) : Option (List UInt8) :=
  let n := c.val
  if c.isSurrogate then none
  else if n < 0x80 then some [UInt8.ofNat n]
  else if n < 0x800 then some [UInt8.ofNat (0xC0 + n / 64), followingByte n]
  else if n < 0x10000 then
    some [UInt8.ofNat (0xE0 + n / 4096), followingByte (n / 64), followingByte n]
  else
    some [UInt8.ofNat (0xF0 + n / 262144), followingByte (n / 4096), followingByte (n / 64),
      followingByte n]

/-- The bytes of a text without surrogates. -/
def encode? : Text → Option (List UInt8)
  | [] => some []
  | c :: rest => do
    let first ← encodeChar? c
    let more ← encode? rest
    return first ++ more

/-- Why a text has no encoding: the first run of surrogates in it. -/
def encodeRefusal? (t : Text) : Option Text :=
  let before := t.takeWhile fun c => !c.isSurrogate
  match t.dropWhile fun c => !c.isSurrogate with
  | [] => none
  | c :: rest =>
    let more := (rest.takeWhile CodePoint.isSurrogate).length
    some <|
      (if more = 0 then
        "'utf-8' codec can't encode character '\\u" ++ Text.hex 4 c.val ++ "' in position " ++
          Text.ofNat before.length
      else
        "'utf-8' codec can't encode characters in position " ++ Text.ofNat before.length ++ "-" ++
          Text.ofNat (before.length + more)) ++ ": surrogates not allowed"

theorem dropWhile_isScalar {t : Text} :
    (t.dropWhile fun c => !c.isSurrogate) = [] ↔ ∀ c ∈ t, c.isSurrogate = false := by
  induction t with
  | nil => exact ⟨nofun, fun _ => rfl⟩
  | cons c rest ih =>
    rw [List.dropWhile_cons, List.forall_mem_cons, ← ih]
    cases c.isSurrogate <;> simp

/-- A text is refused exactly if it has a surrogate. -/
theorem encodeRefusal?_eq_none {t : Text} :
    encodeRefusal? t = none ↔ ∀ c ∈ t, c.isSurrogate = false := by
  rw [← dropWhile_isScalar]
  unfold encodeRefusal?
  constructor
  · intro accepted
    split at accepted
    · next spent => exact spent
    · cases accepted
  · intro spent
    rw [spent]

end Funge93.Utf8
