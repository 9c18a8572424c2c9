import Funge93.Proofs.Console.Devices

/-!
# Reading as a text cursor

A console looks one character ahead, so its unread text is split: the pending character here, the
rest in the device. This module shows that no caller can tell. Reads and feeds, in any order, act
on the unread text as on a plain text that a cursor moves through.

Results:
1. `readNumber_of_unbroken`: reading a number skips to the first digit, takes the longest run of
   digits from there, and gives the cell of their exact value, negated after a minus sign.
2. `transcript_eq_cursor`: any sequence of reads and feeds gives the answers of the cursor, leaves
   its text, and loses, doubles or reorders no character.
-/

namespace Funge93

namespace Text

/-- An ASCII digit. -/
def isDigit (c : CodePoint) : Bool := (digit? c).isSome

/-- A natural number with a further digit at its end. -/
def appendValue (n : Nat) (c : CodePoint) : Nat := n * 10 + (digit? c).elim 0 Fin.val

/-- The exact value of a run of digits. -/
def value (digits : Text) : Nat := digits.foldl appendValue 0

/-- The number ahead in a text, and the text after it. The number starts at the first digit and
takes every digit from there on; a minus sign right before it negates it. -/
def numberAhead (u : Text) : Option Int × Text :=
  let before := u.takeWhile (!isDigit ·)
  let rest := u.dropWhile (!isDigit ·)
  if rest = [] then (none, [])
  else
    let n : Int := value (rest.takeWhile isDigit)
    (some (if before.getLast? = some CodePoint.minus then -n else n), rest.dropWhile isDigit)

theorem numberAhead_of_noDigit {u : Text} (h : u.dropWhile (!isDigit ·) = []) :
    u.numberAhead = (none, []) := if_pos h

theorem numberAhead_of_digit {u rest : Text} {d : CodePoint}
    (h : u.dropWhile (!isDigit ·) = d :: rest) (hd : isDigit d = true) :
    u.numberAhead =
      (some (if (u.takeWhile (!isDigit ·)).getLast? = some CodePoint.minus
          then -(value (d :: rest.takeWhile isDigit) : Int)
          else value (d :: rest.takeWhile isDigit)),
        rest.dropWhile isDigit) := by
  unfold numberAhead
  rw [h]
  dsimp only
  rw [if_neg (List.cons_ne_nil _ _), List.takeWhile_cons_of_pos hd, List.dropWhile_cons_of_pos hd]

example : numberAhead "x--12-3" = (some (-12), ("-3" : Text)) := by decide

end Text

namespace Console

/-- What callers ask of the input side of a console. -/
inductive Request
  | readChar
  | readNumber
  | feed (t : Text)
deriving DecidableEq, Repr

/-- What they get back. -/
inductive Answer
  | char (ch : Option CodePoint)
  | number (n : Option Cell)
  | fed
deriving DecidableEq, Repr

/-- A console serves a request. -/
def serve (c : Console) : Request → Except Failure Answer × Console
  | .readChar => (c.readChar.1.map .char, c.readChar.2)
  | .readNumber => (c.readNumber.1.map .number, c.readNumber.2)
  | .feed t => (.ok .fed, c.feed t)

/-- A text serves a request, with a cursor at its start. -/
def cursor (u : Text) : Request → Answer × Text
  | .readChar => (.char u.head?, u.tail)
  | .readNumber => (.number (u.numberAhead.1.map Cell.ofInt), u.numberAhead.2)
  | .feed t => (.fed, u ++ t)

/-- The answers to some requests in turn, and what is left after them. -/
def transcript {σ α : Type} (serve : σ → Request → α × σ) : List Request → σ → List α × σ
  | [], s => ([], s)
  | r :: rs, s =>
    let (a, s') := serve s r
    let (as, s'') := transcript serve rs s'
    (a :: as, s'')

/-- The text that a request feeds. -/
def Request.fed : Request → Text
  | .readChar => []
  | .readNumber => []
  | .feed t => t

/-- A console answers requests as a cursor in a text does. -/
def Follows (c : Console) (u : Text) (rs : List Request) : Prop :=
  (transcript serve rs c).1 = (transcript cursor rs u).1.map .ok ∧
  (transcript serve rs c).2.unread = (transcript cursor rs u).2

/-- The input device never fails. -/
def Unbroken (c : Console) : Prop := c.input.breakdown = none

/-! ## Single characters -/

/-- Taking moves the cursor on by one character and leaves none pending. -/
theorem take_of_unbroken {c : Console} (h : c.Unbroken) :
    ∃ c', c.take = .ok (c.unread.head?, c') ∧ c'.unread = c.unread.tail ∧ c'.pending = none ∧
      c'.Unbroken := by
  cases hp : c.pending with
  | some ch =>
    refine ⟨{ c with pending := none }, ?_, ?_, rfl, h⟩
    · simp [take, unread, hp]
    · simp [unread, hp]
  | none =>
    have due : Breakdown.due c.input.breakdown c.input.reads = none := by rw [h]; rfl
    refine ⟨{ c with input := { c.input with
      text := c.input.text.tail, reads := c.input.reads + 1 } }, ?_, ?_, hp, h⟩
    · simp [take, unread, hp, Input.next, due]
    · simp [unread, hp]

theorem readChar_of_unbroken {c : Console} (h : c.Unbroken) :
    ∃ c', c.readChar = (.ok c.unread.head?, c') ∧ c'.unread = c.unread.tail ∧ c'.Unbroken := by
  obtain ⟨c', ht, hu, _, hc⟩ := take_of_unbroken h
  exact ⟨c', by rw [readChar, ht], hu, hc⟩

/-! ## Numbers -/

variable {c c' : Console}

theorem seekDigit_of_error {e : Failure} (h : c.take = .error e) (afterMinus : Bool) :
    c.seekDigit afterMinus = (.error e, c) := by
  rw [seekDigit]
  split <;> simp_all

theorem seekDigit_of_end (h : c.take = .ok (none, c')) (afterMinus : Bool) :
    c.seekDigit afterMinus = (.ok none, c') := by
  rw [seekDigit]
  split <;> simp_all

theorem seekDigit_of_some {ch : CodePoint} (h : c.take = .ok (some ch, c')) (afterMinus : Bool) :
    c.seekDigit afterMinus =
      match Text.digit? ch with
      | some d => (.ok (some ⟨afterMinus, d⟩), c')
      | none => c'.seekDigit (ch == CodePoint.minus) := by
  rw [seekDigit]
  cases hd : Text.digit? ch <;> split <;> simp_all

theorem takeDigits_of_error {e : Failure} (h : c.take = .error e) (v : Cell) :
    c.takeDigits v = (.error e, c) := by
  rw [takeDigits]
  split <;> simp_all

theorem takeDigits_of_end (h : c.take = .ok (none, c')) (v : Cell) :
    c.takeDigits v = (.ok v, c') := by
  rw [takeDigits]
  split <;> simp_all

theorem takeDigits_of_some {ch : CodePoint} (h : c.take = .ok (some ch, c')) (v : Cell) :
    c.takeDigits v =
      match Text.digit? ch with
      | some d => c'.takeDigits (appendDigit v d)
      | none => (.ok v, { c' with pending := some ch }) := by
  rw [takeDigits]
  cases hd : Text.digit? ch <;> split <;> simp_all

theorem readNumber_of_error {e : Failure} (h : (c.seekDigit false).1 = .error e) :
    c.readNumber = (.error e, (c.seekDigit false).2) := by
  unfold readNumber
  rw [show c.seekDigit false = (.error e, (c.seekDigit false).2) from Prod.ext h rfl]

theorem readNumber_of_end (h : c.seekDigit false = (.ok none, c')) :
    c.readNumber = (.ok none, c') := by
  unfold readNumber
  rw [h]

theorem readNumber_of_lead {lead : Lead} (h : c.seekDigit false = (.ok (some lead), c')) :
    c.readNumber =
      let (result, c'') := c'.takeDigits (appendDigit 0 lead.digit)
      (result.map fun v => some (if lead.negated then -v else v), c'') := by
  unfold readNumber
  rw [h]
  dsimp only
  split <;> next ht => rw [ht]; rfl

theorem seekDigit_nil {c : Console} (h : c.Unbroken) (hu : c.unread = []) (afterMinus : Bool) :
    ∃ c', c.seekDigit afterMinus = (.ok none, c') ∧ c'.unread = [] ∧ c'.Unbroken := by
  obtain ⟨c', ht, hu', _, hc⟩ := take_of_unbroken h
  rw [hu] at ht hu'
  exact ⟨c', seekDigit_of_end ht afterMinus, hu', hc⟩

theorem seekDigit_cons {c : Console} {ch : CodePoint} {u : Text} (h : c.Unbroken)
    (hu : c.unread = ch :: u) (afterMinus : Bool) :
    ∃ c', c'.unread = u ∧ c'.Unbroken ∧ c.seekDigit afterMinus =
      match Text.digit? ch with
      | some d => (.ok (some ⟨afterMinus, d⟩), c')
      | none => c'.seekDigit (ch == CodePoint.minus) := by
  obtain ⟨c', ht, hu', _, hc⟩ := take_of_unbroken h
  rw [hu] at ht hu'
  exact ⟨c', hu', hc, seekDigit_of_some ht afterMinus⟩

/-- Without a digit ahead, the search takes everything. -/
theorem seekDigit_of_noDigit {c : Console} (h : c.Unbroken) (afterMinus : Bool)
    (hd : ∀ ch ∈ c.unread, Text.digit? ch = none) :
    ∃ c', c.seekDigit afterMinus = (.ok none, c') ∧ c'.unread = [] ∧ c'.Unbroken := by
  generalize hu : c.unread = u at hd
  induction u generalizing c afterMinus with
  | nil => exact seekDigit_nil h hu afterMinus
  | cons ch u ih =>
    obtain ⟨c', hu', hc, hs⟩ := seekDigit_cons h hu afterMinus
    rw [hd ch List.mem_cons_self] at hs
    rw [hs]
    exact ih hc _ hu' fun ch hch => hd ch (List.mem_cons_of_mem _ hch)

/-- The search stops behind the first digit. What stands before it decides on the sign. -/
theorem seekDigit_of_digit {c : Console} {before : Text} {ch : CodePoint} {rest : Text}
    {d : Fin 10} (h : c.Unbroken) (afterMinus : Bool) (hu : c.unread = before ++ ch :: rest)
    (hb : ∀ ch ∈ before, Text.digit? ch = none) (hd : Text.digit? ch = some d) :
    ∃ c', c.seekDigit afterMinus =
        (.ok (some ⟨before.getLast?.elim afterMinus (· == CodePoint.minus), d⟩), c') ∧
      c'.unread = rest ∧ c'.Unbroken := by
  induction before generalizing c afterMinus with
  | nil =>
    obtain ⟨c', hu', hc, hs⟩ := seekDigit_cons h hu afterMinus
    rw [hd] at hs
    exact ⟨c', hs, hu', hc⟩
  | cons b before ih =>
    obtain ⟨c', hu', hc, hs⟩ := seekDigit_cons h hu afterMinus
    rw [hb b List.mem_cons_self] at hs
    -- Each skipped character replaces what the search remembers, so the last one decides.
    obtain ⟨c'', hs', hu'', hc'⟩ := ih hc (b == CodePoint.minus) hu'
      fun ch hch => hb ch (List.mem_cons_of_mem _ hch)
    refine ⟨c'', ?_, hu'', hc'⟩
    rw [hs, List.getLast?_cons]
    cases hl : before.getLast? <;> simpa [hl] using hs'

theorem takeDigits_nil {c : Console} (h : c.Unbroken) (hu : c.unread = []) (v : Cell) :
    ∃ c', c.takeDigits v = (.ok v, c') ∧ c'.unread = [] ∧ c'.Unbroken := by
  obtain ⟨c', ht, hu', _, hc⟩ := take_of_unbroken h
  rw [hu] at ht hu'
  exact ⟨c', takeDigits_of_end ht v, hu', hc⟩

/-- The character behind the digits becomes the pending one, and so stays unread. -/
theorem takeDigits_of_noDigit {c : Console} {ch : CodePoint} {u : Text} (h : c.Unbroken)
    (hu : c.unread = ch :: u) (hd : Text.digit? ch = none) (v : Cell) :
    ∃ c', c.takeDigits v = (.ok v, c') ∧ c'.unread = ch :: u ∧ c'.Unbroken := by
  obtain ⟨c', ht, hu', hp, hc⟩ := take_of_unbroken h
  rw [hu] at ht hu'
  have hi : c'.input.text = u := by simpa [unread, hp] using hu'
  refine ⟨{ c' with pending := some ch }, ?_, by simp [unread, hi], hc⟩
  rw [takeDigits_of_some ht, hd]

theorem takeDigits_of_digit {c : Console} {ch : CodePoint} {u : Text} {d : Fin 10}
    (h : c.Unbroken) (hu : c.unread = ch :: u) (hd : Text.digit? ch = some d) (v : Cell) :
    ∃ c' : Console, c.takeDigits v = c'.takeDigits (appendDigit v d) ∧ c'.unread = u ∧
      c'.Unbroken := by
  obtain ⟨c', ht, hu', _, hc⟩ := take_of_unbroken h
  rw [hu] at ht hu'
  refine ⟨c', ?_, hu', hc⟩
  rw [takeDigits_of_some ht, hd]

/-- Digits wrap one by one to the cell that their exact value wraps to at once. -/
theorem appendDigit_ofInt (n : Nat) {ch : CodePoint} {d : Fin 10} (hd : Text.digit? ch = some d) :
    appendDigit (Cell.ofInt n) d = Cell.ofInt (Text.appendValue n ch) := by
  unfold appendDigit Text.appendValue
  rw [hd, Option.elim_some, Int.natCast_add, Int.natCast_mul, Cell.ofInt, Cell.ofInt, Cell.ofInt,
    Int64.ofInt_add, Int64.ofInt_mul]
  rfl

/-- The longest run of digits is taken, and nothing else. -/
theorem takeDigits_of_unbroken {c : Console} (h : c.Unbroken) (n : Nat) :
    ∃ c', c.takeDigits (Cell.ofInt n) =
        (.ok (Cell.ofInt ((c.unread.takeWhile Text.isDigit).foldl Text.appendValue n : Nat)), c') ∧
      c'.unread = c.unread.dropWhile Text.isDigit ∧ c'.Unbroken := by
  generalize hu : c.unread = u
  -- The cell taken so far is always the wrap of the exact value `n` so far.
  induction u generalizing c n with
  | nil => exact takeDigits_nil h hu _
  | cons ch u ih =>
    cases hd : Text.digit? ch with
    | none =>
      have hch : ¬ Text.isDigit ch = true := by simp [Text.isDigit, hd]
      rw [List.takeWhile_cons_of_neg hch, List.dropWhile_cons_of_neg hch]
      exact takeDigits_of_noDigit h hu hd _
    | some d =>
      have hch : Text.isDigit ch = true := by simp [Text.isDigit, hd]
      obtain ⟨c', ht, hu', hc⟩ := takeDigits_of_digit h hu hd (Cell.ofInt n)
      rw [List.takeWhile_cons_of_pos hch, List.dropWhile_cons_of_pos hch, List.foldl_cons, ht,
        appendDigit_ofInt n hd]
      exact ih hc _ hu'

theorem digit?_eq_none {ch : CodePoint} (h : Text.isDigit ch = false) :
    Text.digit? ch = none := by
  simpa [Text.isDigit] using h

/-- The sign that the search found is the sign of the number ahead. -/
theorem negate_of_minus (before : Text) (n : Nat) :
    (if before.getLast?.elim false (· == CodePoint.minus) = true then -Cell.ofInt n
      else Cell.ofInt n) =
    Cell.ofInt (if before.getLast? = some CodePoint.minus then -(n : Int) else n) := by
  by_cases hm : before.getLast? = some CodePoint.minus
  · rw [if_pos hm, if_pos (by rw [hm]; rfl)]
    exact (Int64.ofInt_neg _).symm
  · have hm' : ¬ before.getLast?.elim false (· == CodePoint.minus) = true := by
      cases hl : before.getLast? <;> simp_all
    rw [if_neg hm, if_neg hm']

/-- Reading a number is reading the number ahead in the unread text. -/
theorem readNumber_of_unbroken {c : Console} (h : c.Unbroken) :
    ∃ c', c.readNumber = (.ok (c.unread.numberAhead.1.map Cell.ofInt), c') ∧
      c'.unread = c.unread.numberAhead.2 ∧ c'.Unbroken := by
  have hb : ∀ ch ∈ c.unread.takeWhile (!Text.isDigit ·), Text.digit? ch = none := fun ch hch =>
    digit?_eq_none (by simpa using List.all_eq_true.mp List.all_takeWhile ch hch)
  have hu := List.takeWhile_append_dropWhile (p := (!Text.isDigit ·)) (l := c.unread)
  cases hr : c.unread.dropWhile (!Text.isDigit ·) with
  | nil =>
    rw [hr, List.append_nil] at hu
    rw [hu] at hb
    obtain ⟨c', hs, hu', hc⟩ := seekDigit_of_noDigit h false hb
    rw [Text.numberAhead_of_noDigit hr]
    exact ⟨c', readNumber_of_end hs, hu', hc⟩
  | cons ch rest =>
    have hch : Text.isDigit ch = true := by
      have := List.head?_dropWhile_not (!Text.isDigit ·) c.unread
      simpa [hr] using this
    obtain ⟨d, hd⟩ := Option.isSome_iff_exists.mp hch
    rw [hr] at hu
    obtain ⟨c', hs, hu', hc⟩ := seekDigit_of_digit h false hu.symm hb hd
    obtain ⟨c'', ht, hu'', hc'⟩ := takeDigits_of_unbroken hc (Text.appendValue 0 ch)
    rw [← appendDigit_ofInt 0 hd, hu'] at ht
    rw [Text.numberAhead_of_digit hr hch]
    refine ⟨c'', ?_, by rw [hu'', hu'], hc'⟩
    rw [readNumber_of_lead hs, show (0 : Cell) = Cell.ofInt (0 : Nat) from rfl, ht]
    dsimp only
    rw [Except.map, negate_of_minus]
    rfl

/-! ## Sequences of requests -/

theorem serve_of_unbroken {c : Console} (h : c.Unbroken) (r : Request) :
    (c.serve r).1 = .ok (cursor c.unread r).1 ∧
      (c.serve r).2.unread = (cursor c.unread r).2 ∧ (c.serve r).2.Unbroken := by
  cases r with
  | readChar =>
    obtain ⟨c', hr, hu, hc⟩ := readChar_of_unbroken h
    rw [serve, hr]
    exact ⟨rfl, hu, hc⟩
  | readNumber =>
    obtain ⟨c', hr, hu, hc⟩ := readNumber_of_unbroken h
    rw [serve, hr]
    exact ⟨rfl, hu, hc⟩
  | feed t => exact ⟨rfl, unread_feed c t, h⟩

theorem transcript_cons {σ α : Type} (serve : σ → Request → α × σ) (r : Request)
    (rs : List Request) (s : σ) :
    transcript serve (r :: rs) s =
      ((serve s r).1 :: (transcript serve rs (serve s r).2).1,
        (transcript serve rs (serve s r).2).2) := rfl

theorem follows_of_unbroken {c : Console} (h : c.Unbroken) (rs : List Request) :
    c.Follows c.unread rs := by
  induction rs generalizing c with
  | nil => exact ⟨rfl, rfl⟩
  | cons r rs ih =>
    obtain ⟨ha, hu, hc⟩ := serve_of_unbroken h r
    obtain ⟨has, hus⟩ := ih hc
    rw [hu] at has hus
    refine ⟨?_, hus⟩
    rw [transcript_cons, transcript_cons, ha, has]
    rfl

/-- A cursor only ever moves forward. -/
theorem suffix_cursor (u : Text) (r : Request) : (cursor u r).2 <:+ u ++ r.fed := by
  cases r with
  | readChar =>
    rw [Request.fed, List.append_nil]
    exact List.tail_suffix u
  | readNumber =>
    rw [Request.fed, List.append_nil, cursor, Text.numberAhead]
    dsimp only
    split
    · exact List.nil_suffix
    · exact (List.dropWhile_suffix _).trans (List.dropWhile_suffix _)
  | feed t => exact List.suffix_refl _

theorem suffix_transcript (u : Text) (rs : List Request) :
    (transcript cursor rs u).2 <:+ u ++ rs.flatMap Request.fed := by
  induction rs generalizing u with
  | nil =>
    rw [List.flatMap_nil, List.append_nil]
    exact List.suffix_refl u
  | cons r rs ih =>
    obtain ⟨taken, ht⟩ := suffix_cursor u r
    obtain ⟨taken', ht'⟩ := ih (cursor u r).2
    refine ⟨taken ++ taken', ?_⟩
    calc
      taken ++ taken' ++ (transcript cursor (r :: rs) u).2
        = taken ++ ((cursor u r).2 ++ rs.flatMap Request.fed) := by
        rw [← ht', List.append_assoc]
        rfl
      _ = u ++ (r :: rs).flatMap Request.fed := by
        rw [← List.append_assoc, ht, List.append_assoc, List.flatMap_cons]

/-- A console in memory, and one over a stream that never fails, answer every sequence of reads and
feeds as a cursor in a plain text does. What stays unread is the end of all the text there was, so
the reads took the rest of it once and in order. -/
theorem transcript_eq_cursor (t : Text) (output : Output) (rs : List Request) :
    (buffer t).Follows t rs ∧ (stream (Input.ofText t) output).Follows t rs ∧
      (transcript cursor rs t).2 <:+ t ++ rs.flatMap Request.fed :=
  ⟨follows_of_unbroken (c := buffer t) rfl rs,
    follows_of_unbroken (c := stream (Input.ofText t) output) rfl rs, suffix_transcript t rs⟩

end Console

end Funge93
