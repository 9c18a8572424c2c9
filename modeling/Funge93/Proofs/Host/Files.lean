import Funge93.Proofs.Console.Encoding
import Funge93.Proofs.Host.Sessions
import Funge93.Proofs.Text.Lines
import Funge93.Proofs.Text.Utf8

/-!
# Loading a file

A file holds bytes, and its newlines are folded when it is read, before the text is split into
lines. Text in memory is split as it stands. This module proves that a host cannot tell a text from
a file that holds the text: the load gives the same answer, and so does every call after it. The two
hosts keep different texts, so the proof compares them by the grids that they run (`SameProgram`).

Results:
1. `load_eq`: what loading a text gives, by the lines of the text as it stands.
2. `SameProgram.answers`: hosts with the same program give the same answers to all calls.
3. `loadFile_eq_load`: a file that holds a text, and a file that holds no text.
-/

namespace Funge93.Host

variable {h h' : Host} {t : Text} {files : Files} {path : Path} {bytes : Bytes}

/-! ## What a load gives -/

/-- The answer to a load, by the lines of the text as it stands: the refusal of a strict host if the
lines are too long or too many, and otherwise the grid of the lines. -/
def loadOf (strict : Bool) (lines : List Text) : Except Refusal Grid :=
  if strict ∧ (strictWidth < Grid.longest lines ∨ strictHeight < lines.length) then
    .error (.tooLarge (Grid.longest lines) lines.length)
  else .ok (Grid.ofLines lines)

theorem load_eq (h : Host) (t : Text) : (h.load t).1 = loadOf h.strict t.linesAsTheyStand := by
  unfold load loadOf oversize? Grid.ofText
  rw [Text.lines_eq_linesAsTheyStand]
  by_cases hsize : h.strict ∧ (strictWidth < Grid.longest t.linesAsTheyStand ∨
    strictHeight < t.linesAsTheyStand.length)
  · rw [if_pos hsize, if_pos hsize]
  · rw [if_neg hsize, if_neg hsize]

theorem host_of_load_error {refusal : Refusal} (hl : (h.load t).1 = .error refusal) :
    (h.load t).2 = h := by
  rcases load_cases h t with ⟨g, hg⟩ | ⟨refusal', hr⟩
  · rw [hg] at hl
    cases hl
  · rw [hr]

/-! ## What a file gives -/

theorem readSource_of_encode? (hfile : files path = .ok bytes) (ht : Utf8.encode? t = some bytes) :
    readSource files path = .ok t.foldNewlines := by
  unfold readSource
  rw [hfile]
  dsimp only
  rw [Utf8.decode?_eq_ok_iff.mpr ht]

/-- Bytes that no text is encoded as are no source. -/
theorem readSource_of_malformed (hfile : files path = .ok bytes)
    (hbytes : ∀ t, Utf8.encode? t ≠ some bytes) :
    ∃ flaw, readSource files path = .error (.notUtf8 path flaw) := by
  unfold readSource
  rw [hfile]
  dsimp only
  cases hdecode : Utf8.decode? bytes with
  | ok t => exact absurd (Utf8.decode?_eq_ok_iff.mp hdecode) (hbytes t)
  | error e => exact ⟨e.flaw, rfl⟩

/-- A refused file leaves the host as it was, whatever the reason. -/
theorem host_of_loadFile_error {refusal : Refusal}
    (hl : (h.loadFile files path).1 = .error refusal) : (h.loadFile files path).2 = h := by
  cases hread : readSource files path with
  | error refusal' => rw [loadFile_of_refused hread]
  | ok t =>
    rw [loadFile_of_readSource hread] at hl ⊢
    exact host_of_load_error hl

/-! ## Hosts with the same program -/

/-- The hosts are the same, but for how the texts that they keep end their lines. -/
def SameProgram (h h' : Host) : Prop :=
  ∃ source, h' = { h with source } ∧ source.map Grid.ofText = h.source.map Grid.ofText

theorem SameProgram.refl (h : Host) : SameProgram h h := ⟨h.source, rfl, rfl⟩

namespace SameProgram

theorem load (hs : SameProgram h h') (t : Text) :
    (h'.load t).1 = (h.load t).1 ∧ SameProgram (h.load t).2 (h'.load t).2 := by
  obtain ⟨source, rfl, hsource⟩ := hs
  unfold Host.load
  rw [show oversize? { h with source } t = h.oversize? t from rfl]
  cases h.oversize? t with
  | none => exact ⟨rfl, .refl _⟩
  | some refusal => exact ⟨rfl, source, rfl, hsource⟩

theorem loadFile (hs : SameProgram h h') (files : Files) (path : Path) :
    (h'.loadFile files path).1 = (h.loadFile files path).1 ∧
      SameProgram (h.loadFile files path).2 (h'.loadFile files path).2 := by
  cases hread : readSource files path with
  | error refusal =>
    rw [loadFile_of_refused hread, loadFile_of_refused hread]
    exact ⟨rfl, hs⟩
  | ok t =>
    rw [loadFile_of_readSource hread, loadFile_of_readSource hread]
    exact hs.load t

/-- A run starts from the grid, so it does not see the text. -/
theorem run (hs : SameProgram h h') (input : Option Text) (bound : Nat) :
    (h'.run input bound).1 = (h.run input bound).1 ∧
      SameProgram (h.run input bound).2 (h'.run input bound).2 := by
  obtain ⟨source', rfl, hsource⟩ := hs
  cases ht : h.source with
  | none =>
    rw [ht, Option.map_none, Option.map_eq_none_iff] at hsource
    subst hsource
    unfold Host.run
    rw [ht]
    exact ⟨rfl, none, rfl, congrArg (Option.map Grid.ofText) ht.symm⟩
  | some t =>
    rw [ht, Option.map_some, Option.map_eq_some_iff] at hsource
    obtain ⟨t', rfl, hgrid⟩ := hsource
    have hstart : machineFor { h with source := some t' } input t' = h.machineFor input t := by
      unfold machineFor
      rw [hgrid]
      rfl
    rw [run_of_source (h := { h with source := some t' }) rfl, run_of_source ht, hstart]
    refine ⟨rfl, some t', rfl, ?_⟩
    show some (Grid.ofText t') = h.source.map Grid.ofText
    rw [ht, hgrid, Option.map_some]

theorem called (hs : SameProgram h h') (c : Call) :
    h'.answer c = h.answer c ∧ SameProgram (h.called c) (h'.called c) := by
  cases c with
  | load t => exact ⟨congrArg Answer.loaded (hs.load t).1, (hs.load t).2⟩
  | loadFile files path =>
    exact ⟨congrArg Answer.loaded (hs.loadFile files path).1, (hs.loadFile files path).2⟩
  | run input bound => exact ⟨congrArg Answer.ran (hs.run input bound).1, (hs.run input bound).2⟩
  | setSeed | setMaxSteps | setStrict =>
    obtain ⟨source, rfl, hsource⟩ := hs
    exact ⟨rfl, source, rfl, hsource⟩

theorem answers (hs : SameProgram h h') (cs : List Call) : h'.answers cs = h.answers cs := by
  induction cs generalizing h h' with
  | nil => rfl
  | cons c cs ih =>
    obtain ⟨hanswer, hcalled⟩ := hs.called c
    rw [Host.answers, Host.answers, hanswer, ih hcalled]

end SameProgram

/-- Folding newlines makes no difference to a load. -/
theorem load_foldNewlines (h : Host) (t : Text) :
    (h.load t.foldNewlines).1 = (h.load t).1 ∧
      SameProgram (h.load t).2 (h.load t.foldNewlines).2 := by
  have hsize : h.oversize? t.foldNewlines = h.oversize? t := by
    unfold oversize?
    rw [Text.lines_foldNewlines]
  have hgrid : Grid.ofText t.foldNewlines = Grid.ofText t := by
    unfold Grid.ofText
    rw [Text.lines_foldNewlines]
  unfold load
  rw [hsize]
  cases h.oversize? t with
  | none => exact ⟨congrArg Except.ok hgrid, some t.foldNewlines, rfl, congrArg some hgrid⟩
  | some refusal => exact ⟨rfl, .refl h⟩

/-! ## Loading a file -/

/-- Take any host. Every text without surrogates has an encoding, and loading a file that holds the
encoding is loading the text. Both give the grid of the text as it stands, or the same refusal if
the host is strict and the text is too large, and after both the host answers all calls alike. A
file that holds the encoding of no text is refused as such. Whatever is refused leaves the host as
it was. -/
theorem loadFile_eq_load (h : Host) :
    (∀ t : Text, t.Encodable → ∃ bytes, Utf8.encode? t = some bytes ∧
      ∀ (files : Files) (path : Path), files path = .ok bytes →
        (h.loadFile files path).1 = loadOf h.strict t.linesAsTheyStand ∧
          (h.load t).1 = loadOf h.strict t.linesAsTheyStand ∧
          ∀ cs, (h.loadFile files path).2.answers cs = (h.load t).2.answers cs) ∧
      (∀ (files : Files) (path : Path) (bytes : Bytes), files path = .ok bytes →
        (∀ t, Utf8.encode? t ≠ some bytes) →
        ∃ flaw, (h.loadFile files path).1 = .error (.notUtf8 path flaw)) ∧
      (∀ (files : Files) (path : Path) (refusal : Refusal),
        (h.loadFile files path).1 = .error refusal → (h.loadFile files path).2 = h) ∧
      ∀ (t : Text) (refusal : Refusal), (h.load t).1 = .error refusal → (h.load t).2 = h := by
  refine ⟨fun t ht => ?_, fun files path bytes hfile hbytes => ?_,
    fun _ _ _ => host_of_loadFile_error, fun _ _ => host_of_load_error⟩
  · obtain ⟨bytes, hbytes⟩ := Utf8.exists_encode?_iff.mpr ht
    refine ⟨bytes, hbytes, fun files path hfile => ?_⟩
    obtain ⟨hanswer, hsame⟩ := load_foldNewlines h t
    rw [loadFile_of_readSource (readSource_of_encode? hfile hbytes)]
    exact ⟨hanswer.trans (load_eq h t), load_eq h t, hsame.answers⟩
  · obtain ⟨flaw, hread⟩ := readSource_of_malformed hfile hbytes
    exact ⟨flaw, congrArg Prod.fst (loadFile_of_refused hread)⟩

/-- A file in which a carriage return stands alone, before a line feed and at the end, and a file
with the overlong spelling of zero. -/
theorem loadFile_eq_load_mixed_newlines :
    let h := new (.buffer []) true none none none true
    let t : Text := "&.@\r\r\n~\u0085\n2\r"
    let rows : List Text := ["&.@", [], "~", [], "2"]
    let stored : Bytes := [0x26, 0x2E, 0x40, 0x0D, 0x0D, 0x0A, 0x7E, 0xC2, 0x85, 0x0A, 0x32, 0x0D]
    let mixed := Path.ofText "a"
    let overlong := Path.ofText "b"
    let files : Files := fun path => if path = mixed then .ok stored else .ok [0xC0, 0x80]
    (h.loadFile files mixed).1 = .ok (Grid.ofLines rows) ∧
      (h.loadFile files mixed).2.answers [.run (some "7") 9] =
        (h.load t).2.answers [.run (some "7") 9] ∧
      ∃ flaw, (h.loadFile files overlong).1 = .error (.notUtf8 overlong flaw) ∧
        (h.loadFile files overlong).2 = h := by
  intro h t rows stored mixed overlong files
  obtain ⟨hmixed, hoverlong, hkept, -⟩ := loadFile_eq_load h
  have hstored : Utf8.encode? t = some stored := by decide +kernel
  obtain ⟨bytes, hbytes, hload⟩ := hmixed t (by decide +kernel)
  obtain rfl : stored = bytes := Option.some.inj (hstored.symm.trans hbytes)
  obtain ⟨hanswer, -, hanswers⟩ := hload files mixed (if_pos rfl)
  have hmalformed (u : Text) : Utf8.encode? u ≠ some [0xC0, 0x80] := by
    rw [Ne, ← Utf8.decode?_eq_ok_iff]
    unfold Utf8.decode? Utf8.decode
    rw [Utf8.decodeAt]
    intro hread
    cases hread
  obtain ⟨flaw, hflaw⟩ := hoverlong files overlong _ (if_neg (by decide +kernel)) hmalformed
  have hrows : t.linesAsTheyStand = rows := by decide +kernel
  refine ⟨?_, hanswers _, flaw, hflaw, hkept files overlong _ hflaw⟩
  rw [hanswer, hrows]
  rfl

end Funge93.Host
