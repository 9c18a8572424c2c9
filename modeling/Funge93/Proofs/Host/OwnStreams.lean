import Funge93.Proofs.Host.Sessions

/-!
# Runs on consoles of their own

A host that is given a console keeps it from run to run. A host without one opens the streams anew
for each run, so the character that a run looked ahead at goes with the console of that run. This
module compares the two on the same streams (`Agree`) and shows where they part: a number at the end
of one run takes the character behind it away from the next one. The reading on which both hosts
always agree is wrong (`forgetful_loses_lookAhead`).

Results:
1. `calls_forgetful`: as long as no character is pending after a call, the hosts stay the same.
2. `agree_iff_nothing_pending`: they agree all along exactly if no character is ever pending after a
   call, and the first one that is pending is all that they differ in at that moment.
-/

namespace Funge93.Host

/-- The host, with a console of its own for each run on its streams. -/
def forgetful (h : Host) : Host := { h with keepsPending := false }

/-- The host, with one console for all runs on its streams. -/
def sharing (h : Host) : Host := { h with keepsPending := true }

/-- The text that the next run on the streams meets. -/
def unread (h : Host) : Text := (h.runConsole none).unread

/-- Some calls get the same answers from two hosts, and leave the same text written and the same
text unread. -/
structure Agree (h h' : Host) (cs : List Call) : Prop where
  answers : h'.answers cs = h.answers cs
  written : (h'.calls cs).console.written = (h.calls cs).console.written
  unread : (h'.calls cs).unread = (h.calls cs).unread

variable {h : Host} {cs : List Call}

theorem unread_of_keepsPending (hk : h.keepsPending = true) :
    h.unread = h.console.pending.toList ++ h.forgetful.unread := by
  unfold unread runConsole
  rw [if_pos hk]
  rfl

theorem keepsPending_load (h : Host) (t : Text) : (h.load t).2.keepsPending = h.keepsPending := by
  rcases load_cases h t with ⟨g, hl⟩ | ⟨refusal, hl⟩ <;> rw [hl]

theorem keepsPending_called (h : Host) (c : Call) : (h.called c).keepsPending = h.keepsPending := by
  cases c with
  | load t => exact keepsPending_load h t
  | loadFile files path =>
    show (h.loadFile files path).2.keepsPending = _
    cases hread : readSource files path with
    | error refusal => rw [loadFile_of_refused hread]
    | ok t =>
      rw [loadFile_of_readSource hread]
      exact keepsPending_load h t
  | run input bound =>
    show (h.run input bound).2.keepsPending = _
    cases hs : h.source with
    | none => rw [run, hs]
    | some source =>
      rw [run_of_source hs]
      rfl
  | setSeed | setMaxSteps | setStrict => rfl

theorem keepsPending_calls (h : Host) (cs : List Call) :
    (h.calls cs).keepsPending = h.keepsPending := by
  induction cs generalizing h with
  | nil => rfl
  | cons c cs ih => exact (ih (h.called c)).trans (keepsPending_called h c)

/-! ## Without a pending character -/

theorem runConsole_forgetful (hnone : h.console.pending = none) (input : Option Text) :
    h.forgetful.runConsole input = h.runConsole input := by
  cases input with
  | some t => rfl
  | none =>
    have hsame : { h.console with pending := none } = h.console := by rw [← hnone]
    unfold runConsole forgetful
    rw [hsame, ite_self, ite_self]

theorem load_forgetful (h : Host) (t : Text) :
    h.forgetful.load t = ((h.load t).1, (h.load t).2.forgetful) := by
  unfold load
  rw [show h.forgetful.oversize? t = h.oversize? t from rfl]
  cases h.oversize? t <;> rfl

theorem loadFile_forgetful (h : Host) (files : Files) (path : Path) :
    h.forgetful.loadFile files path =
      ((h.loadFile files path).1, (h.loadFile files path).2.forgetful) := by
  cases hread : readSource files path with
  | error refusal => rw [loadFile_of_refused hread, loadFile_of_refused hread]
  | ok t =>
    rw [loadFile_of_readSource hread, loadFile_of_readSource hread]
    exact load_forgetful h t

theorem run_forgetful (hnone : h.console.pending = none) (input : Option Text) (bound : Nat) :
    h.forgetful.run input bound = ((h.run input bound).1, (h.run input bound).2.forgetful) := by
  cases hs : h.source with
  | none =>
    unfold run
    rw [show h.forgetful.source = none from hs, hs]
  | some source =>
    have hstart : h.forgetful.machineFor input source = h.machineFor input source := by
      unfold machineFor
      rw [runConsole_forgetful hnone]
      rfl
    rw [run_of_source (h := h.forgetful) hs, run_of_source hs, hstart]
    rfl

/-- If no character is pending, both hosts answer the next call alike and stay the same. -/
theorem called_forgetful (hnone : h.console.pending = none) (c : Call) :
    h.forgetful.answer c = h.answer c ∧ h.forgetful.called c = (h.called c).forgetful := by
  cases c with
  | load t =>
    obtain ⟨hresult, hafter⟩ := Prod.mk.inj (load_forgetful h t)
    exact ⟨congrArg Answer.loaded hresult, hafter⟩
  | loadFile files path =>
    obtain ⟨hresult, hafter⟩ := Prod.mk.inj (loadFile_forgetful h files path)
    exact ⟨congrArg Answer.loaded hresult, hafter⟩
  | run input bound =>
    obtain ⟨hresult, hafter⟩ := Prod.mk.inj (run_forgetful hnone input bound)
    exact ⟨congrArg Answer.ran hresult, hafter⟩
  | setSeed | setMaxSteps | setStrict => exact ⟨rfl, rfl⟩

/-- The character that is pending after the last call makes no difference yet. -/
theorem calls_forgetful
    (hnone : ∀ done, done <+: cs → done ≠ cs → (h.calls done).console.pending = none) :
    h.forgetful.answers cs = h.answers cs ∧ h.forgetful.calls cs = (h.calls cs).forgetful := by
  induction cs generalizing h with
  | nil => exact ⟨rfl, rfl⟩
  | cons c cs ih =>
    have hfirst : h.console.pending = none :=
      hnone [] List.nil_prefix (List.cons_ne_nil c cs).symm
    obtain ⟨hanswer, hcalled⟩ := called_forgetful hfirst c
    obtain ⟨hanswers, hcalls⟩ := ih (h := h.called c) fun done hdone hne =>
      hnone (c :: done) ((List.prefix_cons_inj c).mpr hdone) fun hsame =>
        hne (List.cons.inj hsame).2
    constructor
    · rw [answers, answers, hanswer, hcalled, hanswers]
    · show (h.forgetful.called c).calls cs = _
      rw [hcalled, hcalls]
      rfl

/-! ## Agreement -/

/-- Before the first pending character that a call leaves behind, the hosts agree; then they differ
in this character and in nothing else. -/
theorem written_and_unread_forgetful (hk : h.keepsPending = true)
    (hnone : ∀ done, done <+: cs → done ≠ cs → (h.calls done).console.pending = none) :
    h.forgetful.answers cs = h.answers cs ∧
      (h.forgetful.calls cs).console.written = (h.calls cs).console.written ∧
      (h.calls cs).unread =
        (h.calls cs).console.pending.toList ++ (h.forgetful.calls cs).unread := by
  obtain ⟨hanswers, hcalls⟩ := calls_forgetful hnone
  refine ⟨hanswers, ?_, ?_⟩
  · rw [hcalls]
    rfl
  · rw [hcalls, unread_of_keepsPending ((keepsPending_calls h cs).trans hk)]

theorem agree_of_nothing_pending (hk : h.keepsPending = true)
    (hnone : ∀ done, done <+: cs → (h.calls done).console.pending = none) :
    Agree h h.forgetful cs := by
  obtain ⟨hanswers, hwritten, hunread⟩ :=
    written_and_unread_forgetful hk fun done hdone _ => hnone done hdone
  refine ⟨hanswers, hwritten, ?_⟩
  rw [hunread, hnone cs (List.prefix_refl cs)]
  rfl

theorem pending_of_agree (hk : h.keepsPending = true)
    (hagree : ∀ done, done <+: cs → Agree h h.forgetful done) (done : List Call)
    (hdone : done <+: cs) : (h.calls done).console.pending = none := by
  have hearlier : ∀ e, e <+: done → e ≠ done → (h.calls e).console.pending = none :=
    fun e he hne => pending_of_agree hk hagree e (he.trans hdone)
  obtain ⟨-, -, hunread⟩ := written_and_unread_forgetful hk hearlier
  rw [(hagree done hdone).unread] at hunread
  exact Option.toList_eq_nil_iff.mp (List.self_eq_append_left.mp hunread)
termination_by done.length
decreasing_by exact Nat.lt_of_le_of_ne he.length_le fun hlen => hne (he.eq_of_length hlen)

/-- Take two hosts on the same streams that get the same calls, one with a console for all runs and
one with a console for each run. They agree after each call exactly if the first one never has a
character pending after a call. Up to the first such character, and also right after the call that
leaves it, the answers and the text written are the same, and it is all that the second host has
less to read. -/
theorem agree_iff_nothing_pending (h : Host) (cs : List Call) :
    ((∀ done, done <+: cs → Agree h.sharing h.forgetful done) ↔
        ∀ done, done <+: cs → (h.sharing.calls done).console.pending = none) ∧
      ((∀ done, done <+: cs → done ≠ cs → (h.sharing.calls done).console.pending = none) →
        h.forgetful.answers cs = h.sharing.answers cs ∧
          (h.forgetful.calls cs).console.written = (h.sharing.calls cs).console.written ∧
          (h.sharing.calls cs).unread =
            (h.sharing.calls cs).console.pending.toList ++ (h.forgetful.calls cs).unread) := by
  have hk : h.sharing.keepsPending = true := rfl
  have hforgetful : h.forgetful = h.sharing.forgetful := rfl
  rw [hforgetful]
  refine ⟨⟨pending_of_agree hk, fun hnone done hdone => ?_⟩, written_and_unread_forgetful hk⟩
  exact agree_of_nothing_pending hk fun e he => hnone e (he.trans hdone)

/-- A number at the end of a run leaves one character less for a host with a console for each run.
Up to there, nothing is pending after any call, so the hosts agree. -/
theorem agree_iff_nothing_pending_number :
    let h := new (.stream (.ofText "1x2") .unlimited) true none none none false
    let load := Call.load "&.@"
    let run := Call.run none 9
    (∀ done, done <+: [load] → Agree h.sharing h.forgetful done) ∧
      (h.sharing.calls [load, run]).unread = "x2" ∧
      (h.forgetful.calls [load, run]).unread = "2" := by
  intro h load run
  have hnone (done : List Call) (hdone : done <+: [load]) :
      (h.sharing.calls done).console.pending = none := by
    rcases List.prefix_cons_iff.mp hdone with rfl | ⟨more, rfl, hmore⟩
    · rfl
    · rw [List.prefix_nil.mp hmore]
      decide +kernel
  refine ⟨(agree_iff_nothing_pending h [load]).1.mpr hnone, ?_⟩
  obtain ⟨-, -, hunread⟩ := (agree_iff_nothing_pending h [load, run]).2 fun done hdone hne => by
    have hsplit : done <+: [load] ++ [run] := hdone
    rcases List.prefix_concat_iff.mp hsplit with hall | hearlier
    · exact absurd hall hne
    · exact hnone done hearlier
  have hown : (h.forgetful.calls [load, run]).unread = "2" := by decide +kernel
  refine ⟨?_, hown⟩
  rw [hunread, hown]
  decide +kernel

/-- Both runs of a session end on either host. The first one reads a number, and the character
behind the number is lost if the second one has a console of its own. -/
theorem forgetful_loses_lookAhead :
    let h := new (.stream (.ofText "1x2") .unlimited) true none none none false
    let cs : List Call := [.load "&.@", .run none 9, .load "~,@", .run none 9]
    let halts (h : Host) (n : Nat) : Bool :=
      ((h.calls (cs.take n)).run none 9).1.toOption.any RunResult.ok
    (∀ n ∈ [1, 3], halts h.sharing n = true ∧ halts h.forgetful n = true) ∧
      (h.sharing.calls cs).console.written = "1 x" ∧
      (h.forgetful.calls cs).console.written = "1 2" ∧
      ¬ Agree h.sharing h.forgetful cs := by
  intro h cs halts
  have hshared : (h.sharing.calls cs).console.written = "1 x" := by decide +kernel
  have hown : (h.forgetful.calls cs).console.written = "1 2" := by decide +kernel
  refine ⟨by decide +kernel, hshared, hown, fun hagree => ?_⟩
  have hsame := hagree.written
  rw [hshared, hown] at hsame
  exact absurd hsame (by decide)

end Funge93.Host
