import Funge93.Proofs.Host.Sessions
import Funge93.Proofs.Machine.Feeding

/-!
# Runs that share a console

A host loads and runs one program after another on its own console. This module proves that a
console in memory carries two texts from run to run and nothing else: the text left unread, the
character looked ahead at included, and the output so far. Each run gives what it gives on a fresh
console with the text left unread, but for the earlier output that comes before its own.

Results:
1. `report_lagging`: what a run reports of two machines of which one has earlier output.
2. `round_sameStream`: one round on the shared console, against one on a fresh console.
3. `rounds_eq_separately`: any rounds.
-/

namespace Funge93

/-- A result with earlier output before its own. -/
def RunResult.after (out : Text) (r : RunResult) : RunResult :=
  { r with output := r.output.map (out ++ ·) }

namespace Host

/-- A program to be loaded and run within a bound on its ticks. -/
structure Round where
  source : Text
  bound : Nat
deriving DecidableEq, Repr

/-- Loads a program and runs it on the console of the host. -/
def round (h : Host) (r : Round) : Except RunError RunResult × Host :=
  match h.load r.source with
  | (.error refusal, h) => (.error (.refused refusal), h)
  | (.ok _, h) => h.run none r.bound

/-- The results of some rounds in turn, and the host after them. -/
def rounds (h : Host) : List Round → List (Except RunError RunResult) × Host
  | [] => ([], h)
  | r :: rs =>
    let (a, h) := h.round r
    let (as, h) := h.rounds rs
    (a :: as, h)

/-- The texts that pass from one round to the next: the text left unread, and the output so far. -/
structure Carried where
  unread : Text
  output : Text
deriving DecidableEq, Repr

/-- The host with a fresh console in memory that holds a text. -/
def onFresh (h : Host) (t : Text) : Host := { h with console := .buffer t }

/-- The results of some rounds, each on a fresh console with the text that the round before left
unread, and with all output of the earlier rounds before its own; what they carry on, and the host
after them. -/
def separately (h : Host) (c : Carried) :
    List Round → List (Except RunError RunResult) × Carried × Host
  | [] => ([], c, h)
  | r :: rs =>
    let (a, h) := (h.onFresh c.unread).round r
    let (as, last) := h.separately ⟨h.console.unread, c.output ++ h.console.written⟩ rs
    (a.map (.after c.output) :: as, last)

/-- The host has a console in memory of its own. -/
structure OnBuffer (h : Host) : Prop where
  inMemory : h.console.InMemory
  kind : h.console.kind = .buffer
  keepsPending : h.keepsPending = true

/-- `SameStream c h s`: the console of the host `h` holds the texts `c`, and the host `s` has the
same program, settings and random source. -/
structure SameStream (c : Carried) (h s : Host) : Prop extends h.OnBuffer where
  unread : h.console.unread = c.unread
  written : h.console.written = c.output
  keeps : s.keepsPending = h.keepsPending
  strict : s.strict = h.strict
  settings : s.settings = h.settings
  draws : s.draws = h.draws
  source : s.source = h.source

variable {h s : Host} {c : Carried} {m m' : Machine} {out : Text}

/-! ## What a run reports -/

/-- A machine whose console has earlier output is reported with that output. -/
theorem report_lagging (h : Machine.Alike (.lagging out []) m m')
    (hk : m.console.kind = .buffer) (hk' : m'.console.kind = .buffer) (how : RunEnd) :
    report (m', how) = (report (m, how)).map (.after out) := by
  cases how with
  | stopped =>
    have hresult : RunResult.ofMachine m' = (RunResult.ofMachine m).after out := by
      unfold RunResult.ofMachine RunResult.after
      rw [if_pos hk, if_pos hk', h.console.written, Machine.eq_of_lagging h]
      rfl
    exact congrArg Except.ok hresult
  | misused e | unfinished => rfl

theorem console_machineFor (hk : h.keepsPending = true) (source : Text) :
    (h.machineFor none source).console = h.console :=
  if_pos hk

theorem kind_run (hh : h.OnBuffer) (source : Text) (bound : Nat) :
    ((h.machineFor none source).run bound).1.console.kind = .buffer := by
  refine Machine.run_keeps (P := fun m => m.console.kind = .buffer)
    (fun hk => (Machine.kind_tick _).trans hk) ?_ bound
  rw [console_machineFor hh.keepsPending]
  exact hh.kind

/-! ## Runs on a shared console -/

namespace SameStream

theorem onFresh (hs : SameStream c h s) (t : Text) : OnBuffer (s.onFresh t) :=
  ⟨Console.inMemory_buffer t, rfl, hs.keeps.trans hs.keepsPending⟩

/-- The machine on the shared console starts like the one on a fresh console. -/
theorem machineFor (hs : SameStream c h s) (source : Text) :
    Machine.Alike (.lagging c.output []) ((s.onFresh c.unread).machineFor none source)
      (h.machineFor none source) := by
  have hfresh := console_machineFor (hs.onFresh c.unread).keepsPending source
  have hshared := console_machineFor hs.keepsPending source
  obtain ⟨hseed, hmax⟩ := Settings.mk.inj hs.settings
  refine ⟨rfl, rfl, ?_, ?_, ?_, rfl, rfl, rfl⟩
  · rw [hfresh, hshared]
    exact ⟨Console.inMemory_buffer _, hs.inMemory, hs.unread.trans (List.append_nil _).symm,
      hs.written.trans (List.append_nil _).symm⟩
  · exact congrArg (·, Counters.zero) hmax
  · show h.draws.getD (Draws.ofSeed h.seed) = s.draws.getD (Draws.ofSeed s.seed)
    rw [hs.draws, hseed]

/-- A run on the shared console, against the same run on a fresh console. -/
theorem run (hs : SameStream c h s) {source : Text} (hsource : h.source = some source)
    (bound : Nat) :
    let fresh := (s.onFresh c.unread).run none bound
    (h.run none bound).1 = fresh.1.map (.after c.output) ∧
      SameStream ⟨fresh.2.console.unread, c.output ++ fresh.2.console.written⟩
        (h.run none bound).2 fresh.2 := by
  have hsource' : (s.onFresh c.unread).source = some source := hs.source.trans hsource
  obtain ⟨hlike, hend⟩ := Machine.run_alike_of_blind (Machine.blind_lagging c.output)
    (hs.machineFor source) bound
  have hkind := kind_run hs.toOnBuffer source bound
  have hkind' := kind_run (hs.onFresh c.unread) source bound
  rw [run_of_source hsource, run_of_source hsource']
  generalize (h.machineFor none source).run bound = r at hlike hend hkind ⊢
  generalize ((s.onFresh c.unread).machineFor none source).run bound = r' at hlike hend hkind' ⊢
  refine ⟨?_, ⟨hlike.console.right, hkind, hs.keepsPending⟩, ?_, hlike.console.written, hs.keeps,
    hs.strict, hs.settings, ?_, hs.source⟩
  · show report (r.1, r.2) = _
    rw [hend]
    exact report_lagging hlike hkind' hkind r'.2
  · exact hlike.console.unread.trans (List.append_nil _)
  · show s.draws.map (fun _ => r'.1.draws) = h.draws.map fun _ => r.1.draws
    rw [hs.draws, show r.1.draws = r'.1.draws from hlike.draws]

/-- A round on the shared console, against the same round on a fresh console. -/
theorem round (hs : SameStream c h s) (r : Round) :
    let fresh := (s.onFresh c.unread).round r
    (h.round r).1 = fresh.1.map (.after c.output) ∧
      SameStream ⟨fresh.2.console.unread, c.output ++ fresh.2.console.written⟩ (h.round r).2
        fresh.2 := by
  have hsize : (s.onFresh c.unread).oversize? r.source = h.oversize? r.source := by
    unfold oversize?
    rw [show (s.onFresh c.unread).strict = h.strict from hs.strict]
  unfold Host.round load
  rw [hsize]
  cases h.oversize? r.source with
  | some refusal =>
    exact ⟨rfl, { hs with written := hs.written.trans (List.append_nil _).symm }⟩
  | none =>
    have hloaded : SameStream c { h with source := some r.source }
      { s with source := some r.source } := { hs with source := rfl }
    exact hloaded.run rfl r.bound

theorem rounds (hs : SameStream c h s) (rs : List Round) :
    (h.rounds rs).1 = (s.separately c rs).1 ∧
      SameStream (s.separately c rs).2.1 (h.rounds rs).2 (s.separately c rs).2.2 := by
  -- The next round starts from what this one carries on, so both hosts are generalised.
  induction rs generalizing c h s with
  | nil => exact ⟨rfl, hs⟩
  | cons r rs ih =>
    obtain ⟨hanswer, hround⟩ := hs.round r
    obtain ⟨hanswers, hrounds⟩ := ih hround
    exact ⟨congr (congrArg List.cons hanswer) hanswers, hrounds⟩

end SameStream

/-- Take a host with a console in memory, and load and run any programs on it in turn. Each gives
the result that it gives on a fresh console with the text that the run before left unread, with all
earlier output before its own, from a random source in the same state. In the end, the console
holds the text that the last of these runs leaves unread, and the output of all of them. -/
theorem rounds_eq_separately (h : Host) (hh : h.OnBuffer) (rs : List Round) :
    let shared := h.rounds rs
    let separate := h.separately ⟨h.console.unread, h.console.written⟩ rs
    shared.1 = separate.1 ∧ shared.2.console.unread = separate.2.1.unread ∧
      shared.2.console.written = separate.2.1.output ∧ shared.2.draws = separate.2.2.draws := by
  intro shared separate
  have hstart : SameStream ⟨h.console.unread, h.console.written⟩ h h :=
    { hh with unread := rfl, written := rfl, keeps := rfl, strict := rfl, settings := rfl,
              draws := rfl, source := rfl }
  obtain ⟨hanswers, hlast⟩ := hstart.rounds rs
  exact ⟨hanswers, hlast.unread, hlast.written, hlast.draws.symm⟩

/-- A minus sign that ends the first number is the sign of the second one, read by a program that
then runs out of steps. The third program reads on from there. -/
theorem rounds_eq_separately_signed_numbers :
    let h := new (.buffer "12-34x") true none none (some 3) false
    let rs : List Round := [⟨"&.@", 9⟩, ⟨"&.>", 9⟩, ⟨"~,@", 9⟩]
    let told : List (Option (Bool × Option Text)) :=
      [some (true, some "12 "), some (false, some "12 -34 "), some (true, some "12 -34 x")]
    (h.rounds rs).1.map (·.toOption.map fun r => (r.ok, r.output)) = told ∧
      (h.rounds rs).2.console.unread = [] := by
  intro h rs told
  obtain ⟨hanswers, hunread, -⟩ := rounds_eq_separately h ⟨Console.inMemory_buffer _, rfl, rfl⟩ rs
  have htold : (h.separately ⟨"12-34x", []⟩ rs).1.map
      (·.toOption.map fun r => (r.ok, r.output)) = told := by
    decide +kernel
  exact ⟨(congrArg _ hanswers).trans htold, hunread.trans (by decide +kernel)⟩

end Host

end Funge93
