import Funge93.Host
import Funge93.Proofs.Machine.RandomTurns

/-!
# Sessions of a host

Callers load programs into a host, run them, and change the host's settings, in any order; loads and
runs can fail. This module proves that nothing of this leaks into a later run on an input text. Such
a run gives what a new host would give, and all it needs to know of the past is the last text that
was loaded, the settings, and how often earlier runs drew from a random source given to the host.

Results:
1. `leaves_called`: what one call leaves of each of these.
2. `run_isolated`: the result of a run after any calls on a new host.
-/

namespace Funge93.Host

/-- What callers do with a host. -/
inductive Call
  | load (t : Text)
  | loadFile (files : Files) (path : Path)
  | run (input : Option Text) (bound : Nat)
  | setSeed (seed : Option Int)
  | setMaxSteps (limit : Option Int)
  | setStrict (strict : Bool)

/-- The host after a call, whether it fails or not. -/
def called (h : Host) : Call → Host
  | .load t => (h.load t).2
  | .loadFile files path => (h.loadFile files path).2
  | .run input bound => (h.run input bound).2
  | .setSeed seed => { h with seed }
  | .setMaxSteps limit => { h with maxSteps := limit }
  | .setStrict strict => { h with strict }

/-- The host after some calls. -/
def calls (h : Host) (cs : List Call) : Host := cs.foldl called h

/-- What a call gives back. -/
inductive Answer
  | loaded (result : Except Refusal Grid)
  | ran (result : Except RunError RunResult)
  | done

/-- What the host gives back from a call. -/
def answer (h : Host) : Call → Answer
  | .load t => .loaded (h.load t).1
  | .loadFile files path => .loaded (h.loadFile files path).1
  | .run input bound => .ran (h.run input bound).1
  | _ => .done

/-- What the host gives back from some calls. -/
def answers (h : Host) : List Call → List Answer
  | [] => []
  | c :: cs => h.answer c :: (h.called c).answers cs

/-! ## What a run depends on -/

/-- The text that a call loads, if it is a load that succeeds. -/
def loaded? (h : Host) : Call → Option Text
  | .load t =>
    match (h.load t).1 with
    | .ok _ => some t
    | .error _ => none
  | .loadFile files path =>
    match readSource files path, (h.loadFile files path).1 with
    | .ok t, .ok _ => some t
    | _, _ => none
  | _ => none

/-- The text of the last load that succeeds in some calls. -/
def lastLoaded? (h : Host) : List Call → Option Text
  | [] => none
  | c :: cs => ((h.called c).lastLoaded? cs).or (h.loaded? c)

/-- The settings of a host that reach the machines it runs. -/
structure Settings where
  seed : Option Int
  maxSteps : Option Int
deriving DecidableEq, Repr

/-- The settings of a host. -/
def settings (h : Host) : Settings := ⟨h.seed, h.maxSteps⟩

/-- The settings after a call. -/
def Settings.after (s : Settings) : Call → Settings
  | .setSeed seed => { s with seed }
  | .setMaxSteps limit => { s with maxSteps := limit }
  | _ => s

/-- The random turns that a call executes. -/
def randomTurns (h : Host) : Call → Nat
  | .run input bound => h.source.elim 0 fun source => (h.machineFor input source).randomTurns bound
  | _ => 0

/-- The random turns that some calls execute. -/
def totalRandomTurns (h : Host) : List Call → Nat
  | [] => 0
  | c :: cs => h.randomTurns c + (h.called c).totalRandomTurns cs

/-- What a run tells of the machine that it ends with. -/
def report : Machine × RunEnd → Except RunError RunResult
  | (m, .stopped) => .ok (RunResult.ofMachine m)
  | (_, .misused e) => .error (.misused e)
  | (_, .unfinished) => .error .unfinished

/-- What a call leaves of all that later runs depend on. -/
structure Leaves (h : Host) (c : Call) (h' : Host) : Prop where
  source : h'.source = (h.loaded? c).or h.source
  settings : h'.settings = h.settings.after c
  draws : h'.draws = h.draws.map (Draws.advance (h.randomTurns c))

variable {h : Host}

/-! ## What a call leaves -/

theorem map_advance_zero (d? : Option Draws) : d?.map (Draws.advance 0) = d? := by
  cases d? <;> rfl

/-- A call that loads nothing, sets nothing that counts and draws nothing leaves all as it was. -/
theorem Leaves.refl {c : Call} (hloaded : h.loaded? c = none)
    (hset : h.settings.after c = h.settings) (hturns : h.randomTurns c = 0) : Leaves h c h where
  source := by rw [hloaded, Option.none_or]
  settings := hset.symm
  draws := by rw [hturns, map_advance_zero]

/-- A load keeps the text if it accepts it, and otherwise leaves the host as it was. -/
theorem load_cases (h : Host) (t : Text) :
    (∃ g, h.load t = (.ok g, { h with source := some t })) ∨
      ∃ refusal, h.load t = (.error refusal, h) := by
  unfold load
  cases h.oversize? t with
  | none => exact .inl ⟨_, rfl⟩
  | some refusal => exact .inr ⟨refusal, rfl⟩

theorem leaves_load (h : Host) (t : Text) : Leaves h (.load t) (h.load t).2 := by
  have hloaded : h.loaded? (.load t) = match (h.load t).1 with
    | .ok _ => some t
    | .error _ => none := rfl
  rcases load_cases h t with ⟨g, hl⟩ | ⟨refusal, hl⟩
  · rw [hl] at hloaded ⊢
    exact ⟨by rw [hloaded]; rfl, rfl, (map_advance_zero h.draws).symm⟩
  · rw [hl] at hloaded ⊢
    exact .refl hloaded rfl rfl

/-- Loading a file is loading the text in it, if there is one. -/
theorem loadFile_of_readSource {files : Files} {path : Path} {t : Text}
    (hread : readSource files path = .ok t) : h.loadFile files path = h.load t := by
  unfold loadFile
  rw [hread]

theorem loadFile_of_refused {files : Files} {path : Path} {refusal : Refusal}
    (hread : readSource files path = .error refusal) :
    h.loadFile files path = (.error refusal, h) := by
  unfold loadFile
  rw [hread]

theorem leaves_loadFile (h : Host) (files : Files) (path : Path) :
    Leaves h (.loadFile files path) (h.loadFile files path).2 := by
  have hloaded : h.loaded? (.loadFile files path) =
    match readSource files path, (h.loadFile files path).1 with
    | .ok t, .ok _ => some t
    | _, _ => none := rfl
  cases hr : readSource files path with
  | error refusal =>
    have hf := loadFile_of_refused (h := h) hr
    rw [hr, hf] at hloaded
    rw [hf]
    exact .refl hloaded rfl rfl
  | ok t =>
    have hf := loadFile_of_readSource (h := h) hr
    have hsame : h.loaded? (.loadFile files path) = h.loaded? (.load t) := by
      rw [hloaded, hr, hf]
      show _ = match (h.load t).1 with
        | .ok _ => some t
        | .error _ => none
      cases (h.load t).1 <;> rfl
    have hl := leaves_load h t
    rw [hf]
    exact ⟨hsame ▸ hl.source, hl.settings, hl.draws⟩

/-- A run reports on the machine that it ends with. -/
theorem run_of_source {source : Text} (hs : h.source = some source) (input : Option Text)
    (bound : Nat) :
    h.run input bound =
      (report ((h.machineFor input source).run bound),
        h.afterRun input ((h.machineFor input source).run bound).1) := by
  unfold run
  rw [hs]
  dsimp only
  generalize (h.machineFor input source).run bound = r
  obtain ⟨m, how⟩ := r
  cases how <;> rfl

/-- A run leaves of the host all but its console, its random source and its last machine. -/
theorem leaves_run (h : Host) (input : Option Text) (bound : Nat) :
    Leaves h (.run input bound) (h.run input bound).2 := by
  cases hs : h.source with
  | none =>
    have hturns : h.randomTurns (.run input bound) = 0 := by
      unfold randomTurns
      rw [hs]
      rfl
    unfold run
    rw [hs]
    exact .refl rfl rfl hturns
  | some source =>
    have hturns : h.randomTurns (.run input bound) =
        (h.machineFor input source).randomTurns bound := by
      unfold randomTurns
      rw [hs]
      rfl
    rw [run_of_source hs]
    refine ⟨rfl, rfl, ?_⟩
    rw [hturns]
    show h.draws.map (fun _ => ((h.machineFor input source).run bound).1.draws) = _
    rw [Machine.draws_run]
    cases hd : h.draws with
    | none => rfl
    | some d =>
      show some ((h.draws.getD (Draws.ofSeed h.seed)).advance _) = _
      rw [hd]
      rfl

theorem leaves_called (h : Host) (c : Call) : Leaves h c (h.called c) := by
  cases c with
  | load t => exact leaves_load h t
  | loadFile files path => exact leaves_loadFile h files path
  | run input bound => exact leaves_run h input bound
  | setSeed | setMaxSteps | setStrict => exact ⟨rfl, rfl, (map_advance_zero h.draws).symm⟩

/-! ## What calls leave -/

theorem source_calls (h : Host) (cs : List Call) :
    (h.calls cs).source = (h.lastLoaded? cs).or h.source := by
  induction cs generalizing h with
  | nil => rfl
  | cons c cs ih =>
    calc
      ((h.called c).calls cs).source
        = ((h.called c).lastLoaded? cs).or (h.called c).source := ih (h.called c)
      _ = ((h.called c).lastLoaded? cs).or ((h.loaded? c).or h.source) := by
        rw [(leaves_called h c).source]
      _ = (h.lastLoaded? (c :: cs)).or h.source := Option.or_assoc.symm

theorem settings_calls (h : Host) (cs : List Call) :
    (h.calls cs).settings = cs.foldl Settings.after h.settings := by
  induction cs generalizing h with
  | nil => rfl
  | cons c cs ih =>
    show ((h.called c).calls cs).settings = _
    rw [ih, (leaves_called h c).settings]
    rfl

theorem draws_calls (h : Host) (cs : List Call) :
    (h.calls cs).draws = h.draws.map (Draws.advance (h.totalRandomTurns cs)) := by
  induction cs generalizing h with
  | nil => exact (map_advance_zero h.draws).symm
  | cons c cs ih =>
    show ((h.called c).calls cs).draws = _
    rw [ih, (leaves_called h c).draws, Option.map_map]
    congr 1
    funext d
    exact (Draws.advance_add d _ _).symm

/-! ## Runs on an input text -/

theorem runText_eq_report (source t : Text) (seed : Option Int) (draws : Option Draws)
    (maxSteps : Option Int) (bound : Nat) :
    runText source t seed draws maxSteps false bound =
      report ((Machine.start (Grid.ofText source) (Console.buffer t)
        (draws.getD (Draws.ofSeed seed)) maxSteps).run bound) := by
  let fresh : Host := ⟨Console.buffer [], true, seed, draws, maxSteps, false, some source, none⟩
  calc
    runText source t seed draws maxSteps false bound
      = (fresh.run (some t) bound).1 := rfl
    _ = report ((fresh.machineFor (some t) source).run bound) := by
      rw [run_of_source (h := fresh) rfl]

/-- A run on an input text is the run of a new host with the same program, settings and random
source. -/
theorem run_eq_runText {source : Text} (hs : h.source = some source) (t : Text) (bound : Nat) :
    (h.run (some t) bound).1 = runText source t h.seed h.draws h.maxSteps false bound := by
  rw [run_of_source hs, runText_eq_report]
  rfl

/-- After any calls on a new host, a run on an input text gives the result that the text of the last
load that succeeded gives on a new host with the present seed and step budget, or is refused if no
load succeeded. A random source given to the host has moved on by one draw for each random turn of
the earlier runs. Nothing else of the earlier calls matters. -/
theorem run_isolated (console : Console) (keepsPending : Bool) (seed : Option Int)
    (draws : Option Draws) (maxSteps : Option Int) (strict : Bool) (cs : List Call) (t : Text)
    (bound : Nat) :
    let host := new console keepsPending seed draws maxSteps strict
    let now := cs.foldl Settings.after ⟨seed, maxSteps⟩
    ((host.calls cs).run (some t) bound).1 =
      (match host.lastLoaded? cs with
        | none => .error (.refused .noProgram)
        | some source =>
          runText source t now.seed (draws.map (Draws.advance (host.totalRandomTurns cs)))
            now.maxSteps false bound) ∧
      Refusal.noProgram.message = "no program loaded" := by
  intro host now
  refine ⟨?_, rfl⟩
  have hsource : (host.calls cs).source = host.lastLoaded? cs := by
    rw [source_calls]
    exact Option.or_none
  have hnow : (host.calls cs).settings = now := settings_calls host cs
  cases hl : host.lastLoaded? cs with
  | none =>
    rw [hl] at hsource
    unfold run
    rw [hsource]
  | some source =>
    rw [hl] at hsource
    dsimp only
    rw [run_eq_runText hsource, draws_calls, ← hnow]
    rfl

end Funge93.Host
