import Funge93.CommandLine
import Funge93.Proofs.Host.Sessions
import Funge93.Proofs.Machine.Encoding

/-!
# The command line and runs in memory

The command line runs a program on the standard streams and reports on the error stream. A host can
run the same program in memory and give a result. This module proves that the command line shows
this result, for every program, input and combination of options, as long as the program writes no
surrogate, and what it shows when the program does.

Results:
1. `source_of_hasText`, `stdin_of_decode`: the program and the input are those of the run in memory.
2. `result_eq`, `run_eq`: the result and the outcome, each by the machine that it comes from.
3. `shows_ticked`, `showsRefusal_ticked`: what is shown of the one machine and of the other.
4. `run_agrees`: what the command line leaves behind, against the result in memory.
-/

namespace Funge93.CommandLine

/-- The program of a request has the text `t`: that of a source file, with each newline as a line
feed, or that of an expression, with its rows. -/
inductive HasText (files : Files) : Program → Text → Prop
  | file {name : Text} {bytes : Bytes} {t : Text} : files (Path.ofText name) = .ok bytes →
    hasSourceSuffix (Path.ofText name) = true → Utf8.decode? bytes = .ok t →
    HasText files (.file name) t.foldNewlines
  | expr (t : Text) : HasText files (.expr t) (expandRows t)

namespace Request

/-- The result of the program of a request in memory. -/
def result (request : Request) (source input : Text) (bound : Nat) : Except RunError RunResult :=
  runText source input request.seed.value? none request.maxSteps.value? request.strict bound

/-- The machine that a request starts in memory. -/
def inMemory (request : Request) (source input : Text) : Machine :=
  .start (Grid.ofText source) (.buffer input) (.ofSeed request.seed.value?) request.maxSteps.value?

/-- The machine that a request starts on the standard streams. -/
def onStreams (request : Request) (source input : Text) : Machine :=
  { request.inMemory source input with console := .stream (Input.ofText input) stdout }

/-- Why a host refuses the text of a program for its size, if it does. -/
def refusal? (request : Request) (source : Text) : Option Refusal :=
  (request.host (Input.ofText [])).oversize? source

/-- What the command line leaves behind shows a result. -/
structure Shows (request : Request) (r : RunResult) (o : Outcome) : Prop where
  exitCode : o.exitCode = r.exitCode
  stdout : r.output = some o.stdout
  stderr : o.stderr = (if request.stats then r.stats.summary ++ "\n" else []) ++
    (if r.ok then [] else "Error: " ++ r.fault?.getD [] ++ "\n" : Text)
  fault : r.fault?.isNone = r.ok

/-- What the command line leaves behind shows that a write was refused: the next one of a machine,
which writes the surrogate `ch`. -/
structure ShowsRefusal (request : Request) (m : Machine) (ch : CodePoint) (o : Outcome) : Prop where
  exitCode : o.exitCode = 1
  stdout : o.stdout = m.console.written
  stderr : ∃ reason, Utf8.encodeRefusal? [ch] = some reason ∧
    o.stderr = request.report { m.countStep with
      stack := m.stack.discard, status := .faulted (.outputFailed reason) }

end Request

variable {argv : List Text} {files : Files} {bytes : Bytes} {request : Request}
  {source typed input : Text} {m m' : Machine} {bound : Nat}

/-! ## The program and the input -/

theorem source_of_hasText {program : Program} {t : Text} (h : HasText files program t) :
    CommandLine.source files program = .ok t := by
  cases h with
  | expr t => rfl
  | file hfile hsuffix hdecode =>
    unfold CommandLine.source Host.readSource
    dsimp only
    rw [hfile]
    dsimp only
    rw [if_pos hsuffix, hdecode]
    rfl

theorem stdin_of_decode {t : Text} (h : Utf8.decode? bytes = .ok t) :
    stdin bytes = Input.ofText t.foldNewlines := by
  unfold Utf8.decode? at h
  rcases hdecode : Utf8.decode bytes with ⟨t', e?⟩
  rw [hdecode] at h
  cases e? with
  | none =>
    cases h
    unfold stdin
    rw [hdecode]
  | some e => cases h

/-! ## Messages -/

theorem onErrorStream_of_encodable {t : Text} (h : t.Encodable) : onErrorStream t = t := by
  unfold onErrorStream
  induction t with
  | nil => rfl
  | cons ch t ih =>
    obtain ⟨hch, ht⟩ := List.forall_mem_cons.mp h
    rw [List.flatMap_cons, ih ht, if_neg (by rw [hch]; decide)]
    rfl

theorem complaint_of_encodable {message : Text} (h : message.Encodable) :
    complaint message = "Error: " ++ message ++ "\n" :=
  onErrorStream_of_encodable <|
    Text.encodable_append.mpr ⟨Text.encodable_append.mpr ⟨by decide, h⟩, by decide⟩

theorem encodable_refusal {refusal : Refusal} (h : request.refusal? source = some refusal) :
    refusal.message.Encodable := by
  unfold Request.refusal? Host.oversize? at h
  dsimp only at h
  split at h <;> cases h
  unfold Refusal.message
  simp only [Text.encodable_append]
  exact ⟨⟨⟨⟨by decide, Text.encodable_ofNat _⟩, by decide⟩, Text.encodable_ofNat _⟩, by decide⟩

/-- The faults of programs in memory have messages without surrogates. -/
theorem encodable_fault {n : Nat} {f : Fault}
    (hf : ((request.inMemory source input).ticked n).status = .faulted f) :
    f.message.Encodable := by
  have hreliable := Machine.Reliable.start (Grid.ofText source) input
    (Draws.proper_ofSeed request.seed.value?) request.maxSteps.value?
  rcases hreliable.fault_ticked rfl hf with ⟨limit, rfl⟩ | ⟨number, rfl⟩
  · unfold Fault.message
    simp only [Text.encodable_append]
    exact ⟨⟨by decide, Text.encodable_ofInt _⟩, by decide⟩
  · unfold Fault.message
    simp only [Text.encodable_append]
    exact ⟨⟨by decide, Text.encodable_ofInt _⟩, by decide⟩

/-! ## The two machines -/

theorem faultsOnly_inMemory (request : Request) (source input : Text) :
    (request.inMemory source input).FaultsOnly :=
  ⟨⟨.right, rfl⟩, ⟨nofun, nofun⟩, Draws.proper_ofSeed _⟩

theorem faultsOnly_onStreams (request : Request) (source input : Text) :
    (request.onStreams source input).FaultsOnly :=
  { faultsOnly_inMemory request source input with console := ⟨nofun, nofun⟩ }

theorem alike_start (request : Request) (source input : Text) :
    Machine.Alike .encoding (request.inMemory source input) (request.onStreams source input) :=
  ⟨rfl, rfl, ⟨Console.inMemory_buffer input, rfl, rfl, rfl, rfl, rfl⟩, rfl, rfl, rfl, rfl, rfl⟩

/-- A program that is not refused gives the result of the machine in memory, once it has stopped. -/
theorem result_eq (request : Request) (source input : Text) (bound : Nat) :
    request.result source input bound = match request.refusal? source with
      | some refusal => .error (.refused refusal)
      | none =>
        if ((request.inMemory source input).ticked bound).isRunning then .error .unfinished
        else .ok (RunResult.ofMachine ((request.inMemory source input).ticked bound)) := by
  -- Of a host, the check of the size looks only at whether it is strict.
  have hsize : (Host.new (.buffer []) true request.seed.value? none request.maxSteps.value?
      request.strict).oversize? source = request.refusal? source := rfl
  unfold Request.result runText Host.load
  dsimp only
  rw [hsize]
  cases request.refusal? source with
  | some refusal => rfl
  | none =>
    have hrun := Machine.run_eq_ticked (faultsOnly_inMemory request source input) rfl bound
    dsimp only
    rw [Host.run_of_source rfl]
    show Host.report ((request.inMemory source input).run bound) = _
    rw [hrun]
    split <;> rfl

theorem machine_eq (hsource : HasText files request.program source)
    (hinput : Utf8.decode? bytes = .ok typed) :
    request.machine files (stdin bytes) = match request.refusal? source, request.hollowOption? with
      | some refusal, _ => .error (.refused refusal.message)
      | none, some flag => .error (.hollow flag)
      | none, none => .ok (request.onStreams source typed.foldNewlines) := by
  have hsize : (request.host (Input.ofText typed.foldNewlines)).oversize? source =
      request.refusal? source := rfl
  unfold Request.machine Host.load
  rw [source_of_hasText hsource, stdin_of_decode hinput]
  dsimp only [bind, Except.bind]
  rw [hsize]
  cases request.refusal? source with
  | some refusal => rfl
  | none => cases request.hollowOption? <;> rfl

/-- A program that is not refused has the outcome of the machine on the standard streams, once it
has stopped. -/
theorem run_eq (hparse : parse argv = .ok request) (hsource : HasText files request.program source)
    (hinput : Utf8.decode? bytes = .ok typed) (bound : Nat) :
    run argv files bytes bound = match request.refusal? source, request.hollowOption? with
      | some refusal, _ => .ok ⟨1, [], complaint refusal.message⟩
      | none, some flag => .error (.hollow flag)
      | none, none =>
        if ((request.onStreams source typed.foldNewlines).ticked bound).isRunning then
          .error .unfinished
        else
          .ok (request.outcome ((request.onStreams source typed.foldNewlines).ticked bound)) := by
  unfold run
  rw [hparse]
  dsimp only
  rw [machine_eq hsource hinput]
  cases request.refusal? source with
  | some refusal => rfl
  | none =>
    cases request.hollowOption? with
    | some flag => rfl
    | none =>
      dsimp only
      rw [Machine.run_eq_ticked (faultsOnly_onStreams request source _) rfl bound]
      cases ((request.onStreams source typed.foldNewlines).ticked bound).isRunning <;> rfl

/-! ## What is shown -/

/-- A machine in memory that has stopped gives a result, and the command line shows it on a machine
that is alike. -/
theorem shows_outcome (h : Machine.Alike .encoding m m') (hkind : m.console.kind = .buffer)
    (hstopped : m.isRunning = false)
    (hfault : ∀ f, m.status = .faulted f → f.message.Encodable) :
    request.Shows (RunResult.ofMachine m) (request.outcome m') := by
  have hstats : m'.stats = m.stats := by
    rw [Machine.eq_of_onConsole h]
    rfl
  have hstatus : m.status = .halted ∨ ∃ f, m.status = .faulted f := by
    unfold Machine.isRunning at hstopped
    cases hs : m.status with
    | running =>
      rw [hs] at hstopped
      cases hstopped
    | halted => exact .inl rfl
    | faulted f => exact .inr ⟨f, rfl⟩
  constructor
  · show (if (m'.status == .halted) = true then 0 else 1) = _
    rw [h.status]
    rfl
  · show (if m.console.kind = .buffer then some m.console.written else none) = some _
    rw [if_pos hkind]
    exact congrArg some h.console.written.symm
  · show request.report m' = _
    unfold Request.report RunResult.ofMachine RunResult.ok RunResult.fault?
    rw [h.status, hstats]
    rcases hstatus with hs | ⟨f, hs⟩
    · rw [hs]
      rfl
    · have hcomplaint := complaint_of_encodable (hfault f hs)
      rw [hs, show (Status.faulted f).fault? = some f from rfl]
      dsimp only
      rw [hcomplaint]
      rfl
  · show (m.status.fault?.map Fault.message).isNone = (m.status == .halted)
    rcases hstatus with hs | ⟨f, hs⟩ <;> rw [hs] <;> rfl

theorem kind_ticked (request : Request) (source input : Text) (n : Nat) :
    ((request.inMemory source input).ticked n).console.kind = .buffer :=
  Machine.ticked_keeps (P := fun m => m.console.kind = .buffer)
    (fun hk => (Machine.kind_tick _).trans hk) rfl n

/-- A program that stops in memory and writes no surrogate stops on the standard streams, and its
result is shown. -/
theorem shows_ticked {n : Nat}
    (hstopped : ((request.inMemory source input).ticked n).isRunning = false)
    (hnone : (request.inMemory source input).WritesNoSurrogate n) :
    ((request.onStreams source input).ticked n).isRunning = false ∧
      request.Shows (RunResult.ofMachine ((request.inMemory source input).ticked n))
        (request.outcome ((request.onStreams source input).ticked n)) := by
  have hlike := Machine.ticked_encoding (alike_start request source input) hnone
  exact ⟨(Machine.isRunning_eq hlike).trans hstopped,
    shows_outcome hlike (kind_ticked request source input n) hstopped fun f => encodable_fault⟩

/-- A program that reaches the write of a surrogate stops there on the standard streams, and the
refusal is shown. -/
theorem showsRefusal_ticked {k : Nat} {ch : CodePoint}
    (hfirst : (request.inMemory source input).WritesNoSurrogate k)
    (hw : ((request.inMemory source input).ticked k).WritesSurrogate ch) :
    ((request.onStreams source input).ticked (k + 1)).isRunning = false ∧
      request.ShowsRefusal ((request.inMemory source input).ticked k) ch
        (request.outcome ((request.onStreams source input).ticked (k + 1))) := by
  have hlike := Machine.ticked_encoding (alike_start request source input) hfirst
  obtain ⟨reason, hreason, htick⟩ := Machine.tick_of_surrogate hlike hw
  rw [Machine.ticked_succ, htick]
  exact ⟨rfl, rfl, hlike.console.written, reason, hreason, rfl⟩

/-! ## Whole invocations -/

/-- The outcome is that of the machine on the standard streams, when it stops within the bound. -/
theorem run_of_stopped (hparse : parse argv = .ok request)
    (hsource : HasText files request.program source) (hinput : Utf8.decode? bytes = .ok typed)
    (hsize : request.refusal? source = none) (hfull : request.hollowOption? = none) {n : Nat}
    (hn : n ≤ bound)
    (hstopped : ((request.onStreams source typed.foldNewlines).ticked n).isRunning = false) :
    run argv files bytes bound =
      .ok (request.outcome ((request.onStreams source typed.foldNewlines).ticked n)) := by
  have hrunning : ¬ ((request.onStreams source typed.foldNewlines).ticked n).isRunning = true := by
    rw [hstopped]
    exact Bool.false_ne_true
  rw [run_eq hparse hsource hinput, hsize, hfull, Machine.ticked_of_stopped_of_le hstopped hn]
  exact if_neg hrunning

/-- Take arguments that name a program and a standard input that is UTF-8, each newline read as a
line feed. If the run of the program in memory is refused, the command line shows the message of the
refusal and exits with 1. If it gives a result, and the run writes no surrogate, which is to say
that there is none in the output, the command line shows this result. If the run reaches the write
of a surrogate, the command line shows the text written before the first one and exits with 1.

A machine starts only if no option that it needs is set to nothing (`Request.hollowOption?`), which
happens when the option parser drops two dashes given as its value (`Reading.setting`). -/
theorem run_agrees (argv : List Text) (files : Files) (bytes : Bytes) (request : Request)
    (source typed : Text) (hparse : parse argv = .ok request)
    (hsource : HasText files request.program source) (hinput : Utf8.decode? bytes = .ok typed)
    (bound : Nat) :
    let result := request.result source typed.foldNewlines bound
    let outcome := run argv files bytes bound
    let memory := request.inMemory source typed.foldNewlines
    (∀ refusal, result = .error (.refused refusal) →
      outcome = .ok ⟨1, [], "Error: " ++ refusal.message ++ "\n"⟩) ∧
    (∀ misuse, result ≠ .error (.misused misuse)) ∧
    (request.hollowOption? = none →
      (∀ r, result = .ok r →
        (∃ t, r.output = some t ∧ (t.Encodable ↔ memory.WritesNoSurrogate bound)) ∧
        (memory.WritesNoSurrogate bound → ∃ o, outcome = .ok o ∧ request.Shows r o)) ∧
      ∀ k < bound, ∀ ch, (∀ refusal, result ≠ .error (.refused refusal)) →
        memory.WritesNoSurrogate k → (memory.ticked k).WritesSurrogate ch →
        ∃ o, outcome = .ok o ∧ request.ShowsRefusal (memory.ticked k) ch o) := by
  intro result outcome memory
  have hresult : result = _ := result_eq request source typed.foldNewlines bound
  cases hsize : request.refusal? source with
  | some refusal =>
    have houtcome : outcome = _ := run_eq hparse hsource hinput bound
    rw [hsize] at houtcome hresult
    dsimp only at houtcome
    rw [complaint_of_encodable (encodable_refusal hsize)] at houtcome
    rw [hresult]
    refine ⟨?_, nofun, fun _ => ⟨nofun, fun _ _ _ hrun => absurd rfl (hrun refusal)⟩⟩
    rintro _ ⟨⟩
    exact houtcome
  | none =>
    rw [hsize] at hresult
    dsimp only at hresult
    rw [hresult]
    refine ⟨fun refusal h => ?_, fun misuse h => ?_, fun hfull => ⟨fun r hr => ?_, ?_⟩⟩
    · split at h <;> cases h
    · split at h <;> cases h
    · split at hr
      · cases hr
      · next hstopped =>
        cases hr
        -- Nothing is drained, so a surrogate that was ever written is still in the output.
        have hiff := Machine.encodable_ticked (m := memory) (Console.inMemory_buffer _)
          (List.forall_mem_nil _) bound
        refine ⟨⟨_, if_pos (kind_ticked request source _ bound), hiff⟩, fun hnone => ?_⟩
        obtain ⟨hstop, hshows⟩ := shows_ticked (Bool.eq_false_iff.mpr hstopped) hnone
        have houtcome := run_of_stopped hparse hsource hinput hsize hfull (Nat.le_refl bound) hstop
        exact ⟨_, houtcome, hshows⟩
    · intro k hk ch _ hfirst hw
      obtain ⟨hstop, hshows⟩ := showsRefusal_ticked hfirst hw
      exact ⟨_, run_of_stopped hparse hsource hinput hsize hfull hk hstop, hshows⟩

theorem eq_ok_of_toOption {ε α : Type} {x : Except ε α} {a : α} (h : x.toOption = some a) :
    x = .ok a := by
  cases x <;> cases h
  rfl

/-- A program that reads a number and prints it, one that prints a number and then the surrogate
that it reads, and one that is too wide. -/
theorem run_agrees_three_programs :
    let files : Files := fun _ => .error .notFound
    (∃ o, run ["-e", "&.@"] files [0x37, 0x0D] 3 = .ok o ∧ o.stdout = "7 " ∧ o.stderr = []) ∧
    (∃ o, run ["-e", "1.&,@"] files [0x35, 0x35, 0x32, 0x39, 0x36] 4 = .ok o ∧ o.exitCode = 1 ∧
      o.stdout = "1 ") ∧
    run ["--strict", "-e", List.replicate 81 0x40] files [] 1 = .ok ⟨1, [],
      "Error: program is 81x1, Befunge-93 programs must fit in 80x25\n"⟩ := by
  intro files
  refine ⟨?_, ?_, ?_⟩
  · let request : Request := ⟨.expr "&.@", .unset, .unset, false, false⟩
    let r : RunResult := ⟨.halted, some "7 ", [], ⟨⟨3, 0, 0, 1, 1⟩, 0, 1⟩⟩
    obtain ⟨-, -, hfull⟩ := run_agrees ["-e", "&.@"] files [0x37, 0x0D] request "&.@" "7\r"
      (eq_ok_of_toOption (by decide +kernel)) (.expr _) (eq_ok_of_toOption (by decide +kernel)) 3
    obtain ⟨⟨t, ht, hiff⟩, hshown⟩ := (hfull rfl).1 r (eq_ok_of_toOption (by decide +kernel))
    obtain rfl : ("7 " : Text) = t := Option.some.inj ht
    obtain ⟨o, ho, hshows⟩ := hshown (hiff.mp (by decide))
    exact ⟨o, ho, (Option.some.inj hshows.stdout).symm, hshows.stderr⟩
  · let request : Request := ⟨.expr "1.&,@", .unset, .unset, false, false⟩
    obtain ⟨-, -, hfull⟩ := run_agrees ["-e", "1.&,@"] files [0x35, 0x35, 0x32, 0x39, 0x36] request
      "1.&,@" "55296" (eq_ok_of_toOption (by decide +kernel)) (.expr _)
      (eq_ok_of_toOption (by decide +kernel)) 4
    have hresult : request.result "1.&,@" "55296" 4 = .error .unfinished := by
      rw [result_eq, show request.refusal? "1.&,@" = none by decide +kernel]
      exact if_pos (by decide +kernel)
    have hnone : (request.inMemory "1.&,@" "55296").WritesNoSurrogate 3 :=
      (Machine.encodable_ticked (Console.inMemory_buffer _) (by decide) 3).mp (by decide +kernel)
    obtain ⟨o, ho, hshows⟩ := (hfull rfl).2 3 (by decide) 0xD800
      (fun refusal h => by cases hresult.symm.trans h) hnone
      ⟨by decide +kernel, by decide +kernel, by decide⟩
    exact ⟨o, ho, hshows.exitCode, hshows.stdout.trans (by decide +kernel)⟩
  · let request : Request := ⟨.expr (List.replicate 81 0x40), .unset, .unset, true, false⟩
    obtain ⟨hrefused, -⟩ := run_agrees ["--strict", "-e", List.replicate 81 0x40] files [] request
      (expandRows (List.replicate 81 0x40)) [] (eq_ok_of_toOption (by decide +kernel)) (.expr _)
      (eq_ok_of_toOption (by decide +kernel)) 1
    have hresult : request.result (expandRows (List.replicate 81 0x40)) [] 1 =
        .error (.refused (.tooLarge 81 1)) := by
      rw [result_eq, show request.refusal? _ = some (.tooLarge 81 1) by decide +kernel]
    have hmessage : ("Error: " ++ (Refusal.tooLarge 81 1).message ++ "\n" : Text) =
        "Error: program is 81x1, Befunge-93 programs must fit in 80x25\n" := by decide +kernel
    have hshown := hrefused _ hresult
    rwa [hmessage] at hshown

end Funge93.CommandLine
