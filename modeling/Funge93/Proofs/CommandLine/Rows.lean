import Funge93.Proofs.CommandLine.Agreement
import Funge93.Proofs.Text.Terminators
import Funge93.Proofs.Text.Utf8

/-!
# Rows of an expression

An expression is one argument, in which a backslash and an `n` stand for the end of a row. A program
may itself hold backslashes and letters, also where two rows meet. This module proves that the rows
come out as they were, and that the command line treats the expression as it does a file of these
rows, whatever options are given with it.

Results:
1. `expandRows_join`: rows without the pair in them are found again.
2. `namesNothing_of_switches`: options are read alike, whatever the program is.
3. `parse_expr`, `parse_file`: what is asked for by an expression and by a file before options.
4. `run_rows`: an expression and a file of the same rows.
-/

namespace Funge93

namespace Text

variable {separator t : Text} {texts : List Text} {c : CodePoint}

/-- What is in joined texts is from the separator or from one of the texts. -/
theorem mem_join (h : c ∈ join separator texts) : c ∈ separator ∨ ∃ t ∈ texts, c ∈ t := by
  induction texts with
  | nil => cases h
  | cons t more ih =>
    cases more with
    | nil => exact .inr ⟨t, List.mem_cons_self, h⟩
    | cons u more =>
      rcases List.mem_append.mp h with h | h
      · rcases List.mem_append.mp h with h | h
        · exact .inr ⟨t, List.mem_cons_self, h⟩
        · exact .inl h
      · rcases ih h with h | ⟨v, hv, h⟩
        · exact .inl h
        · exact .inr ⟨v, List.mem_cons_of_mem _ hv, h⟩

end Text

namespace CommandLine

/-! ## The end of a row -/

/-- The two characters that end a row in an expression. -/
def rowEnd : Text := [Text.backslash, 0x6E]

theorem expandRows_cons {c : CodePoint} {t : Text}
    (h : ¬ (c = Text.backslash ∧ t.head? = some 0x6E)) :
    expandRows (c :: t) = c :: expandRows t := by
  cases t with
  | nil => rfl
  | cons d rest => rw [expandRows, if_neg fun ⟨hc, hd⟩ => h ⟨hc, congrArg some hd⟩]

theorem no_pair_at_head {c : CodePoint} {row : Text} (h : ¬ rowEnd <:+: c :: row) :
    ¬ (c = Text.backslash ∧ row.head? = some 0x6E) := by
  rintro ⟨rfl, hletter⟩
  obtain ⟨rest, rfl⟩ := List.head?_eq_some_iff.mp hletter
  exact h (List.IsPrefix.isInfix ⟨rest, rfl⟩)

/-- A backslash at the end of a row makes no pair with what comes after it, which is a backslash. -/
theorem expandRows_append {row rest : Text} (h : ¬ rowEnd <:+: row) :
    expandRows (row ++ (rowEnd ++ rest)) = row ++ CodePoint.lineFeed :: expandRows rest := by
  induction row with
  | nil => exact if_pos ⟨rfl, rfl⟩
  | cons c row ih =>
    have hpair : ¬ (c = Text.backslash ∧ (row ++ (rowEnd ++ rest)).head? = some 0x6E) := by
      cases row with
      | nil =>
        rintro ⟨-, hletter⟩
        exact absurd (Option.some.inj hletter) (by decide)
      | cons d row =>
        have hhead := no_pair_at_head h
        exact hhead
    rw [List.cons_append, expandRows_cons hpair, ih fun hinside => h (List.infix_cons hinside),
      List.cons_append]

theorem expandRows_eq_self {row : Text} (h : ¬ rowEnd <:+: row) : expandRows row = row := by
  induction row with
  | nil => rfl
  | cons c row ih =>
    rw [expandRows_cons (no_pair_at_head h), ih fun hinside => h (List.infix_cons hinside)]

/-- Rows without the end of a row in them are found again. -/
theorem expandRows_join {rows : List Text} (h : ∀ row ∈ rows, ¬ rowEnd <:+: row) :
    expandRows (Text.join rowEnd rows) = Text.join [CodePoint.lineFeed] rows := by
  induction rows with
  | nil => rfl
  | cons row more ih =>
    obtain ⟨hrow, hmore⟩ := List.forall_mem_cons.mp h
    cases more with
    | nil => exact expandRows_eq_self hrow
    | cons next more =>
      rw [Text.join, Text.join, List.append_assoc, expandRows_append hrow, ih hmore,
        List.append_assoc]
      rfl

/-! ## Options -/

/-- An option that says how a program is run, as it is written: with its value, if it takes one,
after an equals sign or as the next argument. -/
inductive Switch
  | strict
  | stats
  | seed (value : Text) (attached : Bool)
  | maxSteps (value : Text) (attached : Bool)
deriving DecidableEq, Repr

/-- The arguments of an option. -/
def Switch.arguments : Switch → List Text
  | strict => ["--strict"]
  | stats => ["--stats"]
  | seed value true => ["--seed=" ++ value]
  | seed value false => ["--seed", value]
  | maxSteps value true => ["--max-steps=" ++ value]
  | maxSteps value false => ["--max-steps", value]

/-! ## Reading options -/

/-- What was read, with another program named. -/
def Reading.naming (file : Option Text) (expr : Setting Text) (r : Reading) : Reading :=
  { r with file, expr }

/-- Reading the arguments is the same whatever program is named. -/
def NamesNothing (args : List Argument) : Prop :=
  ∀ (r : Reading) (file : Option Text) (expr : Setting Text),
    (r.naming file expr).readAll args = (r.readAll args).map (Reading.naming file expr)

variable {args : List Argument} {m : Mention} {flag : Flag} {value text : Text} {role : Role}

theorem perform_naming (hflag : flag ≠ .expr) (r : Reading) (file : Option Text)
    (expr : Setting Text) (value : Text) :
    (r.naming file expr).perform flag value = (r.perform flag value).map (.naming file expr) := by
  cases flag with
  | expr => exact absurd rfl hflag
  | help | version | strict | stats => rfl
  | seed | maxSteps =>
    unfold Reading.perform
    dsimp only
    cases Reading.setting (Reading.integer _) value <;> rfl

theorem performAll_singleton (r : Reading) (flag : Flag) (value : Text) :
    r.performAll [(flag, value)] = r.perform flag value := bind_pure _

theorem readAll_mention (r : Reading) (hm : expand m = .ok ⟨[(flag, value)], none⟩) :
    r.readAll (⟨text, .mention m⟩ :: args) = (r.perform flag value).bind (·.readAll args) := by
  rw [Reading.readAll, hm, ← performAll_singleton]
  rfl

theorem readAll_awaiting (r : Reading) (hm : expand m = .ok ⟨[], some flag⟩) :
    r.readAll (⟨text, .mention m⟩ :: ⟨value, .value⟩ :: args) =
      (r.perform flag value).bind (·.readAll args) := by
  rw [Reading.readAll, hm, ← performAll_singleton]
  rfl

theorem readAll_missing (r : Reading) (hm : expand m = .ok ⟨[], some flag⟩)
    (hrole : role ≠ .value) :
    r.readAll (⟨text, .mention m⟩ :: ⟨value, role⟩ :: args) =
      .error (.misuse (.missingValue flag)) := by
  rw [Reading.readAll, hm]
  cases role with
  | value => exact absurd rfl hrole
  | separator | mention | unknown => rfl

/-- An option that is performed sets nothing that names a program. -/
theorem bind_perform_naming (hargs : NamesNothing args) (hflag : flag ≠ .expr) (r : Reading)
    (file : Option Text) (expr : Setting Text) :
    ((r.naming file expr).perform flag value).bind (·.readAll args) =
      ((r.perform flag value).bind (·.readAll args)).map (.naming file expr) := by
  rw [perform_naming hflag]
  cases r.perform flag value with
  | error stop => rfl
  | ok r => exact hargs r file expr

theorem NamesNothing.mention (hargs : NamesNothing args) (hflag : flag ≠ .expr)
    (hm : expand m = .ok ⟨[(flag, value)], none⟩) : NamesNothing (⟨text, .mention m⟩ :: args) := by
  intro r file expr
  rw [readAll_mention _ hm, readAll_mention _ hm]
  exact bind_perform_naming hargs hflag r file expr

/-- An option takes the next argument as its value, or fails for want of one. -/
theorem NamesNothing.awaiting (hargs : role = .value → NamesNothing args) (hflag : flag ≠ .expr)
    (hm : expand m = .ok ⟨[], some flag⟩) :
    NamesNothing (⟨text, .mention m⟩ :: ⟨value, role⟩ :: args) := by
  intro r file expr
  by_cases hrole : role = .value
  · rw [hrole, readAll_awaiting _ hm, readAll_awaiting _ hm]
    exact bind_perform_naming (hargs hrole) hflag r file expr
  · rw [readAll_missing _ hm hrole, readAll_missing _ hm hrole]
    rfl

/-! ## Options as they are written -/

variable {arg : Text} {rest : List Text}

theorem classifyAll_of_classify (h : classify arg = .ok role) (rest : List Text) :
    classifyAll (arg :: rest) = (classifyAll rest).map (⟨arg, role⟩ :: ·) := by
  have hseparator : arg ≠ [dash, dash] := by
    rintro rfl
    cases h
  rw [classifyAll, if_neg hseparator, h]
  rfl

theorem exists_later (hrole : classify arg = .ok role) (h : classifyAll (arg :: rest) = .ok args) :
    ∃ later, classifyAll rest = .ok later ∧ args = ⟨arg, role⟩ :: later := by
  rw [classifyAll_of_classify hrole] at h
  cases hrest : classifyAll rest with
  | error e =>
    rw [hrest] at h
    cases h
  | ok later =>
    rw [hrest] at h
    cases h
    exact ⟨later, rfl, rfl⟩

/-- Any argument has a role, and if it is a value, so do the ones after it. -/
theorem exists_role (h : classifyAll (arg :: rest) = .ok args) :
    ∃ role later, args = ⟨arg, role⟩ :: later ∧ (role = .value → classifyAll rest = .ok later) := by
  cases hrole : classify arg with
  | ok role =>
    obtain ⟨later, hlater, rfl⟩ := exists_later hrole h
    exact ⟨role, later, rfl, fun _ => hlater⟩
  | error e =>
    -- Only the separator has a role without being classified.
    rw [classifyAll] at h
    split at h
    · cases h
      exact ⟨.separator, _, rfl, nofun⟩
    · rw [hrole] at h
      cases h

/-- The two ways to write an option that names no program: complete in one argument, or with the
next argument as its value. -/
inductive Written : List Text → Prop
  | complete {text value : Text} {m : Mention} : classify text = .ok (.mention m) →
      m.flag ≠ .expr → expand m = .ok ⟨[(m.flag, value)], none⟩ → Written [text]
  | awaiting {text : Text} {m : Mention} (value : Text) : classify text = .ok (.mention m) →
      m.flag ≠ .expr → expand m = .ok ⟨[], some m.flag⟩ → Written [text, value]

theorem Switch.written (switch : Switch) : Written switch.arguments := by
  rcases switch with _ | _ | ⟨value, _ | _⟩ | ⟨value, _ | _⟩
  · exact .complete (m := ⟨.strict, false, none⟩) rfl nofun rfl
  · exact .complete (m := ⟨.stats, false, none⟩) rfl nofun rfl
  · exact .awaiting (m := ⟨.seed, false, none⟩) value rfl nofun rfl
  · exact .complete (m := ⟨.seed, false, some value⟩) rfl nofun rfl
  · exact .awaiting (m := ⟨.maxSteps, false, none⟩) value rfl nofun rfl
  · exact .complete (m := ⟨.maxSteps, false, some value⟩) rfl nofun rfl

/-- Options name no program, and the first of their arguments is no separator. -/
theorem namesNothing_of_switches {switches : List Switch}
    (h : classifyAll (switches.flatMap Switch.arguments) = .ok args) :
    NamesNothing args ∧ ∀ a ∈ args.head?, a.role ≠ .separator := by
  induction switches generalizing args with
  | nil =>
    cases h
    exact ⟨fun _ _ _ => rfl, nofun⟩
  | cons switch more ih =>
    have hwritten := switch.written
    rw [List.flatMap_cons] at h
    generalize switch.arguments = written at hwritten h
    cases hwritten with
    | complete hclassify hflag hm =>
      obtain ⟨later, hlater, rfl⟩ := exists_later hclassify h
      refine ⟨(ih hlater).1.mention hflag hm, ?_⟩
      rintro _ ⟨⟩
      nofun
    | awaiting value hclassify hflag hm =>
      obtain ⟨_, htail, rfl⟩ := exists_later hclassify h
      obtain ⟨role, later, rfl, hlater⟩ := exists_role htail
      refine ⟨.awaiting (fun hvalue => (ih (hlater hvalue)).1) hflag hm, ?_⟩
      rintro _ ⟨⟩
      nofun

/-! ## A program before options -/

/-- What arguments that name no program ask for, if it is this one. -/
def parseFor (program : Program) (args : List Text) : Except Stop Request := do
  let args ← (classifyAll args).mapError Stop.misuse
  let r ← Reading.start.readAll args
  if r.leftOver ≠ [] then .error (.misuse (.unrecognized r.leftOver))
  else .ok ⟨program, r.seed, r.maxSteps, r.strict, r.stats⟩

/-- An argument before options that only names the program. -/
theorem parse_eq_parseFor {program : Program} (file : Option Text) (expr : Setting Text)
    (switches : List Switch) (hclassify : classify arg = .ok role)
    (hread : ∀ args, (∀ a ∈ args.head?, a.role ≠ .separator) →
      Reading.start.readAll (⟨arg, role⟩ :: args) = (Reading.start.naming file expr).readAll args)
    (hrequest : ∀ r : Reading, (r.naming file expr).request =
      if r.leftOver ≠ [] then .error (.unrecognized r.leftOver)
      else .ok ⟨program, r.seed, r.maxSteps, r.strict, r.stats⟩) :
    parse (arg :: switches.flatMap Switch.arguments) =
      parseFor program (switches.flatMap Switch.arguments) := by
  unfold parse parseFor
  rw [classifyAll_of_classify hclassify]
  cases hargs : classifyAll (switches.flatMap Switch.arguments) with
  | error e => rfl
  | ok args =>
    obtain ⟨hnothing, hhead⟩ := namesNothing_of_switches hargs
    show ((Reading.start.readAll (⟨arg, role⟩ :: args)).bind fun r =>
        r.request.mapError Stop.misuse) = (Reading.start.readAll args).bind _
    rw [hread args hhead, hnothing]
    cases Reading.start.readAll args with
    | error stop => rfl
    | ok r =>
      show (r.naming file expr).request.mapError Stop.misuse = _
      rw [hrequest]
      show Except.mapError _ _ = ite _ _ _
      split <;> rfl

theorem parse_expr {t : Text} (ht : t ≠ [dash, dash]) (switches : List Switch) :
    parse (("--expr=" ++ t) :: switches.flatMap Switch.arguments) =
      parseFor (.expr t) (switches.flatMap Switch.arguments) := by
  have hclassify : classify ("--expr=" ++ t) = .ok (.mention ⟨.expr, false, some t⟩) := rfl
  have hperform : Reading.start.perform .expr t = .ok (Reading.start.naming none (.value t)) := by
    unfold Reading.perform Reading.setting
    dsimp only
    rw [if_neg ht]
    rfl
  refine parse_eq_parseFor none (.value t) switches hclassify (fun args _ => ?_) fun r => rfl
  rw [readAll_mention _ rfl, hperform]
  rfl

theorem parse_file {name : Text} (hname : name.head? ≠ some dash) (hne : name ≠ [])
    (switches : List Switch) :
    parse (name :: switches.flatMap Switch.arguments) =
      parseFor (.file name) (switches.flatMap Switch.arguments) := by
  obtain ⟨c, rest, rfl⟩ := List.exists_cons_of_ne_nil hne
  have hclassify : classify (c :: rest) = .ok .value := if_pos hname
  refine parse_eq_parseFor (some (c :: rest)) .unset switches hclassify (fun args hhead => ?_)
    fun r => rfl
  -- Right after the file a separator would be dropped, but there is none.
  rcases args with _ | ⟨⟨text, role⟩, more⟩
  · rfl
  · cases role with
    | separator => exact absurd rfl (hhead _ rfl)
    | value | mention | unknown => rfl

/-! ## Whole invocations -/

theorem parseFor_eq (program other : Program) (args : List Text) :
    parseFor program args = (parseFor other args).map fun r => { r with program } := by
  unfold parseFor
  cases classifyAll args with
  | error e => rfl
  | ok roles =>
    show (Reading.start.readAll roles).bind _ = Except.map _ ((Reading.start.readAll roles).bind _)
    cases Reading.start.readAll roles with
    | error stop => rfl
    | ok r =>
      show ite _ _ _ = Except.map _ (ite _ _ _)
      split <;> rfl

/-- Of its program, a request looks only at the text. -/
theorem machine_of_source {files : Files} {request : Request} {program : Program}
    (h : source files program = source files request.program) (input : Input) :
    { request with program }.machine files input = request.machine files input := by
  unfold Request.machine
  rw [h]
  rfl

/-- Two programs with the same text have the same outcome, whatever else is asked for. -/
theorem run_eq_of_parseFor {files : Files} {argv argv' args : List Text} {program other : Program}
    (hparse : parse argv = parseFor program args) (hparse' : parse argv' = parseFor other args)
    (h : source files program = source files other) (input : Bytes) (bound : Nat) :
    run argv files input bound = run argv' files input bound := by
  unfold run
  rw [hparse, hparse', parseFor_eq program other]
  cases hrequest : parseFor other args with
  | error stop => rfl
  | ok request =>
    have hsame := parseFor_eq other other args
    rw [hrequest] at hsame
    have hprogram : request.program = other := congrArg Request.program (Except.ok.inj hsame)
    dsimp only [Except.map]
    rw [machine_of_source (hprogram ▸ h)]
    rfl

/-- Take some rows without surrogates and line terminators and without a backslash right before an
`n`; a row may end in a backslash, and the next one start with an `n`. Let an expression be these
rows with a backslash and an `n` between each two, and let a file hold their UTF-8 encoding with a
line feed between each two. With the same options after it, the expression has the same outcome as
the name of the file, if this starts with no dash, whatever the standard input is.

Only two dashes are no expression (`hdashes`): the version of the option parser modelled here drops
them as the value of an option (`Reading.setting`). Newer versions pass them through. -/
theorem run_rows (rows : List Text) (hscalar : ∀ row ∈ rows, row.Encodable)
    (hunbroken : ∀ row ∈ rows, row.Unbroken) (hpair : ∀ row ∈ rows, ¬ rowEnd <:+: row)
    (hdashes : Text.join rowEnd rows ≠ [dash, dash]) (switches : List Switch) :
    ∃ bytes, Utf8.encode? (Text.join [CodePoint.lineFeed] rows) = some bytes ∧
      ∀ (name : Text) (files : Files), name.head? ≠ some dash →
        hasSourceSuffix (Path.ofText name) = true → files (Path.ofText name) = .ok bytes →
        ∀ (input : Bytes) (bound : Nat),
          run (("--expr=" ++ Text.join rowEnd rows) :: switches.flatMap Switch.arguments)
              files input bound =
            run (name :: switches.flatMap Switch.arguments) files input bound := by
  have hencodable : (Text.join [CodePoint.lineFeed] rows).Encodable := by
    intro c hc
    rcases Text.mem_join hc with hc | ⟨row, hrow, hc⟩
    · obtain rfl := List.mem_singleton.mp hc
      rfl
    · exact hscalar row hrow c hc
  have hreturn : CodePoint.carriageReturn ∉ Text.join [CodePoint.lineFeed] rows := by
    intro hc
    rcases Text.mem_join hc with hc | ⟨row, hrow, hc⟩
    · exact absurd (List.mem_singleton.mp hc) (by decide)
    · exact absurd (hunbroken row hrow _ hc) (by decide)
  obtain ⟨bytes, hbytes⟩ := Utf8.exists_encode?_iff.mpr hencodable
  refine ⟨bytes, hbytes, fun name files hname hsuffix hfile input bound => ?_⟩
  have hne : name ≠ [] := by
    rintro rfl
    exact absurd hsuffix (by decide)
  refine run_eq_of_parseFor (parse_expr hdashes switches) (parse_file hname hne switches) ?_ _ _
  rw [source_of_hasText (.expr _), expandRows_join hpair,
    source_of_hasText (.file hfile hsuffix (Utf8.decode?_eq_ok_iff.mpr hbytes)),
    Text.foldNewlines_of_notMem hreturn]

/-- A row ends in a backslash, the next one starts with the letter, and another one is empty. -/
theorem run_rows_backslash :
    let files : Files := fun _ =>
      .ok [0x76, 0x5C, 0x0A, 0x6E, 0x0A, 0x0A, 0x26, 0x0A, 0x2E, 0x0A, 0x40]
    run ["--expr=v\\\\nn\\n\\n&\\n.\\n@", "--seed=7", "--max-steps", "10", "--strict"] files
          [0x37] 9 =
        run ["a.bf", "--seed=7", "--max-steps", "10", "--strict"] files [0x37] 9 ∧
      run ["a.bf", "--seed=7", "--max-steps", "10", "--strict"] files [0x37] 9 =
        .ok ⟨0, "7 ", []⟩ := by
  intro files
  obtain ⟨bytes, hbytes, hrun⟩ := run_rows ["v\\", "n", [], "&", ".", "@"] (by decide) (by decide)
    (by decide) (by decide) [.seed "7" true, .maxSteps "10" false, .strict]
  have hstored : Utf8.encode? (Text.join [CodePoint.lineFeed] ["v\\", "n", [], "&", ".", "@"]) =
      some [0x76, 0x5C, 0x0A, 0x6E, 0x0A, 0x0A, 0x26, 0x0A, 0x2E, 0x0A, 0x40] := by decide +kernel
  obtain rfl := Option.some.inj (hbytes.symm.trans hstored)
  exact ⟨hrun "a.bf" files (by decide) (by decide) rfl [0x37] 9,
    eq_ok_of_toOption (by decide +kernel)⟩

end CommandLine

end Funge93
