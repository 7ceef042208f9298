import CompilerRunner.Proofs.ExitStatus
import Mathlib

/-!
# Proofs — DryRun

What the printed arguments of a target say of a run of the target.

Both commands load the same settings and take the arguments of the target from them
(`argumentsOf`); only then do they part.

* `parse_run`: words after `run` are understood as they are after `args`.
* `executeWith_run_of_error`: where there are no arguments, the run ends in the same failure, and
  the most that has been recorded is that the target is compiled.
* `executeWith_run_of_chosen`: where there are, an entry point that can be had is run with them.
* `dry_run_faithful`: what is printed is what the entry point is called with, and what keeps the
  arguments from being given keeps it from being called.  Only that the terminal does not take a
  line is no matter to a run.
-/

namespace CompilerRunner

/-! ### The arguments of a target -/

namespace Settings

variable {s : Settings} {name : String}

theorem targetTokens_of_error {f : Failure} (h : s.target name = .error f) :
    s.targetTokens name = .error f := by
  rw [targetTokens, h]
  rfl

theorem targetTokens_of_ok {o : CompileOptions} (h : s.target name = .ok o) :
    s.targetTokens name = o.build.mapError .options := by
  rw [targetTokens, h]
  rfl

/-- A target has arguments if it has options, and these have arguments. -/
theorem targetTokens_eq_ok_iff {ts : List String} :
    s.targetTokens name = .ok ts ↔ ∃ o, s.target name = .ok o ∧ o.build = .ok ts := by
  cases ho : s.target name with
  | error f => simp [targetTokens_of_error ho]
  | ok o => cases hb : o.build <;> simp [targetTokens_of_ok ho, hb, Except.mapError]

end Settings

namespace Pipeline

variable {launch : EntryPoint → Tool} {s : Settings} {tool : Option Tool} {name : String}

/-- Without arguments a target is not run. -/
theorem runTargetWith_of_refused {f : Failure} (h : s.targetTokens name = .error f) :
    runTargetWith launch name s tool = ⟨[compiling name], .error f⟩ := by
  cases ho : s.target name with
  | error g =>
      obtain rfl : g = f := by simpa [Settings.targetTokens_of_error ho] using h
      exact runTargetWith_of_error ho
  | ok o =>
      rw [Settings.targetTokens_of_ok ho] at h
      cases hb : o.build with
      | error g =>
          obtain rfl : Failure.options g = f := by simpa [hb, Except.mapError] using h
          rw [runTargetWith_of_ok ho, runWith_of_build_error hb]
          rfl
      | ok ts => simp [hb, Except.mapError] at h

/-- Without a tool a target is not run. -/
theorem runTargetWith_of_unchosen {ts : List String} (h : s.targetTokens name = .ok ts)
    {f : Failure} (hc : choose launch s tool = .error f) :
    runTargetWith launch name s tool = ⟨[compiling name], .error f⟩ := by
  obtain ⟨o, ho, hb⟩ := Settings.targetTokens_eq_ok_iff.mp h
  rw [runTargetWith_of_ok ho, runWith_of_choose_error hb hc]
  rfl

/-- With both, the tool is run with the arguments. -/
theorem runTargetWith_of_chosen {ts : List String} (h : s.targetTokens name = .ok ts) {t : Tool}
    (hc : choose launch s tool = .ok t) :
    runTargetWith launch name s tool =
      ⟨compiling name :: (t.invoke ts).events, (t.invoke ts).outcome⟩ := by
  obtain ⟨o, ho, hb⟩ := Settings.targetTokens_eq_ok_iff.mp h
  rw [runTargetWith_of_ok ho, runWith_of_ok hb hc]

end Pipeline

/-! ### Functions and children that are run with arguments -/

theorem exitCode_calls (v : Value) : (exitCode v).calls = [] := by
  cases hv : v.exitCode? with
  | some n => rw [exitCode_of_some hv]; rfl
  | none =>
      cases hw : v.isOversized with
      | true => rw [exitCode_of_oversized hv hw]; rfl
      | false => rw [exitCode_of_written hv hw]; rfl

/-- A function is called once, however it ends. -/
theorem Routine.calls_run (r : Routine) (arguments : List String) :
    (r.run arguments).calls = [(r.name, arguments)] := by
  cases h : r.complete arguments with
  | returned v =>
      rw [run_of_completion (.inl h)]
      exact congrArg ((r.name, arguments) :: ·) (exitCode_calls v)
  | exited v =>
      rw [run_of_completion (.inr h)]
      exact congrArg ((r.name, arguments) :: ·) (exitCode_calls v)
  | failed f =>
      simp only [run, h]
      rfl

theorem CallTarget.run_of_error {t : CallTarget} {w : World} {f : Failure}
    (h : t.resolve w = .error f) (arguments : List String) :
    (t.tool w).run arguments = Run.fail f := by
  show (Run.ofExcept (t.resolve w)).bind (fun r => r.run arguments) = _
  rw [h, Run.ofExcept_error, Run.fail_bind]

theorem CallTarget.run_of_ok {t : CallTarget} {w : World} {r : Routine} (h : t.resolve w = .ok r)
    (arguments : List String) : (t.tool w).run arguments = r.run arguments := by
  show (Run.ofExcept (t.resolve w)).bind (fun r => r.run arguments) = _
  rw [h, Run.ofExcept_ok, Run.pure_bind]

/-- What a child process that has ended makes of an invocation: the failure to start it or to wait
for it, or else what its result says. -/
theorem ChildCommand.outcome_invoke (c : ChildCommand) (w : World) (arguments : List String) :
    ((c.tool w).invoke arguments).outcome =
      (Process.run w (c.request w arguments)).bind fun r => (demandSuccess r).outcome := by
  rw [Tool.invoke_eq]
  show ((Run.ofExcept (Process.run w (c.request w arguments))).bind demandSuccess).outcome = _
  cases Process.run w (c.request w arguments) with
  | error f => rfl
  | ok r => rw [Run.ofExcept_ok, Run.pure_bind]; rfl

end CompilerRunner

namespace CompilerRunner.CommandLine

/-! ### The command lines -/

/-- The request to do what a dry run only shows. -/
def Request.inEarnest : Request → Request
  | .command (.arguments name d) => .command (.run name d)
  | r => r

/-- The name of a command is none of the words that are looked for in every place. -/
theorem not_kept_of_command {word : String} {name : CommandName}
    (hn : commandNames.lookup word = some name) :
    word ≠ delimiter ∧ word ∉ helpWords ∧ word ∉ versionWords := by
  obtain ⟨before, after, names, -⟩ := List.lookup_eq_some_iff.mp hn
  have named : word ∈ commandNames.map Prod.fst := by simp [names]
  clear hn names
  revert word
  decide

/-- Another word is no reason to give an answer. -/
theorem asksFor_cons {calls : List String} {word : String} (hd : word ≠ delimiter)
    (hw : word ∉ calls) (words : List String) :
    asksFor calls (word :: words) = asksFor calls words := by
  simp [asksFor, splitAtDelimiter, hd, hw]

theorem withoutHelp_cons {word : String} (hd : word ≠ delimiter)
    (hh : word ∉ helpWords) (words : List String) :
    withoutHelp (word :: words) = word :: withoutHelp words := by
  simp [withoutHelp, hd, hh]

/-- How the words after the name of a command are understood. -/
theorem parse_command {word : String} {name : CommandName}
    (hn : commandNames.lookup word = some name) (words : List String) :
    parse (word :: words) =
      if asksForHelp words then .ok .help
      else if asksFor versionWords words then .ok .version
      else (bind name.parameters words).bind fun b =>
        (Command.ofBindings b name).map Request.command := by
  obtain ⟨hd, hh, hv⟩ := not_kept_of_command hn
  rw [parse, asksForHelp, asksForHelp, asksFor_cons hd hh, asksFor_cons hd hv,
    withoutHelp_cons hd hh]
  by_cases h : asksFor helpWords words = true
  · rw [if_pos h, if_pos h, if_pos (by simp [helps, hn])]
  · rw [if_neg h, if_neg h, hn]
    rfl

/-- **One reading.**  Words after `run` ask for a run where the same words after `args` ask for the
arguments, and they are refused where those are. -/
theorem parse_run (words : List String) :
    parse ("run" :: words) = (parse ("args" :: words)).map Request.inEarnest := by
  have run : commandNames.lookup "run" = some .run := rfl
  have dry : commandNames.lookup "args" = some .arguments := rfl
  rw [parse_command run, parse_command dry]
  by_cases h : asksForHelp words = true
  · rw [if_pos h, if_pos h]
    rfl
  by_cases hv : asksFor versionWords words = true
  · rw [if_neg h, if_neg h, if_pos hv, if_pos hv]
    rfl
  · rw [if_neg h, if_neg h, if_neg hv, if_neg hv]
    show (bind CommandName.run.parameters words).bind _ =
      ((bind CommandName.run.parameters words).bind _).map _
    cases bind CommandName.run.parameters words with
    | error f => rfl
    | ok b =>
        show ((onlyArgument "name" b.arguments).bind fun n => .ok (Command.run n b.directory)).map
            Request.command =
          (((onlyArgument "name" b.arguments).bind fun n =>
            .ok (Command.arguments n b.directory)).map Request.command).map Request.inEarnest
        cases onlyArgument "name" b.arguments <;> rfl

/-! ### The commands -/

/-- The arguments of a target, by the settings for a directory. -/
def argumentsOf (w : World) (name : String) (d : Path) : Except Failure (List String) :=
  (Settings.load w d).bind fun s => s.targetTokens name

section Commands

variable {w : World} {name : String} {d : Path}

theorem argumentsOf_eq_ok_iff {ts : List String} :
    argumentsOf w name d = .ok ts ↔
      ∃ s, Settings.load w d = .ok s ∧ s.targetTokens name = .ok ts := by
  cases h : Settings.load w d <;> simp [argumentsOf, h, Except.bind]

theorem executeWith_arguments (launch : EntryPoint → Tool) :
    Command.executeWith launch w (.arguments name d) =
      (Run.ofExcept (argumentsOf w name d)).bind fun ts =>
        w.console.print [Shell.joinWords ts] := by
  show (Run.ofExcept (Settings.load w d)).bind (fun s =>
    (Run.ofExcept (s.targetTokens name)).bind fun ts =>
      w.console.print [Shell.joinWords ts]) = _
  cases h : Settings.load w d with
  | error f => simp [argumentsOf, h, Except.bind]
  | ok s => simp [argumentsOf, h, Except.bind]

theorem executeWith_arguments_of_ok {ts : List String} (h : argumentsOf w name d = .ok ts)
    (launch : EntryPoint → Tool) :
    Command.executeWith launch w (.arguments name d) =
      w.console.print [Shell.joinWords ts] := by
  rw [executeWith_arguments, h, Run.ofExcept_ok, Run.pure_bind]

theorem executeWith_arguments_of_error {f : Failure} (h : argumentsOf w name d = .error f)
    (launch : EntryPoint → Tool) :
    Command.executeWith launch w (.arguments name d) = ⟨[], .error f⟩ := by
  rw [executeWith_arguments, h, Run.ofExcept_error, Run.fail_bind]
  rfl

/-- With settings at hand, to run a target is what the pipeline makes of it. -/
theorem executeWith_run_of_load {s : Settings} (hs : Settings.load w d = .ok s)
    (launch : EntryPoint → Tool) :
    Command.executeWith launch w (.run name d) =
      discard (Pipeline.runTargetWith launch name s none) := by
  show (Run.ofExcept (Settings.load w d)).bind _ = _
  rw [hs, Run.ofExcept_ok, Run.pure_bind]

/-- **Without arguments.**  The run of the target fails as the dry run does, and before that it
records no more than that the target is compiled. -/
theorem executeWith_run_of_error {f : Failure} (h : argumentsOf w name d = .error f)
    (launch : EntryPoint → Tool) :
    ∃ before, before <+: [Pipeline.compiling name] ∧
      Command.executeWith launch w (.run name d) = ⟨before, .error f⟩ := by
  cases hs : Settings.load w d with
  | error g =>
      obtain rfl : g = f := by simpa [argumentsOf, hs, Except.bind] using h
      refine ⟨[], List.nil_prefix, ?_⟩
      show (Run.ofExcept (Settings.load w d)).bind _ = _
      rw [hs, Run.ofExcept_error, Run.fail_bind]
      rfl
  | ok s =>
      have refused : s.targetTokens name = .error f := by
        simpa [argumentsOf, hs, Except.bind] using h
      refine ⟨_, List.prefix_rfl, ?_⟩
      rw [executeWith_run_of_load hs, Pipeline.runTargetWith_of_refused refused, Run.discard_eq]
      rfl

/-- Of what is recorded before the run of a target nothing is a call. -/
theorem calls_of_prefix {before : List Event} (h : before <+: [Pipeline.compiling name])
    {α : Type} {outcome : Except Failure α} : (Run.mk before outcome).calls = [] := by
  have none_called : [Pipeline.compiling name].filterMap Event.call? = [] := rfl
  rw [Run.calls]
  exact List.prefix_nil.mp (none_called ▸ h.filterMap Event.call?)

section Loaded

variable {s : Settings} {ts : List String} (hs : Settings.load w d = .ok s)
  (ht : s.targetTokens name = .ok ts)
include hs ht

/-- Where the entry point cannot be had, the run of the target ends in that failure. -/
theorem executeWith_run_of_unchosen {f : Failure} (he : EntryPoint.ofSettings s = .error f)
    (launch : EntryPoint → Tool) :
    Command.executeWith launch w (.run name d) = ⟨[Pipeline.compiling name], .error f⟩ := by
  have unchosen : Pipeline.choose launch s none = .error f := by
    rw [Pipeline.choose, he]
    rfl
  rw [executeWith_run_of_load hs, Pipeline.runTargetWith_of_unchosen ht unchosen, Run.discard_eq]
  rfl

/-- **With arguments and an entry point.**  The run of the target is one invocation of the entry
point with the arguments. -/
theorem executeWith_run_of_chosen {e : EntryPoint} (he : EntryPoint.ofSettings s = .ok e)
    (launch : EntryPoint → Tool) :
    Command.executeWith launch w (.run name d) =
      ⟨Pipeline.compiling name :: ((launch e).invoke ts).events,
        ((launch e).invoke ts).outcome.map fun _ => ()⟩ := by
  rw [executeWith_run_of_load hs,
    Pipeline.runTargetWith_of_chosen ht (Pipeline.choose_none he), Run.discard_eq]

end Loaded

end Commands

/-! ### The program -/

section Program

variable {w : World} {name : String} {d : Path} {words : List String}

/-- What is called while the program runs is what its command calls. -/
theorem calls_runWith_of_parse {c : Command} (hp : parse words = .ok (.command c))
    (launch : EntryPoint → Tool) :
    (runWith launch w words).calls = (c.executeWith launch w).calls := by
  rw [runWith_of_parse hp, calls_conclude]

section Words

variable (hp : parse ("args" :: words) = .ok (.command (.arguments name d)))
include hp

theorem parse_run_of_arguments : parse ("run" :: words) = .ok (.command (.run name d)) := by
  rw [parse_run, hp]
  rfl

/-- **Without arguments.**  The program ends after `run` as it does after `args`, and nothing is
called. -/
theorem runWith_run_of_error {f : Failure} (ha : argumentsOf w name d = .error f)
    (launch : EntryPoint → Tool) :
    entryPointCalls launch w ("run" :: words) = [] ∧
    ∃ before, before <+: [Pipeline.compiling name] ∧
      runWith launch w ("run" :: words) =
        ⟨before ++ (runWith launch w ("args" :: words)).events,
          (runWith launch w ("args" :: words)).outcome⟩ := by
  have hr := parse_run_of_arguments hp
  obtain ⟨before, hb, real⟩ := executeWith_run_of_error ha launch
  obtain ⟨recording, hc, recorded⟩ := executeWith_run_of_error ha fun e => (launch e).recorded
  refine ⟨?_, before, hb, ?_⟩
  · rw [entryPointCalls, calls_runWith_of_parse hr, recorded]
    exact calls_of_prefix hc
  · rw [runWith_of_parse hr, runWith_of_parse hp, executeWith_arguments_of_error ha, real,
      ← conclude_append, List.append_nil]

variable {s : Settings} {ts : List String} (hs : Settings.load w d = .ok s)
  (ht : s.targetTokens name = .ok ts)
include hs ht

/-- Without an entry point nothing is called. -/
theorem calls_run_of_unchosen {f : Failure} (he : EntryPoint.ofSettings s = .error f)
    (launch : EntryPoint → Tool) : (runWith launch w ("run" :: words)).calls = [] := by
  rw [calls_runWith_of_parse (parse_run_of_arguments hp), executeWith_run_of_unchosen hs ht he]
  rfl

/-- An entry point is called once, with the arguments. -/
theorem entryPointCalls_run {e : EntryPoint} (he : EntryPoint.ofSettings s = .ok e)
    (launch : EntryPoint → Tool) :
    entryPointCalls launch w ("run" :: words) = [((launch e).name, ts)] := by
  rw [entryPointCalls, calls_runWith_of_parse (parse_run_of_arguments hp),
    executeWith_run_of_chosen hs ht he]
  exact Tool.calls_invoke_recorded (launch e) ts

/-- Where a function is the entry point, what is called is what its tool calls. -/
theorem calls_run_of_call {t : CallTarget} (he : EntryPoint.ofSettings s = .ok (.call t)) :
    (run w ("run" :: words)).calls = ((t.tool w).run ts).calls := by
  rw [run, calls_runWith_of_parse (parse_run_of_arguments hp),
    executeWith_run_of_chosen hs ht he, ← Tool.calls_invoke]
  rfl

end Words

/-- A function that cannot be found ends the run of the target in that failure. -/
theorem outcome_run_of_unresolved {s : Settings} {ts : List String}
    (hs : Settings.load w d = .ok s) (ht : s.targetTokens name = .ok ts) {t : CallTarget}
    (he : EntryPoint.ofSettings s = .ok (.call t)) {f : Failure} (hf : t.resolve w = .error f) :
    (Command.executeWith (EntryPoint.tool w) w (.run name d)).outcome = .error f := by
  have failed : ((t.tool w).run ts).outcome = .error f := by
    rw [CallTarget.run_of_error hf, Run.outcome_fail]
  rw [executeWith_run_of_chosen hs ht he]
  show ((t.tool w).invoke ts).outcome.map _ = _
  rw [Tool.invoke_error failed]
  rfl

end Program

/-- What the program does that prints a line: it ends well, unless the terminal does not take it. -/
theorem conclude_print (c : Console) (line : String) :
    conclude (c.print [line]) =
      if c.takes line then ⟨[.printed line], .ok 0⟩
      else ⟨[], .error (.crash .unencodableText)⟩ := by
  cases h : c.takes line with
  | true => rw [Console.print_of_takes (by simp [h])]; rfl
  | false => rw [Console.print_of_not_takes (by simp [h])]; rfl

/-- **The dry run is faithful.**  Words mean the same after `run` as after `args`.  Where the
arguments of the target cannot be given, its run ends in the same failure, with the same report and
the same status, and no entry point is called.  Where they can, they are printed if the terminal
takes the line, and the entry point is called once, with these arguments, unless it cannot be had: a
child process is requested with its command followed by them, and a function that can be found is
called with them.  That the terminal does not take the line keeps only the dry run from ending
well. -/
theorem dry_run_faithful (launch : EntryPoint → Tool) (w : World) (words : List String) :
    parse ("run" :: words) = (parse ("args" :: words)).map Request.inEarnest ∧
    ∀ name d, parse ("args" :: words) = .ok (.command (.arguments name d)) →
      (∀ f, argumentsOf w name d = .error f →
        (Command.executeWith launch w (.arguments name d)).outcome = .error f ∧
        (Command.executeWith launch w (.run name d)).outcome = .error f ∧
        entryPointCalls launch w ("run" :: words) = [] ∧
        ∃ before, before <+: [Pipeline.compiling name] ∧
          runWith launch w ("run" :: words) =
            ⟨before ++ (runWith launch w ("args" :: words)).events,
              (runWith launch w ("args" :: words)).outcome⟩) ∧
      (∀ ts, argumentsOf w name d = .ok ts →
        (runWith launch w ("args" :: words) =
          if w.console.takes (Shell.joinWords ts) then
            ⟨[.printed (Shell.joinWords ts)], .ok 0⟩
          else ⟨[], .error (.crash .unencodableText)⟩) ∧
        ∃ s, Settings.load w d = .ok s ∧ s.targetTokens name = .ok ts ∧
          (∀ f, EntryPoint.ofSettings s = .error f →
            entryPointCalls launch w ("run" :: words) = [] ∧
            (run w ("run" :: words)).calls = [] ∧
            (Command.executeWith launch w (.run name d)).outcome = .error f) ∧
          (∀ e, EntryPoint.ofSettings s = .ok e →
            entryPointCalls launch w ("run" :: words) = [((launch e).name, ts)]) ∧
          (∀ c, EntryPoint.ofSettings s = .ok (.child c) →
            (c.request w ts).arguments = c.command ++ ts ∧
            (Command.executeWith (EntryPoint.tool w) w (.run name d)).outcome =
              ((Process.run w (c.request w ts)).bind fun r => (demandSuccess r).outcome).map
                fun _ => ()) ∧
          ∀ t, EntryPoint.ofSettings s = .ok (.call t) →
            (∀ f, t.resolve w = .error f →
              (run w ("run" :: words)).calls = [] ∧
              (Command.executeWith (EntryPoint.tool w) w (.run name d)).outcome = .error f) ∧
            ∀ r, t.resolve w = .ok r → (run w ("run" :: words)).calls = [(r.name, ts)]) := by
  refine ⟨parse_run words, fun name d hp => ⟨fun f hf => ?_, fun ts ha => ⟨?_, ?_⟩⟩⟩
  · obtain ⟨before, -, real⟩ := executeWith_run_of_error hf launch
    exact ⟨by rw [executeWith_arguments_of_error hf], by rw [real],
      runWith_run_of_error hp hf launch⟩
  · rw [runWith_of_parse hp, executeWith_arguments_of_ok ha, conclude_print]
  · obtain ⟨s, hs, ht⟩ := argumentsOf_eq_ok_iff.mp ha
    refine ⟨s, hs, ht, fun f he => ⟨?_, ?_, ?_⟩,
      fun e he => entryPointCalls_run hp hs ht he launch, fun c he => ⟨rfl, ?_⟩,
      fun t he => ⟨fun f hf => ⟨?_, outcome_run_of_unresolved hs ht he hf⟩, fun r hr => ?_⟩⟩
    · exact calls_run_of_unchosen hp hs ht he fun e => (launch e).recorded
    · exact calls_run_of_unchosen hp hs ht he (EntryPoint.tool w)
    · rw [executeWith_run_of_unchosen hs ht he]
    · rw [executeWith_run_of_chosen hs ht he]
      exact congrArg (Except.map fun _ => ()) (c.outcome_invoke w ts)
    · rw [calls_run_of_call hp hs ht he, CallTarget.run_of_error hf, Run.calls_fail]
    · rw [calls_run_of_call hp hs ht he, CallTarget.run_of_ok hr, Routine.calls_run]

/-! ### A target for a function -/

/-- Settings with one target, `t`, which has that source, for the function `f` of the module `m`. -/
def sampleText (source : String) : String :=
  "entry_point: callable\ncomponents:\n entry_point:\n  callable:\n   target: m:f\n" ++
    "targets:\n t:\n  source: " ++ source ++ "\n  output: b\n"

/-- The module `m`, whose function `f` returns nothing. -/
def callingModules : Modules := [("m", [("f", .mk (some ⟨"m:f", fun _ => .returned .null⟩) [])])]

/-- A world with these settings and that module, whose terminal takes characters only. -/
def callingWorld (source : String) : World :=
  { Settings.sampleWorld (Text.Utf8.encode (sampleText source)) [] with
    modules := callingModules
    console := { takesUnit := fun _ => false } }

/-- The reference that an entry point is. -/
def referenceOf? : EntryPoint → Option String
  | .call (.reference text) => some text
  | _ => none

theorem eq_of_referenceOf? {e : EntryPoint} {text : String} (h : referenceOf? e = some text) :
    e = .call (.reference text) := by
  cases e with
  | child c => cases h
  | call t =>
      cases t with
      | reference text' => exact congrArg _ (congrArg _ (Option.some.inj h))
      | function title r => cases h

/-- What is looked at in the settings: the arguments of `t`, that there is no `u`, and the entry
point. -/
def seen? (s : Settings) : Option (List String × Bool × String) := do
  let entryPoint ← (EntryPoint.ofSettings s).toOption
  return (← (s.targetTokens "t").toOption, (s.targets.get? "u").isNone, ← referenceOf? entryPoint)

theorem exists_settings_callingWorld (source : String) (ts : List String)
    (h : ((Document.ofBytes (Text.Utf8.encode (sampleText source))).toOption.bind fun u =>
      (Settings.ofContents (Path.ofLocation ["konanrun"]) [u, .null, u]).toOption.bind seen?) =
        some (ts, true, "m:f")) :
    ∃ s, Settings.load (callingWorld source) (Path.ofText "") = .ok s ∧
      s.targetTokens "t" = .ok ts ∧ s.targets.get? "u" = none ∧
      EntryPoint.ofSettings s = .ok (.call (.reference "m:f")) := by
  obtain ⟨s, hs, seen⟩ := Settings.exists_load_sampleWorld h
  obtain ⟨e, he, seen⟩ := Option.bind_eq_some_iff.mp seen
  obtain ⟨ts', ht, seen⟩ := Option.bind_eq_some_iff.mp seen
  obtain ⟨text, hf, seen⟩ := Option.bind_eq_some_iff.mp seen
  obtain ⟨rfl, hn, rfl⟩ : ts' = ts ∧ (s.targets.get? "u").isNone = true ∧ text = "m:f" := by
    simpa using seen
  refine ⟨s, hs, ok_of_toOption ht, Option.isNone_iff_eq_none.mp hn, ?_⟩
  rw [ok_of_toOption he, eq_of_referenceOf? hf]

/-- The target `t` is printed and then run, by a tool and by the function; `u` is no target.  Where
the source of `t` is no text that the terminal takes, it is run all the same. -/
theorem dry_run_faithful_callingWorld :
    let launch : EntryPoint → Tool := fun _ => Pipeline.answering { exitCode := 3 }
    let unit := Text.ofCodes [0xD800]
    let w := callingWorld "a"
    let w' := callingWorld "\"\\ud800\""
    runWith launch w ["args", "t"] = ⟨[.printed "a -o b"], .ok 0⟩ ∧
    entryPointCalls launch w ["run", "t"] = [("tool", ["a", "-o", "b"])] ∧
    (run w ["run", "t"]).calls = [("m:f", ["a", "-o", "b"])] ∧
    entryPointCalls launch w ["run", "u"] = [] ∧
    (runWith launch w ["run", "u"]).outcome = (runWith launch w ["args", "u"]).outcome ∧
    runWith launch w' ["args", "t"] = ⟨[], .error (.crash .unencodableText)⟩ ∧
    (run w' ["run", "t"]).calls = [("m:f", [unit, "-o", "b"])] := by
  intro launch unit w w'
  obtain ⟨s, hs, ht, hn, he⟩ := exists_settings_callingWorld "a" ["a", "-o", "b"]
    (by decide +kernel)
  obtain ⟨s', hs', ht', -, he'⟩ := exists_settings_callingWorld "\"\\ud800\""
    [unit, "-o", "b"] (by decide +kernel)
  have known : parse ["args", "t"] = .ok (.command (.arguments "t" (Path.ofText ""))) := by cbv
  have unknown : parse ["args", "u"] = .ok (.command (.arguments "u" (Path.ofText ""))) := by cbv
  have routine (v : World) (hv : v.modules = callingModules) :
      (CallTarget.reference "m:f").resolve v = .ok ⟨"m:f", fun _ => .returned .null⟩ := by
    rw [CallTarget.resolve, hv]
    cbv
  have refused : argumentsOf w "u" (Path.ofText "") =
      .error (.settings (.unknownTarget "u" s.targetNames)) := by
    rw [argumentsOf, hs]
    exact Settings.targetTokens_of_error (by rw [Settings.target, hn])
  obtain ⟨printed, _, hs₁, -, -, called, -, function⟩ :=
    ((dry_run_faithful launch w ["t"]).2 _ _ known).2 _ (argumentsOf_eq_ok_iff.mpr ⟨s, hs, ht⟩)
  obtain rfl := Except.ok.inj (hs.symm.trans hs₁)
  obtain ⟨-, -, uncalled, before, -, same⟩ :=
    ((dry_run_faithful launch w ["u"]).2 _ _ unknown).1 _ refused
  obtain ⟨barred, _, hs₁, -, -, -, -, function'⟩ :=
    ((dry_run_faithful launch w' ["t"]).2 _ _ known).2 _
      (argumentsOf_eq_ok_iff.mpr ⟨s', hs', ht'⟩)
  obtain rfl := Except.ok.inj (hs'.symm.trans hs₁)
  have line : Shell.joinWords ["a", "-o", "b"] = "a -o b" := by decide +kernel
  have taken : w.console.takes (Shell.joinWords ["a", "-o", "b"]) = true := by decide +kernel
  have untaken : ¬ w'.console.takes (Shell.joinWords [unit, "-o", "b"]) = true := by decide +kernel
  exact ⟨by rw [printed, if_pos taken, line], called _ he, (function _ he).2 _ (routine w rfl),
    uncalled, by rw [same], by rw [barred, if_neg untaken], (function' _ he').2 _ (routine w' rfl)⟩

end CompilerRunner.CommandLine
