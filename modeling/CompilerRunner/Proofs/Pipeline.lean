import CompilerRunner.Pipeline
import Mathlib

/-!
# Proofs — Pipeline

What one run of the compiler does, for every behaviour of the tool.

* `Tool.invoke_error`, `Tool.invoke_success`, `Tool.invoke_failure`: after the `Invoking` record
  come the events of the tool, once, and then what belongs to the way in which the tool ended.
* `Tool.calls_invoke`: around the tool's run nothing is called.
* `Tool.recorded`: the tool as a recorder.  It answers as the tool does, and all that is seen of a
  run is that it was called; so the calls of a run with recorders are the calls of the tool
  (`calls_invoke_recorded`).
* `run_contract`: what is wrong with the options comes before what is wrong with the entry point,
  and this before anything that the tool does.
-/

namespace CompilerRunner

/-! ### One invocation -/

/-- The record before the tool is run. -/
def Tool.announcement (t : Tool) (arguments : List String) : Event :=
  .logged .info ("Invoking " ++ t.name ++ " with " ++ String.intercalate " " arguments)

/-- The record of a captured output, if there is any that is not empty. -/
def outputWarning (stream : String) (captured : Option String) : List Event :=
  ((captured.filter (· ≠ "")).map fun s =>
    Event.logged .warning ("Captured " ++ stream ++ "\n" ++ s)).toList

/-- The records of a failed compilation: the exit code, then what was captured. -/
def failureWarnings (r : InvocationResult) : List Event :=
  .logged .warning ("Compilation failed with exit code " ++ Value.integerText r.exitCode) ::
    (outputWarning "stderr" r.stderr ++ outputWarning "stdout" r.stdout)

theorem reportOutput_eq (stream : String) (captured : Option String) :
    reportOutput stream captured = ⟨outputWarning stream captured, .ok ()⟩ := by
  unfold reportOutput outputWarning
  split
  · rfl
  · rfl
  · next s hs =>
      rw [Option.filter_some, if_pos (by simpa using hs)]
      rfl

theorem demandSuccess_of_ok {r : InvocationResult} (h : r.exitCode = 0) :
    demandSuccess r = ⟨[.logged .info "Compilation succeeded"], .ok r⟩ := by
  rw [demandSuccess, if_pos (by simp [InvocationResult.ok, h])]
  rfl

theorem demandSuccess_of_ne {r : InvocationResult} (h : r.exitCode ≠ 0)
    (written : (Value.integer r.exitCode).isOversized = false) :
    demandSuccess r =
      ⟨failureWarnings r, .error (.compilation (.integer r.exitCode) (some r) written)⟩ := by
  rw [demandSuccess, if_neg (by simp [InvocationResult.ok, h]), Value.shown_of_written written,
    Failure.ofExitCode_of_written written]
  -- the three records come one after the other, and none of them ends the run
  simp only [Run.bind_eq, Run.ofExcept_ok, Run.pure_bind, Run.log_bind, reportOutput_eq]
  simp only [Run.bind, Run.fail, failureWarnings, List.append_nil]
  rfl

theorem isOversized_integer_iff {n : Int} :
    (Value.integer n).isOversized = true ↔ 10 ^ Decimal.decimalDigitLimit ≤ n.natAbs := by
  rw [Value.isOversized, decide_eq_true_iff, Nat.pow_eq]

theorem ne_zero_of_isOversized {n : Int} (h : (Value.integer n).isOversized = true) : n ≠ 0 := by
  rintro rfl
  exact absurd h (by decide +kernel)

/-- An exit code of too many digits ends the run before anything is recorded. -/
theorem demandSuccess_of_oversized {r : InvocationResult}
    (oversized : (Value.integer r.exitCode).isOversized = true) :
    demandSuccess r = ⟨[], .error (.crash .invalidValue)⟩ := by
  rw [demandSuccess, if_neg (by simp [InvocationResult.ok, ne_zero_of_isOversized oversized]),
    Value.shown_of_oversized oversized]
  rfl

theorem outcome_demandSuccess_ok_iff {q r : InvocationResult} :
    (demandSuccess q).outcome = .ok r ↔ q = r ∧ q.exitCode = 0 := by
  by_cases h : q.exitCode = 0
  · simp [demandSuccess_of_ok h, h]
  · cases hw : (Value.integer q.exitCode).isOversized with
    | true => simp [demandSuccess_of_oversized hw, h]
    | false => simp [demandSuccess_of_ne h hw, h]

theorem calls_outputWarning (stream : String) (captured : Option String) :
    (outputWarning stream captured).filterMap Event.call? = [] := by
  unfold outputWarning
  cases captured.filter (· ≠ "") <;> rfl

theorem calls_demandSuccess (r : InvocationResult) : (demandSuccess r).calls = [] := by
  by_cases h : r.exitCode = 0
  · rw [demandSuccess_of_ok h]
    rfl
  · cases hw : (Value.integer r.exitCode).isOversized with
    | true => rw [demandSuccess_of_oversized hw]; rfl
    | false =>
        rw [demandSuccess_of_ne h hw, Run.calls, failureWarnings, List.filterMap_cons_none rfl,
          List.filterMap_append, calls_outputWarning, calls_outputWarning]
        rfl

namespace Tool

theorem invoke_eq (t : Tool) (arguments : List String) :
    t.invoke arguments =
      ⟨t.announcement arguments :: ((t.run arguments).bind demandSuccess).events,
        ((t.run arguments).bind demandSuccess).outcome⟩ := rfl

/-- **A tool that fails.**  Its failure is passed on, and nothing is recorded after it. -/
theorem invoke_error {t : Tool} {arguments : List String} {e : Failure}
    (h : (t.run arguments).outcome = .error e) :
    t.invoke arguments = ⟨t.announcement arguments :: (t.run arguments).events, .error e⟩ := by
  rw [invoke_eq, Run.bind_error h]

/-- **A tool that succeeds.**  Its result is passed on as it is. -/
theorem invoke_success {t : Tool} {arguments : List String} {r : InvocationResult}
    (h : (t.run arguments).outcome = .ok r) (hr : r.exitCode = 0) :
    t.invoke arguments =
      ⟨t.announcement arguments :: ((t.run arguments).events
        ++ [.logged .info "Compilation succeeded"]), .ok r⟩ := by
  rw [invoke_eq, Run.bind_ok h, demandSuccess_of_ok hr]

/-- **A tool with another exit code than zero.**  The code and the captured output are recorded, and
the invocation fails with the code and the result. -/
theorem invoke_failure {t : Tool} {arguments : List String} {r : InvocationResult}
    (h : (t.run arguments).outcome = .ok r) (hr : r.exitCode ≠ 0)
    (written : (Value.integer r.exitCode).isOversized = false) :
    t.invoke arguments =
      ⟨t.announcement arguments :: ((t.run arguments).events ++ failureWarnings r),
        .error (.compilation (.integer r.exitCode) (some r) written)⟩ := by
  rw [invoke_eq, Run.bind_ok h, demandSuccess_of_ne hr written]

/-- **A tool with an exit code of too many digits.**  Nothing is recorded, and the failure is not
that of the compilation. -/
theorem invoke_oversized {t : Tool} {arguments : List String} {r : InvocationResult}
    (h : (t.run arguments).outcome = .ok r)
    (oversized : (Value.integer r.exitCode).isOversized = true) :
    t.invoke arguments =
      ⟨t.announcement arguments :: (t.run arguments).events, .error (.crash .invalidValue)⟩ := by
  rw [invoke_eq, Run.bind_ok h, demandSuccess_of_oversized oversized, List.append_nil]

/-- An invocation ends well only by a result with the exit code zero. -/
theorem outcome_invoke_ok_iff {t : Tool} {arguments : List String} {r : InvocationResult} :
    (t.invoke arguments).outcome = .ok r ↔
      (t.run arguments).outcome = .ok r ∧ r.exitCode = 0 := by
  rw [invoke_eq, Run.outcome_bind]
  cases h : (t.run arguments).outcome with
  | error e => simp [Except.bind]
  | ok q =>
      rw [Except.bind, Except.ok.injEq, outcome_demandSuccess_ok_iff]
      constructor
      · rintro ⟨rfl, hq⟩
        exact ⟨rfl, hq⟩
      · rintro ⟨rfl, hq⟩
        exact ⟨rfl, hq⟩

/-! ### The calls of the tool -/

/-- The tool as a recorder: it answers as the tool does, and all that is seen of a run is that it
was called. -/
def recorded (t : Tool) : Tool :=
  { name := t.name
    run := fun arguments => ⟨[.called t.name arguments], (t.run arguments).outcome⟩ }

/-- The calls of an invocation are those of the tool's run: what is around it is only recorded. -/
theorem calls_invoke (t : Tool) (arguments : List String) :
    (t.invoke arguments).calls = (t.run arguments).calls := by
  rw [invoke_eq]
  exact (List.filterMap_cons_none rfl).trans (Run.calls_bind_of_silent calls_demandSuccess _)

/-- However the tool ends, it is called once. -/
theorem calls_invoke_recorded (t : Tool) (arguments : List String) :
    (t.recorded.invoke arguments).calls = [(t.name, arguments)] :=
  calls_invoke t.recorded arguments

/-- A recorder ends as the tool does. -/
theorem outcome_invoke_recorded (t : Tool) (arguments : List String) :
    (t.recorded.invoke arguments).outcome = (t.invoke arguments).outcome := by
  rw [invoke_eq, invoke_eq, Run.outcome_bind, Run.outcome_bind]
  rfl

end Tool

namespace Pipeline

variable {launch : EntryPoint → Tool} {o : CompileOptions} {s : Settings} {tool : Option Tool}

/-! ### The order of failures -/

theorem runWith_of_build_error {f : OptionsFault} (h : o.build = .error f) :
    runWith launch o s tool = Run.fail (.options f) := by
  simp [runWith, Run.bind_eq, h, Except.mapError]

theorem runWith_of_choose_error {arguments : List String} {f : Failure}
    (hb : o.build = .ok arguments) (hc : choose launch s tool = .error f) :
    runWith launch o s tool = Run.fail f := by
  simp [runWith, Run.bind_eq, hb, hc, Except.mapError]

theorem runWith_of_ok {arguments : List String} {t : Tool} (hb : o.build = .ok arguments)
    (hc : choose launch s tool = .ok t) : runWith launch o s tool = t.invoke arguments := by
  simp [runWith, Run.bind_eq, hb, hc, Except.mapError]

/-- The record before a target is looked up. -/
def compiling (name : String) : Event := .logged .info ("Compiling target " ++ name)

/-- A target that is unknown or refused ends the run after that record. -/
theorem runTargetWith_of_error {name : String} {f : Failure} (h : s.target name = .error f) :
    runTargetWith launch name s tool = ⟨[compiling name], .error f⟩ := by
  simp only [runTargetWith, Run.bind_eq, Run.log_bind, h, Run.ofExcept_error, Run.fail_bind]
  rfl

/-- Otherwise the run for a target is that record and the run with its options. -/
theorem runTargetWith_of_ok {name : String} (h : s.target name = .ok o) :
    runTargetWith launch name s tool =
      ⟨compiling name :: (runWith launch o s tool).events, (runWith launch o s tool).outcome⟩ := by
  simp only [runTargetWith, Run.bind_eq, Run.log_bind, h, Run.ofExcept_ok, Run.pure_bind]
  rfl

/-- A recorder is chosen where the tool would be. -/
theorem choose_recorded :
    choose (fun e => (launch e).recorded) s (tool.map Tool.recorded)
      = Tool.recorded <$> choose launch s tool := by
  cases tool with
  | some t => rfl
  | none => cases h : EntryPoint.ofSettings s <;> simp [choose, h, Functor.map, Except.map]

/-- The calls of the tool: one with the tokens, if there are tokens and a tool. -/
theorem calls_runWith_recorded (launch : EntryPoint → Tool) (o : CompileOptions) (s : Settings)
    (tool : Option Tool) :
    (runWith (fun e => (launch e).recorded) o s (tool.map Tool.recorded)).calls =
      match o.build, choose launch s tool with
      | .ok arguments, .ok t => [(t.name, arguments)]
      | _, _ => [] := by
  cases hb : o.build with
  | error f => rw [runWith_of_build_error hb]; rfl
  | ok arguments =>
      cases hc : choose launch s tool with
      | error f =>
          rw [runWith_of_choose_error hb (by rw [choose_recorded, hc]; rfl)]
          rfl
      | ok t =>
          rw [runWith_of_ok hb (by rw [choose_recorded, hc]; rfl)]
          exact Tool.calls_invoke_recorded t arguments

/-- A run ends well only by a result with the exit code zero. -/
theorem outcome_runWith_ok_iff {r : InvocationResult} :
    (runWith launch o s tool).outcome = .ok r ↔
      ∃ arguments t, o.build = .ok arguments ∧ choose launch s tool = .ok t ∧
        (t.run arguments).outcome = .ok r ∧ r.exitCode = 0 := by
  -- only the last of the cases, a tool that ends with zero, is on the right-hand side
  cases hb : o.build with
  | error f => simp [runWith_of_build_error hb]
  | ok arguments =>
      cases hc : choose launch s tool with
      | error f => simp [runWith_of_choose_error hb hc]
      | ok t =>
          rw [runWith_of_ok hb hc, Tool.outcome_invoke_ok_iff]
          simp

/-- The tool that a run uses: the one that is given, or else the configured entry point. -/
def Uses (launch : EntryPoint → Tool) (s : Settings) (tool : Option Tool) (t : Tool) : Prop :=
  tool = some t ∨ (tool = none ∧ ∃ e, EntryPoint.ofSettings s = .ok e ∧ t = launch e)

theorem choose_eq_ok_iff {t : Tool} : choose launch s tool = .ok t ↔ Uses launch s tool t := by
  cases tool with
  | some u => simp [choose, Uses]
  | none =>
      cases h : EntryPoint.ofSettings s <;>
        simp [choose, Uses, h, Functor.map, Except.map, eq_comm]

/-- Without a given tool the configured entry point is the tool. -/
theorem choose_none {e : EntryPoint} (h : EntryPoint.ofSettings s = .ok e) :
    choose launch s none = .ok (launch e) :=
  choose_eq_ok_iff.mpr (.inr ⟨rfl, e, h, rfl⟩)

/-- **The contract of a run.**  Options that are refused end the run before anything is looked up;
an entry point that cannot be had ends it before anything is logged; and otherwise the tool is run
once, with the tokens of the options, and the run ends as the tool did: with its failure, with its
result if the exit code is zero, and else with the exit code and the result after warnings of them.
An exit code of so many digits that it cannot be written down ends it in an error of values. -/
theorem run_contract (launch : EntryPoint → Tool) (o : CompileOptions) (s : Settings)
    (tool : Option Tool) :
    (∀ f, o.build = .error f → runWith launch o s tool = ⟨[], .error (.options f)⟩) ∧
    (∀ ts f, o.build = .ok ts → tool = none → EntryPoint.ofSettings s = .error f →
      runWith launch o s tool = ⟨[], .error f⟩) ∧
    ∀ ts t, o.build = .ok ts → Uses launch s tool t →
      (runWith (fun e => (launch e).recorded) o s (tool.map Tool.recorded)).calls
        = [(t.name, ts)] ∧
      (runWith (fun e => (launch e).recorded) o s (tool.map Tool.recorded)).outcome
        = (runWith launch o s tool).outcome ∧
      (∀ e, (t.run ts).outcome = .error e →
        runWith launch o s tool = ⟨t.announcement ts :: (t.run ts).events, .error e⟩) ∧
      (∀ r, (t.run ts).outcome = .ok r → r.exitCode = 0 →
        runWith launch o s tool =
          ⟨t.announcement ts :: ((t.run ts).events ++ [.logged .info "Compilation succeeded"]),
            .ok r⟩) ∧
      (∀ r, (t.run ts).outcome = .ok r → r.exitCode ≠ 0 →
        ∀ written : (Value.integer r.exitCode).isOversized = false,
          runWith launch o s tool =
            ⟨t.announcement ts :: ((t.run ts).events ++ failureWarnings r),
              .error (.compilation (.integer r.exitCode) (some r) written)⟩) ∧
      (∀ r, (t.run ts).outcome = .ok r → (Value.integer r.exitCode).isOversized = true →
        runWith launch o s tool =
          ⟨t.announcement ts :: (t.run ts).events, .error (.crash .invalidValue)⟩) := by
  refine ⟨fun f h => runWith_of_build_error h, ?_, ?_⟩
  · rintro ts f hb rfl he
    exact runWith_of_choose_error hb (by rw [choose, he]; rfl)
  · intro ts t hb ht
    have hc := choose_eq_ok_iff.mpr ht
    have hc' : choose (fun e => (launch e).recorded) s (tool.map Tool.recorded)
        = .ok t.recorded := by
      rw [choose_recorded, hc]
      rfl
    rw [calls_runWith_recorded, hb, hc, runWith_of_ok hb hc, runWith_of_ok hb hc']
    exact ⟨rfl, Tool.outcome_invoke_recorded t ts, fun e => Tool.invoke_error,
      fun r => Tool.invoke_success, fun r => Tool.invoke_failure, fun r => Tool.invoke_oversized⟩

/-- A tool that always answers with the result. -/
def answering (r : InvocationResult) : Tool :=
  { name := "tool", run := fun _ => ⟨[], .ok r⟩ }

/-- The least number that has too many digits. -/
def longCode : Int := ((10 ^ Decimal.decimalDigitLimit : Nat) : Int)

theorem isOversized_longCode : (Value.integer longCode).isOversized = true :=
  isOversized_integer_iff.mpr (Nat.le_refl _)

theorem announcement_answering (r : InvocationResult) :
    (answering r).announcement ["a.kt", "-o", "b"] =
      .logged .info "Invoking tool with a.kt -o b" := by
  cbv

/-- A blank source beside an unknown entry point, the unknown entry point alone, a tool that ends
with the code 256 and an error text, and one that ends with a code of too many digits. -/
theorem run_contract_failures :
    let o : CompileOptions := { source := "a.kt", output := "b" }
    let s : Settings := { entryPoint := "remote" }
    let r : InvocationResult := { exitCode := 256, stdout := some "", stderr := some "bad" }
    let launch : EntryPoint → Tool := fun _ => answering r
    runWith launch { o with source := " " } s none = ⟨[], .error (.options .blankSource)⟩ ∧
    runWith launch o s none =
      ⟨[], .error (.settings (.unknownKey "entry_point" "remote" ["callable", "subprocess"]))⟩ ∧
    runWith launch o s (some (answering r)) =
      ⟨[.logged .info "Invoking tool with a.kt -o b",
        .logged .warning "Compilation failed with exit code 256",
        .logged .warning "Captured stderr\nbad"],
        .error (.compilation (.integer 256) (some r) (by decide +kernel))⟩ ∧
    runWith launch o s (some (answering { r with exitCode := longCode })) =
      ⟨[.logged .info "Invoking tool with a.kt -o b"], .error (.crash .invalidValue)⟩ := by
  intro o s r launch
  have hb : o.build = .ok ["a.kt", "-o", "b"] := by cbv
  refine ⟨(run_contract launch _ s none).1 .blankSource (by cbv),
    (run_contract launch o s none).2.1 _ _ hb rfl (by cbv), ?_, ?_⟩
  · obtain ⟨-, -, -, -, failed, -⟩ :=
      (run_contract launch o s (some (answering r))).2.2 _ _ hb (.inl rfl)
    rw [failed r rfl (by decide) (by decide +kernel)]
    have warnings : failureWarnings r =
        [.logged .warning "Compilation failed with exit code 256",
          .logged .warning "Captured stderr\nbad"] := by
      decide +kernel
    rw [announcement_answering, warnings]
    rfl
  · obtain ⟨-, -, -, -, -, oversized⟩ :=
      (run_contract launch o s (some (answering { r with exitCode := longCode }))).2.2 _ _ hb
        (.inl rfl)
    rw [oversized _ rfl isOversized_longCode, announcement_answering]
    rfl

end Pipeline

end CompilerRunner
