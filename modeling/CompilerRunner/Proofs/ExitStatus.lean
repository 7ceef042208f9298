import CompilerRunner.CommandLine
import CompilerRunner.Proofs.Pipeline
import CompilerRunner.Proofs.SettingsMerge
import Mathlib

/-!
# Proofs — ExitStatus

What the status of the program says of the compilation.

A command that compiles (`Command.Compiles`) loads the settings, takes the options from the command
line or from the target, and runs the compiler.  `executeWith_of_ok` and `executeWith_of_error` say
what this comes to, for every behaviour `launch` of the entry points.  The status is zero exactly
when the entry point is called once and its outcome is the exit code zero; every other ending that
is reported has a status from 1 to 255 (`exit_status_truthful`).
-/

namespace CompilerRunner

/-! ### Functions as entry points -/

/-- A function that returns a value and one that exits with it run in the same way. -/
theorem Routine.run_of_completion {r : Routine} {arguments : List String} {v : Value}
    (h : r.complete arguments = .returned v ∨ r.complete arguments = .exited v) :
    r.run arguments = ⟨.called r.name arguments :: (exitCode v).events,
      (exitCode v).outcome.map fun n => { exitCode := n }⟩ := by
  have ending : (exitCode v).bind (fun n => Run.pure ({ exitCode := n } : InvocationResult)) =
      ⟨(exitCode v).events, (exitCode v).outcome.map fun n => { exitCode := n }⟩ := by
    cases he : (exitCode v).outcome with
    | ok n =>
        rw [Run.bind_ok he]
        exact congrArg (Run.mk · _) (List.append_nil _)
    | error f => exact Run.bind_error he _
  -- both ways of ending hand the value to `exitCode`
  rcases h with h | h <;>
    simp only [Routine.run, h, Run.bind_eq, Run.pure_eq, ending] <;> rfl

/-- How the call of a function ends that ends with a value. -/
theorem CallTarget.outcome_run {t : CallTarget} {w : World} {r : Routine} {arguments : List String}
    {v : Value} (ht : t.resolve w = .ok r)
    (h : r.complete arguments = .returned v ∨ r.complete arguments = .exited v) :
    (((EntryPoint.call t).tool w).run arguments).outcome =
      (exitCode v).outcome.map fun n => { exitCode := n } := by
  show ((Run.ofExcept (t.resolve w)).bind fun routine => routine.run arguments).outcome = _
  rw [ht, Run.ofExcept_ok, Run.pure_bind, Routine.run_of_completion h]

/-- The call succeeds exactly with nothing, `false` and the number zero. -/
theorem exists_success_iff {v : Value} :
    (∃ r, ((exitCode v).outcome.map fun n => ({ exitCode := n } : InvocationResult)) = .ok r ∧
      r.exitCode = 0) ↔ v = .null ∨ v = .bool false ∨ v = .integer 0 := by
  rw [← exitCode_eq_zero_iff]
  cases (exitCode v).outcome with
  | error f => simp [Except.map]
  | ok n => simp [Except.map]

end CompilerRunner

namespace CompilerRunner.CommandLine

/-! ### From the command to the pipeline -/

/-- The command runs the compiler: for the directory `d`, with the options that the settings for it
give. -/
inductive Command.Compiles : Command → Path → (Settings → Except Failure CompileOptions) → Prop where
  | compile (o : CompileOptions) (d : Path) : Compiles (.compile o d) d fun _ => .ok o
  | run (name : String) (d : Path) : Compiles (.run name d) d fun s => s.target name

variable {c : Command} {d : Path} {options : Settings → Except Failure CompileOptions} {w : World}

theorem executeWith_compile (launch : EntryPoint → Tool) (o : CompileOptions) :
    Command.executeWith launch w (.compile o d) =
      (Run.ofExcept (Settings.load w d)).bind fun s =>
        discard (Pipeline.runWith launch o s none) := rfl

theorem executeWith_run (launch : EntryPoint → Tool) (name : String) :
    Command.executeWith launch w (.run name d) =
      (Run.ofExcept (Settings.load w d)).bind fun s => discard
        ((Run.log .info ("Compiling target " ++ name)).bind fun _ =>
          (Run.ofExcept (s.target name)).bind fun o => Pipeline.runWith launch o s none) := rfl

/-- What goes wrong before the compiler is reached ends the command, and nothing is called. -/
theorem executeWith_of_error (hc : c.Compiles d options) {f : Failure}
    (hf : (Settings.load w d).bind options = .error f) (launch : EntryPoint → Tool) :
    (c.executeWith launch w).calls = [] ∧ (c.executeWith launch w).outcome = .error f := by
  cases hs : Settings.load w d with
  | error g =>
      obtain rfl : g = f := by simpa [hs, Except.bind] using hf
      cases hc <;> simp [executeWith_compile, executeWith_run, hs]
  | ok s =>
      have ho : options s = .error f := by simpa [hs, Except.bind] using hf
      cases hc with
      | compile o => cases ho
      | run name => simp [executeWith_run, hs, show s.target name = .error f from ho, Except.map]

/-- With settings and options at hand the command is the run of the compiler. -/
theorem executeWith_of_ok (hc : c.Compiles d options) {s : Settings} {o : CompileOptions}
    (hs : Settings.load w d = .ok s) (ho : options s = .ok o) (launch : EntryPoint → Tool) :
    (c.executeWith launch w).calls = (Pipeline.runWith launch o s none).calls ∧
      (c.executeWith launch w).outcome =
        (Pipeline.runWith launch o s none).outcome.map fun _ => () := by
  cases hc with
  | compile o' =>
      obtain rfl : o' = o := by simpa using ho
      simp [executeWith_compile, hs]
  | run name => simp [executeWith_run, hs, show s.target name = .ok o from ho]

/-! ### From the pipeline to the status -/

theorem calls_conclude (r : Run Unit) : (conclude r).calls = r.calls := by
  unfold conclude
  split
  · rfl
  · split
    · simp [Run.calls, Event.call?]
    · rfl

/-- What happened before a command is concluded plays no part in how it is concluded. -/
theorem conclude_append (before : List Event) (r : Run Unit) :
    conclude ⟨before ++ r.events, r.outcome⟩ =
      ⟨before ++ (conclude r).events, (conclude r).outcome⟩ := by
  unfold conclude
  cases r.outcome with
  | ok _ => rfl
  | error f => by_cases hf : f.isReported = true <;> simp [hf]

/-- The status is zero exactly for a command that has ended well. -/
theorem outcome_conclude_zero_iff (r : Run Unit) :
    (conclude r).outcome = .ok 0 ↔ r.outcome = .ok () := by
  unfold conclude
  split
  · next h => simp [h]
  · next f h =>
      have := statusOf_bounds f
      split
      · simp [h]
        omega
      · simp [h]

theorem outcome_conclude_of_unreported {r : Run Unit} {f : Failure} (h : r.outcome = .error f)
    (hf : f.isReported = false) : (conclude r).outcome = .error f := by
  simp [conclude, h, hf]

theorem outcome_conclude_of_reported {r : Run Unit} {f : Failure} (h : r.outcome = .error f)
    (hf : f.isReported = true) : (conclude r).outcome = .ok (statusOf f) := by
  simp [conclude, h, hf]

theorem runWith_of_parse {words : List String} (hp : parse words = .ok (.command c))
    (launch : EntryPoint → Tool) : runWith launch w words = conclude (c.executeWith launch w) := by
  simp [runWith, hp]

/-- The status that a compilation with an exit code other than zero ends the program with. -/
def failureStatus (code : Int) : Nat := if 1 ≤ code ∧ code ≤ 255 then code.toNat else 1

theorem failureStatus_bounds (code : Int) : 1 ≤ failureStatus code ∧ failureStatus code ≤ 255 := by
  unfold failureStatus
  split <;> omega

theorem statusOf_compilation (code : Int) (result : Option InvocationResult)
    (written : (Value.integer code).isOversized = false) :
    statusOf (.compilation (.integer code) result written) = failureStatus code := by
  have range : (0 < code ∧ code < 256) ↔ 1 ≤ code ∧ code ≤ 255 := by omega
  show (if 0 < code ∧ code < 256 then code.toNat else 1) = _
  simp only [failureStatus, range]

/-- A code of too many digits is no status. -/
theorem failureStatus_of_oversized {code : Int}
    (oversized : (Value.integer code).isOversized = true) : failureStatus code = 1 := by
  have many := isOversized_integer_iff.mp oversized
  have least : Decimal.decimalDigitLimit < 10 ^ Decimal.decimalDigitLimit :=
    Nat.lt_pow_self (by decide)
  have limit : 255 < Decimal.decimalDigitLimit := by decide
  generalize 10 ^ Decimal.decimalDigitLimit = bound at many least
  exact if_neg (by omega)

theorem exitStatus_of_ok {r : Run Nat} {n : Nat} (h : r.outcome = .ok n) : exitStatus r = n := by
  rw [exitStatus, h]

theorem exitStatus_of_error {r : Run Nat} {f : Failure} (h : r.outcome = .error f) :
    exitStatus r = 1 := by
  rw [exitStatus, h]

theorem exitStatus_eq_zero_iff {r : Run Nat} : exitStatus r = 0 ↔ r.outcome = .ok 0 := by
  cases h : r.outcome with
  | ok n => simp [exitStatus_of_ok h]
  | error f => simp [exitStatus_of_error h]

section Calls

variable {words : List String} {s : Settings} {e : EntryPoint}

/-- The calls of the entry point while the program runs, with their arguments. -/
def entryPointCalls (launch : EntryPoint → Tool) (w : World) (words : List String) :
    List (String × List String) :=
  (runWith (fun e => (launch e).recorded) w words).calls

theorem entryPointCalls_eq_iff (hp : parse words = .ok (.command c)) (hc : c.Compiles d options)
    (hs : Settings.load w d = .ok s) (he : EntryPoint.ofSettings s = .ok e)
    (launch : EntryPoint → Tool) (arguments : List String) :
    entryPointCalls launch w words = [((launch e).name, arguments)] ↔
      ∃ o, options s = .ok o ∧ o.build = .ok arguments := by
  rw [entryPointCalls, runWith_of_parse hp, calls_conclude]
  cases ho : options s with
  | error f =>
      have hf : (Settings.load w d).bind options = .error f := by rw [hs]; exact ho
      simp [(executeWith_of_error hc hf _).1]
  | ok o =>
      have calls := Pipeline.calls_runWith_recorded launch o s none
      rw [Option.map_none, Pipeline.choose_none he] at calls
      rw [(executeWith_of_ok hc hs ho _).1, calls]
      cases hb : o.build <;> simp [hb]

/-- A result other than zero makes the command fail with its code. -/
theorem executeWith_of_failure (hc : c.Compiles d options) (hs : Settings.load w d = .ok s)
    (he : EntryPoint.ofSettings s = .ok e) {launch : EntryPoint → Tool} {o : CompileOptions}
    (ho : options s = .ok o) {arguments : List String} (hb : o.build = .ok arguments)
    {r : InvocationResult} (hr : ((launch e).run arguments).outcome = .ok r)
    (hn : r.exitCode ≠ 0) (written : (Value.integer r.exitCode).isOversized = false) :
    (c.executeWith launch w).outcome =
      .error (.compilation (.integer r.exitCode) (some r) written) := by
  rw [(executeWith_of_ok hc hs ho launch).2,
    Pipeline.runWith_of_ok hb (Pipeline.choose_none he), Tool.invoke_failure hr hn written]
  rfl

/-- One with a code of too many digits makes it fail without a report. -/
theorem executeWith_of_oversized (hc : c.Compiles d options) (hs : Settings.load w d = .ok s)
    (he : EntryPoint.ofSettings s = .ok e) {launch : EntryPoint → Tool} {o : CompileOptions}
    (ho : options s = .ok o) {arguments : List String} (hb : o.build = .ok arguments)
    {r : InvocationResult} (hr : ((launch e).run arguments).outcome = .ok r)
    (oversized : (Value.integer r.exitCode).isOversized = true) :
    (c.executeWith launch w).outcome = .error (.crash .invalidValue) := by
  rw [(executeWith_of_ok hc hs ho launch).2,
    Pipeline.runWith_of_ok hb (Pipeline.choose_none he), Tool.invoke_oversized hr oversized]
  rfl

/-- The command ends well exactly when the configured entry point, run with the tokens of the
options, has a result with the exit code zero. -/
theorem executeWith_ok_iff (hc : c.Compiles d options) (launch : EntryPoint → Tool) :
    (c.executeWith launch w).outcome = .ok () ↔
      ∃ s o e arguments r, Settings.load w d = .ok s ∧ options s = .ok o ∧
        EntryPoint.ofSettings s = .ok e ∧ o.build = .ok arguments ∧
        ((launch e).run arguments).outcome = .ok r ∧ r.exitCode = 0 := by
  constructor
  · intro h
    -- a command that ends well has come through the settings, the options and the pipeline
    rcases hf : (Settings.load w d).bind options with f | o
    · rw [(executeWith_of_error hc hf launch).2] at h
      cases h
    · obtain ⟨s, hs, ho⟩ : ∃ s, Settings.load w d = .ok s ∧ options s = .ok o := by
        cases hs : Settings.load w d with
        | error f => rw [hs] at hf; cases hf
        | ok s => rw [hs] at hf; exact ⟨s, rfl, hf⟩
      rw [(executeWith_of_ok hc hs ho launch).2] at h
      rcases hr : (Pipeline.runWith launch o s none).outcome with f | r
      · rw [hr] at h
        cases h
      · obtain ⟨arguments, t, hb, ht, hrun, h0⟩ := Pipeline.outcome_runWith_ok_iff.mp hr
        obtain ⟨-, e, he, rfl⟩ := (Pipeline.choose_eq_ok_iff.mp ht).resolve_left (by simp)
        exact ⟨s, o, e, arguments, r, hs, ho, he, hb, hrun, h0⟩
  · rintro ⟨s, o, e, arguments, r, hs, ho, he, hb, hrun, h0⟩
    have hr : (Pipeline.runWith launch o s none).outcome = .ok r :=
      Pipeline.outcome_runWith_ok_iff.mpr
        ⟨arguments, _, hb, Pipeline.choose_none he, hrun, h0⟩
    rw [(executeWith_of_ok hc hs ho launch).2, hr]
    rfl

/-- The program ends with zero exactly when the entry point is called once and succeeds. -/
theorem outcome_zero_iff (hp : parse words = .ok (.command c)) (hc : c.Compiles d options)
    (launch : EntryPoint → Tool) :
    (runWith launch w words).outcome = .ok 0 ↔
      ∃ s e arguments r, Settings.load w d = .ok s ∧ EntryPoint.ofSettings s = .ok e ∧
        entryPointCalls launch w words = [((launch e).name, arguments)] ∧
        ((launch e).run arguments).outcome = .ok r ∧ r.exitCode = 0 := by
  rw [runWith_of_parse hp, outcome_conclude_zero_iff, executeWith_ok_iff hc]
  constructor
  · rintro ⟨s, o, e, arguments, r, hs, ho, he, hb, hr, h0⟩
    exact ⟨s, e, arguments, r, hs, he,
      (entryPointCalls_eq_iff hp hc hs he launch arguments).mpr ⟨o, ho, hb⟩, hr, h0⟩
  · rintro ⟨s, e, arguments, r, hs, he, calls, hr, h0⟩
    obtain ⟨o, ho, hb⟩ := (entryPointCalls_eq_iff hp hc hs he launch arguments).mp calls
    exact ⟨s, o, e, arguments, r, hs, ho, he, hb, hr, h0⟩

end Calls

/-- **The status tells the truth.**  The program ends with zero exactly when the entry point is
called once and its outcome is the exit code zero; a compilation that fails with a code ends it with
that code where it lies from 1 to 255, and with 1 otherwise, if the code can be written; a code of
too many digits ends it in an error of values, and thereby the process with 1; and any other
reported failure ends it with 1.  The outcome of a function is zero exactly when it returns, or
exits with, nothing, `false` or the number zero; it is the number or truth value otherwise, and 1
for a message, if that can be written. -/
theorem exit_status_truthful (launch : EntryPoint → Tool) (w : World) (words : List String)
    (c : Command) (d : Path) (options : Settings → Except Failure CompileOptions)
    (hp : parse words = .ok (.command c)) (hc : c.Compiles d options) :
    ((runWith launch w words).outcome = .ok 0 ↔
      ∃ s e arguments r, Settings.load w d = .ok s ∧ EntryPoint.ofSettings s = .ok e ∧
        entryPointCalls launch w words = [((launch e).name, arguments)] ∧
        ((launch e).run arguments).outcome = .ok r ∧ r.exitCode = 0) ∧
    (exitStatus (runWith launch w words) = 0 ↔ (runWith launch w words).outcome = .ok 0) ∧
    (∀ s e arguments r, Settings.load w d = .ok s → EntryPoint.ofSettings s = .ok e →
      entryPointCalls launch w words = [((launch e).name, arguments)] →
      ((launch e).run arguments).outcome = .ok r → r.exitCode ≠ 0 →
      exitStatus (runWith launch w words) = failureStatus r.exitCode ∧
      (runWith launch w words).outcome =
        if (Value.integer r.exitCode).isOversized then .error (.crash .invalidValue)
        else .ok (failureStatus r.exitCode)) ∧
    (∀ n result written,
      (c.executeWith launch w).outcome = .error (.compilation (.integer n) result written) →
      (runWith launch w words).outcome = .ok (failureStatus n)) ∧
    (∀ n, 1 ≤ failureStatus n ∧ failureStatus n ≤ 255) ∧
    (∀ f, (c.executeWith launch w).outcome = .error f → f.isReported = true →
      (∀ code result written, f ≠ .compilation code result written) →
      (runWith launch w words).outcome = .ok 1) ∧
    (∀ (t : CallTarget) r arguments v, t.resolve w = .ok r →
      (r.complete arguments = .returned v ∨ r.complete arguments = .exited v) →
      let outcome := (((EntryPoint.call t).tool w).run arguments).outcome
      ((∃ x, outcome = .ok x ∧ x.exitCode = 0) ↔
        v = .null ∨ v = .bool false ∨ v = .integer 0) ∧
      (∀ n, v.exitCode? = some n → outcome = .ok { exitCode := n }) ∧
      (v.exitCode? = none → outcome =
        if v.isOversized then .error (.crash .invalidValue) else .ok { exitCode := 1 }) ∧
      ∀ s, Settings.load w d = .ok s → EntryPoint.ofSettings s = .ok (.call t) →
        entryPointCalls (EntryPoint.tool w) w words = [(t.title, arguments)] →
        (exitStatus (run w words) = 0 ↔ v = .null ∨ v = .bool false ∨ v = .integer 0)) ∧
    (∀ (r r' : Routine) arguments v, r.name = r'.name → r.complete arguments = .returned v →
      r'.complete arguments = .exited v → r.run arguments = r'.run arguments) := by
  refine ⟨outcome_zero_iff hp hc launch, exitStatus_eq_zero_iff, ?_, fun n result written h => ?_,
    failureStatus_bounds, fun f h hf hn => ?_, fun t r arguments v ht h => ?_, ?_⟩
  · intro s e arguments r hs he calls hr hn
    obtain ⟨o, ho, hb⟩ := (entryPointCalls_eq_iff hp hc hs he launch arguments).mp calls
    rw [runWith_of_parse hp]
    cases hw : (Value.integer r.exitCode).isOversized with
    | true =>
        have crashed := outcome_conclude_of_unreported
          (executeWith_of_oversized hc hs he ho hb hr hw) rfl
        exact ⟨by rw [exitStatus_of_error crashed, failureStatus_of_oversized hw], crashed⟩
    | false =>
        have reported := outcome_conclude_of_reported
          (executeWith_of_failure hc hs he ho hb hr hn hw) rfl
        rw [statusOf_compilation] at reported
        exact ⟨exitStatus_of_ok reported, reported⟩
  · rw [runWith_of_parse hp, outcome_conclude_of_reported h rfl, statusOf_compilation]
  · rw [runWith_of_parse hp, outcome_conclude_of_reported h hf]
    cases f with
    | compilation code result written => exact absurd rfl (hn code result written)
    | _ => rfl
  · intro outcome
    have ended : outcome = (exitCode v).outcome.map fun n => { exitCode := n } :=
      CallTarget.outcome_run ht h
    have succeeds : (∃ x, outcome = .ok x ∧ x.exitCode = 0) ↔ _ := ended ▸ exists_success_iff
    refine ⟨succeeds, fun n hv => ?_, fun hv => ?_, fun s hs he calls => ?_⟩
    · rw [ended, exitCode_of_some hv]
      rfl
    · rw [ended]
      cases hw : v.isOversized with
      | true => rw [exitCode_of_oversized hv hw]; rfl
      | false => rw [exitCode_of_written hv hw]; rfl
    · rw [exitStatus_eq_zero_iff, run, outcome_zero_iff hp hc, ← succeeds]
      -- the settings, the entry point and its arguments are those that are given
      constructor
      · rintro ⟨s', e', arguments', x, hs', he', calls', hx, h0⟩
        obtain rfl := Except.ok.inj (hs.symm.trans hs')
        obtain rfl := Except.ok.inj (he.symm.trans he')
        obtain ⟨-, rfl⟩ : t.title = _ ∧ arguments = arguments' := by
          simpa using calls.symm.trans calls'
        exact ⟨x, hx, h0⟩
      · rintro ⟨x, hx, h0⟩
        exact ⟨s, _, arguments, x, hs, he, calls, hx, h0⟩
  · intro r r' arguments v name h h'
    rw [Routine.run_of_completion (.inl h), Routine.run_of_completion (.inr h'), name]

/-- A tool that ends with the codes 0, 3, 256, -11, and one of too many digits. -/
theorem exit_status_truthful_answering :
    let w := Settings.sampleWorld [] []
    let words := ["compile", "a.kt", "--output=b"]
    let ending (code : Int) : EntryPoint → Tool := fun _ => Pipeline.answering { exitCode := code }
    (runWith (ending 0) w words).outcome = .ok 0 ∧
    (runWith (ending 3) w words).outcome = .ok 3 ∧
    (runWith (ending 256) w words).outcome = .ok 1 ∧
    (runWith (ending (-11)) w words).outcome = .ok 1 ∧
    (runWith (ending Pipeline.longCode) w words).outcome = .error (.crash .invalidValue) ∧
    exitStatus (runWith (ending Pipeline.longCode) w words) = 1 := by
  have hp : parse ["compile", "a.kt", "--output=b"] =
      .ok (.command (.compile { source := "a.kt", output := "b" } (Path.ofText ""))) := by
    cbv
  have he : EntryPoint.ofSettings { currentDirectory := some (Path.ofLocation ["konanrun"]) } =
      .ok (.child { directory := some (Path.ofLocation ["konanrun"]) }) := by
    cbv
  have hb : CompileOptions.build { source := "a.kt", output := "b" } = .ok ["a.kt", "-o", "b"] := by
    cbv
  intro w words ending
  have calls (launch : EntryPoint → Tool) := (entryPointCalls_eq_iff hp (.compile _ _)
    Settings.load_sampleWorld_nil he launch ["a.kt", "-o", "b"]).mpr ⟨_, rfl, hb⟩
  have truthful (code : Int) := exit_status_truthful (ending code) w words _ _ _ hp (.compile _ _)
  have failing {code : Int} (hn : code ≠ 0) :=
    (truthful code).2.2.1 _ _ _ { exitCode := code } Settings.load_sampleWorld_nil he
      (calls (ending code)) rfl hn
  have written {code : Int} (hn : code ≠ 0) (hw : (Value.integer code).isOversized = false) :
      (runWith (ending code) w words).outcome = .ok (failureStatus code) := by
    rw [(failing hn).2, if_neg (Bool.eq_false_iff.mp hw)]
  refine ⟨(truthful 0).1.mpr
      ⟨_, _, _, _, Settings.load_sampleWorld_nil, he, calls (ending 0), rfl, rfl⟩,
    written (by decide) (by decide +kernel), written (by decide) (by decide +kernel),
    written (by decide) (by decide +kernel), ?_⟩
  have crashed := (failing (ne_zero_of_isOversized Pipeline.isOversized_longCode)).2
  rw [if_pos Pipeline.isOversized_longCode] at crashed
  exact ⟨crashed, exitStatus_of_error crashed⟩

end CompilerRunner.CommandLine
