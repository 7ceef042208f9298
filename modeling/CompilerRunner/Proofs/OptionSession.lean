import CompilerRunner.Options.Session
import CompilerRunner.Proofs.SettingsMerge
import Mathlib

/-!
# Proofs — OptionSession

Options do not change during a session.

* `accepted`: what a step can make current; nothing else does (`step_current`).
* `lastAccepted`: the data that was accepted last, which is all that a session leaves behind
  (`currentAfter_eq`).
* `options_unchanged`: how each step finds and leaves the current options.

An attribute that is no field's can be assigned to: `attributes_not_frozen`.
-/

namespace CompilerRunner.CompileOptions

variable {c : Command} {cs : List Command} {current : Option CompileOptions} {o : CompileOptions}
  {d : Value}

/-! ### One step -/

/-- The data of the step, with the options that it is accepted as. -/
def accepted : Command → Option (Value × CompileOptions)
  | .validate data => (ofValue data).toOption.map (data, ·)
  | _ => none

theorem accepted_eq_some_iff :
    accepted c = some (d, o) ↔ c = .validate d ∧ ofValue d = .ok o := by
  constructor
  · intro h
    cases c with
    | validate data =>
        cases ho : ofValue data with
        | ok o' =>
            obtain ⟨rfl, rfl⟩ : data = d ∧ o' = o := by
              simpa [accepted, ho, Except.toOption] using h
            exact ⟨rfl, ho⟩
        | error r => simp [accepted, ho, Except.toOption] at h
    | assign field value => cases h
    | build => cases h
    | compare data => cases h
  · rintro ⟨rfl, ho⟩
    simp [accepted, ho, Except.toOption]

/-- Only data that is accepted becomes current. -/
theorem step_current (current : Option CompileOptions) (c : Command) :
    (step current c).2 = ((accepted c).map Prod.snd).or current := by
  cases c with
  | validate data => cases h : ofValue data <;> simp [step, accepted, h, Except.toOption]
  | assign field value =>
      cases current with
      | none => rfl
      | some o =>
          simp only [step, accepted]
          split
          · rfl
          · split <;> rfl
  | build =>
      cases current with
      | none => rfl
      | some o => cases h : o.build <;> simp [step, accepted, h]
  | compare data => cases h : ofValue data <;> simp [step, accepted, h]

/-! ### A session -/

/-- The options that are current after several steps. -/
def currentAfter (current : Option CompileOptions) (cs : List Command) : Option CompileOptions :=
  cs.foldl (fun o c => (step o c).2) current

/-- The data that was accepted last, with the options it is accepted as. -/
def lastAccepted (cs : List Command) : Option (Value × CompileOptions) :=
  cs.reverse.findSome? accepted

theorem lastAccepted_eq_some_iff :
    lastAccepted cs = some (d, o) ↔
      ∃ before later, cs = before ++ .validate d :: later ∧ ofValue d = .ok o ∧
        ∀ c ∈ later, accepted c = none := by
  rw [lastAccepted, List.findSome?_eq_some_iff]
  constructor
  · rintro ⟨l₁, c, l₂, hs, hc, rest⟩
    obtain ⟨rfl, ho⟩ := accepted_eq_some_iff.mp hc
    refine ⟨l₂.reverse, l₁.reverse, ?_, ho, by simpa using rest⟩
    simpa using congrArg List.reverse hs
  · rintro ⟨before, later, rfl, ho, rest⟩
    exact ⟨later.reverse, _, before.reverse, by simp, accepted_eq_some_iff.mpr ⟨rfl, ho⟩,
      by simpa using rest⟩

theorem currentAfter_concat (current : Option CompileOptions) (cs : List Command) (c : Command) :
    currentAfter current (cs ++ [c]) = (step (currentAfter current cs) c).2 := by
  rw [currentAfter, List.foldl_append]
  rfl

theorem lastAccepted_cons (c : Command) (cs : List Command) :
    lastAccepted (c :: cs) = (lastAccepted cs).or (accepted c) := by
  rw [lastAccepted, List.reverse_cons, List.findSome?_append, ← lastAccepted,
    List.findSome?_singleton]

/-- Several steps leave what was accepted last. -/
theorem currentAfter_eq (current : Option CompileOptions) (cs : List Command) :
    currentAfter current cs = ((lastAccepted cs).map Prod.snd).or current := by
  induction cs generalizing current with
  | nil => rfl
  | cons c cs ih =>
      rw [currentAfter, List.foldl_cons, ← currentAfter, ih, step_current, lastAccepted_cons]
      cases lastAccepted cs <;> simp

/-- Steps are answered one after the other, from what those before them have left. -/
theorem session_append (current : Option CompileOptions) (before rest : List Command) :
    session current (before ++ rest) =
      session current before ++ session (currentAfter current before) rest := by
  induction before generalizing current with
  | nil => rfl
  | cons c before ih =>
      rw [List.cons_append, session, ih, session, List.cons_append]
      rfl

theorem length_session (current : Option CompileOptions) (cs : List Command) :
    (session current cs).length = cs.length := by
  induction cs generalizing current with
  | nil => rfl
  | cons c cs ih => rw [session, List.length_cons, ih, List.length_cons]

theorem session_getElem? (before : List Command) (c : Command) (rest : List Command) :
    (session none (before ++ c :: rest))[before.length]? =
      some (step (currentAfter none before) c).1 := by
  have behind : (session none before).length = before.length := length_session none before
  rw [session_append, List.getElem?_append_right (Nat.le_of_eq behind), behind, Nat.sub_self,
    session, List.getElem?_cons_zero]

/-- What `build` answers where the options are current. -/
def built (o : CompileOptions) : Except Failure Answer :=
  match o.build with
  | .ok ts => .ok (.tokens ts)
  | .error f => .error (.options f)

theorem step_build (o : CompileOptions) : step (some o) .build = (built o, some o) := by
  simp only [step, built]
  cases o.build <;> rfl

theorem step_validate {current : Option CompileOptions} (h : ofValue d = .ok o) :
    step current (.validate d) = (.ok (.options o), some o) := by
  simp only [step, h]

/-- Every assignment is to a name that a field could have. -/
def AssignsFields (cs : List Command) : Prop :=
  ∀ field value, Command.assign field value ∈ cs → isFieldName field = true

/-- **Options do not change.**  At any point of a session that assigns to fields only, the current
options are those that the data accepted last means, and there are none if none was accepted: the
session goes on as it would after that data alone.  An assignment is refused as one to a frozen
field, `build` answers what it answers for fresh options, the current options are equal to these,
and only data that is accepted takes their place. -/
theorem options_unchanged {cs before rest : List Command} (names : AssignsFields cs)
    (hs : cs = before ++ rest) :
    (currentAfter none before = none ↔ lastAccepted before = none) ∧
    ∀ d o, lastAccepted before = some (d, o) →
      ofValue d = .ok o ∧ currentAfter none before = some o ∧
      session none cs = session none before ++ (session none (.validate d :: rest)).tail ∧
      ∀ c later, rest = c :: later →
        (∀ field value, c = .assign field value →
          (session none cs)[before.length]? = some (.error (.rejected (frozenField field)))) ∧
        (c = .build →
          (session none cs)[before.length]? = some (built o) ∧
          session none [.validate d, .build] = [.ok (.options o), built o]) ∧
        (c = .compare d → (session none cs)[before.length]? = some (.ok (.equal true))) ∧
        (accepted c = none → currentAfter none (before ++ [c]) = some o) ∧
        ∀ d' o', c = .validate d' → ofValue d' = .ok o' →
          currentAfter none (before ++ [c]) = some o' := by
  subst hs
  have left := currentAfter_eq none before
  rw [Option.or_none] at left
  refine ⟨by rw [left, Option.map_eq_none_iff], fun d o last => ?_⟩
  have current : currentAfter none before = some o := by rw [left, last, Option.map_some]
  obtain ⟨-, -, -, means, -⟩ := lastAccepted_eq_some_iff.mp last
  have fresh : (step none (.validate d)).2 = some o := by rw [step_validate means]
  refine ⟨means, current, ?_, ?_⟩
  · rw [session_append, current, session, fresh, List.tail_cons]
  rintro c later rfl
  have next : currentAfter none (before ++ [c]) = (step (some o) c).2 := by
    rw [currentAfter_concat, current]
  have answer := session_getElem? before c later
  rw [current] at answer
  refine ⟨?_, ?_, ?_, fun unread => ?_, ?_⟩
  · rintro field value rfl
    have named : isFieldName field = true := names field value (by simp)
    simpa only [step, named, if_true] using answer
  · rintro rfl
    rw [step_build] at answer
    refine ⟨answer, ?_⟩
    rw [session, step_validate means, session, step_build, session]
  · rintro rfl
    simpa only [step, means, decide_true] using answer
  · rw [next, step_current, unread]
    rfl
  · rintro d' o' rfl accepted'
    rw [next, step_validate accepted']

/-! ### A session -/

/-- Data for two texts. -/
def sampleData : Value := .mapping [(.text "source", .text "a"), (.text "output", .text "b")]

/-- The options that it means. -/
def sampleOptions : CompileOptions := { source := "a", output := "b" }

theorem ofValue_sampleData : ofValue sampleData = .ok sampleOptions :=
  ok_of_toOption (by decide +kernel)

/-- A session in which data is refused and a field is assigned to before the arguments are built. -/
def sampleSession : List Command :=
  [.validate sampleData, .validate (.mapping []), .assign "debug" (.bool true), .build]

theorem lastAccepted_sampleSession :
    lastAccepted (sampleSession.take 3) = some (sampleData, sampleOptions) := by
  refine lastAccepted_eq_some_iff.mpr
    ⟨[], (sampleSession.take 3).tail, rfl, ofValue_sampleData, ?_⟩
  have refused : (ofValue (.mapping [])).toOption = none := by decide +kernel
  simp [sampleSession, accepted, refused]

theorem options_unchanged_sampleSession :
    AssignsFields sampleSession ∧
    (session none sampleSession)[3]? = some (.ok (.tokens ["a", "-o", "b"])) ∧
    currentAfter none sampleSession = some sampleOptions := by
  have names : AssignsFields sampleSession := by
    intro field value h
    obtain ⟨rfl, -⟩ : field = "debug" ∧ value = .bool true := by simpa [sampleSession] using h
    decide
  obtain ⟨-, found⟩ := options_unchanged names (List.take_append_drop 3 sampleSession).symm
  obtain ⟨-, -, -, steps⟩ := found _ _ lastAccepted_sampleSession
  obtain ⟨-, build, -, kept, -⟩ := steps .build [] rfl
  have tokens : built sampleOptions = .ok (.tokens ["a", "-o", "b"]) := by cbv
  exact ⟨names, tokens ▸ (build rfl).1, kept rfl⟩

/-- A name with an underscore in front is no field's, and the class is one of these. -/
theorem attributes_not_frozen :
    ¬ ∀ (before : List Command) (o : CompileOptions) (name : String) (value : Value),
      currentAfter none before = some o →
        (session none (before ++ [.assign name value]))[before.length]? =
          some (.error (.rejected (frozenField name))) := by
  intro h
  have current : currentAfter none [.validate sampleData] = some sampleOptions := by
    rw [currentAfter, List.foldl_cons, step_validate ofValue_sampleData, List.foldl_nil]
  have refused := h [.validate sampleData] sampleOptions "__class__" (.integer 1) current
  rw [session_getElem?, current] at refused
  have outside : isFieldName "__class__" = false := by decide
  simp [step, outside] at refused

end CompilerRunner.CompileOptions
