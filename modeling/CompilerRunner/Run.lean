import CompilerRunner.Failure

/-!
# Run

A computation together with what the outside sees of it.  A `Run` ends in a value or in a failure,
and leaves the events that happened until then, in order: log records, calls of tools and functions,
and printed lines.  Runs are put together by `bind`, whose events are those of the first part
followed by those of the second (`bind_ok`); after a failure nothing happens any more
(`bind_error`).
-/

namespace CompilerRunner

/-- How grave a log record is. -/
inductive Level where
  | info
  | warning
  | error
  | critical
deriving DecidableEq

/-- What the outside sees. -/
inductive Event where
  | logged (level : Level) (message : String)
  | called (name : String) (arguments : List String)
  | printed (line : String)
deriving DecidableEq

/-- The call that an event is. -/
def Event.call? : Event → Option (String × List String)
  | .called name arguments => some (name, arguments)
  | .logged _ _ | .printed _ => none

/-- The events of a computation and how it ends. -/
structure Run (α : Type) where
  events : List Event
  outcome : Except Failure α

namespace Run

variable {α β : Type}

/-- A value, without any event. -/
def pure (a : α) : Run α := ⟨[], .ok a⟩

/-- One computation after the other, unless the first one fails. -/
def bind (r : Run α) (f : α → Run β) : Run β :=
  match r.outcome with
  | .ok a => ⟨r.events ++ (f a).events, (f a).outcome⟩
  | .error e => ⟨r.events, .error e⟩

instance : Monad Run where
  pure := pure
  bind := bind

/-- A failure, without any event. -/
def fail (e : Failure) : Run α := ⟨[], .error e⟩

/-- A single event. -/
def event (e : Event) : Run Unit := ⟨[e], .ok ()⟩

/-- A log record. -/
def log (level : Level) (message : String) : Run Unit := event (.logged level message)

/-- A call of a tool or function, with its arguments. -/
def call (name : String) (arguments : List String) : Run Unit := event (.called name arguments)

/-- A printed line. -/
def print (line : String) : Run Unit := event (.printed line)

/-- What has been computed already, without any event. -/
def ofExcept : Except Failure α → Run α
  | .ok a => pure a
  | .error e => fail e

/-- The log records. -/
def records (r : Run α) : List (Level × String) :=
  r.events.filterMap fun
    | .logged level message => some (level, message)
    | _ => none

/-- The calls of tools and functions. -/
def calls (r : Run α) : List (String × List String) := r.events.filterMap Event.call?

/-- The printed lines. -/
def lines (r : Run α) : List String :=
  r.events.filterMap fun
    | .printed line => some line
    | _ => none

theorem bind_eq (r : Run α) (f : α → Run β) : r >>= f = r.bind f := rfl

theorem pure_eq (a : α) : (Pure.pure a : Run α) = pure a := rfl

/-- To discard the value changes neither the events nor whether there is a failure. -/
theorem discard_eq (r : Run α) :
    discard r = ⟨r.events, r.outcome.map fun _ => ()⟩ := by
  rcases r with ⟨es, e | a⟩
  · rfl
  · exact congrArg (Run.mk · (.ok ())) (List.append_nil es)

@[simp] theorem calls_discard (r : Run α) : (discard r).calls = r.calls := by
  rw [discard_eq]
  rfl

@[simp] theorem outcome_discard (r : Run α) :
    (discard r).outcome = r.outcome.map fun _ => () := by
  rw [discard_eq]

@[simp] theorem ofExcept_ok (a : α) : ofExcept (.ok a) = pure a := rfl

@[simp] theorem ofExcept_error (e : Failure) : (ofExcept (.error e) : Run α) = fail e := rfl

@[simp] theorem calls_fail (e : Failure) : (fail e : Run α).calls = [] := rfl

@[simp] theorem outcome_fail (e : Failure) : (fail e : Run α).outcome = .error e := rfl

@[simp] theorem calls_log_bind (level : Level) (message : String) (f : Unit → Run β) :
    ((log level message).bind f).calls = (f ()).calls := rfl

@[simp] theorem outcome_log_bind (level : Level) (message : String) (f : Unit → Run β) :
    ((log level message).bind f).outcome = (f ()).outcome := rfl

@[simp] theorem pure_bind (a : α) (f : α → Run β) : (pure a).bind f = f a := by
  simp [bind, pure]

@[simp] theorem fail_bind (e : Failure) (f : α → Run β) : (fail e).bind f = fail e := rfl

theorem log_bind (level : Level) (message : String) (f : Unit → Run β) :
    (log level message).bind f = ⟨.logged level message :: (f ()).events, (f ()).outcome⟩ := rfl

theorem bind_ok {r : Run α} {a : α} (h : r.outcome = .ok a) (f : α → Run β) :
    r.bind f = ⟨r.events ++ (f a).events, (f a).outcome⟩ := by
  simp [bind, h]

theorem bind_error {r : Run α} {e : Failure} (h : r.outcome = .error e) (f : α → Run β) :
    r.bind f = ⟨r.events, .error e⟩ := by
  simp [bind, h]

/-- How a computation ends depends on how its parts end, and not on their events. -/
theorem outcome_bind (r : Run α) (f : α → Run β) :
    (r.bind f).outcome = r.outcome.bind fun a => (f a).outcome := by
  cases h : r.outcome with
  | ok a => rw [bind_ok h]; rfl
  | error e => rw [bind_error h]; rfl

/-- What calls nothing adds nothing to the calls. -/
theorem calls_bind_of_silent {f : α → Run β} (h : ∀ a, (f a).calls = []) (r : Run α) :
    (r.bind f).calls = r.calls := by
  cases hr : r.outcome with
  | error e => rw [bind_error hr]; rfl
  | ok a =>
    rw [bind_ok hr]
    exact List.filterMap_append.trans ((congrArg _ (h a)).trans (List.append_nil _))

end Run

end CompilerRunner
