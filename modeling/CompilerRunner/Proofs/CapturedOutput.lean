import CompilerRunner.Proofs.ByteDecoding
import CompilerRunner.Proofs.StartFailure
import Mathlib

/-!
# Proofs — CapturedOutput

What becomes of the bytes that a child process writes, for all of them.

* `unifyLineEnds_append`, `unifyLineEnds_ofChars`: line ends are unified piece by piece, unless a
  cut falls between a carriage return and a line feed.
* `capturedText_eq`: the captured text is the one of the parts that the bytes are cut into.
* `capturedText_append_chars`: what is written after other bytes is captured unchanged, and so are
  these, unless they end in a carriage return.
* `await_captured`: what is written decides the captured texts and nothing else.
* `captured_output`: all of this of the runs of an entry point.
-/

namespace CompilerRunner.Text

/-! ### Line ends -/

theorem unifyLineEnds_cons {c : Char} (h : c ≠ '\r') (rest : List Char) :
    unifyLineEnds (c :: rest) = c :: unifyLineEnds rest := by
  rw [unifyLineEnds]
  · simp [h]
  · simp [h]

theorem unifyLineEnds_return {rest : List Char} (h : rest.head? ≠ some '\n') :
    unifyLineEnds ('\r' :: rest) = '\n' :: unifyLineEnds rest := by
  rw [unifyLineEnds]
  rintro after rfl
  simp at h

theorem getLast?_ne_of_cons {c d : Char} {rest : List Char} (h : (c :: rest).getLast? ≠ some d) :
    rest.getLast? ≠ some d := by
  cases rest with
  | nil => simp
  | cons => rwa [List.getLast?_cons_cons] at h

theorem unifyLineEnds_append {xs : List Char} (h : xs.getLast? ≠ some '\r') (ys : List Char) :
    unifyLineEnds (xs ++ ys) = unifyLineEnds xs ++ unifyLineEnds ys := by
  fun_induction unifyLineEnds xs with
  | case1 => rfl
  | case2 rest ih =>
      have both : unifyLineEnds ('\r' :: '\n' :: (rest ++ ys)) =
          '\n' :: unifyLineEnds (rest ++ ys) := by
        rw [unifyLineEnds]
      rw [List.cons_append, List.cons_append, both,
        ih (getLast?_ne_of_cons (getLast?_ne_of_cons h)), List.cons_append]
  | case3 rest hne ih =>
      -- A lone carriage return stays one, for something other than a line feed comes after it.
      have next : (rest ++ ys).head? ≠ some '\n' := by
        cases rest with
        | nil => simp at h
        | cons d rest =>
            rintro hd
            obtain rfl : d = '\n' := by simpa using hd
            exact hne rest rfl
      rw [List.cons_append, unifyLineEnds_return next, ih (getLast?_ne_of_cons h),
        List.cons_append]
  | case4 c rest _ hc ih =>
      rw [List.cons_append, unifyLineEnds_cons hc, ih (getLast?_ne_of_cons h), List.cons_append]

theorem unifyLineEnds_of_not_mem {cs : List Char} (h : '\r' ∉ cs) : unifyLineEnds cs = cs := by
  induction cs with
  | nil => rfl
  | cons c rest ih =>
      rw [List.mem_cons, not_or] at h
      rw [unifyLineEnds_cons (Ne.symm h.1), ih h.2]

/-- What carries a character holds no line end but the character itself. -/
theorem unifyLineEnds_ofChars (cs : List Char) :
    unifyLineEnds (ofChars cs).toList = (ofChars (unifyLineEnds cs)).toList := by
  rw [toList_ofChars, toList_ofChars]
  have carriage : carrier '\r'.toNat = ['\r'] := by decide
  have feed : carrier '\n'.toNat = ['\n'] := by decide
  fun_induction unifyLineEnds cs with
  | case1 => rfl
  | case2 rest ih =>
      rw [List.flatMap_cons, List.flatMap_cons, List.flatMap_cons, carriage, feed, ← ih]
      rw [List.singleton_append, List.singleton_append, unifyLineEnds, List.singleton_append]
  | case3 rest hne ih =>
      have next : (rest.flatMap fun c => carrier c.toNat).head? ≠ some '\n' := by
        cases rest with
        | nil => simp
        | cons d rest =>
            have other : d ≠ '\n' := by
              rintro rfl
              exact hne rest rfl
            rw [List.flatMap_cons, carrier_toNat]
            split
            · simp only [List.cons_append, List.head?_cons]
              decide
            · simpa using other
      rw [List.flatMap_cons, List.flatMap_cons, carriage, feed, ← ih, List.singleton_append,
        unifyLineEnds_return next, List.singleton_append]
  | case4 c rest _ hc ih =>
      rw [List.flatMap_cons, List.flatMap_cons, ← ih, carrier_toNat]
      split
      · have apart : mark ≠ '\r' := by decide
        simp only [List.cons_append, List.nil_append, unifyLineEnds_cons apart]
      · rw [List.singleton_append, unifyLineEnds_cons hc, List.singleton_append]

end CompilerRunner.Text

namespace CompilerRunner

namespace Process

open Text

/-! ### Captured texts -/

theorem capturedText_eq (bytes : List UInt8) :
    capturedText bytes = ofChars (unifyLineEnds ((Utf8.parts bytes).map Utf8.Part.shown)) := by
  rw [capturedText, Utf8.decodeLossy_eq, unifyLineEnds_ofChars, String.ofList_toList]

/-- **What is written after other bytes.**  A text without carriage returns is captured unchanged,
whatever stands before it, and adds nothing to the damage there. -/
theorem capturedText_append_chars {p : List UInt8} (hp : p.getLast? ≠ some 13) {cs : List Char}
    (hcs : '\r' ∉ cs) :
    capturedText (p ++ Utf8.encode (ofChars cs)) = capturedText p ++ ofChars cs := by
  have shown : (cs.map Utf8.Part.char).map Utf8.Part.shown = cs := by
    simp [Utf8.Part.shown, Function.comp_def]
  have last : ((Utf8.parts p).map Utf8.Part.shown).getLast? ≠ some '\r' :=
    fun h => hp ((Utf8.cut_parts p).getLast?_shown h)
  rw [Utf8.encode_ofChars, capturedText_eq, capturedText_eq, Utf8.parts_append_chars,
    List.map_append, shown, unifyLineEnds_append last, unifyLineEnds_of_not_mem hcs, ofChars_append]

/-- A limit can take a result away, but it changes none. -/
theorem eq_result_of_await {limit : Option TimeLimit} {captured : Bool} {f : Finished}
    {r : InvocationResult} (h : await limit captured f = .ok r) : r = result captured f := by
  cases limit with
  | none => exact (Except.ok.inj h).symm
  | some limit =>
      simp only [await] at h
      grind

/-- What a child writes decides the captured texts, and neither whether there is a result nor
anything else of it. -/
theorem await_captured (limit : Option TimeLimit) (f : Finished) (output errors : List UInt8) :
    await limit true { f with output, errors } =
      (await limit true f).map fun r =>
        { r with stdout := some (capturedText output), stderr := some (capturedText errors) } := by
  cases limit with
  | none => rfl
  | some limit =>
      -- No test of a limit reads what was written.
      simp only [await, Bool.true_and, if_true]
      split
      · rfl
      · split
        · rfl
        · split
          · rfl
          · split <;> rfl

end Process

namespace Shell

/-! ### A program that writes what a file holds -/

theorem writeFiles_single {s : State} {path : String} (hyphen : path ≠ "-") {content : List UInt8}
    (h : Cat.content s.tree s.directory path = .ok content) :
    (writeFiles [path]).run.run s = (.ok (.exited 0), { s with status := 0 }.write 1 content) := by
  have ended : ({ s with status := 0 }.write 1 content).status = 0 := by
    simp only [State.write, State.writeTo]
    repeat' split
    all_goals rfl
  rw [writeFiles]
  simp only [ExceptT.run_bind, StateT.run_bind, List.isEmpty_cons]
  simp [Execution.finish, Execution.write, modify, modifyGet, MonadStateOf.modifyGet,
    StateT.modifyGet, get, getThe, MonadStateOf.get, StateT.get, ExceptT.run, ExceptT.mk,
    ExceptT.lift, ExceptT.bind, ExceptT.bindCont, ExceptT.pure, StateT.run, StateT.bind,
    StateT.map, StateT.pure, liftM, monadLift, MonadLift.monadLift, bind, pure, Functor.map,
    hyphen, h, ended]

theorem run_keeping {α : Type} (restore : State → State → State) {x : Execution α} {s t : State}
    {a : α} (h : x.run.run s = (.ok a, t)) :
    (Execution.keeping restore x).run.run s = (.ok a, restore s t) := by
  have applied : x s = (.ok a, t) := h
  simp [Execution.keeping, tryFinally, MonadFinally.tryFinally', modify, modifyGet,
    MonadStateOf.modifyGet, StateT.modifyGet, get, getThe, MonadStateOf.get, StateT.get,
    ExceptT.run, ExceptT.mk, ExceptT.lift, ExceptT.map, ExceptT.bind, ExceptT.bindCont,
    StateT.run, StateT.bind, StateT.map, StateT.pure, liftM, monadLift, MonadLift.monadLift,
    bind, pure, Functor.map, applied]

theorem execute_cat {t : FileTree} {place l : Location} {path : String} (hyphen : path ≠ "-")
    {content : List UInt8} {x : Bool} (h : t.find place path = .ok (l, .file content x))
    (environment : Table String) (own : String) :
    let f := execute t place environment ⟨.cat, [own, path]⟩
    f.output = content ∧ f.errors = [] ∧ f.ending = .exited 0 := by
  have found : Cat.content t place path = .ok content := by rw [Cat.content, h]
  have launched := run_keeping State.after (writeFiles_single
    (s := { name := "", arguments := [], assigned := environment, exported := [], tree := t,
            directory := place }) hyphen found)
  rw [execute, show depthLimit = 19999 + 1 from rfl, launch]
  simp only [List.drop_one, List.tail_cons, launched]
  refine ⟨?_, rfl, trivial⟩
  -- Outputs are collected with the last byte first.
  show (content.reverse ++ []).reverse = content
  simp

end Shell

namespace ChildCommand

open Process Text

/-- **Captured output.**  There is one way to cut bytes, and the text that is captured of them shows
its parts, with the line ends unified.  A text without carriage returns that is written in UTF-8 is
captured unchanged, also after other bytes, which are captured as they are without it unless they
end in a carriage return.  Whatever a child writes, the result of its run has these texts; what it
writes decides nothing else, and without a limit of time there is a result. -/
theorem captured_output :
    (∀ bytes, ∃ parts, (∀ parts', Utf8.Cut bytes parts' ↔ parts' = parts) ∧
      capturedText bytes = ofChars (unifyLineEnds (parts.map Utf8.Part.shown))) ∧
    (∀ cs, Utf8.encode (ofChars cs) = cs.flatMap String.utf8EncodeChar ∧
      ('\r' ∉ cs → capturedText (Utf8.encode (ofChars cs)) = ofChars cs ∧
        ∀ p, p.getLast? ≠ some 13 →
          capturedText (p ++ Utf8.encode (ofChars cs)) = capturedText p ++ ofChars cs)) ∧
    (∀ limit f output errors, await limit true { f with output, errors } =
      (await limit true f).map fun r =>
        { r with stdout := some (capturedText output), stderr := some (capturedText errors) }) ∧
    ∀ w (c : ChildCommand) arguments place image, c.captureOutput = true →
      Started w (c.request w arguments) place image →
      let f := Shell.execute w.tree place (c.request w arguments).environment image
      let outcome := (((EntryPoint.child c).tool w).run arguments).outcome
      let x : InvocationResult :=
        { exitCode := exitCodeOf f.ending
          stdout := some (capturedText f.output)
          stderr := some (capturedText f.errors) }
      outcome = await c.timeout true f ∧ (∀ r, outcome = .ok r → r = x) ∧
        (c.timeout = none → outcome = .ok x) := by
  refine ⟨fun bytes => ⟨_, fun parts' => ?_, capturedText_eq bytes⟩,
    fun cs => ⟨Utf8.encode_ofChars cs, fun hcs => ⟨?_, fun p hp => ?_⟩⟩, await_captured, ?_⟩
  · rw [← Utf8.parts_eq_iff, eq_comm]
  · have empty : capturedText [] = "" := by cbv
    simpa [empty] using capturedText_append_chars (p := []) (by simp) hcs
  · exact capturedText_append_chars hp hcs
  · intro w c arguments place image hc started f outcome x
    have awaited : outcome = await c.timeout true f := by
      have captured : (c.request w arguments).captured = true := hc
      rw [← captured]
      exact (outcome_run c w arguments).trans (run_of_start started.start)
    refine ⟨awaited, fun r hr => eq_result_of_await (awaited.symm.trans hr), fun ht => ?_⟩
    rw [awaited, ht]
    rfl

/-- A world with a program that writes what files hold, and a file that is no text: an overlong
form, a surrogate, the start of a sequence, and a letter. -/
def brokenWorld : World :=
  { tree := [(["bin"], .directory), (["bin", "cat"], .program .cat),
      (["log"], .file [0xC0, 0xAF, 0xED, 0xA0, 0x80, 0xE2, 0x82, 0xC3, 0xA9] false)]
    environment := [("PATH", "/bin")]
    directory := []
    modules := [] }

theorem find_brokenWorld :
    brokenWorld.tree.find [] "/bin/cat" = .ok (["bin", "cat"], .program .cat) ∧
    brokenWorld.tree.find [] "/log" =
      .ok (["log"], .file [0xC0, 0xAF, 0xED, 0xA0, 0x80, 0xE2, 0x82, 0xC3, 0xA9] false) := by
  refine ⟨?_, ?_⟩ <;>
  · rw [FileTree.find, FileTree.locate_of_fromRoot (by decide +kernel)]
    cbv

/-- Six bad parts are replaced and the letter after them is not: in a run whose output is captured,
and whatever the letter is. -/
theorem captured_output_brokenWorld :
    let bad : List UInt8 := [0xC0, 0xAF, 0xED, 0xA0, 0x80, 0xE2, 0x82]
    let marks := String.ofList (List.replicate 6 '\uFFFD')
    capturedText bad = marks ∧
    capturedText (bad ++ Utf8.encode (ofChars ['é'])) = marks ++ "é" ∧
    (((EntryPoint.child { command := ["cat"] }).tool brokenWorld).run ["/log"]).outcome =
      .ok { exitCode := 0, stdout := some (marks ++ "é"), stderr := some "" } := by
  intro bad marks
  obtain ⟨-, written, -, run⟩ := captured_output
  have damage : capturedText bad = marks := by cbv
  have letter : ofChars ['é'] = "é" := by cbv
  have after : capturedText (bad ++ Utf8.encode (ofChars ['é'])) = marks ++ "é" := by
    rw [((written ['é']).2 (by decide)).2 bad (by decide), damage, letter]
  obtain ⟨cat, log⟩ := find_brokenWorld
  have tried : Program.Tried brokenWorld.tree [] [("PATH", "/bin")] ["cat", "/log"] "/bin/cat"
      (.ok ⟨.cat, ["cat", "/log"]⟩) := .program cat (by cbv)
  have started : Started brokenWorld (request { command := ["cat"] } brokenWorld ["/log"]) []
      ⟨.cat, ["cat", "/log"]⟩ :=
    ⟨(decides_check _).ok_iff.mp rfl, .inherited,
      ⟨[], "/bin/cat", [], [], by cbv, .nil, tried⟩⟩
  obtain ⟨output, errors, ending⟩ :=
    Shell.execute_cat (by decide) log [("PATH", "/bin")] "cat"
  have bytes : bad ++ Utf8.encode (ofChars ['é']) =
      [0xC0, 0xAF, 0xED, 0xA0, 0x80, 0xE2, 0x82, 0xC3, 0xA9] := by cbv
  refine ⟨damage, after, ?_⟩
  have empty : capturedText [] = "" := by cbv
  rw [(run brokenWorld { command := ["cat"] } ["/log"] [] _ rfl started).2.2 rfl]
  simp only [show (request { command := ["cat"] } brokenWorld ["/log"]).environment =
    [("PATH", "/bin")] from rfl, output, errors, ending, ← bytes, after, empty]
  rfl

end ChildCommand

end CompilerRunner
