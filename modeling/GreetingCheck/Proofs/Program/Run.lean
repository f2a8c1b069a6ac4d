import GreetingCheck.Program
import GreetingCheck.Proofs.CommandLine.Item
import GreetingCheck.Proofs.Message
import GreetingCheck.Proofs.Stream.Lines

/-!
# The course of a run

A run that is asked for writes to two streams: the announcement, on the standard error output, and
behind it the output proper, on the standard output. `run_eq` says how the two and the message about
a failure make up the run. What follows it is about each of the three by itself, through outlets of
which nothing but their answers is known; `run_accepted` and `run_delivered` are the runs in which
nothing that matters fails.
-/

namespace GreetingCheck.Program

open CommandLine Lines

/-! ## The locale of a run -/

/-- Where the locale of a run comes from: the command line, else the environment, and else it is
English. -/
inductive Resolves : Option Locale → Option Raw → Locale → Prop
  | commandLine (locale : Locale) (language : Option Raw) : Resolves (some locale) language locale
  | environment {request : String} {locale : Locale} (h : Locale.ofRequest? request = some locale) :
      Resolves none (some (raw request)) locale
  | neither : Resolves none none .english

theorem Resolves.resolveLocale_eq {lang : Option Locale} {language : Option Raw} {locale : Locale}
    (h : Resolves lang language locale) : resolveLocale lang language = .ok locale := by
  cases h with
  | commandLine => rfl
  | @environment request locale h =>
    have hdecode : (some (raw request)).bind Text.Utf8.decode? = some request.toList :=
      Text.Utf8.decode?_encode _
    unfold resolveLocale
    rw [hdecode]
    simp only [String.ofList_toList, h]
  | neither => rfl

/-! ## The two parts of a run -/

/-- What goes in front of the output of a run, on the standard error output. -/
def announcement (outlet : Outlet) (locale : Locale) : Emission Writer Unit :=
  if locale ≠ .english then reported locale "stderr" (putLine outlet (Message.disclaimer locale))
  else pure ()

/-- The output of a run. -/
def output (outlet : Outlet) (locale : Locale) (invocation : Invocation) :
    Emission Writer Outcome := do
  if invocation.version then
    reported locale "stdout" (putLine outlet (Message.version locale))
    return .success
  else
    runReport (sinkTo invocation.format locale "stdout" outlet)
      (argumentsOfRaw invocation.positionals)

/-- The message about an output that did not get through. -/
def blame (locale : Locale) (invocation : Invocation) (rejection : Rejection) : String :=
  if invocation.version then rejection.reason else Message.reportFailed locale rejection.reason

namespace Run

variable {α β : Type}

/-- Carries a run out on a console. -/
def carryOut (action : Run α) (console : Console) : Except String α × Console :=
  (StateT.run (ExceptT.run action) console).run

theorem carryOut_bind (action : Run α) (next : α → Run β) (console : Console) :
    (action >>= next : Run β).carryOut console =
      match action.carryOut console with
      | (.ok a, console) => (next a).carryOut console
      | (.error message, console) => (.error message, console) := by
  unfold carryOut ExceptT.run StateT.run Id.run
  simp only [bind, ExceptT.bind, ExceptT.mk, StateT.bind, ExceptT.bindCont]
  cases action console with
  | mk result console' => cases result <;> rfl

theorem carryOut_adapt (action : Emission Console α) (words : Rejection → String)
    (console : Console) :
    Run.carryOut (action.adapt words) console =
      ((action.carryOut console).1.mapError words, (action.carryOut console).2) := rfl

end Run

theorem reportSink_eq (setup : Setup) (locale : Locale) (format : Format) :
    reportSink setup locale format =
      (sinkTo format locale "stdout" (.standard setup.stdout)).within Console.stdoutPlace := by
  cases format <;> rfl

/-- What a run does behind the announcement. -/
def deliver (setup : Setup) (locale : Locale) (invocation : Invocation) : Run Outcome := do
  if invocation.version then
    (writeStdout setup locale (Message.version locale)).adapt Rejection.reason
    return .success
  else
    (runReport (reportSink setup locale invocation.format)
      (argumentsOfRaw invocation.positionals)).adapt fun rejection =>
        Message.reportFailed locale rejection.reason

theorem carryOut_deliver (setup : Setup) (locale : Locale) (invocation : Invocation)
    (console : Console) :
    (deliver setup locale invocation).carryOut console =
      (((output (.standard setup.stdout) locale invocation).carryOut console.stdout).1.mapError
          (blame locale invocation),
        { console with
          stdout :=
            ((output (.standard setup.stdout) locale invocation).carryOut console.stdout).2 }) := by
  unfold deliver output blame
  cases invocation.version with
  | true =>
    simp only [if_true]
    rw [Run.carryOut_bind, Run.carryOut_adapt, Emission.carryOut_bind, writeStdout,
      Emission.carryOut_within, show Console.stdoutPlace.get console = console.stdout from rfl]
    rcases (reported locale "stdout" (putLine (.standard setup.stdout)
      (Message.version locale))).carryOut console.stdout with ⟨_ | _, w⟩ <;> rfl
  | false =>
    simp only [Bool.false_eq_true, if_false]
    rw [Run.carryOut_adapt, reportSink_eq, runReport_within, Emission.carryOut_within]
    rfl

/-- A run is the announcement and then the output. -/
theorem carryOut_perform {setup : Setup} {invocation : Invocation} {locale : Locale}
    (hlocale : resolveLocale invocation.lang setup.language = .ok locale) (console : Console) :
    (perform setup invocation).carryOut console =
      match (announcement (.standard setup.stderr) locale).carryOut console.stderr with
      | (.ok (), stderr) => (deliver setup locale invocation).carryOut { console with stderr }
      | (.error rejection, stderr) => (.error rejection.reason, { console with stderr }) := by
  have hresolved : Run.carryOut (ExceptT.mk (pure (resolveLocale invocation.lang setup.language)))
      console = (.ok locale, console) := by
    rw [hlocale]
    rfl
  rw [perform, Run.carryOut_bind, hresolved]
  show (if locale ≠ .english then do
      (writeStderr setup locale (Message.disclaimer locale)).adapt Rejection.reason
      deliver setup locale invocation
    else deliver setup locale invocation : Run Outcome).carryOut console = _
  unfold announcement
  split
  · rw [Run.carryOut_bind, Run.carryOut_adapt, writeStderr, Emission.carryOut_within,
      show Console.stderrPlace.get console = console.stderr from rfl]
    rcases (reported locale "stderr" (putLine (.standard setup.stderr)
      (Message.disclaimer locale))).carryOut console.stderr with ⟨_ | _, w⟩ <;> rfl
  · rfl

theorem run_eq {setup : Setup} {args : List Raw} {invocation : Invocation} {locale : Locale}
    (hargs : Request.ofArguments args = .ok (.run invocation))
    (hlocale : resolveLocale invocation.lang setup.language = .ok locale) :
    run setup args =
      match (announcement (.standard setup.stderr) locale).carryOut {} with
      | (.ok (), stderr) =>
        match (output (.standard setup.stdout) locale invocation).carryOut {} with
        | (.ok outcome, stdout) => (exitCode outcome, { stdout, stderr })
        | (.error rejection, stdout) =>
          (failureExitCode, complain setup (blame locale invocation rejection) { stdout, stderr })
      | (.error rejection, stderr) =>
        (failureExitCode, complain setup rejection.reason { stderr }) := by
  have hperform : ((perform setup invocation).run.run {}).run = _ := carryOut_perform hlocale {}
  rw [run, hargs]
  simp only [hperform]
  rcases (announcement (.standard setup.stderr) locale).carryOut {} with ⟨_ | _, stderr⟩
  · rfl
  · simp only [carryOut_deliver]
    rcases (output (.standard setup.stdout) locale invocation).carryOut {} with
      ⟨_ | _, stdout⟩ <;> rfl

/-! ## The announcement -/

variable {outlet : Outlet} {locale : Locale} {error : IoError}

/-- The bytes of an announcement. -/
def announced (locale : Locale) : List UInt8 :=
  if locale = .english then [] else ended (Message.disclaimer locale)

theorem announced_eq (locale : Locale) :
    announced locale = if locale = .english then [] else ended
      "Nota: la sortida que no és en anglès està traduïda automàticament i pot ser inexacta." := by
  cases locale with
  | english => rw [announced, if_pos rfl, if_pos rfl]
  | catalan => rw [announced, Message.disclaimer_catalan]

/-- An announcement is accepted where everything is, and anywhere if there is none to be made. -/
theorem announcement_of_accepts (h : locale ≠ .english → outlet.Accepts) :
    ∃ w, (announcement outlet locale).carryOut {} = (.ok (), w) := by
  unfold announcement
  split
  next hne => exact line_of_accepts (h hne) _ {}
  next => exact ⟨{}, rfl⟩

theorem announcement_of_ok (h : outlet.Delivers) {w : Writer}
    (hannounce : (announcement outlet locale).carryOut {} = (.ok (), w)) :
    w.stored = announced locale := by
  unfold announcement at hannounce
  unfold announced
  by_cases hlocale : locale = .english
  · rw [if_neg (not_not.2 hlocale)] at hannounce
    cases hannounce
    rw [if_pos hlocale]
  · rw [if_pos hlocale] at hannounce
    rw [if_neg hlocale, line_of_ok h hannounce]
    rfl

/-- The bytes of a whole output. -/
def written (locale : Locale) (invocation : Invocation) : List UInt8 :=
  if invocation.version then ended (Message.version locale)
  else lines invocation.format locale (argumentsOfRaw invocation.positionals).reportPlan

/-- The outcome of a run. -/
def outcome (invocation : Invocation) : Outcome :=
  if invocation.version then .success else (argumentsOfRaw invocation.positionals).check

/-- The lines of an output, without the outcome. -/
def outputLines (outlet : Outlet) (locale : Locale) (invocation : Invocation) :
    Emission Writer Unit :=
  if invocation.version then reported locale "stdout" (putLine outlet (Message.version locale))
  else (sinkTo invocation.format locale "stdout" outlet).emitAll
    (argumentsOfRaw invocation.positionals).reportPlan

theorem output_eq (outlet : Outlet) (locale : Locale) (invocation : Invocation) :
    output outlet locale invocation = do
      outputLines outlet locale invocation
      return outcome invocation := by
  unfold output outputLines outcome
  cases invocation.version with
  | true => rfl
  | false => exact runReport_eq _ _

theorem outputLines_of_ok (h : outlet.Delivers) {invocation : Invocation} {w : Writer}
    (hlines : (outputLines outlet locale invocation).carryOut {} = (.ok (), w)) :
    w.stored = written locale invocation := by
  unfold outputLines at hlines
  unfold written
  split at hlines
  next hversion => rw [if_pos hversion, line_of_ok h hlines, List.nil_append]
  next hversion => rw [if_neg hversion, emitAll_of_ok h hlines, List.nil_append]

/-- An output that was accepted comes to its outcome, and where what is accepted is stored it is
stored as a whole. -/
theorem output_of_ok {invocation : Invocation} {o : Outcome} {w : Writer}
    (houtput : (output outlet locale invocation).carryOut {} = (.ok o, w)) :
    o = outcome invocation ∧ (outlet.Delivers → w.stored = written locale invocation) := by
  rw [output_eq, Emission.carryOut_then_pure] at houtput
  rcases hlines : (outputLines outlet locale invocation).carryOut {} with ⟨_ | _, w'⟩
  · rw [hlines] at houtput
    cases houtput
  · rw [hlines] at houtput
    cases houtput
    exact ⟨rfl, fun h => outputLines_of_ok h hlines⟩

theorem output_of_accepts (h : outlet.Accepts) (locale : Locale) (invocation : Invocation) :
    ∃ w, (output outlet locale invocation).carryOut {} = (.ok (outcome invocation), w) := by
  obtain ⟨w, hlines⟩ : ∃ w, (outputLines outlet locale invocation).carryOut {} = (.ok (), w) := by
    unfold outputLines
    split
    · exact line_of_accepts h _ {}
    · exact emitAll_of_accepts h _ {}
  refine ⟨w, ?_⟩
  rw [output_eq, Emission.carryOut_bind_ok hlines]
  rfl

/-- A message that gets through is the last line on its stream. -/
theorem stderr_complain_of_reliable {setup : Setup} (h : setup.stderr.Reliable) (line : String)
    (console : Console) :
    (complain setup line console).stderr.stored = console.stderr.stored ++ ended line := by
  obtain ⟨w, hline⟩ : ∃ w, (reported .fallback "stderr"
      (putLine (.standard setup.stderr) line)).carryOut console.stderr = (.ok (), w) :=
    line_of_accepts (Outlet.accepts_of_reliable h) line console.stderr
  show ((reported .fallback "stderr" (putLine (.standard setup.stderr) line)).carryOut
    console.stderr).2.stored = _
  rw [hline]
  exact line_of_ok (Outlet.delivers_of_attached h.attached) hline

/-! ## The outcome -/

/-- A check succeeds exactly if the bytes of its first argument are those of the greeting. -/
theorem check_argumentsOfRaw (args : List Raw) :
    (argumentsOfRaw args).check =
      if args.head? = some (raw "hello") then .success else .failure := by
  have hfirst : (argumentsOfRaw args).first? = some Arguments.greeting ↔
      args.head? = some (raw "hello") := by
    cases args with
    | nil => simp [argumentsOfRaw, Arguments.first?]
    | cons bytes rest =>
      have hgreeting : Text.Utf8.decodeLossy bytes = "hello".toList ↔ bytes = raw "hello" :=
        Text.Utf8.decodeLossy_eq_iff (by decide)
      show some (String.ofList (Text.Utf8.decodeLossy bytes)) = some "hello" ↔ _
      rw [List.head?_cons, Option.some_inj, Option.some_inj, ← hgreeting, ← String.toList_inj,
        String.toList_ofList]
  simp only [Arguments.check, hfirst]

/-! ## Whole runs -/

/-- Behind an announcement that is accepted, a run comes to what its output comes to. -/
theorem run_eq_of_accepts {setup : Setup} {args : List Raw} {invocation : Invocation}
    (hargs : Request.ofArguments args = .ok (.run invocation))
    (hlocale : resolveLocale invocation.lang setup.language = .ok locale)
    (hannounced : locale ≠ .english → (Outlet.standard setup.stderr).Accepts) :
    ∃ stderr, (announcement (.standard setup.stderr) locale).carryOut {} = (.ok (), stderr) ∧
      run setup args =
        match (output (.standard setup.stdout) locale invocation).carryOut {} with
        | (.ok outcome, stdout) => (exitCode outcome, { stdout, stderr })
        | (.error rejection, stdout) =>
          (failureExitCode, complain setup (blame locale invocation rejection)
            { stdout, stderr }) := by
  obtain ⟨stderr, hannounce⟩ := announcement_of_accepts hannounced
  have hrun := run_eq hargs hlocale
  rw [hannounce] at hrun
  exact ⟨stderr, hannounce, hrun⟩

/-- A run whose output is accepted. What the streams have received is there if they are attached. -/
theorem run_accepted {setup : Setup} {args : List Raw} {invocation : Invocation}
    (hargs : Request.ofArguments args = .ok (.run invocation))
    (hlocale : resolveLocale invocation.lang setup.language = .ok locale)
    (hannounced : locale ≠ .english → (Outlet.standard setup.stderr).Accepts)
    (hstdout : (Outlet.standard setup.stdout).Accepts) :
    ∃ stdout stderr, run setup args = (exitCode (outcome invocation), { stdout, stderr }) ∧
      (output (.standard setup.stdout) locale invocation).carryOut {} =
        (.ok (outcome invocation), stdout) ∧
      (setup.stdout.Attached → stdout.stored = written locale invocation) ∧
      (setup.stderr.Attached → stderr.stored = announced locale) := by
  obtain ⟨stderr, hannounce, hrun⟩ := run_eq_of_accepts hargs hlocale hannounced
  obtain ⟨stdout, houtput⟩ := output_of_accepts hstdout locale invocation
  refine ⟨stdout, stderr, by rw [hrun, houtput], houtput, fun h => ?_, fun h => ?_⟩
  · exact (output_of_ok houtput).2 (Outlet.delivers_of_attached h)
  · exact announcement_of_ok (Outlet.delivers_of_attached h) hannounce

/-- A run gets its whole output through if the standard output is reliable, and the standard error
output too. -/
theorem run_delivered {setup : Setup} {args : List Raw} {invocation : Invocation}
    (hargs : Request.ofArguments args = .ok (.run invocation))
    (hlocale : resolveLocale invocation.lang setup.language = .ok locale)
    (hstderr : setup.stderr.Reliable) (hstdout : setup.stdout.Reliable) :
    ∃ console, run setup args = (exitCode (outcome invocation), console) ∧
      console.stdout.stored = written locale invocation ∧
      console.stderr.stored = announced locale := by
  obtain ⟨stdout, stderr, hrun, -, hwritten, hannounced⟩ := run_accepted hargs hlocale
    (fun _ => Outlet.accepts_of_reliable hstderr) (Outlet.accepts_of_reliable hstdout)
  exact ⟨_, hrun, hwritten hstdout.attached, hannounced hstderr.attached⟩

end GreetingCheck.Program
