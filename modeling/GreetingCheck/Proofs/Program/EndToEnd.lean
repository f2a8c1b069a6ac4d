import GreetingCheck.Proofs.CommandLine.Request
import GreetingCheck.Proofs.Message
import GreetingCheck.Proofs.Program.Run

/-!
# Runs on streams that take everything

From the raw arguments and the environment to the bytes on the two streams and the exit code.
`run_of_written` is about the command lines that `Written` describes, `run_of_hyphen` about those
whose first raw argument starts with a hyphen.
-/

namespace GreetingCheck.Program

open CommandLine Lines

/-! ## Command lines that ask for a run -/

/-- The locale, the version line, the report and the exit code of a run. -/
theorem run_of_written (c : Written) {setup : Setup} {locale : Locale}
    (hstdout : setup.stdout.Reliable) (hstderr : setup.stderr.Reliable)
    (hlocale : Resolves c.lang? setup.language locale) :
    ∃ code console, run setup c.raws = (code, console) ∧
      console.stderr.stored = (if locale = .english then [] else ended
        "Nota: la sortida que no és en anglès està traduïda automàticament i pot ser inexacta.") ∧
      (c.version = true → console.stdout.stored = ended "arg-gate 0.1.0" ∧ code = 0) ∧
      (c.version = false →
        let args := argumentsOfRaw c.remainder.positionals
        console.stdout.stored =
          ((runReport (ofFormat c.format locale "stdout" .none) args).carryOut {}).2.stored ∧
        console.stdout.stored = lines c.format locale args.reportPlan ∧
        code = if c.remainder.positionals.head? = some (raw "hello") then 0 else 1) := by
  obtain ⟨console, hrun, hout, herr⟩ :=
    run_delivered (ofArguments_raws c) hlocale.resolveLocale_eq hstderr hstdout
  refine ⟨_, console, hrun, herr.trans (announced_eq locale), ?_, ?_⟩
  · intro hversion
    have hwritten : written locale c.invocation = ended (Message.version locale) := if_pos hversion
    have houtcome : outcome c.invocation = .success := if_pos hversion
    rw [hout, hwritten, houtcome, Message.version_eq]
    exact ⟨rfl, rfl⟩
  · intro hversion args
    have hnot : ¬ c.version = true := by simp [hversion]
    have hwritten : written locale c.invocation = lines c.format locale args.reportPlan :=
      if_neg hnot
    have houtcome : outcome c.invocation = args.check := if_neg hnot
    refine ⟨?_, hout.trans hwritten, ?_⟩
    · rw [hout, hwritten, stored_report]
    · rw [houtcome, check_argumentsOfRaw, apply_ite exitCode]
      rfl

/-- A run in Catalan, as JSON, of a greeting and two more arguments, one of which is no text and
the other one an option if it stood in front of them; the environment, which is no text either, is
not looked at, and the standard output takes one byte at a time. -/
theorem run_of_written_catalan_json :
    let c : Written :=
      ⟨[.assign (.format .json) false, .assign (.lang .catalan) true], by decide,
        .behindSeparator [raw "hello", [0xFF], raw "--help"]⟩
    let setup : Setup := { language := some [0xFF], stdout := { chunk := some 1, interrupts := true } }
    c.raws = [raw "--format", raw "json", raw "--lang=ca", raw "--", raw "hello", [0xFF],
      raw "--help"] ∧
    ∃ code console, run setup c.raws = (code, console) ∧
      console.stderr.stored = ended
        "Nota: la sortida que no és en anglès està traduïda automàticament i pot ser inexacta." ∧
      console.stdout.stored =
        lines .json .catalan (Arguments.reportPlan ⟨["hello", "\uFFFD", "--help"]⟩) ∧
      code = 0 := by
  intro c setup
  have hstdout : setup.stdout.Reliable := ⟨rfl, by simp [setup], rfl⟩
  have hstderr : setup.stderr.Reliable := Faults.reliable_none
  have hlang : c.lang? = some .catalan := rfl
  have hlocale : Resolves c.lang? setup.language .catalan := by
    rw [hlang]
    exact .commandLine _ _
  obtain ⟨code, console, hrun, herr, -, hcheck⟩ := run_of_written c hstdout hstderr hlocale
  obtain ⟨-, hout, hcode⟩ := hcheck (by decide)
  refine ⟨by decide +kernel, code, console, hrun, herr, ?_, ?_⟩
  · have hargs : argumentsOfRaw c.remainder.positionals = ⟨["hello", "\uFFFD", "--help"]⟩ := by
      decide +kernel
    rw [hout, hargs]
    rfl
  · rw [hcode]
    rfl

/-! ## First arguments that start with a hyphen -/

/-- The lines of a report about a failure. -/
theorem lines_english_of_failure {args : Arguments} (h : args.check = .failure) :
    lines .text .english args.reportPlan =
      ended ("script arguments are: " ++ args.joined) ++
        (ended ("test_gpu arguments are: " ++ args.joined) ++
          (ended "Function will return 1" ++ ended "FAILURE")) := by
  have hscript : Catalog.Entry.scriptArguments.lead .english = "script arguments are: " := by decide
  have hcheck : Catalog.Entry.checkArguments.lead .english = "test_gpu arguments are: " := by decide
  have hreturn : Message.ofDiagnostic .english (.functionReturn 1) = "Function will return 1" := by
    rw [Message.ofDiagnostic_functionReturn]
    decide
  have hstatus : Message.ofDiagnostic .english (.status .failure) = "FAILURE" := by
    apply String.toList_injective
    exact Catalog.toList_say_nil _ _
  have hcode : Outcome.failure.returnCode = 1 := rfl
  simp only [lines, Arguments.reportPlan, Arguments.checkPlan, h, hcode, List.cons_append,
    List.nil_append, List.flatMap_cons, List.flatMap_nil, List.append_nil, line, words, hreturn,
    hstatus, Message.ofDiagnostic_scriptArguments, Message.ofDiagnostic_checkArguments, hscript,
    hcheck]

/-- A first argument that starts with a hyphen is checked like any other one, unless it is an option
or mistaken for one; and what is mistaken for an option is never checked. -/
theorem run_of_hyphen (body : Raw) (rest : List Raw) {setup : Setup}
    (hlanguage : setup.language = none) (hstdout : setup.stdout.Reliable)
    (hstderr : setup.stderr.Reliable) :
    let token := Item.hyphen :: body
    let joined := (argumentsOfRaw (token :: rest)).joined
    (Request.ofArguments (token :: rest) = .ok (.run ⟨false, none, .text, token :: rest⟩) ↔
      ¬ Item.Reserved token ∧ ¬ Item.Mistaken token) ∧
    (¬ Item.Reserved token → ¬ Item.Mistaken token →
      ∃ console, run setup (token :: rest) = (1, console) ∧
        console.stderr.stored = [] ∧
        console.stdout.stored =
          ended ("script arguments are: " ++ joined) ++
            (ended ("test_gpu arguments are: " ++ joined) ++
              (ended "Function will return 1" ++ ended "FAILURE"))) ∧
    (Item.Mistaken token →
      (∃ error, Request.ofArguments (token :: rest) = .error error) ∨
        Request.ofArguments (token :: rest) = .ok (.help .short)) := by
  intro token joined
  have hchecked : Request.ofArguments (token :: rest) =
      .ok (.run ⟨false, none, .text, token :: rest⟩) ↔
        ¬ Item.Reserved token ∧ ¬ Item.Mistaken token :=
    ofArguments_eq_all_iff.trans Item.ofRaw_eq_plain_iff
  refine ⟨hchecked, fun hreserved hmistaken => ?_, fun h => ofArguments_of_mistaken h rest⟩
  have hlocale : resolveLocale none setup.language = .ok .english := by rw [hlanguage]; rfl
  obtain ⟨console, hrun, hout, herr⟩ :=
    run_delivered (hchecked.2 ⟨hreserved, hmistaken⟩) hlocale hstderr hstdout
  have hfailure : (argumentsOfRaw (token :: rest)).check = .failure := by
    rw [check_argumentsOfRaw, if_neg]
    intro h
    have hhead : some Item.hyphen ≠ (raw "hello").head? := by decide
    exact hhead (congrArg List.head? (Option.some.inj h))
  refine ⟨console, ?_, herr, ?_⟩
  · rw [hrun]
    show (exitCode (argumentsOfRaw (token :: rest)).check, console) = _
    rw [hfailure]
    rfl
  · rw [hout]
    exact lines_english_of_failure hfailure

/-- Letters of which the first one alone would ask for the help, and a byte that is no text. -/
theorem run_of_hyphen_unknown :
    ∃ console, run {} [raw "-hx", [0xFF]] = (1, console) ∧ console.stderr.stored = [] ∧
      console.stdout.stored =
        ended "script arguments are: -hx \uFFFD" ++
          (ended "test_gpu arguments are: -hx \uFFFD" ++
            (ended "Function will return 1" ++ ended "FAILURE")) := by
  have hplain : Item.ofRaw (raw "-hx") = .plain := by decide
  obtain ⟨hreserved, hmistaken⟩ := Item.ofRaw_eq_plain_iff.1 hplain
  obtain ⟨-, hrun, -⟩ := @run_of_hyphen (raw "hx") [[0xFF]] {} rfl
    Faults.reliable_none Faults.reliable_none
  obtain ⟨console, hcode, herr, hout⟩ := hrun hreserved hmistaken
  have hjoined : (argumentsOfRaw [raw "-hx", [0xFF]]).joined = "-hx \uFFFD" := by
    decide +kernel
  refine ⟨console, hcode, herr, hout.trans ?_⟩
  show ended ("script arguments are: " ++ (argumentsOfRaw [raw "-hx", [0xFF]]).joined) ++
    (ended ("test_gpu arguments are: " ++ (argumentsOfRaw [raw "-hx", [0xFF]]).joined) ++ _) = _
  rw [hjoined]
  rfl

/-- Not everything that starts with a hyphen and is no option is checked: the name of an option need
not be text. -/
theorem not_forall_hyphen_checked :
    ¬ ∀ (body : Raw) (rest : List Raw), ¬ Item.Reserved (Item.hyphen :: body) →
      (run {} ((Item.hyphen :: body) :: rest)).1 = 1 := by
  intro h
  have hnot : ¬ Item.Reserved [Item.hyphen, Item.hyphen, 0xFF] := by
    intro hreserved
    generalize htoken : [Item.hyphen, Item.hyphen, 0xFF] = token at hreserved
    have hthird : token[2]? = some 0xFF := by rw [← htoken]; rfl
    cases hreserved <;> cases hthird
  have hcode := h [Item.hyphen, 0xFF] [] hnot
  exact absurd hcode (by decide +kernel)

end GreetingCheck.Program
