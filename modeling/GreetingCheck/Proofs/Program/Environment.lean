import GreetingCheck.Proofs.Locale
import GreetingCheck.Proofs.Message
import GreetingCheck.Proofs.Program.Run

/-!
# Environments that name no locale

A value of the environment variable can fail to name a locale in two ways (`not_resolves_iff`). If
it is a text, the run says so and ends (`run_of_unresolved`). If it is none, it counts as if the
variable were not set, and so the run is the one in an environment without it
(`run_eq_of_resolveLocale_eq`).
-/

namespace GreetingCheck

namespace Program

open CommandLine Lines

variable {setup : Setup} {args : List Raw} {invocation : Invocation}

/-! ## The locale that the environment asks for -/

theorem not_resolves_iff {value : Raw} :
    (∀ locale, ¬ Resolves none (some value) locale) ↔
      (∃ request, value = raw request ∧ Locale.ofRequest? request = none) ∨
        ∀ request, value ≠ raw request := by
  constructor
  · intro h
    by_cases htext : ∃ request, value = raw request
    · obtain ⟨request, rfl⟩ := htext
      refine .inl ⟨request, rfl, ?_⟩
      rw [Option.eq_none_iff_forall_ne_some]
      intro locale hlocale
      exact h locale (.environment hlocale)
    · exact .inr (not_exists.1 htext)
  · intro h locale hresolves
    have hok := hresolves.resolveLocale_eq
    cases hresolves with
    | @environment request locale hlocale =>
      rcases h with ⟨request', hraw, hnone⟩ | hbytes
      · -- bytes that are a text are one text only
        have hsame : some request.toList = some request'.toList := by
          rw [← Text.Utf8.decode?_encode request.toList, ← Text.Utf8.decode?_encode request'.toList]
          exact congrArg _ hraw
        rw [String.toList_injective (Option.some.inj hsame), hnone] at hlocale
        cases hlocale
      · exact hbytes request rfl

theorem resolveLocale_of_refused {request : String} (h : Locale.ofRequest? request = none) :
    resolveLocale none (some (raw request)) =
      .error (Message.invalidEnvironment .english request) := by
  have hdecode : (some (raw request)).bind Text.Utf8.decode? = some request.toList :=
    Text.Utf8.decode?_encode _
  unfold resolveLocale
  rw [hdecode]
  simp only [String.ofList_toList, h]
  rfl

theorem resolveLocale_of_unreadable {value : Raw} (h : ∀ request, value ≠ raw request) :
    resolveLocale none (some value) = resolveLocale none none := by
  have hdecode : (some value).bind Text.Utf8.decode? = none :=
    Text.Utf8.decode?_eq_none_iff.2 (ne_encode_of_ne_raw h)
  unfold resolveLocale
  rw [hdecode]
  rfl

/-! ## The runs -/

/-- A run without a locale is nothing but the message about it. -/
theorem run_of_unresolved {message : String}
    (hargs : Request.ofArguments args = .ok (.run invocation))
    (hlocale : resolveLocale invocation.lang setup.language = .error message) :
    run setup args = (failureExitCode, complain setup message {}) := by
  have hperform : ((perform setup invocation).run.run {}).run = (.error message, {}) := by
    show (perform setup invocation).carryOut {} = _
    rw [perform, hlocale, Run.carryOut_bind]
    rfl
  rw [run, hargs]
  simp only [hperform]

/-- The environment has no other part in a run than that its locale depends on it. -/
theorem run_eq_of_resolveLocale_eq {language : Option Raw}
    (hargs : Request.ofArguments args = .ok (.run invocation))
    (h : resolveLocale invocation.lang setup.language = resolveLocale invocation.lang language) :
    run setup args = run { setup with language } args := by
  have hperform : perform setup invocation = perform { setup with language } invocation := by
    unfold perform
    rw [h]
    rfl
  rw [run, run, hargs]
  simp only [hperform]
  rfl

theorem stdout_complain (setup : Setup) (line : String) (console : Console) :
    (complain setup line console).stdout = console.stdout := rfl

/-- A run that is asked for without a locale, in an environment that names none: a value that is a
text ends it with a message about the variable and nothing on the standard output, a value that is
no text makes no difference. -/
theorem run_of_unusable_language {value : Raw}
    (hargs : Request.ofArguments args = .ok (.run invocation)) (hlang : invocation.lang = none)
    (hlanguage : setup.language = some value)
    (hvalue : ∀ locale, ¬ Resolves none (some value) locale) :
    (∀ request, value = raw request →
      ∃ console, run setup args = (1, console) ∧ console.stdout = {} ∧
        (setup.stderr.Reliable → console.stderr.stored =
          ended ("Invalid value for ARG_GATE_LANG: " ++ request ++ ". Expected 'en' or 'ca'."))) ∧
    ((∀ request, value ≠ raw request) →
      run setup args = run { setup with language := none } args) := by
  refine ⟨?_, ?_⟩
  · intro request hrequest
    have hnone : Locale.ofRequest? request = none := by
      rw [Option.eq_none_iff_forall_ne_some]
      intro locale hlocale
      rw [hrequest] at hvalue
      exact hvalue locale (.environment hlocale)
    have hlocale : resolveLocale invocation.lang setup.language =
        .error (Message.invalidEnvironment .english request) := by
      rw [hlang, hlanguage, hrequest, resolveLocale_of_refused hnone]
    have hmessage : Message.invalidEnvironment .english request =
        "Invalid value for ARG_GATE_LANG: " ++ request ++ ". Expected 'en' or 'ca'." := by
      have hfront : Catalog.Entry.invalidEnvironment.lead .english ++ Message.localeVariable ++
          ": " = "Invalid value for ARG_GATE_LANG: " := by decide
      have hback : Catalog.Entry.invalidEnvironment.trail .english =
          ". Expected 'en' or 'ca'." := by decide
      rw [Message.invalidEnvironment_eq, hfront, hback]
    refine ⟨_, run_of_unresolved hargs hlocale, stdout_complain _ _ _, ?_⟩
    intro hstderr
    rw [stderr_complain_of_reliable hstderr, hmessage]
    rfl
  · intro hbytes
    apply run_eq_of_resolveLocale_eq hargs
    rw [hlang, hlanguage, resolveLocale_of_unreadable hbytes]

/-- Blanks are a value that names no locale, even for a run that only shows the version. -/
theorem run_of_unusable_language_blank :
    ∃ console,
      run { language := some (raw "  "), stderr := { chunk := some 1 } }
        [raw "--version", raw "--format=json", raw "hello"] = (1, console) ∧
      console.stdout = {} ∧
      console.stderr.stored =
        ended ("Invalid value for ARG_GATE_LANG: " ++ "  " ++ ". Expected 'en' or 'ca'.") := by
  have hargs : Request.ofArguments [raw "--version", raw "--format=json", raw "hello"] =
      .ok (.run ⟨true, none, .json, [raw "hello"]⟩) := by decide +kernel
  have hblank : Locale.ofRequest? "  " = none := by
    apply Locale.ofRequest?_of_blank
    intro c hc
    have hspace : c = ' ' := by simpa using hc
    rw [hspace]
    decide
  have hvalue : ∀ locale, ¬ Resolves none (some (raw "  ")) locale :=
    not_resolves_iff.2 (.inl ⟨"  ", rfl, hblank⟩)
  obtain ⟨htext, -⟩ := @run_of_unusable_language
    { language := some (raw "  "), stderr := { chunk := some 1 } } _ _ _ hargs rfl rfl hvalue
  obtain ⟨console, hrun, hout, herr⟩ := htext "  " rfl
  exact ⟨console, hrun, hout, herr ⟨rfl, by decide, rfl⟩⟩

/-- Not every value that names no locale ends the run: a greeting succeeds in an environment whose
value is no text. -/
theorem not_forall_unusable_language_fails :
    ¬ ∀ (value : Raw) (args : List Raw) (invocation : Invocation),
      Request.ofArguments args = .ok (.run invocation) → invocation.lang = none →
      (∀ locale, ¬ Resolves none (some value) locale) →
      (run { language := some value } args).1 = 1 := by
  intro h
  have hbytes : ∀ request, [0xFF] ≠ raw request := by
    intro request hrequest
    have hdecode := Text.Utf8.decode?_encode request.toList
    have hnone : Text.Utf8.decode? [0xFF] = none := by decide +kernel
    rw [← show [0xFF] = Text.Utf8.encode request.toList from hrequest, hnone] at hdecode
    cases hdecode
  have hcode := h [0xFF] [raw "hello"] _ rfl rfl (not_resolves_iff.2 (.inr hbytes))
  exact absurd hcode (by decide +kernel)

end Program

end GreetingCheck
