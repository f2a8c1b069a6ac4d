import GreetingCheck.CommandLine.Request
import GreetingCheck.Json.Fault
import GreetingCheck.Proofs.CommandLine.Item

/-!
# Command lines that ask for a run

`Written` describes the command lines that ask for a run: options, each at most once and in any
order, and behind them either nothing, or the separator and any raw arguments, or a first argument
that does not start with a hyphen and any raw arguments. `ofArguments_raws` says what such a command
line is read as.

The reading is followed option by option. After the options `done`, the options read so far are
those of `Options.given done`, possibly with the value of the last setting still to be looked at;
that is, they settle to `Options.given done` (`readFrom_option`, `readFrom_options`).
-/

namespace GreetingCheck.CommandLine

/-! ## Options as they are written -/

/-- A setting with a value that it can have. -/
inductive Assignment
  | lang (locale : Locale)
  | format (format : Format)
  deriving DecidableEq

namespace Assignment

/-- The setting that is given a value. -/
def setting : Assignment → Setting
  | .lang _ => .lang
  | .format _ => .format

/-- The value by its name. -/
def value : Assignment → String
  | .lang locale => locale.label
  | .format f => f.label

end Assignment

/-- An option on a command line. -/
inductive Choice
  | version
  /-- A value for a setting, attached to it or as a raw argument of its own. -/
  | assign (assignment : Assignment) (attached : Bool)
  deriving DecidableEq

namespace Choice

/-- The option without its value. -/
def option : Choice → String
  | .version => "--version"
  | .assign assignment _ => "--" ++ assignment.setting.label

/-- The raw arguments of an option. -/
def raws : Choice → List Raw
  | .version => [raw "--version"]
  | .assign assignment true => [raw ("--" ++ assignment.setting.label ++ "=" ++ assignment.value)]
  | .assign assignment false => [raw ("--" ++ assignment.setting.label), raw assignment.value]

/-- The locale that an option asks for. -/
def lang? : Choice → Option Locale
  | .assign (.lang locale) _ => some locale
  | _ => none

/-- The form of a report that an option asks for. -/
def format? : Choice → Option Format
  | .assign (.format f) _ => some f
  | _ => none

end Choice

/-- What stands behind the options. -/
inductive Remainder
  | nothing
  | behindSeparator (args : List Raw)
  | startingWith (first : Raw) (rest : List Raw) (h : first.head? ≠ some Item.hyphen)

namespace Remainder

/-- The raw arguments of a remainder. -/
def raws : Remainder → List Raw
  | .nothing => []
  | .behindSeparator args => raw "--" :: args
  | .startingWith first rest _ => first :: rest

/-- The arguments that a remainder leaves to be checked. -/
def positionals : Remainder → List Raw
  | .nothing => []
  | .behindSeparator args => args
  | .startingWith first rest _ => first :: rest

end Remainder

/-- A command line that asks for a run. -/
structure Written where
  options : List Choice
  /-- No option is given twice. -/
  once : (options.map Choice.option).Nodup
  remainder : Remainder

namespace Written

/-- The raw arguments of a command line. -/
def raws (c : Written) : List Raw := c.options.flatMap Choice.raws ++ c.remainder.raws

/-- Whether the version is asked for. -/
def version (c : Written) : Bool := .version ∈ c.options

/-- The locale asked for, if any. -/
def lang? (c : Written) : Option Locale := c.options.findSome? Choice.lang?

/-- The form of the report, text if none is asked for. -/
def format (c : Written) : Format := (c.options.findSome? Choice.format?).getD .text

/-- The run that a command line asks for. -/
def invocation (c : Written) : Invocation :=
  ⟨c.version, c.lang?, c.format, c.remainder.positionals⟩

end Written

/-! ## Reading one option -/

/-- What the options amount to. -/
def Options.given (options : List Choice) : Options where
  version := .version ∈ options
  lang := options.findSome? Choice.lang?
  format := options.findSome? Choice.format?

namespace Options

theorem given_concat_version (done : List Choice) :
    given (done ++ [.version]) = { given done with version := true } := by
  simp [given, List.findSome?_append, Choice.lang?, Choice.format?]

theorem given_concat_lang {done : List Choice} (h : (given done).lang = none) (locale : Locale)
    (attached : Bool) :
    given (done ++ [.assign (.lang locale) attached]) = { given done with lang := some locale } := by
  have hnone : done.findSome? Choice.lang? = none := h
  simp [given, List.findSome?_append, Choice.lang?, Choice.format?, hnone]

theorem given_concat_format {done : List Choice} (h : (given done).format = none) (f : Format)
    (attached : Bool) :
    given (done ++ [.assign (.format f) attached]) = { given done with format := some f } := by
  have hnone : done.findSome? Choice.format? = none := h
  simp [given, List.findSome?_append, Choice.lang?, Choice.format?, hnone]

/-- A value by its name is the value. -/
theorem valueOf_raw {α : Type} (s : Setting) {ofLabel? : String → Option α} {name : String} {a : α}
    (hname : ofLabel? name = some a) (hne : raw name ≠ []) :
    valueOf s ofLabel? (raw name) = .ok a := by
  have hdecode : Text.Utf8.decode? (raw name) = some name.toList := Text.Utf8.decode?_encode _
  simp [valueOf, hne, hdecode, hname]

/-- A setting that has not been given yet takes a value. -/
theorem accept_assignment {done : List Choice} {assignment : Assignment} {attached : Bool}
    (hfresh : (Choice.assign assignment attached).option ∉ done.map Choice.option) :
    (given done).accept assignment.setting (raw assignment.value) =
      .ok (given (done ++ [.assign assignment attached])) := by
  cases assignment with
  | lang locale =>
    have hnone : (given done).lang = none := by
      refine List.findSome?_eq_none_iff.2 fun choice hchoice => ?_
      rcases choice with _ | ⟨_ | _, _⟩
      · rfl
      · exact absurd (List.mem_map_of_mem hchoice) hfresh
      · rfl
    have hvalue : valueOf .lang Locale.ofLabel? (raw locale.label) = .ok locale :=
      valueOf_raw _ locale.ofLabel?_label (by cases locale <;> decide)
    show accept _ .lang (raw locale.label) = _
    rw [accept, hnone, hvalue, given_concat_lang hnone]
    rfl
  | format f =>
    have hnone : (given done).format = none := by
      refine List.findSome?_eq_none_iff.2 fun choice hchoice => ?_
      rcases choice with _ | ⟨_ | _, _⟩
      · rfl
      · rfl
      · exact absurd (List.mem_map_of_mem hchoice) hfresh
    have hvalue : valueOf .format Format.ofLabel? (raw f.label) = .ok f :=
      valueOf_raw _ f.ofLabel?_label (by cases f <;> decide)
    show accept _ .format (raw f.label) = _
    rw [accept, hnone, hvalue, given_concat_format hnone]
    rfl

end Options

/-- An option read after options that it is not one of is one more of them. -/
theorem readFrom_choice {o : Options} {done : List Choice} (hdone : o.settle = .ok (.given done))
    {choice : Choice} (hfresh : choice.option ∉ done.map Choice.option) (rest : List Raw) :
    ∃ o', readFrom o (choice.raws ++ rest) = readFrom o' rest ∧
      o'.settle = .ok (.given (done ++ [choice])) := by
  match choice with
  | .version =>
    have hraw : Item.ofRaw (raw "--version") = .flag .version :=
      Item.ofRaw_of_spells (.flag .version)
    have hversion : (Options.given done).version = false :=
      decide_eq_false fun h => hfresh (List.mem_map_of_mem h)
    refine ⟨.given (done ++ [.version]), ?_, rfl⟩
    show readFrom o (raw "--version" :: rest) = _
    rw [readFrom, hraw, Options.given_concat_version]
    simp only [hdone, bind, Except.bind, hversion, Bool.false_eq_true, if_false]
  | .assign assignment true =>
    have hraw : Item.ofRaw (raw ("--" ++ assignment.setting.label ++ "=" ++ assignment.value)) =
        .setting assignment.setting (some (raw assignment.value)) := by
      rw [Item.raw_assignment]
      exact Item.ofRaw_of_spells (.setting _ _)
    refine ⟨.given (done ++ [.assign assignment true]), ?_, rfl⟩
    show readFrom o (raw ("--" ++ assignment.setting.label ++ "=" ++ assignment.value) :: rest) = _
    rw [readFrom, hraw]
    simp only [hdone, bind, Except.bind, Options.accept_assignment hfresh]
  | .assign assignment false =>
    have hraw : Item.ofRaw (raw ("--" ++ assignment.setting.label)) =
        .setting assignment.setting none := by
      rw [Item.raw_option]
      exact Item.ofRaw_of_spells (.setting _ _)
    have hvalue : Item.ofRaw (raw assignment.value) = .plain := by
      rcases assignment with l | f
      · cases l <;> rfl
      · cases f <;> rfl
    -- the value has been met, and the next item is what makes it be looked at
    refine ⟨{ Options.given done with
      pending := some (assignment.setting, some (raw assignment.value)) }, ?_, ?_⟩
    · show readFrom o (raw ("--" ++ assignment.setting.label) :: raw assignment.value :: rest) = _
      rw [readFrom, hraw]
      simp only [hdone, bind, Except.bind]
      rw [readFrom, hvalue]
    · exact Options.accept_assignment hfresh

/-! ## Reading a command line -/

theorem readFrom_options {o : Options} {done options : List Choice}
    (hdone : o.settle = .ok (.given done))
    (honce : ((done ++ options).map Choice.option).Nodup) (rest : List Raw) :
    ∃ o', readFrom o (options.flatMap Choice.raws ++ rest) = readFrom o' rest ∧
      o'.settle = .ok (.given (done ++ options)) := by
  induction options generalizing o done with
  | nil => exact ⟨o, rfl, by rwa [List.append_nil]⟩
  | cons choice options ih =>
    have hfresh : choice.option ∉ done.map Choice.option := by
      rw [List.map_append, List.map_cons, List.nodup_append] at honce
      exact fun h => honce.2.2 _ h _ List.mem_cons_self rfl
    obtain ⟨o₁, hread, ho₁⟩ :=
      readFrom_choice hdone hfresh (options.flatMap Choice.raws ++ rest)
    rw [List.append_cons] at honce
    obtain ⟨o₂, hread', ho₂⟩ := ih ho₁ honce
    refine ⟨o₂, ?_, by rwa [List.append_cons]⟩
    rw [List.flatMap_cons, List.append_assoc, hread, hread']

/-- What stands behind the options closes them. -/
theorem readFrom_remainder {o o' : Options} (ho : o.settle = .ok o') (remainder : Remainder) :
    readFrom o remainder.raws = .ok (.run (o'.invocation remainder.positionals)) := by
  have hclose : ∀ args, o.close args = .ok (.run (o'.invocation args)) := by
    intro args
    rw [Options.close, ho]
    rfl
  cases remainder with
  | nothing => exact hclose []
  | behindSeparator args =>
    have hraw : Item.ofRaw (raw "--") = .separator := Item.ofRaw_of_spells .separator
    rw [Remainder.raws, readFrom, hraw]
    exact hclose args
  | startingWith first rest hfirst =>
    rw [Remainder.raws, readFrom, Item.ofRaw_of_head?_ne hfirst]
    rcases hpending : o.pending with _ | ⟨s, _ | value⟩
    · exact hclose _
    · -- a setting that still waits for its value does not settle
      rw [Options.settle, hpending] at ho
      cases ho
    · exact hclose _

/-- A command line that asks for a run is read as asking for it. -/
theorem ofArguments_raws (c : Written) : Request.ofArguments c.raws = .ok (.run c.invocation) := by
  have honce : (([] ++ c.options).map Choice.option).Nodup := c.once
  obtain ⟨o, hread, ho⟩ : ∃ o, readFrom {} c.raws = readFrom o c.remainder.raws ∧
      o.settle = .ok (.given c.options) := readFrom_options rfl honce c.remainder.raws
  rw [Request.ofArguments, hread, readFrom_remainder ho]
  rfl

/-! ## What is left to be checked -/

theorem positionals_of_close {o : Options} {args : List Raw} {invocation : Invocation}
    (h : o.close args = .ok (.run invocation)) : invocation.positionals = args := by
  obtain ⟨o', -, h⟩ := Json.bind_eq_ok.1 h
  cases h
  rfl

/-- A raw argument in front of others is the first one to be checked if it is plain, the end of the
options, or a part of them. -/
theorem readFrom_cons_cases {o : Options} {token : Raw} {rest : List Raw}
    {invocation : Invocation} (h : readFrom o (token :: rest) = .ok (.run invocation)) :
    (Item.ofRaw token = .plain ∧ invocation.positionals = token :: rest) ∨
      invocation.positionals = rest ∨ ∃ o', readFrom o' rest = .ok (.run invocation) := by
  rw [readFrom] at h
  cases hitem : Item.ofRaw token <;> rw [hitem] at h
  case separator => exact .inr (.inl (positionals_of_close h))
  case setting s attached =>
    right; right
    cases attached with
    | none =>
      obtain ⟨o₁, -, h⟩ := Json.bind_eq_ok.1 h
      exact ⟨_, h⟩
    | some value =>
      obtain ⟨o₁, -, h⟩ := Json.bind_eq_ok.1 h
      obtain ⟨o₂, -, h⟩ := Json.bind_eq_ok.1 h
      exact ⟨o₂, h⟩
  case flag f =>
    cases f with
    | version =>
      obtain ⟨o₁, -, h⟩ := Json.bind_eq_ok.1 h
      split at h
      · cases h
      · exact .inr (.inr ⟨_, h⟩)
    | help =>
      obtain ⟨-, -, h⟩ := Json.bind_eq_ok.1 h
      cases h
  case flagWithValue f value => cases h
  case shortHelp =>
    obtain ⟨-, -, h⟩ := Json.bind_eq_ok.1 h
    cases h
  case unreadable name => cases h
  case plain =>
    simp only at h
    split at h
    · exact .inr (.inr ⟨_, h⟩)
    · exact .inl ⟨rfl, positionals_of_close h⟩

/-- The arguments to be checked are the last ones of a command line. -/
theorem positionals_suffix {o : Options} {args : List Raw} {invocation : Invocation}
    (h : readFrom o args = .ok (.run invocation)) : invocation.positionals <:+ args := by
  induction args generalizing o with
  | nil => exact (positionals_of_close h).symm ▸ List.suffix_rfl
  | cons token rest ih =>
    rcases readFrom_cons_cases h with ⟨-, hall⟩ | hrest | ⟨o', h'⟩
    · exact hall.symm ▸ List.suffix_rfl
    · rw [hrest]
      exact List.suffix_cons token rest
    · exact (ih h').trans (List.suffix_cons token rest)

/-- A command line is checked as a whole exactly if its first raw argument is plain. -/
theorem ofArguments_eq_all_iff {token : Raw} {rest : List Raw} :
    Request.ofArguments (token :: rest) = .ok (.run ⟨false, none, .text, token :: rest⟩) ↔
      Item.ofRaw token = .plain := by
  constructor
  · intro h
    rcases readFrom_cons_cases h with ⟨hplain, -⟩ | hrest | ⟨o', hread⟩
    · exact hplain
    · exact absurd hrest (by simp)
    · -- no argument that was read past is left to be checked
      have hle := (positionals_suffix hread).length_le
      simp at hle
  · intro hplain
    rw [Request.ofArguments, readFrom, hplain]
    rfl

/-- What is taken for an option without being one leads to a complaint or to the help. -/
theorem ofArguments_of_mistaken {token : Raw} (h : Item.Mistaken token) (rest : List Raw) :
    (∃ error, Request.ofArguments (token :: rest) = .error error) ∨
      Request.ofArguments (token :: rest) = .ok (.help .short) := by
  rw [Request.ofArguments, readFrom]
  cases h with
  | helpValue value =>
    have hraw : Item.ofRaw (raw "--help=" ++ value) = .flagWithValue .help value :=
      Item.ofRaw_of_spells (.flagWithValue .help value)
    rw [hraw]
    exact .inl ⟨_, rfl⟩
  | versionValue value =>
    have hraw : Item.ofRaw (raw "--version=" ++ value) = .flagWithValue .version value :=
      Item.ofRaw_of_spells (.flagWithValue .version value)
    rw [hraw]
    exact .inl ⟨_, rfl⟩
  | shortHelps n =>
    rw [Item.ofRaw_of_spells (.shortHelp (n + 1))]
    exact .inr rfl
  | unreadable hname hbytes attached =>
    rw [Item.ofRaw_of_spells (.unreadable hname hbytes attached)]
    exact .inl ⟨_, rfl⟩

end GreetingCheck.CommandLine
