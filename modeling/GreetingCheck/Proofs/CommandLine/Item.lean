import GreetingCheck.CommandLine.Item
import GreetingCheck.Proofs.Text.Utf8

/-!
# What spells an item

`Item.Spells` lists the raw arguments that have a meaning of their own, from the meaning to the
bytes. `Item.ofRaw` reads each of them as what it means (`ofRaw_of_spells`) and everything else as
plain (`spells_ofRaw`). `ofRaw_eq_plain_iff` sorts the list in another way: into what the options
are known by to a user (`Reserved`), and what is taken for an option beside that (`Mistaken`).
-/

namespace GreetingCheck.CommandLine

open Text.Utf8

/-! ## Names and values -/

/-- A text as a raw argument. -/
def raw (text : String) : Raw := encode text.toList

/-- Bytes that are no string as a raw argument are those of no text. -/
theorem ne_encode_of_ne_raw {bytes : Raw} (h : ∀ s, bytes ≠ raw s) (text : List Char) :
    bytes ≠ encode text := by
  have hraw := h (.ofList text)
  rwa [raw, String.toList_ofList] at hraw

/-- The name of a setting. -/
def Setting.label : Setting → String
  | .lang => "lang"
  | .format => "format"

/-- The name of a flag. -/
def Flag.label : Flag → String
  | .version => "version"
  | .help => "help"

namespace Item

/-- What attaches a value to a name. -/
def attachment : Option Raw → Raw
  | none => []
  | some value => equals :: value

/-- Two hyphens and a name, with a value that may be attached. -/
def long (name : Raw) (attached : Option Raw) : Raw :=
  hyphen :: hyphen :: (name ++ attachment attached)

theorem raw_append (front back : String) : raw (front ++ back) = raw front ++ raw back := by
  simp [raw, encode]

theorem raw_option (name : String) : raw ("--" ++ name) = long (raw name) none := by
  rw [raw_append, long, attachment, List.append_nil]
  rfl

theorem raw_assignment (name value : String) :
    raw ("--" ++ name ++ "=" ++ value) = long (raw name) (some (raw value)) := by
  rw [raw_append, raw_append, raw_append, List.append_assoc, List.append_assoc]
  rfl

private theorem all_ne_equals {name : Raw} (hname : equals ∉ name) :
    ∀ b ∈ name, decide (b ≠ equals) = true := by
  intro b hb
  simpa using ne_of_mem_of_not_mem hb hname

/-- A name ends where a value is attached. -/
theorem takeWhile_attachment {name : Raw} (hname : equals ∉ name) (attached : Option Raw) :
    (name ++ attachment attached).takeWhile (· ≠ equals) = name := by
  rw [List.takeWhile_append_of_pos (all_ne_equals hname)]
  cases attached <;> simp [attachment]

theorem attached?_attachment {name : Raw} (hname : equals ∉ name) (attached : Option Raw) :
    attached? (name ++ attachment attached) = attached := by
  rw [attached?, List.dropWhile_append_of_pos (all_ne_equals hname)]
  cases attached <;> simp [attachment]

/-- All bytes are a name and what is attached to it. -/
theorem exists_attachment (body : Raw) :
    ∃ name attached, equals ∉ name ∧ body = name ++ attachment attached := by
  induction body with
  | nil => exact ⟨[], none, List.not_mem_nil, rfl⟩
  | cons b rest ih =>
    obtain ⟨name, attached, hname, rfl⟩ := ih
    by_cases hb : b = equals
    · exact ⟨[], some (name ++ attachment attached), List.not_mem_nil, by simp [attachment, hb]⟩
    · exact ⟨b :: name, attached, by simp [hname, Ne.symm hb], rfl⟩

/-! ## Long names -/

/-- A text has the byte exactly if it has the character. -/
theorem equals_mem_raw_iff {text : String} : equals ∈ raw text ↔ '=' ∈ text.toList := by
  constructor
  · exact mem_of_mem_encode (by decide)
  · intro h
    exact List.mem_flatMap.2 ⟨'=', h, by decide⟩

/-- A name that is text is looked up. -/
theorem ofLong_raw {name : String} (hname : '=' ∉ name.toList) (attached : Option Raw) :
    ofLong (raw name ++ attachment attached) = ofName name attached := by
  have hbytes := mt equals_mem_raw_iff.1 hname
  rw [ofLong, takeWhile_attachment hbytes, attached?_attachment hbytes, raw, decode?_encode]
  show ofName (.ofList name.toList) attached = _
  rw [String.ofList_toList]

/-- A name that is no text is not. -/
theorem ofLong_unreadable {name : Raw} (hname : equals ∉ name) (hbytes : ∀ text, name ≠ raw text)
    (attached : Option Raw) : ofLong (name ++ attachment attached) = .unreadable name := by
  have hdecode : decode? name = none := decode?_eq_none_iff.2 (ne_encode_of_ne_raw hbytes)
  rw [ofLong, takeWhile_attachment hname, hdecode]

@[simp] theorem ofName_setting (s : Setting) (attached : Option Raw) :
    ofName s.label attached = .setting s attached := by
  cases s <;> rfl

@[simp] theorem ofName_flag (f : Flag) (attached : Option Raw) :
    ofName f.label attached = ofName.ofFlag attached f := by
  cases f <;> rfl

/-- A name that means something is that of a setting or of a flag. -/
theorem label_of_ofName {name : String} {attached : Option Raw} (h : ofName name attached ≠ .plain) :
    (∃ s : Setting, name = s.label) ∨ ∃ f : Flag, name = f.label := by
  unfold ofName at h
  split_ifs at h with hlang hformat hversion hhelp
  · exact .inl ⟨.lang, hlang⟩
  · exact .inl ⟨.format, hformat⟩
  · exact .inr ⟨.version, hversion⟩
  · exact .inr ⟨.help, hhelp⟩
  · exact absurd rfl h

/-! ## Spellings -/

/-- The raw arguments with a meaning of their own. -/
inductive Spells : Raw → Item → Prop
  | separator : Spells [hyphen, hyphen] .separator
  | setting (s : Setting) (attached : Option Raw) :
      Spells (long (raw s.label) attached) (.setting s attached)
  | flag (f : Flag) : Spells (long (raw f.label) none) (.flag f)
  | flagWithValue (f : Flag) (value : Raw) :
      Spells (long (raw f.label) (some value)) (.flagWithValue f value)
  | shortHelp (n : Nat) : Spells (hyphen :: List.replicate (n + 1) letterH) .shortHelp
  | unreadable {name : Raw} (hname : equals ∉ name) (hbytes : ∀ text, name ≠ raw text)
      (attached : Option Raw) : Spells (long name attached) (.unreadable name)

theorem ofRaw_long {body : Raw} (h : body ≠ []) :
    ofRaw (hyphen :: hyphen :: body) = ofLong body := by
  simp [ofRaw, h]

theorem ofRaw_label {name : String} (hname : '=' ∉ name.toList) (hne : raw name ≠ [])
    (attached : Option Raw) : ofRaw (long (raw name) attached) = ofName name attached := by
  rw [long, ofRaw_long (List.append_ne_nil_of_left_ne_nil hne _), ofLong_raw hname]

/-- A spelling is read as what it spells. -/
theorem ofRaw_of_spells {token : Raw} {item : Item} (h : Spells token item) :
    ofRaw token = item := by
  cases h with
  | separator => rfl
  | setting s attached =>
    rw [ofRaw_label (by cases s <;> decide) (by cases s <;> decide), ofName_setting]
  | flag f =>
    rw [ofRaw_label (by cases f <;> decide) (by cases f <;> decide), ofName_flag]
    rfl
  | flagWithValue f value =>
    rw [ofRaw_label (by cases f <;> decide) (by cases f <;> decide), ofName_flag]
    rfl
  | shortHelp n =>
    have hne : letterH ≠ hyphen := by decide
    simp [ofRaw, List.replicate_succ, hne]
  | @unreadable name hname hbytes attached =>
    have hne : name ≠ [] := fun hnil => hbytes "" hnil
    rw [long, ofRaw_long (List.append_ne_nil_of_left_ne_nil hne _),
      ofLong_unreadable hname hbytes]

/-- What stands behind two hyphens is plain if it is not spelt out. -/
private theorem spells_ofLong (body : Raw) :
    ofLong body = .plain ∨ Spells (hyphen :: hyphen :: body) (ofLong body) := by
  obtain ⟨name, attached, hname, rfl⟩ := exists_attachment body
  by_cases htext : ∃ text, name = raw text
  · obtain ⟨text, rfl⟩ := htext
    rw [ofLong_raw (mt equals_mem_raw_iff.2 hname)]
    by_cases hplain : ofName text attached = .plain
    · exact .inl hplain
    · right
      rcases label_of_ofName hplain with ⟨s, rfl⟩ | ⟨f, rfl⟩
      · rw [ofName_setting]
        exact .setting s attached
      · rw [ofName_flag]
        cases attached with
        | none => exact .flag f
        | some value => exact .flagWithValue f value
  · have hbytes : ∀ text, name ≠ raw text := fun text h => htext ⟨text, h⟩
    rw [ofLong_unreadable hname hbytes]
    exact .inr (.unreadable hname hbytes attached)

/-- What is not spelt out is plain. -/
theorem spells_ofRaw (token : Raw) : ofRaw token = .plain ∨ Spells token (ofRaw token) := by
  rcases token with _ | ⟨b, _ | ⟨c, body⟩⟩
  · exact .inl rfl
  · left
    simp [ofRaw]
  by_cases hb : b = hyphen
  · subst hb
    by_cases hc : c = hyphen
    · subst hc
      by_cases hbody : body = []
      · subst hbody
        exact .inr .separator
      · rw [ofRaw_long hbody]
        exact spells_ofLong body
    by_cases hall : ∀ x ∈ c :: body, x = letterH
    · right
      rw [List.eq_replicate_of_mem hall, List.length_cons, ofRaw_of_spells (.shortHelp _)]
      exact .shortHelp _
    · left
      have hall' : (c :: body).all (· = letterH) = false := by simpa using hall
      rw [ofRaw, if_pos rfl]
      simp only [hc, hall', if_false, Bool.false_eq_true]
  · left
    simp [ofRaw, hb]

/-- Nothing but what is spelt out is ever anything but plain. -/
theorem ofRaw_ne_plain_iff {token : Raw} :
    ofRaw token ≠ .plain ↔ ∃ item, Spells token item := by
  constructor
  · intro h
    exact ⟨_, (spells_ofRaw token).resolve_left h⟩
  · rintro ⟨item, h⟩
    rw [ofRaw_of_spells h]
    rintro rfl
    cases h

/-- A raw argument that does not start with a hyphen is plain. -/
theorem ofRaw_of_head?_ne {token : Raw} (h : token.head? ≠ some hyphen) : ofRaw token = .plain := by
  by_contra hne
  obtain ⟨item, hspells⟩ := ofRaw_ne_plain_iff.1 hne
  cases hspells <;> exact h rfl

/-! ## Plain arguments -/

/-- What the options are known by. -/
inductive Reserved : Raw → Prop
  | separator : Reserved (raw "--")
  | shortHelp : Reserved (raw "-h")
  | help : Reserved (raw "--help")
  | version : Reserved (raw "--version")
  | lang : Reserved (raw "--lang")
  | format : Reserved (raw "--format")
  | langValue (value : Raw) : Reserved (raw "--lang=" ++ value)
  | formatValue (value : Raw) : Reserved (raw "--format=" ++ value)

/-- What is taken for an option beside that: a value for an option that takes none, the letter of
the short help more than once, and a name that is no text. -/
inductive Mistaken : Raw → Prop
  | helpValue (value : Raw) : Mistaken (raw "--help=" ++ value)
  | versionValue (value : Raw) : Mistaken (raw "--version=" ++ value)
  | shortHelps (n : Nat) : Mistaken (hyphen :: List.replicate (n + 2) letterH)
  | unreadable {name : Raw} (hname : equals ∉ name) (hbytes : ∀ text, name ≠ raw text)
      (attached : Option Raw) : Mistaken (long name attached)

theorem ofRaw_eq_plain_iff {token : Raw} :
    ofRaw token = .plain ↔ ¬ Reserved token ∧ ¬ Mistaken token := by
  rw [← not_iff_not, ← not_or, not_not]
  refine ofRaw_ne_plain_iff.trans ⟨?_, ?_⟩
  · rintro ⟨item, h⟩
    cases h with
    | separator => exact .inl .separator
    | setting s attached =>
      left
      cases s <;> cases attached
      · exact .lang
      · exact .langValue _
      · exact .format
      · exact .formatValue _
    | flag f =>
      left
      cases f
      · exact .version
      · exact .help
    | flagWithValue f value =>
      right
      cases f
      · exact .versionValue value
      · exact .helpValue value
    | shortHelp n =>
      cases n with
      | zero => exact .inl .shortHelp
      | succ n => exact .inr (.shortHelps n)
    | unreadable hname hbytes attached => exact .inr (.unreadable hname hbytes attached)
  · rintro (h | h)
    · cases h with
      | separator => exact ⟨_, .separator⟩
      | shortHelp => exact ⟨_, .shortHelp 0⟩
      | help => exact ⟨_, .flag .help⟩
      | version => exact ⟨_, .flag .version⟩
      | lang => exact ⟨_, .setting .lang none⟩
      | format => exact ⟨_, .setting .format none⟩
      | langValue value => exact ⟨_, .setting .lang (some value)⟩
      | formatValue value => exact ⟨_, .setting .format (some value)⟩
    · cases h with
      | helpValue value => exact ⟨_, .flagWithValue .help value⟩
      | versionValue value => exact ⟨_, .flagWithValue .version value⟩
      | shortHelps n => exact ⟨_, .shortHelp (n + 1)⟩
      | unreadable hname hbytes attached => exact ⟨_, .unreadable hname hbytes attached⟩

end Item

end GreetingCheck.CommandLine
