import GreetingCheck.Proofs.Json.Integer
import GreetingCheck.Record.Diagnostic

/-!
# The JSON values that represent a diagnostic

Which JSON values stand for a diagnostic, said without reading one: an object that holds its kind
and its field once each, whatever else it holds, or an array of the two (`Diagnostic.Represents`).
What is looked for once a value has been read, its field under `Diagnostic.ofField` and the entries
or items under `Diagnostic.ofEntries` and `Diagnostic.ofItems`, is held against that.
-/

namespace GreetingCheck

open Json

/-! ## Outcomes -/

namespace Outcome

theorem ofLabel?_eq_some_iff {name : String} {o : Outcome} :
    ofLabel? name = some o ↔ name = o.label := by
  constructor
  · intro h
    unfold ofLabel? at h
    split at h
    · next hname =>
      cases h
      exact hname
    · split at h
      · next hname =>
        cases h
        exact hname
      · cases h
  · intro h
    rw [h]
    exact ofLabel?_label o

theorem named_eq_ok_iff {name : String} {o : Outcome} : named name = .ok o ↔ name = o.label := by
  rw [← ofLabel?_eq_some_iff, named]
  cases ofLabel? name <;> simp

/-- The values that an outcome may be inside another record: its label, or an object of its label
and nothing. -/
inductive DenotedBy (o : Outcome) : Json → Prop
  | label : DenotedBy o (.text o.label)
  | null : DenotedBy o (.object [(o.label, .null)])
  | empty : DenotedBy o (.object [(o.label, .object [])])

theorem ofJson_eq_ok_iff {v : Json} {o : Outcome} : ofJson v = .ok o ↔ o.DenotedBy v := by
  constructor
  · intro h
    unfold ofJson at h
    split at h
    · rw [named_eq_ok_iff.1 h]
      exact .label
    · obtain ⟨o', hname, hvalue⟩ := bind_eq_ok.1 h
      rw [named_eq_ok_iff.1 hname]
      split at hvalue
      · cases hvalue
        exact .null
      · cases hvalue
        exact .empty
      · cases hvalue
    · cases h
    · cases h
  · intro h
    have hname : named o.label = .ok o := named_eq_ok_iff.2 rfl
    rcases h with _ | _ | _
    · exact hname
    · simp [ofJson, hname, bind, Except.bind, pure, Except.pure]
    · simp [ofJson, hname, bind, Except.bind, pure, Except.pure]

end Outcome

namespace Diagnostic

/-! ## The field -/

/-- A value denotes the field of a diagnostic: a text is that string, a code is an integer, and an
outcome is given in one of its forms. -/
def FieldDenotedBy : Diagnostic → Json → Prop
  | .scriptArguments joined, v => v = .text joined
  | .checkArguments joined, v => v = .text joined
  | .functionReturn code, v => ∃ n : Numeral, v = .number n ∧ n.IsInteger code.toInt
  | .status outcome, v => outcome.DenotedBy v

theorem joinedOfJson_eq_ok_iff {v : Json} {s : String} :
    joinedOfJson v = .ok s ↔ v = .text s := by
  cases v <;> simp [joinedOfJson]

theorem codeOfJson_eq_ok_iff {v : Json} {code : Int32} :
    codeOfJson v = .ok code ↔ ∃ n : Numeral, v = .number n ∧ n.IsInteger code.toInt := by
  have hlow : -2 ^ 31 ≤ code.toInt := Int32.le_toInt code
  have hhigh : code.toInt < 2 ^ 31 := Int32.toInt_lt code
  cases v with
  | number n =>
    have hinteger : n.toInt? = some code.toInt ↔ n.IsInteger code.toInt :=
      Numeral.toInt?_eq_some_iff (by omega) (by omega)
    simp only [Json.number.injEq, exists_eq_left', ← hinteger, codeOfJson]
    cases hvalue : n.toInt? with
    | none => simp
    | some i =>
      -- in range the code is the integer; out of range there is no code with that value
      by_cases hfits : Int32.minValue.toInt ≤ i ∧ i ≤ Int32.maxValue.toInt
      · simp only [hfits, and_self, dite_true, Except.ok.injEq, Option.some.injEq]
        constructor
        · intro hcode
          rw [← hcode]
          exact Int32.toInt_ofIntLE.symm
        · intro hi
          rw [← Int32.toInt_inj, Int32.toInt_ofIntLE, hi]
      · simp only [hfits, dite_false, Option.some.injEq]
        constructor
        · intro h
          cases h
        · intro hi
          rw [hi] at hfits
          exact absurd ⟨Int32.minValue_le_toInt code, Int32.toInt_le code⟩ hfits
  | _ => simp [codeOfJson]

theorem ofField_eq_ok_iff {k : Kind} {v : Json} {d : Diagnostic} :
    ofField k v = .ok d ↔ d.kind = k ∧ d.FieldDenotedBy v := by
  have hmap {α : Type} {x : Except Mismatch α} {f : α → Diagnostic} :
      f <$> x = .ok d ↔ ∃ a, x = .ok a ∧ f a = d := by
    cases x <;> simp [Functor.map, Except.map]
  cases k <;> cases d <;>
    simp [ofField, hmap, kind, FieldDenotedBy, joinedOfJson_eq_ok_iff, codeOfJson_eq_ok_iff,
      Outcome.ofJson_eq_ok_iff]

/-! ## The whole value -/

/-- The values that represent a diagnostic. In an object the kind and the field stand once each,
and other entries may stand anywhere, any number of times. -/
inductive RepresentedBy (d : Diagnostic) : Json → Prop
  | object {entries : List (String × Json)} {field : Json}
      (hkind : entries.filter (·.1 = kindKey) = [(kindKey, .text d.kind.name)])
      (hfield : entries.filter (·.1 = d.kind.fieldName) = [(d.kind.fieldName, field)])
      (h : d.FieldDenotedBy field) : RepresentedBy d (.object entries)
  | array {field : Json} (h : d.FieldDenotedBy field) :
      RepresentedBy d (.array [.text d.kind.name, field])

theorem Kind.fieldName_ne (k : Kind) : k.fieldName ≠ kindKey := by
  cases k <;> decide

theorem Kind.ofName?_eq_some_iff {s : String} {k : Kind} : ofName? s = some k ↔ s = k.name := by
  constructor
  · intro h
    have hname := List.find?_some h
    simpa [eq_comm] using hname
  · intro h
    rw [h]
    exact ofName?_name k

/-- The field is found among the entries exactly when it is the only one of its name. -/
theorem ofEntries_eq_ok_iff {k : Kind} {entries : List (String × Json)} {d : Diagnostic} :
    ofEntries k entries = .ok d ↔
      ∃ v, entries.filter (·.1 = k.fieldName) = [(k.fieldName, v)] ∧ ofField k v = .ok d := by
  have hname : ∀ e ∈ entries.filter (·.1 = k.fieldName), e.1 = k.fieldName := by
    intro e he
    simpa using (List.mem_filter.1 he).2
  unfold ofEntries
  -- only how many entries were found matters, and that each has the name
  generalize entries.filter (·.1 = k.fieldName) = found at hname
  match found with
  | [] => simp
  | [(key, v)] =>
    obtain rfl : key = k.fieldName := hname (key, v) List.mem_cons_self
    simp
  | (key, v) :: e :: rest => simp [bind_eq_ok, throw, throwThe, MonadExceptOf.throw]

theorem ofItems_eq_ok_iff {k : Kind} {items : List Json} {d : Diagnostic} :
    ofItems k items = .ok d ↔ ∃ v, items = [v] ∧ ofField k v = .ok d := by
  rcases items with _ | ⟨v, _ | ⟨w, rest⟩⟩
  · simp [ofItems]
  · simp [ofItems]
  · simp [ofItems, bind_eq_ok, throw, throwThe, MonadExceptOf.throw]

end Diagnostic

end GreetingCheck
