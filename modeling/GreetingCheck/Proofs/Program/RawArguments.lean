import Mathlib.Data.List.Forall2
import GreetingCheck.Proofs.Program.Run

/-!
# Arguments that are not text

A raw argument is any sequence of bytes. One that is text is checked as it is; one that is not has a
replacement character in the place of each malformed sequence (`TakenAs`), and the greeting has none.
So bytes that are no text never make a check succeed, and no others than those of the greeting do
(`arguments_taken_faithfully`).
-/

namespace GreetingCheck.Program

open CommandLine

/-- What a check makes of a raw argument: of a text the text itself, and of anything else some text
with a replacement character in it. -/
inductive TakenAs : Raw → String → Prop
  | text (s : String) : TakenAs (raw s) s
  | malformed {bytes : Raw} {s : String} (hbytes : ∀ text, bytes ≠ raw text)
      (hs : Text.Utf8.replacement ∈ s.toList) : TakenAs bytes s

theorem takenAs_decodeLossy (bytes : Raw) :
    TakenAs bytes (.ofList (Text.Utf8.decodeLossy bytes)) := by
  by_cases htext : ∃ s, bytes = raw s
  · obtain ⟨s, rfl⟩ := htext
    have hshown : String.ofList (Text.Utf8.decodeLossy (raw s)) = s := by
      rw [raw, Text.Utf8.decodeLossy_encode, String.ofList_toList]
    rw [hshown]
    exact .text s
  · have hbytes : ∀ s, bytes ≠ raw s := not_exists.1 htext
    refine .malformed hbytes ?_
    rw [String.toList_ofList]
    exact Text.Utf8.replacement_mem_decodeLossy (ne_encode_of_ne_raw hbytes)

/-- The arguments of a check are the raw ones in their number and order, each taken as it is or with
replacement characters, and the check succeeds exactly if the first of them is spelled by the five
bytes of the greeting. -/
theorem arguments_taken_faithfully (args : List Raw) :
    List.Forall₂ TakenAs args (argumentsOfRaw args).toList ∧
      ((argumentsOfRaw args).check = .success ↔
        args.head? = some [0x68, 0x65, 0x6C, 0x6C, 0x6F]) := by
  constructor
  · show List.Forall₂ TakenAs args (args.map fun bytes => .ofList (Text.Utf8.decodeLossy bytes))
    rw [List.forall₂_map_right_iff, List.forall₂_same]
    intro bytes _
    exact takenAs_decodeLossy bytes
  · have hgreeting : raw "hello" = [0x68, 0x65, 0x6C, 0x6C, 0x6F] := by decide
    rw [check_argumentsOfRaw, hgreeting, ite_eq_left_iff]
    exact ⟨fun h => Decidable.by_contra fun hne => Outcome.noConfusion (h hne),
      fun hfirst hne => absurd hfirst hne⟩

/-- A longer spelling of a letter than needed stands for no letter, and a character that is cut off
does not leave the letters before it alone. -/
example : (argumentsOfRaw [0xC1 :: 0xA8 :: raw "ello", raw "hello" ++ [0xF0, 0x9F]]).toList =
    ["\uFFFD\uFFFDello", "hello\uFFFD"] := by
  cbv

end GreetingCheck.Program
