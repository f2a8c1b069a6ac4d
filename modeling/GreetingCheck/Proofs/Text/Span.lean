import Mathlib.Data.List.TakeWhile

/-!
# Where a run of characters ends

What is read as a run of characters of one class ends in front of a character of another, or with
the text (`head_dropWhile`). Nothing that begins in this way makes a run longer
(`takeWhile_append_of_head`), and nothing of it is skipped (`dropWhile_of_head`).
-/

namespace GreetingCheck.Text

variable {α : Type} {p : α → Bool}

theorem head_dropWhile (p : α → Bool) (text : List α) :
    ∀ c ∈ (text.dropWhile p).head?, p c = false := by
  intro c hc
  have hhead := List.head?_dropWhile_not p text
  rw [Option.mem_def.1 hc] at hhead
  exact hhead

theorem dropWhile_of_head {rest : List α} (h : ∀ c ∈ rest.head?, p c = false) :
    rest.dropWhile p = rest := by
  cases rest with
  | nil => rfl
  | cons c rest => rw [List.dropWhile_cons, h c rfl, if_neg Bool.false_ne_true]

theorem takeWhile_append_of_head {rest : List α} (h : ∀ c ∈ rest.head?, p c = false)
    (front : List α) : (front ++ rest).takeWhile p = front.takeWhile p := by
  have hstop : rest.takeWhile p = [] := by
    cases rest with
    | nil => rfl
    | cons c rest => rw [List.takeWhile_cons, h c rfl, if_neg Bool.false_ne_true]
  rw [List.takeWhile_append, hstop, List.append_nil]
  split
  · next hall => exact ((List.takeWhile_prefix p).eq_of_length hall).symm
  · rfl

end GreetingCheck.Text
