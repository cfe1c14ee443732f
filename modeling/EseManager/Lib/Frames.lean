import Mathlib.Data.Nat.Notation

/-!
# Frames in a stream

A receiver that looks for the mark at the start of a frame, and gives up after so many elements.

Nothing here names a protocol: the elements of the stream are any type.
-/

namespace Frames

variable {α : Type*} [DecidableEq α]

/-- Look for the mark among the first `n` elements: what comes behind it, `none` when it is not among them. -/
def find (mark : α) : ℕ → List α → Option (List α)
  | 0, _ => none
  | _ + 1, [] => none
  | n + 1, a :: rest => if a = mark then some rest else find mark n rest

variable {mark : α} {n : ℕ} {idle : List α}

theorem find_nil : find mark n [] = none := by
  cases n with
  | zero => rfl
  | succ n => rfl

/-- A mark behind fewer than `n` other elements is found. -/
theorem find_of_lt (h : mark ∉ idle) (hn : idle.length < n) (rest : List α) : find mark n (idle ++ mark :: rest) = some rest := by
  induction idle generalizing n with
  | nil =>
    cases n with
    | zero => exact absurd hn (Nat.not_lt_zero _)
    | succ n => exact if_pos rfl
  | cons a idle ih =>
    cases n with
    | zero => exact absurd hn (Nat.not_lt_zero _)
    | succ n =>
      have ha : a ≠ mark := fun he => h (he ▸ List.mem_cons_self)
      have hrest : find mark n (idle ++ mark :: rest) = some rest :=
        ih (fun hm => h (List.mem_cons_of_mem a hm)) (Nat.lt_of_succ_lt_succ hn)
      rw [List.cons_append, find, if_neg ha, hrest]

/-- Behind `n` or more it is not. -/
theorem find_of_le (h : mark ∉ idle) (hn : n ≤ idle.length) (rest : List α) : find mark n (idle ++ rest) = none := by
  induction idle generalizing n with
  | nil =>
    cases n with
    | zero => rfl
    | succ n => exact absurd hn (Nat.not_succ_le_zero _)
  | cons a idle ih =>
    cases n with
    | zero => rfl
    | succ n =>
      have ha : a ≠ mark := fun he => h (he ▸ List.mem_cons_self)
      have hrest : find mark n (idle ++ rest) = none := ih (fun hm => h (List.mem_cons_of_mem a hm)) (Nat.le_of_succ_le_succ hn)
      rw [List.cons_append, find, if_neg ha, hrest]

end Frames
