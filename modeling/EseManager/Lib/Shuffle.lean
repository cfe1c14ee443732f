import Mathlib.Data.List.Basic

/-!
# Shuffles of two lists

Two sequences of steps that run at the same time are a shuffle of the two lists: each keeps its order, and that is all that is
known. `shuffles` lists all of them, so that what is to be shown of every one can be computed.

Nothing here names a program.
-/

variable {α : Type*}

/-- `zs` is made of the elements of `xs` and those of `ys`, each in their order. -/
inductive Shuffle : List α → List α → List α → Prop where
  | nil : Shuffle [] [] []
  | left {xs ys zs : List α} (x : α) (h : Shuffle xs ys zs) : Shuffle (x :: xs) ys (x :: zs)
  | right {xs ys zs : List α} (y : α) (h : Shuffle xs ys zs) : Shuffle xs (y :: ys) (y :: zs)

namespace Shuffle

/-- The list on the right alone. -/
theorem nil_left (ys : List α) : Shuffle [] ys ys := by
  induction ys with
  | nil => exact .nil
  | cons y ys ih => exact .right y ih

/-- With nothing on the left, the shuffle is the list on the right. -/
theorem eq_of_nil_left {ys zs : List α} (h : Shuffle [] ys zs) : zs = ys := by
  induction ys generalizing zs with
  | nil =>
    cases h
    rfl
  | cons y ys ih =>
    cases h with
    | right _ h => rw [ih h]

/-- One list after the other. -/
theorem append (xs ys : List α) : Shuffle xs ys (xs ++ ys) := by
  induction xs with
  | nil => exact nil_left ys
  | cons x xs ih => exact .left x ih

/-- One list after the other, the other way round. -/
theorem append_swap (xs ys : List α) : Shuffle xs ys (ys ++ xs) := by
  induction ys with
  | nil =>
    induction xs with
    | nil => exact .nil
    | cons x xs ih => exact .left x ih
  | cons y ys ih => exact .right y ih

end Shuffle

/-! ## All shuffles -/

/-- The shuffles of `x :: xs` with a list, where `rest` gives those of `xs`: the first element is `x`, or the first of the
list. -/
def shufflesCons (x : α) (rest : List α → List (List α)) : List α → List (List α)
  | [] => (rest []).map (x :: ·)
  | y :: ys => (rest (y :: ys)).map (x :: ·) ++ (shufflesCons x rest ys).map (y :: ·)

/-- All shuffles of two lists. -/
def shuffles : List α → List α → List (List α)
  | [], ys => [ys]
  | x :: xs, ys => shufflesCons x (shuffles xs) ys

/-- `shuffles` lists the shuffles. -/
theorem mem_shuffles_iff {xs ys zs : List α} : zs ∈ shuffles xs ys ↔ Shuffle xs ys zs := by
  induction xs generalizing ys zs with
  | nil =>
    rw [shuffles, List.mem_singleton]
    constructor
    · intro h
      rw [h]
      exact Shuffle.nil_left ys
    · exact Shuffle.eq_of_nil_left
  | cons x xs ihx =>
    rw [shuffles]
    induction ys generalizing zs with
    | nil =>
      rw [shufflesCons, List.mem_map]
      constructor
      · intro h
        obtain ⟨zs', hzs, rfl⟩ := h
        exact .left x (ihx.1 hzs)
      · intro h
        cases h with
        | left _ h => exact ⟨_, ihx.2 h, rfl⟩
    | cons y ys ihy =>
      rw [shufflesCons, List.mem_append, List.mem_map, List.mem_map]
      constructor
      · intro h
        rcases h with ⟨zs', hzs, rfl⟩ | ⟨zs', hzs, rfl⟩
        · exact .left x (ihx.1 hzs)
        · exact .right y (ihy.1 hzs)
      · intro h
        cases h with
        | left _ h => exact Or.inl ⟨_, ihx.2 h, rfl⟩
        | right _ h => exact Or.inr ⟨_, ihy.2 h, rfl⟩
