import EseManager.Lib.Machine
import Mathlib.Data.Finset.Basic
import Mathlib.Data.List.Count

/-!
# Resources that are acquired and released

A program acquires and releases resources, some of which have to be released before others: what was opened inside something is
closed before it. Its operations are checked one by one against the set of the resources that are held.

Nothing here names a program: the resources are any type, and `before` is any relation between them.
-/

namespace Resources

/-- An operation on the resources: an acquisition that succeeds, or a release. -/
inductive Op (ρ : Type*) where
  | acquire (r : ρ)
  | release (r : ρ)
  deriving DecidableEq, Repr

/-- The same operation on other resources. -/
def Op.map {ρ σ : Type*} (f : ρ → σ) : Op ρ → Op σ
  | .acquire r => .acquire (f r)
  | .release r => .release (f r)

variable {ρ : Type*} [DecidableEq ρ]

/-- The resources that are held, as the operations change them. -/
def held : Machine (Finset ρ) (Op ρ) Unit where
  next h
    | .acquire r => insert r h
    | .release r => h.erase r
  out _ _ := ()

@[simp] theorem held_next_acquire (h : Finset ρ) (r : ρ) : held.next h (.acquire r) = insert r h := rfl
@[simp] theorem held_next_release (h : Finset ρ) (r : ρ) : held.next h (.release r) = h.erase r := rfl

/-- A resource is acquired when it is not held, and released when it is and nothing is that has to be released before it. -/
def Allowed (before : ρ → ρ → Prop) (h : Finset ρ) : Op ρ → Prop
  | .acquire r => r ∉ h
  | .release r => r ∈ h ∧ ∀ q ∈ h, ¬before q r

/-- Every operation is allowed, and in the end the same resources are held as before. -/
structure Balanced (before : ρ → ρ → Prop) (h : Finset ρ) (ops : List (Op ρ)) : Prop where
  allowed : held.Along (Allowed before) h ops
  restored : held.run h ops = h

variable {before : ρ → ρ → Prop} {h : Finset ρ} {ops : List (Op ρ)}

theorem balanced_nil : Balanced before h [] := ⟨trivial, rfl⟩

/-- What is acquired first is released last. -/
theorem Balanced.bracket {r : ρ} (hb : Balanced before (insert r h) ops) (hr : r ∉ h)
    (hfirst : ∀ q ∈ insert r h, ¬before q r) : Balanced before h (.acquire r :: (ops ++ [.release r])) := by
  refine ⟨⟨hr, ?_⟩, ?_⟩
  · rw [held_next_acquire, Machine.along_append, hb.restored]
    exact ⟨hb.allowed, ⟨Finset.mem_insert_self r h, hfirst⟩, trivial⟩
  · rw [Machine.run_cons, held_next_acquire, Machine.run_append, hb.restored, Machine.run_cons, held_next_release,
      Machine.run_nil, Finset.erase_insert hr]

/-- Of two that have no order, the first is released first. -/
theorem Balanced.crossed {r q : ρ} (hb : Balanced before (insert q (insert r h)) ops) (hr : r ∉ h) (hq : q ∉ insert r h)
    (hfirst : ∀ p ∈ insert q (insert r h), ¬before p r ∧ ¬before p q) :
    Balanced before h (.acquire r :: .acquire q :: (ops ++ [.release r, .release q])) := by
  have hne : q ≠ r := fun he => hq (he ▸ Finset.mem_insert_self r h)
  have hqh : q ∉ h := fun hm => hq (Finset.mem_insert_of_mem hm)
  have herase : (insert q (insert r h)).erase r = insert q h := by
    rw [Finset.erase_insert_of_ne hne, Finset.erase_insert hr]
  refine ⟨⟨hr, hq, ?_⟩, ?_⟩
  · rw [held_next_acquire, held_next_acquire, Machine.along_append, hb.restored]
    refine ⟨hb.allowed, ⟨?_, fun p hp => (hfirst p hp).1⟩, ?_, trivial⟩
    · exact Finset.mem_insert_of_mem (Finset.mem_insert_self r h)
    · rw [held_next_release, herase]
      refine ⟨Finset.mem_insert_self q h, fun p hp => (hfirst p ?_).2⟩
      exact Finset.insert_subset_insert q (Finset.subset_insert r h) hp
  · rw [Machine.run_cons, Machine.run_cons, held_next_acquire, held_next_acquire, Machine.run_append, hb.restored, Machine.run_cons,
      held_next_release, herase, Machine.run_cons, held_next_release, Machine.run_nil, Finset.erase_insert hqh]

/-- While every operation is allowed, a resource that was not held is acquired as often as it is released, and once more if it is
still held. -/
theorem count_release_of_along (r : ρ) (ha : held.Along (Allowed before) h ops) :
    ops.count (.acquire r) + (if r ∈ h then 1 else 0) = ops.count (.release r) + if r ∈ held.run h ops then 1 else 0 := by
  induction ops generalizing h with
  | nil => rfl
  | cons op ops ih =>
    obtain ⟨hop, hrest⟩ := ha
    have hstep := ih hrest
    rw [Machine.run_cons]
    cases op with
    | acquire q =>
      rw [held_next_acquire] at hstep ⊢
      by_cases hq : q = r
      · subst hq
        have hnot : q ∉ h := hop
        simp only [List.count_cons, Finset.mem_insert_self, hnot, if_true, if_false, beq_self_eq_true] at hstep ⊢
        simpa using hstep
      · simpa [List.count_cons, hq, Ne.symm hq] using hstep
    | release q =>
      rw [held_next_release] at hstep ⊢
      by_cases hq : q = r
      · subst hq
        have hin : q ∈ h := hop.1
        simp [hin] at hstep ⊢
        omega
      · simpa [List.count_cons, hq, Ne.symm hq] using hstep

/-- In a balanced run every resource is released as often as it is acquired. -/
theorem Balanced.count_release (hb : Balanced before h ops) (r : ρ) : ops.count (.release r) = ops.count (.acquire r) := by
  have hcount := count_release_of_along r hb.allowed
  rw [hb.restored] at hcount
  omega

end Resources
