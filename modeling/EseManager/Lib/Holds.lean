import EseManager.Lib.Machine
import Mathlib.Data.Finset.Card
import Mathlib.Logic.Function.Basic
import Std.Data.ExtTreeMap

/-!
# Holds on a shared resource

The abstract side of a reference count: a client `k` has `h k` holds on one resource, the resource is in use while some
client has one, and it can be given up when the last hold goes. `Tracks` relates the counts to a finite map that keeps an
entry for exactly the clients that hold something, with the count in the entry, which is how programs store them.

Nothing here names a program: the clients are any type with an order, the entries any type with a count.
-/

/-- How many holds each client has. -/
abbrev Holds (κ : Type*) := κ → Nat

/-- What a client, or its death, does to its holds. -/
inductive HoldOp (κ : Type*) where
  | acquire (k : κ)
  | release (k : κ)
  | cancel (k : κ)
  | cancelAll
  | keep
  deriving DecidableEq, Repr

namespace Holds

variable {κ : Type*} [DecidableEq κ]

/-- The holds after an operation. Releasing without a hold does nothing. -/
def apply (h : Holds κ) : HoldOp κ → Holds κ
  | .acquire k => Function.update h k (h k + 1)
  | .release k => Function.update h k (h k - 1)
  | .cancel k => Function.update h k 0
  | .cancelAll => fun _ => 0
  | .keep => h

@[simp] theorem apply_acquire (h : Holds κ) (k : κ) : h.apply (.acquire k) = Function.update h k (h k + 1) := rfl
@[simp] theorem apply_release (h : Holds κ) (k : κ) : h.apply (.release k) = Function.update h k (h k - 1) := rfl
@[simp] theorem apply_cancel (h : Holds κ) (k : κ) : h.apply (.cancel k) = Function.update h k 0 := rfl
@[simp] theorem apply_cancelAll (h : Holds κ) : h.apply .cancelAll = fun _ => 0 := rfl
@[simp] theorem apply_keep (h : Holds κ) : h.apply .keep = h := rfl

/-- Some client holds the resource. -/
def InUse (h : Holds κ) : Prop := ∃ k, 0 < h k

/-- The only hold left is one of `k`. -/
def LastHold (h : Holds κ) (k : κ) : Prop := h k = 1 ∧ ∀ j, j ≠ k → h j = 0

/-- No client has `n` holds or more. -/
def Below (n : Nat) (h : Holds κ) : Prop := ∀ k, h k < n

omit [DecidableEq κ] in
theorem not_inUse_iff (h : Holds κ) : ¬h.InUse ↔ ∀ k, h k = 0 := by
  simp [InUse]

/-- Releasing a hold leaves the resource free exactly when it was the last one. -/
theorem lastHold_iff (h : Holds κ) (k : κ) (hk : 0 < h k) : h.LastHold k ↔ ¬(h.apply (.release k)).InUse := by
  rw [not_inUse_iff]
  constructor
  · rintro ⟨h1, h2⟩ j
    by_cases hjk : j = k
    · simp [hjk, h1]
    · simpa [hjk] using h2 j hjk
  · intro h0
    refine ⟨?_, fun j hjk => by simpa [hjk] using h0 j⟩
    have := h0 k
    simp only [apply_release, Function.update_self] at this
    omega

/-- An operation gives a client at most one hold more. -/
theorem apply_le (h : Holds κ) (op : HoldOp κ) (k : κ) : h.apply op k ≤ h k + 1 := by
  cases op with
  | acquire j =>
    by_cases hjk : k = j
    · simp [hjk]
    · simp [hjk]
  | release j =>
    by_cases hjk : k = j
    · simp only [hjk, apply_release, Function.update_self]
      omega
    · simp [hjk]
  | cancel j =>
    by_cases hjk : k = j
    · simp [hjk]
    · simp [hjk]
  | cancelAll => simp
  | keep => simp

/-! ## Holds that back users -/

section Users

variable {τ : Type*} [DecidableEq τ] {active active' : κ → τ → Prop} {h : Holds κ}

/-- A client has a hold for each of its active users. -/
def Backs (h : Holds κ) (active : κ → τ → Prop) : Prop :=
  ∀ k (us : Finset τ), (∀ u ∈ us, active k u) → us.card ≤ h k

omit [DecidableEq κ] [DecidableEq τ] in
/-- A client with an active user has a hold. -/
theorem Backs.pos (hb : h.Backs active) {k : κ} {u : τ} (hu : active k u) : 0 < h k := by
  have hcard := hb k {u} (by simpa using hu)
  rw [Finset.card_singleton] at hcard
  exact hcard

omit [DecidableEq κ] [DecidableEq τ] in
/-- Holds go on backing users when no client with active users loses any. -/
theorem Backs.mono (hb : h.Backs active) (hact : ∀ k u, active' k u → active k u) {h' : Holds κ}
    (hle : ∀ k u, active' k u → h k ≤ h' k) : h'.Backs active' := by
  intro k us hus
  rcases us.eq_empty_or_nonempty with hemp | hne
  · simp [hemp]
  · obtain ⟨u, hu⟩ := hne
    exact Nat.le_trans (hb k us fun v hv => hact k v (hus v hv)) (hle k u (hus u hu))

/-- A new hold backs one more user of its client. -/
theorem Backs.acquire (hb : h.Backs active) {k : κ} {u : τ}
    (hact : ∀ j v, active' j v → active j v ∨ (j = k ∧ v = u)) : (h.apply (.acquire k)).Backs active' := by
  intro j us hus
  by_cases hjk : j = k
  · subst hjk
    have hcard := hb j (us.erase u) (by
      intro v hv
      obtain ⟨hvu, hv⟩ := Finset.mem_erase.1 hv
      exact (hact j v (hus v hv)).resolve_right (fun he => hvu he.2))
    have hle : us.card - 1 ≤ (us.erase u).card := Finset.pred_card_le_card_erase
    rw [apply_acquire, Function.update_self]
    omega
  · have hcard := hb j us (by
      intro v hv
      exact (hact j v (hus v hv)).resolve_right (fun he => hjk he.1))
    rw [apply_acquire, Function.update_of_ne hjk]
    exact hcard

/-- A hold can go together with an active user of its client. -/
theorem Backs.release (hb : h.Backs active) {k : κ} {u : τ} (hu : active k u)
    (hact : ∀ j v, active' j v → active j v ∧ ¬(j = k ∧ v = u)) : (h.apply (.release k)).Backs active' := by
  intro j us hus
  by_cases hjk : j = k
  · subst hjk
    have hnot : u ∉ us := by
      intro hmem
      exact (hact j u (hus u hmem)).2 ⟨rfl, rfl⟩
    have hcard := hb j (insert u us) (by
      intro v hv
      rcases Finset.mem_insert.1 hv with heq | hv
      · rw [heq]
        exact hu
      · exact (hact j v (hus v hv)).1)
    rw [Finset.card_insert_of_notMem hnot] at hcard
    rw [apply_release, Function.update_self]
    omega
  · have hcard := hb j us (fun v hv => (hact j v (hus v hv)).1)
    rw [apply_release, Function.update_of_ne hjk]
    exact hcard

end Users

/-! ## Holds along a run -/

section Run

variable {σ ι ω : Type*} (M : Machine σ ι ω) (op : ι → ω → HoldOp κ)

/-- Holds kept as a history variable grow by at most one at a step. -/
theorem run_track_le (s : σ) (h : Holds κ) (is : List ι) (k : κ) :
    ((M.track fun h i o => h.apply (op i o)).run (s, h) is).2 k ≤ h k + is.length := by
  induction is generalizing s h with
  | nil => simp
  | cons i is ih =>
    have hrest := ih (M.next s i) (h.apply (op i (M.out s i)))
    have hone := apply_le h (op i (M.out s i)) k
    rw [List.length_cons]
    exact Nat.le_trans hrest (by omega)

/-- From no holds, a run of fewer than `n` steps keeps every client below `n` holds. -/
theorem always_below_of_length_lt (s : σ) {is : List ι} {n : Nat} (hn : is.length < n) :
    (M.track fun (h : Holds κ) i o => h.apply (op i o)).Always (fun sh => sh.2.Below n) (s, fun _ => 0) is := by
  intro pre hpre k
  have hle := run_track_le M op s (fun _ => 0) pre k
  have hlen := hpre.length_le
  simp only [Nat.zero_add] at hle
  omega

end Run

end Holds

/-! ## A map of counts -/

section Tracks

variable {κ β : Type*} {cmp : κ → κ → Ordering} [Std.TransCmp cmp]

/-- The map keeps an entry for exactly the clients with holds, and the entry's count is their number. -/
def Tracks (count : β → Int) (m : Std.ExtTreeMap κ β cmp) (h : Holds κ) : Prop :=
  ∀ k, match m[k]? with
    | none => h k = 0
    | some b => 0 < h k ∧ count b = h k

variable {count : β → Int} {m : Std.ExtTreeMap κ β cmp} {h : Holds κ}

theorem Tracks.of_none (ht : Tracks count m h) {k : κ} (hk : m[k]? = none) : h k = 0 := by
  have := ht k
  rwa [hk] at this

theorem Tracks.of_some (ht : Tracks count m h) {k : κ} {b : β} (hk : m[k]? = some b) : 0 < h k ∧ count b = h k := by
  have := ht k
  rwa [hk] at this

/-- The keys of the map are the clients with holds. -/
theorem Tracks.mem_iff (ht : Tracks count m h) (k : κ) : k ∈ m ↔ 0 < h k := by
  rw [Std.ExtTreeMap.mem_iff_isSome_getElem?]
  cases hm : m[k]? with
  | none => simp [ht.of_none hm]
  | some b => simp [(ht.of_some hm).1]

/-- The map is empty exactly when nobody holds the resource. -/
theorem Tracks.isEmpty_iff (ht : Tracks count m h) : m.isEmpty = true ↔ ¬h.InUse := by
  rw [Std.ExtTreeMap.isEmpty_iff, Std.ExtTreeMap.eq_empty_iff_forall_not_mem, Holds.not_inUse_iff]
  simp only [ht.mem_iff, Nat.not_lt, Nat.le_zero]

/-- The empty map tracks no holds. -/
theorem Tracks.empty : Tracks count (∅ : Std.ExtTreeMap κ β cmp) (fun _ => 0) := by
  intro k
  simp

variable [DecidableEq κ] [Std.LawfulEqCmp cmp]

/-- Writing an entry with a positive count tracks the holds with that client's number replaced. -/
theorem Tracks.insert (ht : Tracks count m h) (k : κ) {b : β} {n : Nat} (hn : 0 < n) (hb : count b = n) :
    Tracks count (m.insert k b) (Function.update h k n) := by
  intro j
  by_cases hjk : k = j
  · subst hjk
    simpa using ⟨hn, hb⟩
  · have hj := ht j
    rw [Std.ExtTreeMap.getElem?_insert]
    simpa [hjk, Function.update_of_ne (Ne.symm hjk)] using hj

/-- Removing an entry tracks the holds with that client's number set to zero. -/
theorem Tracks.erase (ht : Tracks count m h) (k : κ) : Tracks count (m.erase k) (Function.update h k 0) := by
  intro j
  by_cases hjk : k = j
  · subst hjk
    simp
  · have hj := ht j
    rw [Std.ExtTreeMap.getElem?_erase]
    simpa [hjk, Function.update_of_ne (Ne.symm hjk)] using hj

end Tracks
