import Mathlib.Data.List.Basic
import Mathlib.Data.List.Infix

/-!
# Machines and their runs

A machine answers inputs one at a time: from a state and an input, the next state and an output. A run is the list of the
inputs. Four notions cover what is said about runs:

* `Along P s is`: every step of the run from `s` on the inputs `is` satisfies `P`, a predicate on the state before the step
  and its input;
* `Always I s is`: every state of the run, the first one included, satisfies `I`;
* `Since P I s is`: some step of the run satisfies `P`, and every state after it satisfies `I`;
* `track`: the machine with a history variable, computed from the inputs and the outputs.

Nothing here names a program. The rules are the ones of invariants: what one step keeps, a run keeps.
-/

/-- A machine with states `σ`, inputs `ι` and outputs `ω`. -/
structure Machine (σ ι ω : Type*) where
  next : σ → ι → σ
  out : σ → ι → ω

namespace Machine

variable {σ ι ω α : Type*}

/-- The state a run ends in. -/
def run (M : Machine σ ι ω) (s : σ) (is : List ι) : σ := is.foldl M.next s

/-- The outputs of a run, in order. -/
def outs (M : Machine σ ι ω) : σ → List ι → List ω
  | _, [] => []
  | s, i :: is => M.out s i :: M.outs (M.next s i) is

/-- Every step of the run satisfies `P`. -/
def Along (M : Machine σ ι ω) (P : σ → ι → Prop) : σ → List ι → Prop
  | _, [] => True
  | s, i :: is => P s i ∧ M.Along P (M.next s i) is

/-- Every state of the run satisfies `I`. -/
def Always (M : Machine σ ι ω) (I : σ → Prop) (s : σ) (is : List ι) : Prop :=
  ∀ pre, pre <+: is → I (M.run s pre)

/-- Some step of the run satisfies `P`, and every state since then satisfies `I`. -/
def Since (M : Machine σ ι ω) (P : σ → ι → Prop) (I : σ → Prop) (s : σ) (is : List ι) : Prop :=
  ∃ pre i post, is = pre ++ i :: post ∧ P (M.run s pre) i ∧ M.Always I (M.run s (pre ++ [i])) post

@[simp] theorem run_nil (M : Machine σ ι ω) (s : σ) : M.run s [] = s := rfl

@[simp] theorem run_cons (M : Machine σ ι ω) (s : σ) (i : ι) (is : List ι) :
    M.run s (i :: is) = M.run (M.next s i) is := rfl

/-- A run in two parts. -/
theorem run_append (M : Machine σ ι ω) (s : σ) (is js : List ι) :
    M.run s (is ++ js) = M.run (M.run s is) js := by
  simp [run, List.foldl_append]

/-- The outputs of a run in two parts. -/
theorem outs_append (M : Machine σ ι ω) (s : σ) (is js : List ι) :
    M.outs s (is ++ js) = M.outs s is ++ M.outs (M.run s is) js := by
  induction is generalizing s with
  | nil => rfl
  | cons i is ih => simp [outs, ih]

/-! ## Steps of a run -/

@[simp] theorem along_nil (M : Machine σ ι ω) (P : σ → ι → Prop) (s : σ) : M.Along P s [] := trivial

@[simp] theorem along_cons (M : Machine σ ι ω) (P : σ → ι → Prop) (s : σ) (i : ι) (is : List ι) :
    M.Along P s (i :: is) ↔ P s i ∧ M.Along P (M.next s i) is := Iff.rfl

/-- A decidable predicate can be tested along a run. -/
instance decidableAlong (M : Machine σ ι ω) (P : σ → ι → Prop) [∀ t i, Decidable (P t i)] :
    (s : σ) → (is : List ι) → Decidable (M.Along P s is)
  | _, [] => isTrue trivial
  | s, i :: is =>
    have := decidableAlong M P (M.next s i) is
    inferInstanceAs (Decidable (P s i ∧ M.Along P (M.next s i) is))

/-- The steps of a run in two parts. -/
theorem along_append (M : Machine σ ι ω) (P : σ → ι → Prop) (s : σ) (is js : List ι) :
    M.Along P s (is ++ js) ↔ M.Along P s is ∧ M.Along P (M.run s is) js := by
  induction is generalizing s with
  | nil => simp
  | cons i is ih => simp [ih, and_assoc]

/-- A weaker predicate holds along the same run. -/
theorem Along.mono {M : Machine σ ι ω} {P Q : σ → ι → Prop} {s : σ} {is : List ι} (h : M.Along P s is)
    (hPQ : ∀ t i, P t i → Q t i) : M.Along Q s is := by
  induction is generalizing s with
  | nil => trivial
  | cons i is ih => exact ⟨hPQ _ _ h.1, ih h.2⟩

/-- What every input of a run satisfies in every state holds along the run. -/
theorem along_of_forall_mem (M : Machine σ ι ω) {P : σ → ι → Prop} {is : List ι} (h : ∀ i ∈ is, ∀ t, P t i) (s : σ) :
    M.Along P s is := by
  induction is generalizing s with
  | nil => trivial
  | cons i is ih => exact ⟨h i List.mem_cons_self s, ih (fun j hj => h j (List.mem_cons_of_mem i hj)) _⟩

/-- Predicates that agree on every step hold along the same runs. -/
theorem along_congr (M : Machine σ ι ω) {P Q : σ → ι → Prop} (h : ∀ t i, P t i ↔ Q t i) (s : σ) (is : List ι) :
    M.Along P s is ↔ M.Along Q s is :=
  ⟨fun hp => hp.mono fun t i => (h t i).1, fun hq => hq.mono fun t i => (h t i).2⟩

/-- Two predicates hold along a run when both do. -/
theorem along_and {M : Machine σ ι ω} {P Q : σ → ι → Prop} {s : σ} {is : List ι} :
    M.Along (fun t i => P t i ∧ Q t i) s is ↔ M.Along P s is ∧ M.Along Q s is := by
  induction is generalizing s with
  | nil => simp
  | cons i is ih =>
    simp only [along_cons, ih]
    tauto

/-- What all outputs of a run satisfy, those of every step do. -/
theorem forall_mem_flatten_outs (M : Machine σ ι (List ω)) {P : ω → Prop} (s : σ) (is : List ι) :
    (∀ o ∈ (M.outs s is).flatten, P o) ↔ M.Along (fun t i => ∀ o ∈ M.out t i, P o) s is := by
  induction is generalizing s with
  | nil => simp [outs]
  | cons i is ih =>
    rw [along_cons, ← ih]
    simp only [outs, List.flatten_cons, List.mem_append]
    exact ⟨fun h => ⟨fun o ho => h o (Or.inl ho), fun o ho => h o (Or.inr ho)⟩, fun h o ho => ho.elim (h.1 o) (h.2 o)⟩

/-- Along a run is at every input of it, in the state that the inputs before it lead to. -/
theorem along_iff_forall_initial (M : Machine σ ι ω) {P : σ → ι → Prop} {s : σ} {is : List ι} :
    M.Along P s is ↔ ∀ pre i, pre ++ [i] <+: is → P (M.run s pre) i := by
  constructor
  · rintro h pre i ⟨post, rfl⟩
    rw [List.append_assoc, along_append] at h
    exact h.2.1
  · intro h
    induction is generalizing s with
    | nil => trivial
    | cons i is ih =>
      refine ⟨h [] i ⟨is, rfl⟩, ih fun pre j hpre => ?_⟩
      exact h (i :: pre) j (List.cons_prefix_cons.2 ⟨rfl, hpre⟩)

/-! ## Invariants -/

/-- The invariant rule: what every step that satisfies `P` keeps holds at the end of a run of such steps. -/
theorem run_inv {M : Machine σ ι ω} {P : σ → ι → Prop} {I : σ → Prop}
    (hstep : ∀ t i, I t → P t i → I (M.next t i)) {s : σ} {is : List ι} (h0 : I s) (h : M.Along P s is) :
    I (M.run s is) := by
  induction is generalizing s with
  | nil => exact h0
  | cons i is ih => exact ih (hstep s i h0 h.1) h.2

/-- The invariant rule for what every step keeps. -/
theorem run_keeps {M : Machine σ ι ω} {I : σ → Prop} (hstep : ∀ t i, I t → I (M.next t i)) {s : σ} (h0 : I s)
    (is : List ι) : I (M.run s is) := by
  induction is generalizing s with
  | nil => exact h0
  | cons i is ih => exact ih (hstep s i h0)

/-- The invariant rule, for every state of the run. -/
theorem always_inv {M : Machine σ ι ω} {P : σ → ι → Prop} {I : σ → Prop}
    (hstep : ∀ t i, I t → P t i → I (M.next t i)) {s : σ} {is : List ι} (h0 : I s) (h : M.Along P s is) :
    M.Always I s is := by
  rintro pre ⟨post, rfl⟩
  exact run_inv hstep h0 ((along_append M P s pre post).1 h).1

/-- Under an invariant, a predicate that every step satisfies holds along the run. -/
theorem along_of_inv {M : Machine σ ι ω} {P Q : σ → ι → Prop} {I : σ → Prop}
    (hstep : ∀ t i, I t → P t i → I (M.next t i) ∧ Q t i) {s : σ} {is : List ι} (h0 : I s) (h : M.Along P s is) :
    M.Along Q s is := by
  induction is generalizing s with
  | nil => trivial
  | cons i is ih =>
    obtain ⟨hI, hQ⟩ := hstep s i h0 h.1
    exact ⟨hQ, ih hI h.2⟩

/-- The states of a run are the first one and those of the rest. -/
theorem always_cons {M : Machine σ ι ω} {I : σ → Prop} {s : σ} {i : ι} {is : List ι} :
    M.Always I s (i :: is) ↔ I s ∧ M.Always I (M.next s i) is := by
  constructor
  · intro h
    refine ⟨h [] List.nil_prefix, fun pre hpre => ?_⟩
    exact h (i :: pre) (List.cons_prefix_cons.2 ⟨rfl, hpre⟩)
  · rintro ⟨h0, h⟩ pre hpre
    cases pre with
    | nil => exact h0
    | cons j pre =>
      obtain ⟨rfl, hp⟩ := List.cons_prefix_cons.1 hpre
      exact h pre hp

/-- The first state of a run is one of its states. -/
theorem Always.head {M : Machine σ ι ω} {I : σ → Prop} {s : σ} {is : List ι} (h : M.Always I s is) : I s :=
  h [] List.nil_prefix

/-- What holds in every state of a run holds after every step. -/
theorem Always.along_next {M : Machine σ ι ω} {I : σ → Prop} {s : σ} {is : List ι} (h : M.Always I s is) :
    M.Along (fun t i => I (M.next t i)) s is := by
  induction is generalizing s with
  | nil => trivial
  | cons i is ih =>
    have htail := (always_cons.1 h).2
    exact ⟨htail.head, ih htail⟩

/-- The exact form of the invariant rule: when a step from an `I`-state on which `J` holds keeps `J` exactly under `Q`, and
always keeps `I`, then `J` holds in every state of a run exactly when every step of it satisfies `Q`. -/
theorem always_iff_along {M : Machine σ ι ω} {P Q : σ → ι → Prop} {I J : σ → Prop}
    (hI : ∀ t i, I t → P t i → I (M.next t i)) (hJ : ∀ t i, I t → P t i → J t → (J (M.next t i) ↔ Q t i))
    {s : σ} {is : List ι} (h0 : I s) (hJ0 : J s) (h : M.Along P s is) :
    M.Always J s is ↔ M.Along Q s is := by
  induction is generalizing s with
  | nil =>
    refine ⟨fun _ => trivial, fun _ pre hpre => ?_⟩
    rw [List.prefix_nil.1 hpre]
    exact hJ0
  | cons i is ih =>
    have hkey := hJ s i h0 h.1 hJ0
    rw [always_cons, along_cons]
    constructor
    · rintro ⟨-, ha⟩
      exact ⟨hkey.1 ha.head, (ih (hI s i h0 h.1) ha.head h.2).1 ha⟩
    · rintro ⟨hq, ha⟩
      exact ⟨hJ0, (ih (hI s i h0 h.1) (hkey.2 hq) h.2).2 ha⟩

/-- The states of a run in two parts. -/
theorem always_append_singleton {M : Machine σ ι ω} {I : σ → Prop} {s : σ} {is : List ι} {i : ι} :
    M.Always I s (is ++ [i]) ↔ M.Always I s is ∧ I (M.run s (is ++ [i])) := by
  constructor
  · intro h
    exact ⟨fun pre hpre => h pre (hpre.trans (List.prefix_append is [i])), h _ (List.prefix_refl _)⟩
  · rintro ⟨h, hlast⟩ pre hpre
    rcases List.prefix_concat_iff.1 hpre with rfl | hpre
    · exact hlast
    · exact h pre hpre

/-! ## Since a step of the run -/

theorem not_since_nil (M : Machine σ ι ω) (P : σ → ι → Prop) (I : σ → Prop) (s : σ) : ¬M.Since P I s [] := by
  rintro ⟨pre, i, post, heq, -⟩
  simp at heq

/-- What holds since some step of a run holds at its end. -/
theorem Since.holds {M : Machine σ ι ω} {P : σ → ι → Prop} {I : σ → Prop} {s : σ} {is : List ι} (h : M.Since P I s is) :
    I (M.run s is) := by
  obtain ⟨pre, i, post, rfl, -, h⟩ := h
  have hlast := h post (List.prefix_refl _)
  rw [← run_append, List.append_assoc] at hlast
  exact hlast

/-- With a step more: the state after it satisfies `I`, and it is a step of `P` or there has been one. -/
theorem since_append_singleton {M : Machine σ ι ω} {P : σ → ι → Prop} {I : σ → Prop} {s : σ} {is : List ι} {i : ι} :
    M.Since P I s (is ++ [i]) ↔ I (M.run s (is ++ [i])) ∧ (M.Since P I s is ∨ P (M.run s is) i) := by
  constructor
  · intro h
    refine ⟨h.holds, ?_⟩
    obtain ⟨pre, j, post, heq, hP, hI⟩ := h
    rcases List.eq_nil_or_concat post with rfl | ⟨post, k, rfl⟩
    · obtain ⟨rfl, hj⟩ := List.append_inj' heq rfl
      rw [List.singleton_inj.1 hj]
      exact Or.inr hP
    · rw [List.concat_eq_append, ← List.cons_append, ← List.append_assoc] at heq
      obtain ⟨rfl, -⟩ := List.append_inj' heq rfl
      rw [List.concat_eq_append] at hI
      exact Or.inl ⟨pre, j, post, rfl, hP, (always_append_singleton.1 hI).1⟩
  · rintro ⟨hlast, ⟨pre, j, post, rfl, hP, hI⟩ | hP⟩
    · refine ⟨pre, j, post ++ [i], by simp, hP, always_append_singleton.2 ⟨hI, ?_⟩⟩
      rw [← run_append]
      simpa using hlast
    · refine ⟨is, i, [], rfl, hP, fun pre hpre => ?_⟩
      rw [List.prefix_nil.1 hpre]
      exact hlast

/-- What an `I`-state comes with from the step it becomes one, and loses only by a step of `P` from one to another, it has exactly
when there has been no such step since. -/
theorem iff_not_since {M : Machine σ ι ω} {P : σ → ι → Prop} {I J L : σ → Prop} (hJ : ∀ t i, J t → J (M.next t i))
    (hP : ∀ t i, P t i → I t) (hL : ∀ t i, J t → (L (M.next t i) ↔ I (M.next t i) ∧ (I t → L t ∧ ¬P t i))) {s : σ} (h0 : J s)
    (hL0 : L s ↔ I s) (is : List ι) : L (M.run s is) ↔ I (M.run s is) ∧ ¬M.Since P I s is := by
  induction is using List.reverseRecOn with
  | nil =>
    rw [run_nil, hL0]
    exact ⟨fun h => ⟨h, not_since_nil M P I s⟩, And.left⟩
  | append_singleton is i ih =>
    have hkey := hL (M.run s is) i (run_keeps hJ h0 is)
    have hlast : M.run s (is ++ [i]) = M.next (M.run s is) i := run_append M s is [i]
    rw [since_append_singleton, hlast, hkey, ih]
    constructor
    · rintro ⟨hI, h⟩
      refine ⟨hI, ?_⟩
      rintro ⟨-, hsince | hp⟩
      · exact (h hsince.holds).1.2 hsince
      · exact (h (hP _ _ hp)).2 hp
    · rintro ⟨hI, h⟩
      refine ⟨hI, fun hbefore => ⟨⟨hbefore, fun hsince => ?_⟩, fun hp => ?_⟩⟩
      · exact h ⟨hI, Or.inl hsince⟩
      · exact h ⟨hI, Or.inr hp⟩

/-! ## Simulation -/

/-- The simulation rule: when related states stay related under every step that the simulating machine is ready for, they are
related at the end of every run whose steps it is ready for. -/
theorem run_simulates {σ' ω' : Type*} {M : Machine σ ι ω} {N : Machine σ' ι ω'} {R : σ → σ' → Prop}
    {Ready : σ' → ι → Prop} (hstep : ∀ s t i, R s t → Ready t i → R (M.next s i) (N.next t i)) {s : σ} {t : σ'}
    {is : List ι} (h0 : R s t) (h : N.Along Ready t is) : R (M.run s is) (N.run t is) := by
  induction is generalizing s t with
  | nil => exact h0
  | cons i is ih => exact ih (hstep s t i h0 h.1) h.2

/-- The translation rule: when every input of a machine is one input of another or none, so is every run. -/
theorem run_eq_run_filterMap {κ ω' : Type*} {M : Machine σ ι ω} {N : Machine σ κ ω'} {f : ι → Option κ}
    (hstep : ∀ s i, M.next s i = ((f i).map (N.next s)).getD s) (s : σ) (is : List ι) :
    M.run s is = N.run s (is.filterMap f) := by
  induction is generalizing s with
  | nil => rfl
  | cons i is ih =>
    rw [run_cons, hstep, ih]
    cases hf : f i with
    | none => simp [hf]
    | some k => simp [hf]

/-! ## History variables -/

/-- The machine with a history variable: `f` computes its next value from the input and the output of the step. -/
def track (M : Machine σ ι ω) (f : α → ι → ω → α) : Machine (σ × α) ι ω where
  next sa i := (M.next sa.1 i, f sa.2 i (M.out sa.1 i))
  out sa i := M.out sa.1 i

/-- A history variable does not change what the machine does. -/
theorem track_run_fst (M : Machine σ ι ω) (f : α → ι → ω → α) (s : σ) (a : α) (is : List ι) :
    ((M.track f).run (s, a) is).1 = M.run s is := by
  induction is generalizing s a with
  | nil => rfl
  | cons i is ih => exact ih _ _

/-- The states of a run are the same with a history variable. -/
theorem track_always (M : Machine σ ι ω) (f : α → ι → ω → α) (I : σ → Prop) (s : σ) (a : α) (is : List ι) :
    (M.track f).Always (fun sa => I sa.1) (s, a) is ↔ M.Always I s is := by
  unfold Always
  simp only [track_run_fst]

/-- The steps of a run are the same with a history variable. -/
theorem track_along (M : Machine σ ι ω) (f : α → ι → ω → α) (P : σ → ι → Prop) (s : σ) (a : α) (is : List ι) :
    (M.track f).Along (fun sa i => P sa.1 i) (s, a) is ↔ M.Along P s is := by
  induction is generalizing s a with
  | nil => exact Iff.rfl
  | cons i is ih => exact and_congr_right fun _ => ih _ _

/-! ## Leaving an input out -/

/-- An input that leaves the state as it was can be left out of a run. -/
theorem run_append_stutter {M : Machine σ ι ω} {s : σ} {pre : List ι} {i : ι} (h : M.next (M.run s pre) i = M.run s pre)
    (post : List ι) : M.run s (pre ++ i :: post) = M.run s (pre ++ post) := by
  rw [run_append, run_append, run_cons, h]

/-- The outputs of a run with such an input are those of the run without it, and its own. -/
theorem outs_append_stutter {M : Machine σ ι ω} {s : σ} {pre : List ι} {i : ι}
    (h : M.next (M.run s pre) i = M.run s pre) (post : List ι) :
    M.outs s (pre ++ i :: post) =
      M.outs s pre ++ M.out (M.run s pre) i :: M.outs (M.run s pre) post := by
  rw [outs_append, outs, h]

end Machine
