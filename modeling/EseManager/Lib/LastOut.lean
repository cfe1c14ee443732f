import Mathlib.Data.Set.Insert
import Mathlib.Logic.Function.Basic

/-!
# The last one out turns off the light

A room is lit while somebody is in it. Workers let people out: a worker lets one of them out, looks whether anybody is left, and
turns the light off if nobody is. Any number of them do this at the same time, and other steps come in between.

Nobody may come in while a worker that found the room empty has not turned the light off yet. Then nobody ever sits in the dark, and
whenever no worker is underway the light is on exactly if somebody is inside (`Watched.lit_iff`).

Nothing here names a program: the workers and the people are of any types.
-/

namespace Room

/-- What a worker does next. -/
inductive Phase where
  | idle
  | looking
  | turningOff
  deriving DecidableEq, Repr

end Room

/-- A room with people `κ` and workers `τ`. -/
@[ext]
structure Room (τ κ : Type*) where
  inside : Set κ
  lit : Prop
  phase : τ → Room.Phase

namespace Room

/-- What happens to a room. -/
inductive Act (τ κ : Type*) where
  | enter (k : κ)
  | letOut (w : τ) (k : κ)
  | look (w : τ)
  | turnOff (w : τ)
  | clear
  | pass

variable {τ κ : Type*} [DecidableEq τ]

open Classical in
/-- The room afterwards. Whoever enters finds the light on or turns it on. -/
noncomputable def after (r : Room τ κ) : Act τ κ → Room τ κ
  | .enter k => { r with inside := insert k r.inside, lit := True }
  | .letOut w k => { r with inside := r.inside \ {k}, phase := Function.update r.phase w .looking }
  | .look w => { r with phase := Function.update r.phase w (if r.inside = ∅ then .turningOff else .idle) }
  | .turnOff w => { r with lit := False, phase := Function.update r.phase w .idle }
  | .clear => { r with inside := ∅, lit := False }
  | .pass => r

omit [DecidableEq τ] in
/-- The worker is where this is its next step, and nobody comes in while the light is about to be turned off. -/
def Allowed (r : Room τ κ) : Act τ κ → Prop
  | .enter _ => ∀ w, r.phase w ≠ .turningOff
  | .letOut w _ => r.phase w = .idle
  | .look w => r.phase w = .looking
  | .turnOff w => r.phase w = .turningOff
  | .clear => True
  | .pass => True

/-- Nobody is in the dark, the light is turned off with nobody inside, and while it burns for nobody a worker is underway. -/
structure Watched (r : Room τ κ) : Prop where
  dark : ¬r.lit → r.inside = ∅
  turningOff : ∀ w, r.phase w = .turningOff → r.inside = ∅
  owed : r.inside = ∅ → r.lit → ∃ w, r.phase w ≠ .idle

/-- Everything that is allowed keeps the invariant. -/
theorem Watched.after {r : Room τ κ} (h : r.Watched) {act : Act τ κ} (ha : r.Allowed act) : (r.after act).Watched := by
  cases act with
  | enter k =>
    refine ⟨fun hl => absurd trivial hl, fun w hw => absurd hw (ha w), fun he => ?_⟩
    exact absurd he (Set.insert_nonempty k r.inside).ne_empty
  | letOut w k =>
    have hempty : r.inside = ∅ → r.inside \ {k} = ∅ := fun he => Set.subset_empty_iff.1 fun _ hj => he ▸ hj.1
    refine ⟨fun hl => hempty (h.dark hl), fun v hv => hempty ?_, fun _ _ => ⟨w, ?_⟩⟩
    · by_cases hvw : v = w
      · subst hvw
        simp [Room.after] at hv
      · exact h.turningOff v (by simpa [Room.after, hvw] using hv)
    · simp [Room.after]
  | look w =>
    refine ⟨h.dark, fun v hv => ?_, fun he _ => ⟨w, ?_⟩⟩
    · by_cases hvw : v = w
      · subst hvw
        by_contra he
        have hidle : (r.after (.look v)).phase v = .idle := by
          have hne : ¬r.inside = ∅ := he
          simp [Room.after, hne]
        rw [hidle] at hv
        cases hv
      · exact h.turningOff v (by simpa [Room.after, hvw] using hv)
    · have he' : r.inside = ∅ := he
      simp [Room.after, he']
  | turnOff w =>
    have hempty := h.turningOff w ha
    exact ⟨fun _ => hempty, fun _ _ => hempty, fun _ hl => hl.elim⟩
  | clear => exact ⟨fun _ => rfl, fun _ _ => rfl, fun _ hl => hl.elim⟩
  | pass => exact h

omit [DecidableEq τ] in
/-- With no worker underway the room is lit exactly while somebody is inside. -/
theorem Watched.lit_iff {r : Room τ κ} (h : r.Watched) (hidle : ∀ w, r.phase w = .idle) : r.lit ↔ r.inside.Nonempty := by
  constructor
  · intro hl
    by_contra he
    obtain ⟨w, hw⟩ := h.owed (Set.not_nonempty_iff_eq_empty.1 he) hl
    exact hw (hidle w)
  · intro hne
    by_contra hl
    exact hne.ne_empty (h.dark hl)

end Room
