import EseManager.Lemmas.RaceBits
import EseManager.ReleaseRaces

/-!
# What holds between two accesses

`MapAt` says what the map is at every access of `powerOff` while nobody else goes to its entry; the erasure of another pid commutes
with it. `MapAfter` says what the map is once the caller itself was erased, which depends on where that has caught `powerOff`. The
power is accounted for by `PowerAt` in both cases: whoever of the two looks at the map last finds it empty, and switches off.

All of this is about erasures that do not doom the other handler. An erasure that does leaves it `Doomed`, and then it crashes as soon
as it moves again.
-/

namespace EseManager

/-- The entry with a hold less. -/
def ServiceData.down (d : ServiceData) : ServiceData := { d with clientThreadCount := d.clientThreadCount - 1 }

/-- The map once `powerOff` of a pid is handled. -/
def PidsMap.dropHold (m : PidsMap) (pid : Pid) : PidsMap :=
  match m[pid]? with
  | none => m
  | some d => if d.down.clientThreadCount > 0 then m.insert pid d.down else m.erase pid

/-- What the map is while `powerOff` alone goes to a map that was `m`, by what it does next. -/
def MapAt (m : PidsMap) (pid : Pid) : OffPlace → PidsMap → Prop
  | .count, m' => m' = m
  | .testCb, m' => m' = m ∧ ∃ d, m[pid]? = some d
  | .testNotifier, m' => m' = m ∧ ∃ d, m[pid]? = some d ∧ d.lServiceCb ≠ none
  | .unlink, m' => m' = m ∧ ∃ d, m[pid]? = some d ∧ d.lServiceCb ≠ none
  | .unlinkNotifier cb, m' => (m' = m ∧ ∃ d, m[pid]? = some d) ∧ cb ≠ none
  | .unlinkCall cb _, m' => (m' = m ∧ ∃ d, m[pid]? = some d) ∧ cb ≠ none
  | .countDown, m' => m' = m ∧ ∃ d, m[pid]? = some d
  | .testCount, m' => ∃ d, m[pid]? = some d ∧ m' = m.insert pid d.down
  | .log, m' => ∃ d, m[pid]? = some d ∧ m' = m.insert pid d.down ∧ d.down.clientThreadCount > 0
  | .erase, m' => ∃ d, m[pid]? = some d ∧ m' = m.insert pid d.down ∧ d.down.clientThreadCount ≤ 0
  | .testEmpty, m' => ∃ d, m[pid]? = some d ∧ m' = m.erase pid ∧ d.down.clientThreadCount ≤ 0
  | .walk it, m' => (∃ d, m[pid]? = some d ∧ m' = m.erase pid ∧ d.down.clientThreadCount ≤ 0) ∧ it ≠ .dangling
  | .switchOff, m' => ∃ d, m[pid]? = some d ∧ m' = m.erase pid ∧ d.down.clientThreadCount ≤ 0
  | .close, m' => ∃ d, m[pid]? = some d ∧ m' = m.erase pid ∧ d.down.clientThreadCount ≤ 0
  | .returned _, m' => m' = m.dropHold pid
  | .crashed, _ => False

theorem dropHold_of_le {m : PidsMap} {pid : Pid} {d : ServiceData} (hd : m[pid]? = some d) (hcount : d.down.clientThreadCount ≤ 0) :
    m.dropHold pid = m.erase pid := by
  simp [PidsMap.dropHold, hd, Int32.not_lt.2 hcount]

@[simp] theorem State.unlinked_pidsMap (s : State) (cb : Binder) (n : Option ClientDiedNotifier) :
    (s.unlinked cb n).pidsMap = s.pidsMap := by
  cases n <;> rfl

@[simp] theorem State.unlinked_nqNode (s : State) (cb : Binder) (n : Option ClientDiedNotifier) :
    (s.unlinked cb n).nqNode = s.nqNode := by
  cases n <;> rfl

/-- The accesses of `powerOff` keep the description. -/
theorem mapAt_powerOff {c : Releasers} {m : PidsMap} {r : Release} (h : MapAt m c.pid r.off r.daemon.pidsMap) :
    MapAt m c.pid (r.powerOff c).off (r.powerOff c).daemon.pidsMap := by
  cases hoff : r.off with
  | count =>
    rw [hoff] at h
    have hm : r.daemon.pidsMap = m := h
    by_cases hmem : c.pid ∈ m
    · simp [Release.powerOff, hoff, hm, hmem, MapAt]
    · have hnone : m[c.pid]? = none := by simp [hmem]
      simp [Release.powerOff, hoff, hm, hmem, MapAt, PidsMap.dropHold]
  | testCb =>
    rw [hoff] at h
    obtain ⟨hm, d, hd⟩ := h
    have hindex := index_of_some hd
    by_cases hcb : d.lServiceCb = none
    · simp [Release.powerOff, Release.withMap, hoff, hm, hindex, hcb, MapAt, hd]
    · simp [Release.powerOff, Release.withMap, hoff, hm, hindex, hcb, MapAt, hd]
  | testNotifier =>
    rw [hoff] at h
    obtain ⟨hm, d, hd, hcb⟩ := h
    have hindex := index_of_some hd
    by_cases hn : d.lDeathNotifier = none
    · simp [Release.powerOff, Release.withMap, hoff, hm, hindex, hn, MapAt, hd]
    · simp [Release.powerOff, Release.withMap, hoff, hm, hindex, hcb, hn, MapAt, hd]
  | unlink =>
    rw [hoff] at h
    obtain ⟨hm, d, hd, hcb⟩ := h
    have hindex := index_of_some hd
    simp [Release.powerOff, Release.withMap, hoff, hm, hindex, hcb, MapAt, hd]
  | unlinkNotifier cb =>
    rw [hoff] at h
    obtain ⟨⟨hm, d, hd⟩, hcb⟩ := h
    have hindex := index_of_some hd
    simp [Release.powerOff, Release.withMap, hoff, hm, hindex, hcb, MapAt, hd]
  | unlinkCall cb n =>
    rw [hoff] at h
    obtain ⟨⟨hm, d, hd⟩, hcb⟩ := h
    obtain ⟨cb, rfl⟩ := Option.ne_none_iff_exists'.1 hcb
    simp [Release.powerOff, hoff, hm, MapAt, hd]
  | countDown =>
    rw [hoff] at h
    obtain ⟨hm, d, hd⟩ := h
    have hindex := index_of_some hd
    simp [Release.powerOff, Release.withMap, hoff, hm, hindex, MapAt, hd, ServiceData.down]
  | testCount =>
    rw [hoff] at h
    obtain ⟨d, hd, hm⟩ := h
    have hindex : PidsMap.index (m.insert c.pid d.down) c.pid = (d.down, m.insert c.pid d.down) := index_of_some (by simp)
    by_cases hcount : d.down.clientThreadCount > 0
    · simp [Release.powerOff, Release.withMap, hoff, hm, hindex, hcount, MapAt, hd]
    · simp [Release.powerOff, Release.withMap, hoff, hm, hindex, hcount, MapAt, hd, Int32.not_lt.1 hcount]
  | log =>
    rw [hoff] at h
    obtain ⟨d, hd, hm, hcount⟩ := h
    have hindex : PidsMap.index (m.insert c.pid d.down) c.pid = (d.down, m.insert c.pid d.down) := index_of_some (by simp)
    simp [Release.powerOff, Release.withMap, hoff, hm, hindex, hcount, MapAt, hd, PidsMap.dropHold]
  | erase =>
    rw [hoff] at h
    obtain ⟨d, hd, hm, hcount⟩ := h
    simp [Release.powerOff, Release.withMap, hoff, hm, hcount, MapAt, hd, erase_insert_self]
  | testEmpty =>
    rw [hoff] at h
    obtain ⟨d, hd, hm, hcount⟩ := h
    simp only [Release.powerOff, hoff]
    split_ifs
    · exact ⟨⟨d, hd, hm, hcount⟩, by simp⟩
    · exact ⟨d, hd, hm, hcount⟩
  | walk it =>
    rw [hoff] at h
    obtain ⟨⟨d, hd, hm, hcount⟩, hit⟩ := h
    rw [powerOff_walk c hoff hit]
    cases it.next r.daemon.pidsMap with
    | none => exact hm.trans (dropHold_of_le hd hcount).symm
    | some pid => exact ⟨⟨d, hd, hm, hcount⟩, by simp⟩
  | switchOff =>
    rw [hoff] at h
    obtain ⟨d, hd, hm, hcount⟩ := h
    have hdrop := dropHold_of_le hd hcount
    simp only [Release.powerOff, hoff]
    split_ifs
    · exact hm.trans hdrop.symm
    · exact hm.trans hdrop.symm
    · exact hm.trans hdrop.symm
    · exact ⟨d, hd, hm, hcount⟩
  | close =>
    rw [hoff] at h
    obtain ⟨d, hd, hm, hcount⟩ := h
    simp [Release.powerOff, hoff, hm, MapAt, closeNode_eq, dropHold_of_le hd hcount]
  | returned ret =>
    rw [hoff] at h
    simpa [Release.powerOff, hoff] using h
  | crashed =>
    rw [hoff] at h
    exact h.elim

/-- Erasing another pid is as if it had never been there. -/
theorem mapAt_erase {m m' : PidsMap} {pid mPid : Pid} (hne : mPid ≠ pid) {o : OffPlace} (h : MapAt m pid o m') :
    MapAt (m.erase mPid) pid o (m'.erase mPid) := by
  have hget : (m.erase mPid)[pid]? = m[pid]? := by simp [Std.ExtTreeMap.getElem?_erase, hne]
  have hinsert : ∀ d, (m.insert pid d).erase mPid = (m.erase mPid).insert pid d := by
    intro d
    refine Std.ExtTreeMap.ext_getElem? fun q => ?_
    simp only [Std.ExtTreeMap.getElem?_erase, Std.ExtTreeMap.getElem?_insert, Std.LawfulEqOrd.compare_eq_iff_eq]
    by_cases hq : mPid = q
    · subst hq
      simp [Ne.symm hne]
    · simp [hq]
  have herase : (m.erase pid).erase mPid = (m.erase mPid).erase pid := by
    refine Std.ExtTreeMap.ext_getElem? fun q => ?_
    simp only [Std.ExtTreeMap.getElem?_erase]
    split <;> split <;> rfl
  cases o with
  | count => exact congrArg (fun x => Std.ExtTreeMap.erase x mPid) h
  | testCb => exact ⟨congrArg (fun x => Std.ExtTreeMap.erase x mPid) h.1, hget ▸ h.2⟩
  | testNotifier => exact ⟨congrArg (fun x => Std.ExtTreeMap.erase x mPid) h.1, hget ▸ h.2⟩
  | unlink => exact ⟨congrArg (fun x => Std.ExtTreeMap.erase x mPid) h.1, hget ▸ h.2⟩
  | unlinkNotifier cb => exact ⟨⟨congrArg (fun x => Std.ExtTreeMap.erase x mPid) h.1.1, hget ▸ h.1.2⟩, h.2⟩
  | unlinkCall cb n => exact ⟨⟨congrArg (fun x => Std.ExtTreeMap.erase x mPid) h.1.1, hget ▸ h.1.2⟩, h.2⟩
  | countDown => exact ⟨congrArg (fun x => Std.ExtTreeMap.erase x mPid) h.1, hget ▸ h.2⟩
  | testCount =>
    obtain ⟨d, hd, rfl⟩ := h
    exact ⟨d, hget.trans hd, hinsert _⟩
  | log =>
    obtain ⟨d, hd, rfl, hc⟩ := h
    exact ⟨d, hget.trans hd, hinsert _, hc⟩
  | erase =>
    obtain ⟨d, hd, rfl, hc⟩ := h
    exact ⟨d, hget.trans hd, hinsert _, hc⟩
  | testEmpty =>
    obtain ⟨d, hd, rfl, hc⟩ := h
    exact ⟨d, hget.trans hd, herase, hc⟩
  | walk it =>
    obtain ⟨⟨d, hd, rfl, hc⟩, hit⟩ := h
    exact ⟨⟨d, hget.trans hd, herase, hc⟩, hit⟩
  | switchOff =>
    obtain ⟨d, hd, rfl, hc⟩ := h
    exact ⟨d, hget.trans hd, herase, hc⟩
  | close =>
    obtain ⟨d, hd, rfl, hc⟩ := h
    exact ⟨d, hget.trans hd, herase, hc⟩
  | returned ret =>
    have hm : m' = m.dropHold pid := h
    rw [hm]
    simp only [MapAt, PidsMap.dropHold, hget]
    cases m[pid]? with
    | none => rfl
    | some d =>
      by_cases hc : d.down.clientThreadCount > 0
      · simp only [if_pos hc, hinsert]
      · simp only [if_neg hc, herase]
  | crashed => exact h.elim

/-! ## The power -/

/-- `powerOff` is on its way to the test of the map, or past it on its way to the device. -/
@[simp]
def OffPlace.Pending : OffPlace → Prop
  | .testCb | .testNotifier | .unlink | .unlinkNotifier _ | .unlinkCall _ _ | .countDown | .testCount | .erase | .testEmpty
  | .switchOff => True
  | _ => False

/-- `powerOff` is at the entry of its caller. -/
@[simp]
def OffPlace.AtEntry : OffPlace → Prop
  | .testCb | .testNotifier | .unlink | .unlinkNotifier _ | .unlinkCall _ _ | .countDown | .testCount | .log | .erase => True
  | _ => False

/-- `binderDied` is on its way to the test of the map, or past it on its way to the device. -/
@[simp]
def DiedPlace.Pending : DiedPlace → Prop
  | .erase | .testEmpty | .testNode | .switchOff => True
  | _ => False

/-- The eSE is off only with nobody registered, and with nobody registered it is off, or one of the handlers still has to look. -/
structure PowerAt (empty : Bool) (r : Release) : Prop where
  idle : has r.word p61StateDwnld = false
  on : ¬SpiPower r.word → empty = true
  node : r.daemon.nqNode < 0 → ¬SpiPower r.word
  off : r.off = .switchOff → empty = true
  closing : r.off = .close → ¬SpiPower r.word
  died : r.died = .testNode ∨ r.died = .switchOff → empty = true
  owed : empty = true → SpiPower r.word → r.off.Pending ∨ r.died.Pending

/-- An access to the map keeps the invariant, when somebody is still to look at a map that is empty. -/
theorem PowerAt.move {empty empty' : Bool} {r r' : Release} (h : PowerAt empty r) (hmono : empty = true → empty' = true)
    (hword : r'.word = r.word) (hnode : r'.daemon.nqNode = r.daemon.nqNode) (hdied : r'.died = r.died)
    (hoff : r'.off ≠ .switchOff ∧ r'.off ≠ .close) (howed : empty' = true → SpiPower r.word → r'.off.Pending ∨ r'.died.Pending) :
    PowerAt empty' r' := by
  refine ⟨hword ▸ h.idle, ?_, ?_, fun ho => absurd ho hoff.1, fun ho => absurd ho hoff.2, ?_, hword ▸ howed⟩
  · rw [hword]
    exact fun hp => hmono (h.on hp)
  · rw [hword, hnode]
    exact h.node
  · rw [hdied]
    exact fun hd => hmono (h.died hd)

/-- The first access of `powerOff`. -/
theorem PowerAt.count (c : Releasers) {r : Release} {empty : Bool} (h : PowerAt empty r) (hcount : r.off = .count) :
    PowerAt empty (r.powerOff c) ∧ (r.powerOff c).daemon.pidsMap = r.daemon.pidsMap := by
  have hstep : r.powerOff c = { r with off := if c.pid ∈ r.daemon.pidsMap then .testCb else .returned (-1) } := by
    simp only [Release.powerOff, hcount]
  rw [hstep]
  refine ⟨h.move id rfl rfl rfl ?_ fun he hp => ?_, rfl⟩
  · dsimp only
    split_ifs <;> exact ⟨by simp, by simp⟩
  · have howed := h.owed he hp
    rw [hcount] at howed
    exact Or.inr (howed.resolve_left id)

/-- Until it has found the map empty, `powerOff` leaves the node and the device. -/
theorem powerOff_leaves (c : Releasers) {r : Release} (ho : r.off ≠ .switchOff ∧ r.off ≠ .close) :
    (r.powerOff c).word = r.word ∧ (r.powerOff c).daemon.nqNode = r.daemon.nqNode := by
  cases hoff : r.off with
  | unlinkCall cb n => cases cb <;> simp [Release.powerOff, hoff]
  | walk it =>
    by_cases hit : it = .dangling
    · subst hit
      simp [Release.powerOff, hoff]
    · rw [powerOff_walk c hoff hit]
      exact ⟨rfl, rfl⟩
  | switchOff => exact absurd hoff ho.1
  | close => exact absurd hoff ho.2
  | _ => simp [Release.powerOff, Release.withMap, hoff]

/-- Where `binderDied` is after an access of `powerOff`. -/
theorem powerOff_died (c : Releasers) (r : Release) :
    (r.powerOff c).died = if r.off = .erase then r.died.erased c.pid else r.died := by
  cases hoff : r.off with
  | unlinkCall cb n => cases cb <;> simp [Release.powerOff, hoff]
  | walk it =>
    by_cases hit : it = .dangling
    · subst hit
      simp [Release.powerOff, hoff]
    · rw [powerOff_walk c hoff hit]
      simp
  | switchOff =>
    simp only [Release.powerOff, hoff]
    split_ifs <;> simp_all
  | _ => simp [Release.powerOff, Release.withMap, hoff]

/-- An iterator that is elsewhere stays valid. -/
theorem Cursor.erased_of_ne {it : Cursor} {pid : Pid} (h : it ≠ .entry pid) : it.erased pid = it := by
  cases it with
  | entry q =>
    have hq : q ≠ pid := fun he => h (by rw [he])
    exact if_neg hq
  | _ => rfl

/-- An access of `powerOff` that dooms nobody leaves `binderDied` where it is. -/
theorem powerOff_died_of_not_dooms {c : Releasers} {r : Release} (h : ¬Dooms c r .powerOff) : (r.powerOff c).died = r.died := by
  rw [powerOff_died]
  split_ifs with herase
  · cases hdied : r.died with
    | walk it =>
      have hit : it ≠ .entry c.pid := fun he => h ⟨herase, by rw [hdied, he]⟩
      exact congrArg DiedPlace.walk (Cursor.erased_of_ne hit)
    | _ => rfl
  · rfl

/-- An erasure of `binderDied` that dooms nobody leaves `powerOff` where it is. -/
theorem off_erased_of_not_dooms {c : Releasers} {r : Release} (h : ¬Dooms c r .binderDied) (hd : r.died = .erase) :
    r.off.erased c = r.off := by
  have hheld : r.off.AtCall → ∀ cb, c.held cb = cb := fun hat cb =>
    if_neg fun hlast => h ⟨hd, Or.inr ⟨hlast.1, Or.inr ⟨hlast.2, hat⟩⟩⟩
  cases hoff : r.off with
  | unlinkNotifier cb => exact congrArg OffPlace.unlinkNotifier (hheld (by rw [hoff]; trivial) cb)
  | unlinkCall cb n => exact congrArg (OffPlace.unlinkCall · n) (hheld (by rw [hoff]; trivial) cb)
  | walk it =>
    have hit : it ≠ .entry c.mPid := fun he => h ⟨hd, Or.inl (by rw [hoff, he])⟩
    exact congrArg OffPlace.walk (Cursor.erased_of_ne hit)
  | _ => rfl

/-- The end of `powerOff`, from the test of the map on. -/
theorem PowerAt.tail {c : Releasers} (ha : c.answers.Succeeds) {r : Release} {empty : Bool} (h : PowerAt empty r)
    (hcount : r.off ≠ .count) (hentry : ¬r.off.AtEntry) (hwalk : r.off ≠ .walk .dangling)
    (hmap : r.off = .testEmpty → r.daemon.pidsMap.isEmpty = empty) :
    PowerAt empty (r.powerOff c) ∧ (r.powerOff c).daemon.pidsMap = r.daemon.pidsMap := by
  cases hoff : r.off with
  | count => exact absurd hoff hcount
  | testEmpty =>
    have hm := hmap hoff
    cases empty with
    | false =>
      have hstep : r.powerOff c = { r with off := .walk .begin } := by simp only [Release.powerOff, hoff, hm, if_true]
      rw [hstep]
      exact ⟨h.move id rfl rfl rfl ⟨by simp, by simp⟩ fun he => absurd he Bool.false_ne_true, rfl⟩
    | true =>
      have hstep : r.powerOff c = { r with off := .switchOff } := by
        simp only [Release.powerOff, hoff, hm, Bool.true_eq_false, if_false]
      rw [hstep]
      exact ⟨⟨h.idle, h.on, h.node, fun _ => rfl, by simp, h.died, fun _ _ => Or.inl trivial⟩, rfl⟩
  | walk it =>
    -- nothing is owed by a `powerOff` that prints the map
    have howed : empty = true → SpiPower r.word → r.died.Pending := fun he hp => by
      have howed := h.owed he hp
      rw [hoff] at howed
      exact howed.resolve_left id
    rw [powerOff_walk c hoff fun hit => hwalk (by rw [hoff, hit])]
    cases it.next r.daemon.pidsMap with
    | none => exact ⟨h.move id rfl rfl rfl ⟨by simp, by simp⟩ fun he hp => Or.inr (howed he hp), rfl⟩
    | some pid => exact ⟨h.move id rfl rfl rfl ⟨by simp, by simp⟩ fun he hp => Or.inr (howed he hp), rfl⟩
  | switchOff =>
    have he := h.off hoff
    have hidle : has (eseCurrentState { c.answers with word := r.word }) p61StateDwnld = false := by
      simp [eseCurrentState, Int.not_lt.2 ha.status, h.idle]
    by_cases hn : r.daemon.nqNode < 0
    · have hstep : r.powerOff c = { r with off := .returned 0 } := by simp only [Release.powerOff, hoff, hn, if_true]
      rw [hstep]
      exact ⟨⟨h.idle, h.on, h.node, by simp, by simp, h.died, fun _ hp => absurd hp (h.node hn)⟩, rfl⟩
    · have hstep : r.powerOff c = { r with word := r.word &&& ~~~p61StateSpi, off := .close } := by
        simp only [Release.powerOff, hoff, hn, hidle, Int.not_lt.2 ha.pwrOff, if_false, Bool.false_eq_true,
          wordAfter_off r.daemon.nqNode ha.pwrOff]
      have hoff' := not_spiPower_clear r.word
      rw [hstep]
      refine ⟨⟨?_, fun _ => he, fun _ => hoff', by simp, fun _ => hoff', fun _ => he, fun _ hp => absurd hp hoff'⟩, rfl⟩
      exact (has_clear_of_disjoint (by decide)).trans h.idle
  | close =>
    have hoff' := h.closing hoff
    have hstep : r.powerOff c = { r with daemon := (closeNode r.daemon c.answers).1, off := .returned 0 } := by
      simp only [Release.powerOff, hoff]
    rw [hstep]
    refine ⟨⟨h.idle, h.on, fun _ => hoff', by simp, by simp, h.died, fun _ hp => absurd hp hoff'⟩, ?_⟩
    simp only [closeNode_eq]
  | returned ret =>
    have hstep : r.powerOff c = r := by simp only [Release.powerOff, hoff]
    rw [hstep]
    exact ⟨h, rfl⟩
  | crashed =>
    have hstep : r.powerOff c = r := by simp only [Release.powerOff, hoff]
    rw [hstep]
    exact ⟨h, rfl⟩
  | _ =>
    rw [hoff] at hentry
    exact absurd trivial hentry

/-- What `binderDied` does once it has erased its pid keeps the invariant. -/
theorem PowerAt.binderDied {c : Releasers} (ha : c.answers.Succeeds) {r : Release} {empty : Bool} (h : PowerAt empty r)
    (hd : r.died ≠ .erase) (hwalk : r.died ≠ .walk .dangling) (hmap : r.daemon.pidsMap.isEmpty = true → empty = true)
    (howed : empty = true → r.daemon.pidsMap.isEmpty = false → r.off.Pending) : PowerAt empty (r.binderDied c) := by
  by_cases hcrash : r.off = .crashed
  · have hstep : r.binderDied c = r := if_pos hcrash
    rw [hstep]
    exact h
  · cases hdied : r.died with
    | erase => exact absurd hdied hd
    | testEmpty =>
      cases hm : r.daemon.pidsMap.isEmpty with
      | false =>
        have hstep : r.binderDied c = { r with died := .walk .begin } := by
          simp only [Release.binderDied, hcrash, hdied, hm, if_false, if_true]
        rw [hstep]
        exact ⟨h.idle, h.on, h.node, h.off, h.closing, by simp, fun he _ => Or.inl (howed he hm)⟩
      | true =>
        have hstep : r.binderDied c = { r with died := .testNode } := by
          simp only [Release.binderDied, hcrash, hdied, hm, if_false, Bool.true_eq_false]
        rw [hstep]
        exact ⟨h.idle, h.on, h.node, h.off, h.closing, fun _ => hmap hm, fun _ _ => Or.inr (by simp)⟩
    | walk it =>
      have howed : empty = true → SpiPower r.word → r.off.Pending := fun he hp => by
        have howed := h.owed he hp
        rw [hdied] at howed
        exact howed.resolve_right id
      rw [binderDied_walk c hcrash hdied fun hit => hwalk (by rw [hdied, hit])]
      cases it.next r.daemon.pidsMap with
      | none => exact ⟨h.idle, h.on, h.node, h.off, h.closing, by simp, fun he hp => Or.inl (howed he hp)⟩
      | some pid => exact ⟨h.idle, h.on, h.node, h.off, h.closing, by simp, fun he hp => Or.inl (howed he hp)⟩
    | testNode =>
      have he := h.died (Or.inl hdied)
      by_cases hn : r.daemon.nqNode < 0
      · have hstep : r.binderDied c = { r with died := .done } := by
          simp only [Release.binderDied, hcrash, hdied, hn, if_false, if_true]
        rw [hstep]
        exact ⟨h.idle, h.on, h.node, h.off, h.closing, by simp, fun _ hp => absurd hp (h.node hn)⟩
      · have hstep : r.binderDied c = { r with died := .switchOff } := by
          simp only [Release.binderDied, hcrash, hdied, hn, if_false]
        rw [hstep]
        exact ⟨h.idle, h.on, h.node, h.off, h.closing, fun _ => he, fun _ _ => Or.inr (by simp)⟩
    | switchOff =>
      have he := h.died (Or.inr hdied)
      by_cases hn : r.daemon.nqNode < 0
      · have hstep : r.binderDied c = { r with died := .done } := by
          simp only [Release.binderDied, hcrash, hdied, hn, if_false, if_true]
        rw [hstep]
        exact ⟨h.idle, h.on, h.node, h.off, h.closing, by simp, fun _ hp => absurd hp (h.node hn)⟩
      · have hstep : r.binderDied c = { r with word := r.word &&& ~~~p61StateSpi, died := .done } := by
          simp only [Release.binderDied, hcrash, hdied, hn, if_false, wordAfter_off r.daemon.nqNode ha.pwrOff]
        have hoff' := not_spiPower_clear r.word
        rw [hstep]
        refine ⟨?_, fun _ => he, fun _ => hoff', h.off, fun _ => hoff', fun _ => he, fun _ hp => absurd hp hoff'⟩
        exact (has_clear_of_disjoint (by decide)).trans h.idle
    | done =>
      have hstep : r.binderDied c = r := by simp only [Release.binderDied, hcrash, hdied, if_false]
      rw [hstep]
      exact h

/-! ## Different pids, or the same before it is erased -/

/-- `powerOff` goes to a map that was `m`. -/
structure Unraced (c : Releasers) (m : PidsMap) (r : Release) : Prop where
  map : MapAt m c.pid r.off r.daemon.pidsMap
  power : PowerAt r.daemon.pidsMap.isEmpty r
  steady : r.died ≠ .walk .dangling

/-- While `powerOff` is at the entry of its caller, there is one. -/
theorem MapAt.isEmpty {m m' : PidsMap} {pid : Pid} {o : OffPlace} (h : MapAt m pid o m') (ho : o.AtEntry) :
    m'.isEmpty = false := by
  cases o with
  | testCb =>
    obtain ⟨rfl, d, hd⟩ := h
    exact isEmpty_eq_false_of_getElem? hd
  | testNotifier =>
    obtain ⟨rfl, d, hd, -⟩ := h
    exact isEmpty_eq_false_of_getElem? hd
  | unlink =>
    obtain ⟨rfl, d, hd, -⟩ := h
    exact isEmpty_eq_false_of_getElem? hd
  | unlinkNotifier cb =>
    obtain ⟨⟨rfl, d, hd⟩, -⟩ := h
    exact isEmpty_eq_false_of_getElem? hd
  | unlinkCall cb n =>
    obtain ⟨⟨rfl, d, hd⟩, -⟩ := h
    exact isEmpty_eq_false_of_getElem? hd
  | countDown =>
    obtain ⟨rfl, d, hd⟩ := h
    exact isEmpty_eq_false_of_getElem? hd
  | testCount =>
    obtain ⟨d, -, rfl⟩ := h
    simp
  | log =>
    obtain ⟨d, -, rfl, -⟩ := h
    simp
  | erase =>
    obtain ⟨d, -, rfl, -⟩ := h
    simp
  | _ => exact ho.elim

/-- What `powerOff` does after an access to the entry of its caller. -/
theorem next_atEntry (c : Releasers) {r : Release} (ho : r.off.AtEntry) :
    (r.powerOff c).off.AtEntry ∨ (r.powerOff c).off = .testEmpty ∨ (r.off = .log ∧ (r.powerOff c).off = .returned 1) ∨
      (r.powerOff c).off = .crashed := by
  cases hoff : r.off with
  | testCb =>
    left
    simp only [Release.powerOff, hoff]
    split_ifs <;> trivial
  | testNotifier =>
    left
    simp only [Release.powerOff, hoff]
    split_ifs <;> trivial
  | unlink =>
    simp only [Release.powerOff, hoff]
    split_ifs
    · exact Or.inr (Or.inr (Or.inr rfl))
    · exact Or.inl trivial
  | unlinkNotifier cb => exact Or.inl (by simp [Release.powerOff, hoff])
  | unlinkCall cb n =>
    cases cb with
    | none => exact Or.inr (Or.inr (Or.inr (by simp [Release.powerOff, hoff])))
    | some cb => exact Or.inl (by simp [Release.powerOff, hoff])
  | testCount =>
    left
    simp only [Release.powerOff, hoff]
    split_ifs <;> trivial
  | countDown => exact Or.inl (by simp [Release.powerOff, hoff])
  | log => exact Or.inr (Or.inr (Or.inl ⟨rfl, by simp [Release.powerOff, hoff]⟩))
  | erase => exact Or.inr (Or.inl (by simp [Release.powerOff, hoff]))
  | _ => simp [hoff] at ho

/-- Behind an access to an entry that is there is another one, the test of the map, or a map that is not empty. -/
theorem MapAt.next {m : PidsMap} {c : Releasers} {r : Release} (h : MapAt m c.pid r.off r.daemon.pidsMap)
    (ho : r.off.AtEntry) :
    (r.powerOff c).off ≠ .switchOff ∧ (r.powerOff c).off ≠ .close ∧
      ((r.powerOff c).daemon.pidsMap.isEmpty = true → (r.powerOff c).off.Pending) := by
  have hmap := mapAt_powerOff h
  rcases next_atEntry c ho with hnext | hnext | ⟨hlog, hnext⟩ | hnext
  · refine ⟨fun hn => by simp [hn] at hnext, fun hn => by simp [hn] at hnext, fun he => ?_⟩
    rw [hmap.isEmpty hnext] at he
    cases he
  · rw [hnext]
    exact ⟨by simp, by simp, fun _ => trivial⟩
  · rw [hnext]
    refine ⟨by simp, by simp, fun he => ?_⟩
    rw [hlog] at h
    obtain ⟨d, -, hm, -⟩ := h
    have hindex : PidsMap.index (m.insert c.pid d.down) c.pid = (d.down, m.insert c.pid d.down) := index_of_some (by simp)
    simp [Release.powerOff, Release.withMap, hlog, hm, hindex] at he
  · rw [hnext] at hmap
    exact hmap.elim

/-- `powerOff` has not crashed on the way. -/
theorem MapAt.not_crashed {m m' : PidsMap} {pid : Pid} {o : OffPlace} (h : MapAt m pid o m') : o ≠ .crashed := by
  rintro rfl
  exact h

/-- The iterator of `powerOff` is valid. -/
theorem MapAt.walk_valid {m m' : PidsMap} {pid : Pid} {o : OffPlace} (h : MapAt m pid o m') : o ≠ .walk .dangling := by
  rintro rfl
  exact h.2 rfl

/-- `powerOff` keeps the invariant. -/
theorem Unraced.powerOff {c : Releasers} (ha : c.answers.Succeeds) {m : PidsMap} {r : Release} (hdoom : ¬Dooms c r .powerOff)
    (h : Unraced c m r) : Unraced c m (r.powerOff c) := by
  have hmap := mapAt_powerOff h.map
  have hdied := powerOff_died_of_not_dooms hdoom
  refine ⟨hmap, ?_, hdied ▸ h.steady⟩
  by_cases hcount : r.off = .count
  · obtain ⟨hpower, hm⟩ := h.power.count c hcount
    rw [hm]
    exact hpower
  by_cases ho : r.off.AtEntry
  · have hreg := h.map.isEmpty ho
    obtain ⟨hword, hnode⟩ := powerOff_leaves c (r := r) ⟨fun hn => by simp [hn] at ho, fun hn => by simp [hn] at ho⟩
    obtain ⟨hswitch, hclose, hpending⟩ := h.map.next ho
    refine h.power.move (fun he => ?_) hword hnode hdied ⟨hswitch, hclose⟩ fun he _ => Or.inl (hpending he)
    rw [hreg] at he
    cases he
  · obtain ⟨hpower, hm⟩ := h.power.tail ha hcount ho h.map.walk_valid fun _ => rfl
    rw [hm]
    exact hpower

/-- The erasure of a pid, by `binderDied`. -/
theorem binderDied_erase {c : Releasers} {r : Release} (hcrash : r.off ≠ .crashed) (hd : r.died = .erase)
    (hdoom : ¬Dooms c r .binderDied) :
    r.binderDied c = { r with daemon := r.daemon.unregister c.mPid, died := .testEmpty } := by
  have hoff := off_erased_of_not_dooms hdoom hd
  simp only [Release.binderDied, hcrash, hd, hoff, if_false]

/-- After its erasure `binderDied` leaves the map and `powerOff`. -/
theorem binderDied_leaves (c : Releasers) {r : Release} (hd : r.died ≠ .erase) (hwalk : r.died ≠ .walk .dangling) :
    ((r.binderDied c).off = r.off ∧ (r.binderDied c).daemon.pidsMap = r.daemon.pidsMap) ∧
      (r.binderDied c).died ≠ .erase ∧ (r.binderDied c).died ≠ .walk .dangling := by
  by_cases hcrash : r.off = .crashed
  · have hstep : r.binderDied c = r := if_pos hcrash
    rw [hstep]
    exact ⟨⟨rfl, rfl⟩, hd, hwalk⟩
  · cases hdied : r.died with
    | erase => exact absurd hdied hd
    | walk it =>
      rw [binderDied_walk c hcrash hdied fun hit => hwalk (by rw [hdied, hit])]
      cases it.next r.daemon.pidsMap <;> simp
    | testEmpty =>
      simp only [Release.binderDied, hcrash, hdied, if_false]
      split_ifs <;> simp
    | testNode =>
      simp only [Release.binderDied, hcrash, hdied, if_false]
      split_ifs <;> simp
    | switchOff =>
      simp only [Release.binderDied, hcrash, hdied, if_false]
      split_ifs <;> simp
    | done => simp [Release.binderDied, hcrash, hdied]

/-- An empty map stays empty. -/
theorem isEmpty_erase {m : PidsMap} (h : m.isEmpty = true) (pid : Pid) : (m.erase pid).isEmpty = true := by
  rw [Std.ExtTreeMap.isEmpty_iff] at h
  simp [h]

/-- The erasure of another pid keeps the invariant. -/
theorem Unraced.erased {c : Releasers} (hne : c.mPid ≠ c.pid) {m : PidsMap} {r : Release} (h : Unraced c m r)
    (hd : r.died = .erase) (hdoom : ¬Dooms c r .binderDied) : Unraced c (m.erase c.mPid) (r.binderDied c) := by
  have hmap := mapAt_erase hne h.map
  rw [binderDied_erase h.map.not_crashed hd hdoom]
  refine ⟨hmap, ?_, by simp⟩
  have hmono : r.daemon.pidsMap.isEmpty = true → (r.daemon.pidsMap.erase c.mPid).isEmpty = true := fun he => isEmpty_erase he _
  refine ⟨h.power.idle, fun hp => hmono (h.power.on hp), h.power.node, fun ho => hmono (h.power.off ho), h.power.closing, ?_,
    fun _ _ => Or.inr trivial⟩
  rintro (hdied | hdied)
  · cases hdied
  · cases hdied

/-- What `binderDied` does after its erasure keeps the invariant. -/
theorem Unraced.died {c : Releasers} (ha : c.answers.Succeeds) {m : PidsMap} {r : Release} (h : Unraced c m r)
    (hd : r.died ≠ .erase) : Unraced c m (r.binderDied c) := by
  obtain ⟨⟨hoff, hmap⟩, -, hsteady⟩ := binderDied_leaves c hd h.steady
  refine ⟨?_, ?_, hsteady⟩
  · rw [hoff, hmap]
    exact h.map
  · rw [hmap]
    refine h.power.binderDied ha hd h.steady id fun he hm => ?_
    rw [he] at hm
    cases hm

/-! ## The same pid, once it is erased -/

/-- What the map is after the pid was erased under `powerOff`, which was at `place` then; `m` is the map without the pid. -/
def MapAfter (m : PidsMap) (pid : Pid) (place : OffPlace) : OffPlace → PidsMap → Prop
  | .unlink, _ => False
  | .unlinkNotifier cb, m' => m' = m ∧ cb ≠ none
  | .unlinkCall cb _, m' => (m' = m ∨ m' = m.insert pid .empty) ∧ cb ≠ none
  | .countDown, m' => m' = m ∨ m' = m.insert pid .empty
  | .testCount, m' => m' = m ∨ ∃ d, m' = m.insert pid d ∧ d.clientThreadCount ≤ 0
  | .log, m' => m' = m ∧ place = .log
  | .erase, m' => m' = m ∨ ∃ d, m' = m.insert pid d
  | .walk it, m' => m' = m ∧ it ≠ .dangling
  | .returned _, m' => if place = .log then m' = m.insert pid .empty else m' = m
  | .crashed, _ => False
  | _, m' => m' = m

/-- `powerOff` stays at its log line, when the erasure has caught it there. -/
def Caught (place o : OffPlace) : Prop := place = .log → o = .log ∨ ∃ ret, o = .returned ret

/-- At any other place it was not caught there. -/
theorem Caught.free {place o : OffPlace} (h : Caught place o) (ho : o ≠ .log) (hr : ∀ ret, o ≠ .returned ret) : place ≠ .log :=
  fun hp => (h hp).elim ho fun ⟨ret, hret⟩ => hr ret hret

/-- Where `powerOff` was not caught it is free to go. -/
theorem caught_of_free {place : OffPlace} (h : place ≠ .log) (o : OffPlace) : Caught place o := fun hp => absurd hp h

theorem erase_of_none {m : PidsMap} {pid : Pid} (h : m[pid]? = none) : m.erase pid = m := by
  refine Std.ExtTreeMap.ext_getElem? fun q => ?_
  rw [Std.ExtTreeMap.getElem?_erase]
  split
  · rename_i hq
    rw [← Std.LawfulEqOrd.compare_eq_iff_eq.1 hq, h]
  · rfl

theorem insert_insert_self (m : PidsMap) (pid : Pid) (d e : ServiceData) : (m.insert pid d).insert pid e = m.insert pid e := by
  refine Std.ExtTreeMap.ext_getElem? fun q => ?_
  simp only [Std.ExtTreeMap.getElem?_insert]
  split <;> rfl

/-- The accesses of `powerOff` keep the description. -/
theorem mapAfter_powerOff {c : Releasers} {m : PidsMap} (hnone : m[c.pid]? = none) {place : OffPlace} {r : Release}
    (h : MapAfter m c.pid place r.off r.daemon.pidsMap) (hc : Caught place r.off) :
    MapAfter m c.pid place (r.powerOff c).off (r.powerOff c).daemon.pidsMap ∧ Caught place (r.powerOff c).off := by
  have hmem : c.pid ∉ m := by simp [Std.ExtTreeMap.mem_iff_isSome_getElem?, hnone]
  have hindex := index_of_none hnone
  have hinsert : ∀ d, PidsMap.index (m.insert c.pid d) c.pid = (d, m.insert c.pid d) := fun d => index_of_some (by simp)
  have herase := erase_of_none hnone
  cases hoff : r.off with
  | count =>
    rw [hoff] at h hc
    have hfree := hc.free (by simp) (by simp)
    have hm : r.daemon.pidsMap = m := h
    refine ⟨?_, caught_of_free hfree _⟩
    simp [Release.powerOff, hoff, hm, hmem, MapAfter, hfree]
  | testCb =>
    rw [hoff] at h hc
    have hfree := hc.free (by simp) (by simp)
    have hm : r.daemon.pidsMap = m := h
    refine ⟨?_, caught_of_free hfree _⟩
    simp [Release.powerOff, Release.withMap, hoff, hm, hindex, MapAfter, ServiceData.empty]
  | testNotifier =>
    rw [hoff] at h hc
    have hfree := hc.free (by simp) (by simp)
    have hm : r.daemon.pidsMap = m := h
    refine ⟨?_, caught_of_free hfree _⟩
    simp [Release.powerOff, Release.withMap, hoff, hm, hindex, MapAfter, ServiceData.empty]
  | unlink =>
    rw [hoff] at h
    exact h.elim
  | unlinkNotifier cb =>
    rw [hoff] at h hc
    have hfree := hc.free (by simp) (by simp)
    obtain ⟨hm, hcb⟩ := h
    refine ⟨?_, caught_of_free hfree _⟩
    simp [Release.powerOff, Release.withMap, hoff, hm, hindex, MapAfter, hcb]
  | unlinkCall cb n =>
    rw [hoff] at h hc
    have hfree := hc.free (by simp) (by simp)
    obtain ⟨hm, hcb⟩ := h
    obtain ⟨cb, rfl⟩ := Option.ne_none_iff_exists'.1 hcb
    refine ⟨?_, caught_of_free hfree _⟩
    simpa [Release.powerOff, hoff, MapAfter] using hm
  | countDown =>
    rw [hoff] at h hc
    have hfree := hc.free (by simp) (by simp)
    have hstep : (r.powerOff c).off = .testCount ∧ (r.powerOff c).daemon.pidsMap = m.insert c.pid ServiceData.empty.down := by
      rcases h with hm | hm
      · simp [Release.powerOff, Release.withMap, hoff, hm, hindex, insert_insert_self, ServiceData.down]
      · simp [Release.powerOff, Release.withMap, hoff, hm, hinsert, insert_insert_self, ServiceData.down]
    rw [hstep.1, hstep.2]
    exact ⟨Or.inr ⟨_, rfl, by decide⟩, caught_of_free hfree _⟩
  | testCount =>
    rw [hoff] at h hc
    have hfree := hc.free (by simp) (by simp)
    have hstep : (r.powerOff c).off = .erase ∧ ∃ d, (r.powerOff c).daemon.pidsMap = m.insert c.pid d := by
      rcases h with hm | ⟨d, hm, hcount⟩
      · have hcount : ¬ServiceData.empty.clientThreadCount > 0 := by decide
        simp [Release.powerOff, Release.withMap, hoff, hm, hindex, hcount]
      · have hcount' : ¬d.clientThreadCount > 0 := Int32.not_lt.2 hcount
        simp [Release.powerOff, Release.withMap, hoff, hm, hinsert, hcount']
    rw [hstep.1]
    exact ⟨Or.inr hstep.2, caught_of_free hfree _⟩
  | log =>
    rw [hoff] at h
    obtain ⟨hm, hplace⟩ := h
    simp [Release.powerOff, Release.withMap, hoff, hm, hindex, MapAfter, hplace, Caught]
  | erase =>
    rw [hoff] at h hc
    have hfree := hc.free (by simp) (by simp)
    refine ⟨?_, caught_of_free hfree _⟩
    rcases h with hm | ⟨d, hm⟩
    · simp [Release.powerOff, Release.withMap, hoff, hm, herase, MapAfter]
    · simp [Release.powerOff, Release.withMap, hoff, hm, herase, erase_insert_self, MapAfter]
  | testEmpty =>
    rw [hoff] at h hc
    have hfree := hc.free (by simp) (by simp)
    have hm : r.daemon.pidsMap = m := h
    refine ⟨?_, caught_of_free hfree _⟩
    simp only [Release.powerOff, hoff]
    split_ifs
    · exact ⟨hm, by simp⟩
    · exact hm
  | walk it =>
    rw [hoff] at h hc
    have hfree := hc.free (by simp) (by simp)
    obtain ⟨hm, hit⟩ := h
    refine ⟨?_, caught_of_free hfree _⟩
    rw [powerOff_walk c hoff hit]
    cases it.next r.daemon.pidsMap with
    | none => simpa only [MapAfter, hfree, if_false] using hm
    | some pid => exact ⟨hm, by simp⟩
  | switchOff =>
    rw [hoff] at h hc
    have hfree := hc.free (by simp) (by simp)
    have hm : r.daemon.pidsMap = m := h
    refine ⟨?_, caught_of_free hfree _⟩
    simp only [Release.powerOff, hoff]
    split_ifs
    · simpa only [MapAfter, hfree, if_false] using hm
    · simpa only [MapAfter, hfree, if_false] using hm
    · simpa only [MapAfter, hfree, if_false] using hm
    · exact hm
  | close =>
    rw [hoff] at h hc
    have hfree := hc.free (by simp) (by simp)
    have hm : r.daemon.pidsMap = m := h
    refine ⟨?_, caught_of_free hfree _⟩
    simpa [Release.powerOff, hoff, MapAfter, hfree, closeNode_eq] using hm
  | returned ret =>
    have hstep : r.powerOff c = r := by simp only [Release.powerOff, hoff]
    rw [hstep]
    exact ⟨h, hc⟩
  | crashed =>
    rw [hoff] at h
    exact h.elim

/-- Whatever `powerOff` has done to the entry of its caller, without it the map is what it was without it. -/
theorem MapAt.erase_eq {m m' : PidsMap} {pid : Pid} {o : OffPlace} (h : MapAt m pid o m') : m'.erase pid = m.erase pid := by
  cases o with
  | count => exact congrArg (fun x => Std.ExtTreeMap.erase x pid) h
  | testCb => exact congrArg (fun x => Std.ExtTreeMap.erase x pid) h.1
  | testNotifier => exact congrArg (fun x => Std.ExtTreeMap.erase x pid) h.1
  | unlink => exact congrArg (fun x => Std.ExtTreeMap.erase x pid) h.1
  | unlinkNotifier cb => exact congrArg (fun x => Std.ExtTreeMap.erase x pid) h.1.1
  | unlinkCall cb n => exact congrArg (fun x => Std.ExtTreeMap.erase x pid) h.1.1
  | countDown => exact congrArg (fun x => Std.ExtTreeMap.erase x pid) h.1
  | testCount =>
    obtain ⟨d, -, rfl⟩ := h
    exact erase_insert_self m pid _
  | log =>
    obtain ⟨d, -, rfl, -⟩ := h
    exact erase_insert_self m pid _
  | erase =>
    obtain ⟨d, -, rfl, -⟩ := h
    exact erase_insert_self m pid _
  | testEmpty =>
    obtain ⟨d, -, rfl, -⟩ := h
    exact erase_erase_self m pid
  | walk it =>
    obtain ⟨⟨d, -, rfl, -⟩, -⟩ := h
    exact erase_erase_self m pid
  | switchOff =>
    obtain ⟨d, -, rfl, -⟩ := h
    exact erase_erase_self m pid
  | close =>
    obtain ⟨d, -, rfl, -⟩ := h
    exact erase_erase_self m pid
  | returned ret =>
    have hm : m' = m.dropHold pid := h
    rw [hm, PidsMap.dropHold]
    cases m[pid]? with
    | none => rfl
    | some d =>
      by_cases hc : d.down.clientThreadCount > 0
      · simp only [if_pos hc, erase_insert_self]
      · simp only [if_neg hc, erase_erase_self]
  | crashed => exact h.elim

/-- The erasure catches `powerOff` where it is, which is not between its tests and the callback. -/
theorem MapAt.caught {m m' : PidsMap} {pid : Pid} {o : OffPlace} (h : MapAt m pid o m') (ho : o ≠ .unlink) :
    MapAfter (m.erase pid) pid o o (m'.erase pid) := by
  have hm := h.erase_eq
  cases o with
  | count => exact hm
  | testCb => exact hm
  | testNotifier => exact hm
  | unlink => exact absurd rfl ho
  | unlinkNotifier cb => exact ⟨hm, h.2⟩
  | unlinkCall cb n => exact ⟨Or.inl hm, h.2⟩
  | countDown => exact Or.inl hm
  | testCount => exact Or.inl hm
  | log => exact ⟨hm, rfl⟩
  | erase => exact Or.inl hm
  | testEmpty => exact hm
  | walk it => exact ⟨hm, h.2⟩
  | switchOff => exact hm
  | close => exact hm
  | returned ret => simpa [MapAfter] using hm
  | crashed => exact h.elim

/-- The pid is there again only while `powerOff` is about to erase it, or when it was caught at its log line. -/
theorem MapAfter.entered {m m' : PidsMap} {pid : Pid} {place o : OffPlace} (h : MapAfter m pid place o m') :
    m' = m ∨ (∃ d, m' = m.insert pid d) ∧ (o.Pending ∨ place = .log) := by
  cases o with
  | unlink => exact h.elim
  | unlinkNotifier cb => exact Or.inl h.1
  | unlinkCall cb n => exact h.1.imp_right fun hm => ⟨⟨_, hm⟩, Or.inl trivial⟩
  | countDown => exact h.imp_right fun hm => ⟨⟨_, hm⟩, Or.inl trivial⟩
  | testCount => exact h.imp_right fun ⟨d, hm, _⟩ => ⟨⟨d, hm⟩, Or.inl trivial⟩
  | log => exact Or.inl h.1
  | erase => exact h.imp_right fun hm => ⟨hm, Or.inl trivial⟩
  | walk it => exact Or.inl h.1
  | returned ret =>
    by_cases hlog : place = .log
    · exact Or.inr ⟨⟨_, (if_pos hlog).mp h⟩, Or.inr hlog⟩
    · exact Or.inl ((if_neg hlog).mp h)
  | crashed => exact h.elim
  | _ => exact Or.inl h

/-- `powerOff` has not crashed since. -/
theorem MapAfter.not_crashed {m m' : PidsMap} {pid : Pid} {place o : OffPlace} (h : MapAfter m pid place o m') : o ≠ .crashed := by
  rintro rfl
  exact h

/-- The iterator of `powerOff` is valid. -/
theorem MapAfter.walk_valid {m m' : PidsMap} {pid : Pid} {place o : OffPlace} (h : MapAfter m pid place o m') :
    o ≠ .walk .dangling := by
  rintro rfl
  exact h.2 rfl

/-- The caller of `powerOff` was erased while it was at `place`; `m` is the map without it. -/
structure Erased (c : Releasers) (m : PidsMap) (place : OffPlace) (r : Release) : Prop where
  map : MapAfter m c.pid place r.off r.daemon.pidsMap
  caught : Caught place r.off
  power : place ≠ .log → PowerAt m.isEmpty r
  died : r.died ≠ .erase
  steady : r.died ≠ .walk .dangling

/-- `powerOff` keeps the invariant. -/
theorem Erased.powerOff {c : Releasers} (ha : c.answers.Succeeds) {m : PidsMap} (hnone : m[c.pid]? = none)
    {place : OffPlace} {r : Release} (hdoom : ¬Dooms c r .powerOff) (h : Erased c m place r) :
    Erased c m place (r.powerOff c) := by
  obtain ⟨hmap, hcaught⟩ := mapAfter_powerOff hnone h.map h.caught
  have hdied := powerOff_died_of_not_dooms hdoom
  refine ⟨hmap, hcaught, fun hlog => ?_, hdied ▸ h.died, hdied ▸ h.steady⟩
  have hpower := h.power hlog
  by_cases hcount : r.off = .count
  · exact (hpower.count c hcount).1
  by_cases ho : r.off.AtEntry
  · obtain ⟨hword, hnode⟩ := powerOff_leaves c (r := r) ⟨fun hn => by simp [hn] at ho, fun hn => by simp [hn] at ho⟩
    have hnext : (r.powerOff c).off.Pending ∧ (r.powerOff c).off ≠ .switchOff ∧ (r.powerOff c).off ≠ .close := by
      rcases next_atEntry c ho with hentry | hnext | ⟨hoff, -⟩ | hoff
      · cases hoff : (r.powerOff c).off with
        | log =>
          rw [hoff] at hmap
          exact absurd hmap.2 hlog
        | testCb => exact ⟨trivial, by simp, by simp⟩
        | testNotifier => exact ⟨trivial, by simp, by simp⟩
        | unlink => exact ⟨trivial, by simp, by simp⟩
        | unlinkNotifier cb => exact ⟨trivial, by simp, by simp⟩
        | unlinkCall cb n => exact ⟨trivial, by simp, by simp⟩
        | countDown => exact ⟨trivial, by simp, by simp⟩
        | testCount => exact ⟨trivial, by simp, by simp⟩
        | erase => exact ⟨trivial, by simp, by simp⟩
        | _ => simp [hoff] at hentry
      · rw [hnext]
        exact ⟨trivial, by simp, by simp⟩
      · have hm := h.map
        rw [hoff] at hm
        exact absurd hm.2 hlog
      · exact absurd hoff hmap.not_crashed
    exact hpower.move id hword hnode hdied hnext.2 fun _ _ => Or.inl hnext.1
  · refine (hpower.tail ha hcount ho h.map.walk_valid fun hoff => ?_).1
    have hm := h.map
    rw [hoff] at hm
    exact congrArg Std.ExtTreeMap.isEmpty hm

/-- `binderDied` keeps the invariant. -/
theorem Erased.binderDied {c : Releasers} (ha : c.answers.Succeeds) {m : PidsMap} {place : OffPlace} {r : Release}
    (h : Erased c m place r) : Erased c m place (r.binderDied c) := by
  obtain ⟨⟨hoff, hmap⟩, hdied, hsteady⟩ := binderDied_leaves c h.died h.steady
  refine ⟨?_, ?_, fun hlog => ?_, hdied, hsteady⟩
  · rw [hoff, hmap]
    exact h.map
  · rw [hoff]
    exact h.caught
  · have hentered := h.map.entered
    refine (h.power hlog).binderDied ha h.died h.steady (fun he => ?_) fun he hm => ?_
    · rcases hentered with hm | ⟨⟨d, hm⟩, -⟩
      · rw [← hm, he]
      · simp [hm] at he
    · rcases hentered with hm' | ⟨-, hpending⟩
      · rw [hm', he] at hm
        cases hm
      · exact hpending.resolve_right hlog

/-! ## A doomed handler -/

/-- At this place `powerOff` goes on with what is gone. -/
@[simp]
def OffPlace.Gone (m : PidsMap) (pid : Pid) : OffPlace → Prop
  | .unlink => pid ∉ m
  | .unlinkNotifier cb => cb = none
  | .unlinkCall cb _ => cb = none
  | .walk it => it = .dangling
  | .crashed => True
  | _ => False

/-- One of the handlers goes on with what is gone. -/
def Release.Doomed (c : Releasers) (r : Release) : Prop := r.off.Gone r.daemon.pidsMap c.pid ∨ r.died = .walk .dangling

/-- What dooms a handler leaves it doomed. -/
theorem Dooms.doomed {c : Releasers} {r : Release} {turn : Turn} (h : Dooms c r turn) :
    ((release c).next r turn).Doomed c := by
  cases turn with
  | powerOff =>
    obtain ⟨hoff, hdied⟩ := h
    right
    rw [release_next_powerOff, powerOff_died, if_pos hoff, hdied]
    exact congrArg DiedPlace.walk (if_pos rfl)
  | binderDied =>
    obtain ⟨hdied, hoff⟩ := h
    left
    have hstep : r.off ≠ .crashed → r.binderDied c =
        { r with daemon := r.daemon.unregister c.mPid, off := r.off.erased c, died := .testEmpty } := by
      intro hcrash
      simp only [Release.binderDied, hcrash, hdied, if_false]
    rw [release_next_binderDied]
    rcases hoff with hoff | ⟨heq, hoff | ⟨hlast, hoff⟩⟩
    · rw [hstep (by simp [hoff]), hoff]
      simp [OffPlace.erased, Cursor.erased]
    · rw [hstep (by simp [hoff]), hoff]
      simp [OffPlace.erased, heq]
    · have hheld : ∀ cb, c.held cb = none := fun cb => if_pos ⟨heq, hlast⟩
      cases hcall : r.off with
      | unlinkNotifier cb =>
        rw [hstep (by simp [hcall]), hcall]
        exact hheld cb
      | unlinkCall cb n =>
        rw [hstep (by simp [hcall]), hcall]
        exact hheld cb
      | _ => simp [hcall] at hoff

/-- A doomed `powerOff` stays so when a pid is erased. -/
theorem OffPlace.Gone.erased {c : Releasers} {m : PidsMap} {o : OffPlace} (h : o.Gone m c.pid) :
    (o.erased c).Gone (m.erase c.mPid) c.pid := by
  cases o with
  | unlink =>
    have hmem : c.pid ∉ m := h
    simp [OffPlace.erased, hmem]
  | unlinkNotifier cb =>
    have hcb : cb = none := h
    simp [OffPlace.erased, Releasers.held, hcb]
  | unlinkCall cb n =>
    have hcb : cb = none := h
    simp [OffPlace.erased, Releasers.held, hcb]
  | walk it =>
    have hit : it = .dangling := h
    simp [OffPlace.erased, Cursor.erased, hit]
  | crashed => trivial
  | _ => exact h.elim

/-- Whoever is doomed stays so, whoever moves. -/
theorem Release.Doomed.next {c : Releasers} {r : Release} (h : r.Doomed c) (turn : Turn) :
    ((release c).next r turn).Doomed c := by
  cases turn with
  | powerOff =>
    rw [release_next_powerOff]
    rcases h with hoff | hdied
    · left
      cases ho : r.off with
      | unlink =>
        rw [ho] at hoff
        have hindex : r.daemon.pidsMap.index c.pid = _ := index_of_none (by simpa using hoff)
        simp [Release.powerOff, ho, hindex, ServiceData.empty]
      | unlinkNotifier cb =>
        rw [ho] at hoff
        simpa [Release.powerOff, ho] using hoff
      | unlinkCall cb n =>
        rw [ho] at hoff
        have hcb : cb = none := hoff
        simp [Release.powerOff, ho, hcb]
      | walk it =>
        rw [ho] at hoff
        have hit : it = .dangling := hoff
        simp [Release.powerOff, ho, hit]
      | crashed => simp [Release.powerOff, ho]
      | _ => simp [ho] at hoff
    · right
      rw [powerOff_died, hdied]
      split_ifs <;> rfl
  | binderDied =>
    rw [release_next_binderDied]
    by_cases hcrash : r.off = .crashed
    · have hstep : r.binderDied c = r := if_pos hcrash
      rw [hstep]
      exact h
    by_cases hwalk : r.died = .walk .dangling
    · left
      simp [Release.binderDied, hcrash, hwalk]
    have hoff := h.resolve_right hwalk
    left
    by_cases hd : r.died = .erase
    · simp only [Release.binderDied, hcrash, hd, if_false]
      exact hoff.erased
    · obtain ⟨⟨hsame, hmap⟩, -⟩ := binderDied_leaves c hd hwalk
      rw [hsame, hmap]
      exact hoff

/-- When both are through, a doomed handler has crashed. -/
theorem Release.Doomed.crashed {c : Releasers} {r : Release} (h : r.Doomed c) (ht : r.Through) : r.off = .crashed := by
  rcases ht with hcrash | ⟨⟨ret, hret⟩, hdone⟩
  · exact hcrash
  · rcases h with hoff | hdied
    · simp [hret] at hoff
    · rw [hdone] at hdied
      cases hdied

end EseManager
