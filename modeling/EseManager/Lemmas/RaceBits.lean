import EseManager.Races

/-!
# The race in bits

The steps of a race only read and write a few bits that matter. `Bits` is the race with the map and the status word cut down to
these, `bits_simulates` is the simulation, and what is to be known of the 35 interleavings is then a finite check.
-/

namespace EseManager

/-- `x` comes before `y` in the order of steps. -/
def Before (x y : Step) (order : List Step) : Prop := order.idxOf x < order.idxOf y

instance (x y : Step) (order : List Step) : Decidable (Before x y order) :=
  inferInstanceAs (Decidable (order.idxOf x < order.idxOf y))

/-! ## The bits that matter -/

/-- What stays the same during the race: both handlers are of one pid, nobody but the dead process is registered at the start, and
the two other bits of the status word. -/
structure Shape where
  same : Bool
  last : Bool
  prio : Bool
  dwnld : Bool

/-- The race in bits: the node is open, the eSE has SPI power; `powerOn` has read the status word, has seen the SPI bit, has linked
its notifier, has returned; the pid of the dead process is erased, the caller of `powerOn` is added; and the answer of
`isPidsMapEmpty`. -/
structure Bits where
  node : Bool
  spi : Bool
  hasRead : Bool
  readSpi : Bool
  linked : Bool
  returned : Bool
  erased : Bool
  added : Bool
  empty : Bool

/-- Both handlers at their first step. -/
def Bits.start (node spi : Bool) : Bits :=
  { node := node, spi := spi, hasRead := false, readSpi := false, linked := false, returned := false, erased := false,
    added := false, empty := false }

/-- One step, in bits. -/
def Bits.next (k : Shape) (b : Bits) : Step → Bits
  | .readStatus => { b with node := true, hasRead := true, readSpi := b.spi }
  | .switchOn =>
    if b.returned || b.readSpi || k.prio then b
    else if k.dwnld then { b with returned := true }
    else { b with spi := true }
  | .link => if b.returned then b else { b with linked := true }
  | .insert => if b.returned then b else { b with added := true, returned := true }
  | .erase => { b with erased := true, added := b.added && !k.same }
  | .testEmpty => { b with empty := k.last && !b.added }
  | .switchOff => if b.empty && b.node then { b with spi := false } else b

/-- The steps that the order within each handler leaves: the ones that need an earlier step come after it. -/
def Bits.Ready (b : Bits) : Step → Prop
  | .switchOn => b.hasRead = true
  | .link => b.linked = false ∨ b.returned = true
  | .insert => b.linked = true ∨ b.returned = true
  | .testEmpty => b.erased = true
  | _ => True

instance (b : Bits) (step : Step) : Decidable (b.Ready step) := by
  unfold Bits.Ready
  cases step <;> infer_instance

/-- The race in bits, step by step. -/
def bits (k : Shape) : Machine Bits Step Unit where
  next b step := b.next k step
  out _ _ := ()

/-- An interleaving goes wrong, in bits: the map is empty without the dead process, and
* with the eSE off, it is switched on between the test of the map and the insertion, and off after that;
* with the eSE on, `powerOn` reads the status word before it is switched off, and the map is tested before the insertion; or,
  when another bit of the status word keeps `powerOn` from switching on, the insertion of the same pid saves the power that both
  serial orders would have taken. -/
def Bits.Breaks (k : Shape) (node spi : Bool) (order : List Step) : Prop :=
  k.last = true ∧
    if spi = true then
      Before .readStatus .switchOff order ∧
        ((Before .testEmpty .insert order ∧ (k.prio = false ∨ node = false)) ∨
          ((k.prio = true ∨ k.dwnld = true) ∧ node = true ∧ k.same = true ∧ Before .erase .insert order ∧
            Before .insert .testEmpty order))
    else
      k.prio = false ∧ k.dwnld = false ∧ Before .testEmpty .insert order ∧ Before .switchOn .switchOff order

instance (k : Shape) (node spi : Bool) (order : List Step) : Decidable (Bits.Breaks k node spi order) := by
  unfold Bits.Breaks
  infer_instance

/-- The end of the race, in bits: whether the caller of `powerOn` is registered, and whether the eSE is on. -/
def Bits.outcome (k : Shape) (node spi : Bool) (order : List Step) : Bool × Bool :=
  (((bits k).run (.start node spi) order).added, ((bits k).run (.start node spi) order).spi)

/-- All 35 interleavings, from every start: the dead process is erased at the end, the end is that of a serial order exactly when
the interleaving does not go wrong, and then a caller of another pid that is registered has the eSE on, unless the priority bit
keeps `powerOn` from switching it on. -/
theorem bits_check : ∀ same last prio dwnld node spi : Bool, ∀ order ∈ shuffles powerOnSteps binderDiedSteps,
    ((bits ⟨same, last, prio, dwnld⟩).run (.start node spi) order).erased = true ∧
      ((Bits.outcome ⟨same, last, prio, dwnld⟩ node spi order =
          Bits.outcome ⟨same, last, prio, dwnld⟩ node spi (powerOnSteps ++ binderDiedSteps) ∨
        Bits.outcome ⟨same, last, prio, dwnld⟩ node spi order =
          Bits.outcome ⟨same, last, prio, dwnld⟩ node spi (binderDiedSteps ++ powerOnSteps)) ↔
        ¬Bits.Breaks ⟨same, last, prio, dwnld⟩ node spi order) ∧
      (same = false → prio = false → ¬Bits.Breaks ⟨same, last, prio, dwnld⟩ node spi order →
        (Bits.outcome ⟨same, last, prio, dwnld⟩ node spi order).1 = true →
        (Bits.outcome ⟨same, last, prio, dwnld⟩ node spi order).2 = true) := by
  decide +kernel

/-- In every interleaving each step comes after those it needs. -/
theorem bits_ready : ∀ same last prio dwnld node spi : Bool, ∀ order ∈ shuffles powerOnSteps binderDiedSteps,
    (bits ⟨same, last, prio, dwnld⟩).Along Bits.Ready (.start node spi) order := by
  decide +kernel

/-! ## What the steps do to the map -/

/-- What `powerOn` enters in the map for a new pid. -/
def newData (c : Contenders) (s : State) : ServiceData :=
  { lServiceCb := some c.cb, lDeathNotifier := some (newNotifier s c.pid), clientThreadCount := 0 }

/-- The map once the dead process is erased or not, and the caller of `powerOn` added or not. -/
def mapAfter (c : Contenders) (s : State) (erased added : Bool) : PidsMap :=
  let base : PidsMap := if erased = true then s.pidsMap.erase c.mPid else s.pidsMap
  if added = true then base.addHold c.pid (newData c s) else base

/-- The data of a pid once a hold is added to it. -/
theorem getElem?_addHold (m : PidsMap) (pid q : Pid) (data : ServiceData) :
    (m.addHold pid data)[q]? =
      if pid = q then
        match m[pid]? with
        | none => some { data with clientThreadCount := 1 }
        | some d => some { d with clientThreadCount := d.clientThreadCount + 1 }
      else m[q]? := by
  unfold PidsMap.addHold
  by_cases hq : pid = q
  · subst hq
    split <;> simp_all
  · split <;> rw [Std.ExtTreeMap.getElem?_insert, if_neg (by simpa using hq), if_neg hq]

/-- Adding a hold changes the map. -/
theorem addHold_ne (m : PidsMap) (pid : Pid) (data : ServiceData) : m.addHold pid data ≠ m := by
  intro h
  have hpid := getElem?_addHold m pid pid data
  rw [h, if_pos rfl] at hpid
  cases hm : m[pid]? with
  | none =>
    rw [hm] at hpid
    cases hpid
  | some d =>
    rw [hm] at hpid
    simp only [Option.some.injEq] at hpid
    have hcount := congrArg ServiceData.clientThreadCount hpid
    exact absurd (Int32.add_eq_left.1 hcount.symm) (by decide)

/-- What is added for a pid goes when it is erased. -/
theorem erase_addHold_self (m : PidsMap) (pid : Pid) (data : ServiceData) : (m.addHold pid data).erase pid = m.erase pid := by
  unfold PidsMap.addHold
  split
  · exact erase_insert_self m pid _
  · exact erase_insert_self m pid _

/-- Erasing one pid and adding another go in any order. -/
theorem erase_addHold_of_ne (m : PidsMap) {mPid pid : Pid} (h : mPid ≠ pid) (data : ServiceData) :
    (m.addHold pid data).erase mPid = PidsMap.addHold (m.erase mPid) pid data := by
  refine Std.ExtTreeMap.ext_getElem? fun q => ?_
  rw [getElem?_addHold, Std.ExtTreeMap.getElem?_erase, Std.ExtTreeMap.getElem?_erase, Std.ExtTreeMap.getElem?_erase,
    getElem?_addHold]
  by_cases hq : pid = q
  · subst hq
    simp [h]
  · simp [hq]

theorem erase_erase_self (m : PidsMap) (pid : Pid) : (m.erase pid).erase pid = m.erase pid := by
  refine Std.ExtTreeMap.ext_getElem? fun q => ?_
  simp only [Std.ExtTreeMap.getElem?_erase]
  split <;> rfl

/-- Erasing the dead process, whatever was done before. -/
theorem erase_mapAfter (c : Contenders) (s : State) (erased added : Bool) :
    (mapAfter c s erased added).erase c.mPid = mapAfter c s true (added && !decide (c.mPid = c.pid)) := by
  have hbase : (if erased = true then s.pidsMap.erase c.mPid else s.pidsMap).erase c.mPid = s.pidsMap.erase c.mPid := by
    split
    · exact erase_erase_self _ _
    · rfl
  unfold mapAfter
  cases added with
  | false => simp [hbase]
  | true =>
    by_cases hpid : c.mPid = c.pid
    · simp only [hpid, if_true, decide_true, Bool.not_true, Bool.and_false]
      rw [hpid] at hbase
      rw [erase_addHold_self, hbase]
      simp
    · simp only [hpid, if_true, decide_false, Bool.not_false, Bool.and_true]
      rw [erase_addHold_of_ne _ hpid, hbase]

theorem isEmpty_mapAfter (c : Contenders) (s : State) (added : Bool) :
    (mapAfter c s true added).isEmpty = ((s.pidsMap.erase c.mPid).isEmpty && !added) := by
  unfold mapAfter
  cases added with
  | false => simp
  | true => simp [addHold_isEmpty]

/-! ## The simulation -/

/-- The shape of a race. -/
def shape (c : Contenders) (s : State) (word : BitVec 32) : Shape :=
  { same := decide (c.mPid = c.pid), last := (s.pidsMap.erase c.mPid).isEmpty, prio := has word p61StateSpiPrio,
    dwnld := has word p61StateDwnld }

/-- The bits of a race that started in `s`, with the status word `word`. -/
structure Abstracts (c : Contenders) (s : State) (word : BitVec 32) (r : Race) (b : Bits) : Prop where
  spi : has r.word p61StateSpi = b.spi
  prio : has r.word p61StateSpiPrio = has word p61StateSpiPrio
  dwnld : has r.word p61StateDwnld = has word p61StateDwnld
  read : b.hasRead = true → has r.eseCurrentState p61StateSpi = b.readSpi ∧
    has r.eseCurrentState p61StateSpiPrio = has word p61StateSpiPrio ∧
    has r.eseCurrentState p61StateDwnld = has word p61StateDwnld
  node : 0 ≤ r.daemon.nqNode ↔ b.node = true
  returned : r.ret.isSome = b.returned
  linked : b.linked = true → r.notifier = some (newNotifier s c.pid)
  allocs : b.linked = false → r.daemon.allocs = s.allocs
  map : r.daemon.pidsMap = mapAfter c s b.erased b.added
  added : b.added = true → b.returned = true
  one : c.mPid ≠ c.pid → r.ret = some 1 → b.added = true
  empty : r.empty = b.empty

/-- At the start the bits say what the state says. -/
theorem abstracts_start (c : Contenders) (s : State) (word : BitVec 32) :
    Abstracts c s word (.start s word) (.start (decide (0 ≤ s.nqNode)) (has word p61StateSpi)) where
  spi := rfl
  prio := rfl
  dwnld := rfl
  read := by simp [Bits.start]
  node := by simp [Race.start, Bits.start]
  returned := rfl
  linked := by simp [Bits.start]
  allocs := fun _ => rfl
  map := by simp [Race.start, Bits.start, mapAfter]
  added := by simp [Bits.start]
  one := by simp [Race.start]
  empty := rfl

/-- The bits follow the read of the status. -/
theorem abstracts_readStatus {c : Contenders} {s : State} {word : BitVec 32} {r : Race} {b : Bits}
    (h : Abstracts c s word r b) (ha : c.answers.Succeeds) (k : Shape) :
    Abstracts c s word (r.readStatus c) (b.next k .readStatus) := by
  have hnode := nodeAfterOpen_nonneg (s := r.daemon) ha
  have hst := ha.status
  have heq : r.readStatus c = { r with
      daemon := { r.daemon with nqNode := nodeAfterOpen r.daemon c.answers }, eseCurrentState := r.word } := by
    simp only [Race.readStatus, openNode_eq, if_neg (Int.not_lt.2 hnode), if_neg (Int.not_lt.2 hst)]
  rw [heq]
  exact { h with
    read := fun _ => ⟨h.spi, h.prio, h.dwnld⟩
    node := by simpa [Bits.next] using hnode }

/-- A step of `powerOn` after it has returned does nothing, and so it does in bits. -/
theorem Abstracts.returned_eq_true {c : Contenders} {s : State} {word : BitVec 32} {r : Race} {b : Bits}
    (h : Abstracts c s word r b) {ret : Int} (hr : r.ret = some ret) : b.returned = true := by
  rw [← h.returned, hr]
  rfl

/-- As long as `powerOn` has not returned, the bits say so. -/
theorem Abstracts.returned_eq_false {c : Contenders} {s : State} {word : BitVec 32} {r : Race} {b : Bits}
    (h : Abstracts c s word r b) (hr : r.ret = none) : b.returned = false := by
  rw [← h.returned, hr]
  rfl

/-- They follow the switching on. -/
theorem abstracts_switchOn {c : Contenders} {s : State} {word : BitVec 32} {r : Race} {b : Bits}
    (h : Abstracts c s word r b) (ha : c.answers.Succeeds) (hr : b.hasRead = true) :
    Abstracts c s word (r.switchOn c) (b.next (shape c s word) .switchOn) := by
  obtain ⟨hspi, hprio, hdwnld⟩ := h.read hr
  have hprio : has r.eseCurrentState p61StateSpiPrio = (shape c s word).prio := hprio
  have hdwnld : has r.eseCurrentState p61StateDwnld = (shape c s word).dwnld := hdwnld
  unfold Race.switchOn
  cases hrr : r.ret with
  | some ret =>
    simp only [Bits.next]
    rw [if_pos (by simp [h.returned_eq_true hrr])]
    exact h
  | none =>
    have hret := h.returned_eq_false hrr
    have hexit := switchOn_exit r.daemon r.eseCurrentState c.answers
    simp only [Bits.next]
    generalize switchOn r.daemon r.eseCurrentState c.answers = o at hexit
    cases hexit with
    | alreadyOn hon =>
      rw [has_or, hspi, hprio] at hon
      rw [if_pos (by rw [Bool.or_assoc, hon, Bool.or_true])]
      exact { h with
        returned := hret.symm
        one := fun _ hone => by cases hone }
    | downloading hoff hd =>
      rw [has_or, hspi, hprio] at hoff
      rw [hdwnld] at hd
      rw [if_neg (by rw [Bool.or_assoc, hret, hoff]; decide), if_pos hd]
      exact { h with
        returned := rfl
        added := fun _ => rfl
        one := fun _ hone => by
          have hbusy : some (-ebusy) ≠ some 1 := by decide
          exact absurd hone hbusy }
    | schemeFailed _ _ hs =>
      have := ha.scheme
      omega
    | powerFailed _ _ _ hp =>
      have := ha.pwrOn
      omega
    | switched hoff hd _ hp =>
      rw [has_or, hspi, hprio] at hoff
      rw [hdwnld] at hd
      rw [if_neg (by rw [Bool.or_assoc, hret, hoff]; decide), if_neg (by rw [hd]; decide)]
      have hw : wordAfterAll r.word [.ioctl r.daemon.nqNode (.setPowerScheme 2) c.answers.schemeRet,
          .ioctl r.daemon.nqNode (.setSpmPwr 1) c.answers.pwrOnRet] = r.word ||| p61StateSpi :=
        wordAfter_on r.daemon.nqNode hp r.word
      simp only [hw]
      exact { h with
        spi := has_set_self (by decide)
        prio := (has_set_of_disjoint (by decide)).trans h.prio
        dwnld := (has_set_of_disjoint (by decide)).trans h.dwnld
        returned := hret.symm
        one := fun _ hone => by cases hone }

/-- They follow the linking. -/
theorem abstracts_link {c : Contenders} {s : State} {word : BitVec 32} {r : Race} {b : Bits}
    (h : Abstracts c s word r b) (ha : c.answers.Succeeds) (k : Shape) (hr : b.linked = false ∨ b.returned = true) :
    Abstracts c s word (r.link c) (b.next k .link) := by
  unfold Race.link
  cases hrr : r.ret with
  | some ret =>
    simp only [Bits.next]
    rw [if_pos (h.returned_eq_true hrr)]
    exact h
  | none =>
    have hret := h.returned_eq_false hrr
    have hnot : b.linked = false := by
      rcases hr with hr | hr
      · exact hr
      · rw [hr] at hret
        cases hret
    have hlink : ¬c.answers.linkRet ≠ noError := fun hne => hne ha.links
    simp only [Bits.next, if_neg hlink]
    rw [if_neg (by rw [hret]; decide)]
    exact { h with
      linked := fun _ => by simp only [newNotifier, h.allocs hnot]
      allocs := fun hl => by cases hl
      returned := hret.symm
      one := fun _ hone => by cases hone }

/-- They follow the insertion. -/
theorem abstracts_insert {c : Contenders} {s : State} {word : BitVec 32} {r : Race} {b : Bits}
    (h : Abstracts c s word r b) (k : Shape) (hr : b.linked = true ∨ b.returned = true) :
    Abstracts c s word (r.insert c) (b.next k .insert) := by
  unfold Race.insert
  cases hrr : r.ret with
  | some ret =>
    simp only [Bits.next]
    rw [if_pos (h.returned_eq_true hrr)]
    exact h
  | none =>
    have hret := h.returned_eq_false hrr
    have hlinked : b.linked = true := by
      rcases hr with hr | hr
      · exact hr
      · rw [hr] at hret
        cases hret
    have hadded : b.added = false := by
      rw [← Bool.not_eq_true]
      intro hadd
      rw [h.added hadd] at hret
      cases hret
    have hmap := h.map
    rw [hadded] at hmap
    simp only [Bits.next]
    rw [if_neg (by rw [hret]; decide)]
    exact { h with
      map := by
        simp only [hmap, h.linked hlinked]
        simp [mapAfter, newData]
      returned := rfl
      added := fun _ => rfl
      one := fun _ _ => rfl }

/-- They follow the erasure. -/
theorem abstracts_erase {c : Contenders} {s : State} {word : BitVec 32} {r : Race} {b : Bits}
    (h : Abstracts c s word r b) : Abstracts c s word (r.erase c) (b.next (shape c s word) .erase) := by
  have hmap : (r.daemon.pidsMap.erase c.mPid) = mapAfter c s true (b.added && !decide (c.mPid = c.pid)) := by
    rw [h.map, erase_mapAfter]
  exact { h with
    map := hmap
    added := by
      intro hadd
      simp only [Bits.next, Bool.and_eq_true] at hadd
      exact h.added hadd.1
    one := by
      intro hne hone
      simp [Bits.next, shape, h.one hne hone, hne] }

/-- They follow the test of the map. -/
theorem abstracts_testEmpty {c : Contenders} {s : State} {word : BitVec 32} {r : Race} {b : Bits}
    (h : Abstracts c s word r b) (hr : b.erased = true) :
    Abstracts c s word r.testEmpty (b.next (shape c s word) .testEmpty) := by
  have hmap := h.map
  rw [hr] at hmap
  exact { h with
    empty := by
      simp only [Race.testEmpty, Bits.next, shape]
      rw [hmap, isEmpty_mapAfter] }

/-- They follow the switching off. -/
theorem abstracts_switchOff {c : Contenders} {s : State} {word : BitVec 32} {r : Race} {b : Bits}
    (h : Abstracts c s word r b) (ha : c.answers.Succeeds) (k : Shape) :
    Abstracts c s word (r.switchOff c) (b.next k .switchOff) := by
  unfold Race.switchOff
  simp only [Bits.next]
  by_cases he : r.empty = false
  · have hempty : ¬(b.empty && b.node) = true := by simp [← h.empty, he]
    rw [if_pos he, if_neg hempty]
    exact h
  · by_cases hn : r.daemon.nqNode < 0
    · have hclosed : ¬(b.empty && b.node) = true := by
        rw [Bool.and_eq_true, ← h.node]
        omega
      rw [if_neg he, if_pos hn, if_neg hclosed]
      exact h
    · have hopen : (b.empty && b.node) = true := by
        rw [Bool.and_eq_true, ← h.node, ← h.empty]
        exact ⟨Bool.not_eq_false _ ▸ he, Int.not_lt.1 hn⟩
      rw [if_neg he, if_neg hn, if_pos hopen, wordAfter_off r.daemon.nqNode ha.pwrOff]
      exact { h with
        spi := has_clear_self r.word p61StateSpi
        prio := (has_clear_of_disjoint (by decide)).trans h.prio
        dwnld := (has_clear_of_disjoint (by decide)).trans h.dwnld }

/-- The bits simulate the race, when every device call succeeds. -/
theorem bits_simulates {c : Contenders} (s : State) (word : BitVec 32) (ha : c.answers.Succeeds) {order : List Step}
    (ho : Shuffle powerOnSteps binderDiedSteps order) :
    Abstracts c s word ((race c).run (.start s word) order)
      ((bits (shape c s word)).run (.start (decide (0 ≤ s.nqNode)) (has word p61StateSpi)) order) := by
  have hready := bits_ready (shape c s word).same (shape c s word).last (shape c s word).prio (shape c s word).dwnld
    (decide (0 ≤ s.nqNode)) (has word p61StateSpi) order (mem_shuffles_iff.2 ho)
  refine Machine.run_simulates (N := bits (shape c s word)) (R := Abstracts c s word) (fun r b step h hr => ?_)
    (abstracts_start c s word) hready
  cases step with
  | readStatus => exact abstracts_readStatus h ha (shape c s word)
  | switchOn => exact abstracts_switchOn h ha hr
  | link => exact abstracts_link h ha (shape c s word) hr
  | insert => exact abstracts_insert h (shape c s word) hr
  | erase => exact abstracts_erase h
  | testEmpty => exact abstracts_testEmpty h hr
  | switchOff => exact abstracts_switchOff h ha (shape c s word)

end EseManager
