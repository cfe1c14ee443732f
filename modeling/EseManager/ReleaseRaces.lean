import EseManager.Device

/-!
# A death notice next to a release

`powerOff` reaches the map through `pidsMap[pid]`, once for every field that it reads or writes, and `[]` enters a pid that is not
there. `binderDied` does not take the mutex of the requests, so that it can erase the pid between two of these accesses. Here
`powerOff`, past its uid test, and `binderDied` are cut into the single accesses to what they share: the map, the node, and the device.
`release` lets them take turns in any order; each of them alone is the handler (`release_powerOff`, `release_binderDied`).

An access is one operation of the map (a lookup with the field it is for, an erasure, the test whether it is empty, one step of an
iterator), and is taken not to be torn by another one; so are the test of the node, an ioctl and the close. The line that unlinks the
notifier is three: it reads the callback, then the notifier, and then calls the callback through the pointer it has read.

Two log lines are more than text. The argument of one is a `pidsMap[pid]`, after the thread count has been tested. And `isPidsMapEmpty`
prints all pids of a map that is not empty, with an iterator: when the entry that the iterator is at is erased by the other handler, the
next step of it uses memory that is free. So does a call of a callback that nobody holds any longer, and a callback that is null when it
is called takes the daemon down as well.
-/

namespace EseManager

/-- What `[]` enters in the map. -/
def ServiceData.empty : ServiceData := { lServiceCb := none, lDeathNotifier := none, clientThreadCount := 0 }

/-- `pidsMap[pid]`: the data of the pid, and the map with the pid entered. -/
def PidsMap.index (m : PidsMap) (pid : Pid) : ServiceData × PidsMap :=
  match m[pid]? with
  | some d => (d, m)
  | none => (.empty, m.insert pid .empty)

/-! ## The iterator of `printPidsMap` -/

/-- Where the iterator is: about to be made, at the entry of a pid, or at one that has been erased. -/
inductive Cursor where
  | begin
  | entry (pid : Pid)
  | dangling
  deriving DecidableEq, Repr

/-- The entry that the iterator goes to, in the order of the pids. -/
def Cursor.next (m : PidsMap) : Cursor → Option Pid
  | .begin => m.keys.head?
  | .entry pid => m.keys.find? (pid < ·)
  | .dangling => none

/-- The iterator once the entry of a pid is erased. -/
def Cursor.erased (pid : Pid) : Cursor → Cursor
  | .entry q => if q = pid then .dangling else .entry q
  | it => it

/-! ## The places of the handlers -/

/-- What `powerOff` does next. -/
inductive OffPlace where
  /-- `!pidsMap.count(pid)` -/
  | count
  /-- `pidsMap[pid].l_serviceCb != 0` -/
  | testCb
  /-- `pidsMap[pid].l_deathNotifier != 0` -/
  | testNotifier
  /-- `pidsMap[pid].l_serviceCb->` -/
  | unlink
  /-- `pidsMap[pid].l_deathNotifier`, with the callback that has been read -/
  | unlinkNotifier (cb : Option Binder)
  /-- the call of `unlinkToDeath` -/
  | unlinkCall (cb : Option Binder) (n : Option ClientDiedNotifier)
  /-- `pidsMap[pid].client_threadCount--` -/
  | countDown
  /-- `pidsMap[pid].client_threadCount > 0` -/
  | testCount
  /-- the log line with `pidsMap[pid].client_threadCount`, and the return -/
  | log
  /-- `pidsMap.erase(pid)` -/
  | erase
  /-- `pidsMap.empty()` -/
  | testEmpty
  /-- `printPidsMap()`, and the return -/
  | walk (it : Cursor)
  /-- the test of the node, the status query and `P61_SET_SPM_PWR` -/
  | switchOff
  /-- `close(nq_node)` -/
  | close
  | returned (ret : Int)
  | crashed
  deriving DecidableEq, Repr

/-- What `binderDied` does next. -/
inductive DiedPlace where
  | erase
  | testEmpty
  | walk (it : Cursor)
  | testNode
  | switchOff
  | done
  deriving DecidableEq, Repr

/-- The death of `mPid`, the `powerOff` of `pid`, and the answers to both. `lastRef` is whether nobody but the entry of `pid` holds its
callback, so that Binder destroys it with the entry. -/
structure Releasers where
  mPid : Pid
  pid : Pid
  answers : Answers
  lastRef : Bool

/-- The callback that `powerOff` has read, once `binderDied` has erased its pid. -/
def Releasers.held (c : Releasers) (cb : Option Binder) : Option Binder :=
  if c.mPid = c.pid ∧ c.lastRef = true then none else cb

/-- The place of `powerOff` once `binderDied` has erased its pid. -/
def OffPlace.erased (c : Releasers) : OffPlace → OffPlace
  | .unlinkNotifier cb => .unlinkNotifier (c.held cb)
  | .unlinkCall cb n => .unlinkCall (c.held cb) n
  | .walk it => .walk (it.erased c.mPid)
  | o => o

/-- The place of `binderDied` once a pid is erased by somebody else. -/
def DiedPlace.erased (pid : Pid) : DiedPlace → DiedPlace
  | .walk it => .walk (it.erased pid)
  | o => o

/-- What the two handlers share, and where they are. -/
structure Release where
  daemon : State
  word : BitVec 32
  off : OffPlace
  died : DiedPlace

/-- Both handlers before their first access. -/
def Release.start (s : State) (word : BitVec 32) : Release := { daemon := s, word := word, off := .count, died := .erase }

/-- The map after an access. -/
def Release.withMap (r : Release) (m : PidsMap) : Release := { r with daemon := { r.daemon with pidsMap := m } }

/-- The link of the callback and the notifier is taken away, if there is one. -/
def State.unlinked (s : State) (cb : Binder) (n : Option ClientDiedNotifier) : State :=
  match n with
  | none => s
  | some n => { s with links := s.links.erase (cb, n) }

/-- The next access of `powerOff`. -/
def Release.powerOff (c : Releasers) (r : Release) : Release :=
  let (d, m) := r.daemon.pidsMap.index c.pid
  match r.off with
  | .count => { r with off := if c.pid ∈ r.daemon.pidsMap then .testCb else .returned (-1) }
  | .testCb => { r.withMap m with off := if d.lServiceCb = none then .countDown else .testNotifier }
  | .testNotifier => { r.withMap m with off := if d.lDeathNotifier = none then .countDown else .unlink }
  | .unlink => { r.withMap m with off := if d.lServiceCb = none then .crashed else .unlinkNotifier d.lServiceCb }
  | .unlinkNotifier cb => { r.withMap m with off := .unlinkCall cb d.lDeathNotifier }
  | .unlinkCall none _ => { r with off := .crashed }
  | .unlinkCall (some cb) n => { r with daemon := r.daemon.unlinked cb n, off := .countDown }
  | .countDown =>
    { r.withMap (m.insert c.pid { d with clientThreadCount := d.clientThreadCount - 1 }) with off := .testCount }
  | .testCount => { r.withMap m with off := if d.clientThreadCount > 0 then .log else .erase }
  | .log => { r.withMap m with off := .returned 1 }
  | .erase => { r.withMap (r.daemon.pidsMap.erase c.pid) with off := .testEmpty, died := r.died.erased c.pid }
  | .testEmpty => { r with off := if r.daemon.pidsMap.isEmpty = false then .walk .begin else .switchOff }
  | .walk .dangling => { r with off := .crashed }
  | .walk it =>
    match it.next r.daemon.pidsMap with
    | none => { r with off := .returned 1 }
    | some pid => { r with off := .walk (.entry pid) }
  | .switchOff =>
    if r.daemon.nqNode < 0 then
      { r with off := .returned 0 }
    else if has (eseCurrentState { c.answers with word := r.word }) p61StateDwnld then
      { r with off := .returned (-ebusy) }
    else if c.answers.pwrOffRet < 0 then
      { r with off := .returned c.answers.pwrOffRet }
    else
      { r with word := wordAfter r.word (.ioctl r.daemon.nqNode (.setSpmPwr 0) c.answers.pwrOffRet), off := .close }
  | .close => { r with daemon := (closeNode r.daemon c.answers).1, off := .returned 0 }
  | .returned _ => r
  | .crashed => r

/-- The next access of `binderDied`. The node may have been closed since it was tested; then its ioctl fails. -/
def Release.binderDied (c : Releasers) (r : Release) : Release :=
  if r.off = .crashed then r
  else match r.died with
    | .erase => { r with daemon := r.daemon.unregister c.mPid, off := r.off.erased c, died := .testEmpty }
    | .testEmpty => { r with died := if r.daemon.pidsMap.isEmpty = false then .walk .begin else .testNode }
    | .walk .dangling => { r with off := .crashed }
    | .walk it =>
      match it.next r.daemon.pidsMap with
      | none => { r with died := .done }
      | some pid => { r with died := .walk (.entry pid) }
    | .testNode => { r with died := if r.daemon.nqNode < 0 then .done else .switchOff }
    | .switchOff =>
      if r.daemon.nqNode < 0 then
        { r with died := .done }
      else
        { r with word := wordAfter r.word (.ioctl r.daemon.nqNode (.setSpmPwr 0) c.answers.pwrOffRet), died := .done }
    | .done => r

/-- Whose turn it is. -/
inductive Turn where
  | powerOff
  | binderDied
  deriving DecidableEq, Repr

/-- The two handlers, access by access. -/
def release (c : Releasers) : Machine Release Turn Unit where
  next r turn :=
    match turn with
    | .powerOff => r.powerOff c
    | .binderDied => r.binderDied c
  out _ _ := ()

/-- Both handlers are through, or the daemon has crashed. -/
def Release.Through (r : Release) : Prop := r.off = .crashed ∨ (∃ ret, r.off = .returned ret) ∧ r.died = .done

/-- `powerOff` has read the callback, and has not called it yet. -/
@[simp]
def OffPlace.AtCall : OffPlace → Prop
  | .unlinkNotifier _ | .unlinkCall _ _ => True
  | _ => False

/-- The turn erases an entry that the other handler cannot do without: the one that its iterator is at, the one that `powerOff` is
about to take the callback from, or the last reference to the callback that it is about to call. -/
def Dooms (c : Releasers) (r : Release) : Turn → Prop
  | .powerOff => r.off = .erase ∧ r.died = .walk (.entry c.pid)
  | .binderDied =>
    r.died = .erase ∧
      (r.off = .walk (.entry c.mPid) ∨ c.mPid = c.pid ∧ (r.off = .unlink ∨ c.lastRef = true ∧ r.off.AtCall))

/-! ## The accesses make up the handlers -/

@[simp] theorem release_next_powerOff (c : Releasers) (r : Release) : (release c).next r .powerOff = r.powerOff c := rfl

@[simp] theorem release_next_binderDied (c : Releasers) (r : Release) : (release c).next r .binderDied = r.binderDied c := rfl

/-- The data of a pid that is there is not entered. -/
theorem index_of_some {m : PidsMap} {pid : Pid} {d : ServiceData} (h : m[pid]? = some d) : m.index pid = (d, m) := by
  simp [PidsMap.index, h]

/-- A pid that is not there is entered. -/
theorem index_of_none {m : PidsMap} {pid : Pid} (h : m[pid]? = none) :
    m.index pid = (.empty, m.insert pid .empty) := by
  simp [PidsMap.index, h]

@[simp] theorem OffPlace.erased_eq_crashed_iff (c : Releasers) (o : OffPlace) : o.erased c = .crashed ↔ o = .crashed := by
  cases o <;> simp [OffPlace.erased]

/-- The iterator goes on to entries behind the one it is at. -/
theorem Cursor.mem_of_next {m : PidsMap} {it : Cursor} {pid : Pid} (h : it.next m = some pid) :
    pid ∈ m ∧ ∀ q, it = .entry q → q < pid := by
  cases it with
  | begin => exact ⟨Std.ExtTreeMap.mem_keys.1 (List.mem_of_head? h), nofun⟩
  | entry q =>
    refine ⟨Std.ExtTreeMap.mem_keys.1 (List.mem_of_find?_eq_some h), fun q' hq => ?_⟩
    cases hq
    simpa using List.find?_some h
  | dangling => cases h

/-- How many entries are still before the iterator. -/
def Cursor.ahead (m : PidsMap) : Cursor → Nat
  | .entry pid => (m.keys.filter (pid < ·)).length
  | _ => m.keys.length + 1

theorem Cursor.ahead_lt {m : PidsMap} {it : Cursor} {pid : Pid} (h : it.next m = some pid) :
    (Cursor.entry pid).ahead m < it.ahead m := by
  obtain ⟨hmem, hlt⟩ := Cursor.mem_of_next h
  cases it with
  | begin => exact Nat.lt_succ_of_le (List.length_filter_le _ _)
  | dangling => cases h
  | entry q =>
    have hq := hlt q rfl
    have hfilter : m.keys.filter (pid < ·) = (m.keys.filter (q < ·)).filter (pid < ·) := by
      rw [List.filter_filter]
      refine List.filter_congr fun p _ => ?_
      by_cases hp : pid < p
      · simp [hp, UInt32.lt_trans hq hp]
      · simp [hp]
    simp only [Cursor.ahead]
    rw [hfilter, List.length_filter_lt_length_iff_exists]
    exact ⟨pid, List.mem_filter.2 ⟨Std.ExtTreeMap.mem_keys.2 hmem, decide_eq_true hq⟩, by simp⟩

/-- One step of the iterator of `powerOff`. -/
theorem powerOff_walk (c : Releasers) {r : Release} {it : Cursor} (hoff : r.off = .walk it) (hit : it ≠ .dangling) :
    r.powerOff c =
      { r with off := match it.next r.daemon.pidsMap with
        | none => .returned 1
        | some pid => .walk (.entry pid) } := by
  cases it with
  | dangling => exact absurd rfl hit
  | begin =>
    simp only [Release.powerOff, hoff]
    split <;> rfl
  | entry q =>
    simp only [Release.powerOff, hoff]
    split <;> rfl

/-- With nobody else at the map, `powerOff` prints it to the end. -/
theorem run_walk_powerOff (c : Releasers) {r : Release} {it : Cursor} (hoff : r.off = .walk it) (hit : it ≠ .dangling) :
    ∃ n, (release c).run r (List.replicate n .powerOff) = { r with off := .returned 1 } := by
  -- by strong induction on the entries before the iterator
  obtain ⟨k, hk⟩ : ∃ k, it.ahead r.daemon.pidsMap = k := ⟨_, rfl⟩
  induction k using Nat.strong_induction_on generalizing r it with
  | _ k ih =>
    have hstep := powerOff_walk c hoff hit
    cases hnext : it.next r.daemon.pidsMap with
    | none =>
      rw [hnext] at hstep
      exact ⟨1, hstep⟩
    | some pid =>
      rw [hnext] at hstep
      have hlt := Cursor.ahead_lt hnext
      rw [hk] at hlt
      obtain ⟨n, hn⟩ := ih _ hlt (r := { r with off := .walk (.entry pid) }) rfl (by simp) rfl
      refine ⟨n + 1, ?_⟩
      rw [List.replicate_succ, Machine.run_cons, release_next_powerOff, hstep]
      exact hn

/-- One step of the iterator of `binderDied`. -/
theorem binderDied_walk (c : Releasers) {r : Release} {it : Cursor} (hcrash : r.off ≠ .crashed) (hdied : r.died = .walk it)
    (hit : it ≠ .dangling) :
    r.binderDied c =
      { r with died := match it.next r.daemon.pidsMap with
        | none => .done
        | some pid => .walk (.entry pid) } := by
  cases it with
  | dangling => exact absurd rfl hit
  | begin =>
    simp only [Release.binderDied, hcrash, hdied, if_false]
    split <;> rfl
  | entry q =>
    simp only [Release.binderDied, hcrash, hdied, if_false]
    split <;> rfl

/-- With nobody else at the map, `binderDied` prints it to the end. -/
theorem run_walk_binderDied (c : Releasers) {r : Release} {it : Cursor} (hcrash : r.off ≠ .crashed) (hdied : r.died = .walk it)
    (hit : it ≠ .dangling) : ∃ n, (release c).run r (List.replicate n .binderDied) = { r with died := .done } := by
  obtain ⟨k, hk⟩ : ∃ k, it.ahead r.daemon.pidsMap = k := ⟨_, rfl⟩
  induction k using Nat.strong_induction_on generalizing r it with
  | _ k ih =>
    have hstep := binderDied_walk c hcrash hdied hit
    cases hnext : it.next r.daemon.pidsMap with
    | none =>
      rw [hnext] at hstep
      exact ⟨1, hstep⟩
    | some pid =>
      rw [hnext] at hstep
      have hlt := Cursor.ahead_lt hnext
      rw [hk] at hlt
      obtain ⟨n, hn⟩ := ih _ hlt (r := { r with died := .walk (.entry pid) }) hcrash rfl (by simp) rfl
      refine ⟨n + 1, ?_⟩
      rw [List.replicate_succ, Machine.run_cons, release_next_binderDied, hstep]
      exact hn

/-- With nobody else at the map, the stored notifier is unlinked, if there is one. -/
theorem run_unlink (c : Releasers) {s : State} {d : ServiceData} (hm : s.pidsMap[c.pid]? = some d) (word : BitVec 32) :
    ∃ n, (release c).run (.start s word) (List.replicate n .powerOff) =
      { daemon := (unlink s d).1, word := word, off := .countDown, died := .erase } := by
  have hmem : c.pid ∈ s.pidsMap := by simp [Std.ExtTreeMap.mem_iff_isSome_getElem?, hm]
  have hindex := index_of_some hm
  rcases hcb : d.lServiceCb with _ | cb
  · refine ⟨2, ?_⟩
    simp [Release.start, Release.powerOff, Release.withMap, hmem, hindex, hcb, unlink, ServiceData.link?]
  · rcases hn : d.lDeathNotifier with _ | n
    · refine ⟨3, ?_⟩
      simp [Release.start, Release.powerOff, Release.withMap, hmem, hindex, hcb, hn, unlink, ServiceData.link?]
    · refine ⟨6, ?_⟩
      simp [Release.start, Release.powerOff, Release.withMap, hmem, hindex, hcb, hn, unlink, ServiceData.link?, State.unlinked]

/-- From there on the handler counts down, and tests the count. -/
theorem run_countDown (c : Releasers) {s : State} {d : ServiceData} (hm : s.pidsMap[c.pid]? = some d) (word : BitVec 32) :
    (release c).run { daemon := (unlink s d).1, word := word, off := .countDown, died := .erase } (List.replicate 2 .powerOff) =
      { daemon := countedDown s c.pid d, word := word, off := if d.clientThreadCount - 1 > 0 then .log else .erase,
        died := .erase } := by
  have hagain : ∀ d', PidsMap.index (s.pidsMap.insert c.pid d') c.pid = (d', s.pidsMap.insert c.pid d') :=
    fun d' => index_of_some (by simp)
  simp [Release.powerOff, Release.withMap, unlink_state, index_of_some hm, hagain, countedDown]

/-- When the count is not positive the pid is erased, and somebody else is looked for. -/
theorem run_erase (c : Releasers) (s : State) (d : ServiceData) (word : BitVec 32) :
    (release c).run { daemon := countedDown s c.pid d, word := word, off := .erase, died := .erase }
        (List.replicate 2 .powerOff) =
      { daemon := released s c.pid d, word := word,
        off := if (s.pidsMap.erase c.pid).isEmpty = false then .walk .begin else .switchOff, died := .erase } := by
  simp [Release.powerOff, Release.withMap, countedDown, released, erase_insert_self, DiedPlace.erased]

/-- `powerOff` has returned, and has left what the handler leaves. -/
structure Release.Handled (r : Release) (word : BitVec 32) (o : Outcome) : Prop where
  daemon : r.daemon = o.state
  word : r.word = wordAfterAll word o.calls
  off : r.off = .returned o.ret
  died : r.died = .erase

/-- When there is nobody the eSE is switched off, and the node closed. -/
theorem run_switchOff (c : Releasers) {s : State} (hn : 0 ≤ s.nqNode) {word : BitVec 32} {o : Outcome}
    (ho : SwitchOffExit s { c.answers with word := word } 0 o) :
    Release.Handled ((release c).run { daemon := s, word := word, off := .switchOff, died := .erase }
      (List.replicate 2 .powerOff)) word o := by
  have hn' : ¬s.nqNode < 0 := Int.not_lt.2 hn
  cases ho with
  | busy hd => constructor <;> simp [hn', hd, Release.powerOff, wordAfterAll, wordAfter, statusCall]
  | offFailed hd hr => constructor <;> simp [hn', hd, hr, Release.powerOff, wordAfterAll, wordAfter, statusCall]
  | off hd hr node hnode =>
    have hr' : ¬c.answers.pwrOffRet < 0 := Int.not_lt.2 hr
    constructor <;> simp [hn', hd, hr', hnode, Release.powerOff, wordAfterAll, wordAfter, statusCall, closeNode_eq]

/-- Without an access of `binderDied` in between, the accesses of `powerOff` are the handler. -/
theorem release_powerOff (c : Releasers) (s : State) (word : BitVec 32) {uid : Int} (hu : uidAllowed uid = true) :
    ∃ n, ((release c).run (.start s word) (List.replicate n .powerOff)).Handled word
      (powerOff s uid c.pid { c.answers with word := word }) := by
  have hexit := powerOff_exit s uid c.pid { c.answers with word := word }
  generalize powerOff s uid c.pid { c.answers with word := word } = o at hexit
  cases hexit with
  | refused hu' =>
    rw [hu] at hu'
    cases hu'
  | unregistered _ hm =>
    have hmem : c.pid ∉ s.pidsMap := by simp [Std.ExtTreeMap.mem_iff_isSome_getElem?, hm]
    refine ⟨1, ?_⟩
    constructor <;> simp [Release.powerOff, Release.start, hmem, wordAfterAll]
  | kept _ d hm hc =>
    obtain ⟨n, hunlink⟩ := run_unlink c hm word
    have hindex : (countedDown s c.pid d).pidsMap.index c.pid = (_, (countedDown s c.pid d).pidsMap) :=
      index_of_some Std.ExtTreeMap.getElem?_insert_self
    refine ⟨n + 2 + 1, ?_⟩
    rw [List.replicate_add, List.replicate_add, Machine.run_append, Machine.run_append, hunlink, run_countDown c hm, if_pos hc]
    constructor <;> simp [Release.powerOff, Release.withMap, hindex, wordAfterAll_of_quiet (unlink_quiet s d)]
  | shared _ d hm hc he =>
    obtain ⟨n, hunlink⟩ := run_unlink c hm word
    obtain ⟨k, hwalk⟩ := run_walk_powerOff c
      (r := { daemon := released s c.pid d, word := word, off := .walk .begin, died := .erase }) rfl (by simp)
    refine ⟨n + 2 + 2 + k, ?_⟩
    rw [List.replicate_add, List.replicate_add, List.replicate_add, Machine.run_append, Machine.run_append, Machine.run_append,
      hunlink, run_countDown c hm, if_neg hc, run_erase, if_pos he, hwalk]
    exact ⟨rfl, (wordAfterAll_of_quiet (unlink_quiet s d) word).symm, rfl, rfl⟩
  | closed _ d hm hc he hn =>
    obtain ⟨n, hunlink⟩ := run_unlink c hm word
    have hnode : (released s c.pid d).nqNode < 0 := hn
    refine ⟨n + 2 + 2 + 1, ?_⟩
    rw [List.replicate_add, List.replicate_add, List.replicate_add, Machine.run_append, Machine.run_append, Machine.run_append,
      hunlink, run_countDown c hm, if_neg hc, run_erase, if_neg (by simp [he])]
    constructor <;> simp [Release.powerOff, hnode, wordAfterAll_of_quiet (unlink_quiet s d)]
  | last _ d hm hc he hn o ho =>
    obtain ⟨n, hunlink⟩ := run_unlink c hm word
    obtain ⟨hdaemon, hword, hret, hdied⟩ := run_switchOff c (s := released s c.pid d) hn ho
    refine ⟨n + 2 + 2 + 2, ?_⟩
    rw [List.replicate_add, List.replicate_add, List.replicate_add, Machine.run_append, Machine.run_append, Machine.run_append,
      hunlink, run_countDown c hm, if_neg hc, run_erase, if_neg (by simp [he])]
    refine ⟨hdaemon, ?_, hret, hdied⟩
    rw [hword, Outcome.after_calls, wordAfterAll_quiet_append (unlink_quiet s d)]

/-- Without an access of `powerOff` in between, those of `binderDied` are the handler. -/
theorem release_binderDied (c : Releasers) (r : Release) (ho : r.off ≠ .crashed) (hd : r.died = .erase) :
    let o := binderDied r.daemon c.mPid c.answers
    ∃ n, (release c).run r (List.replicate n .binderDied) =
      { daemon := o.state, word := wordAfterAll r.word o.calls, off := r.off.erased c, died := .done } := by
  intro o
  have ho' : r.off.erased c ≠ .crashed := fun h => ho ((OffPlace.erased_eq_crashed_iff c _).1 h)
  have ho : o = _ := binderDied_eq r.daemon c.mPid c.answers
  rw [ho]
  by_cases he : (r.daemon.pidsMap.erase c.mPid).isEmpty = true
  · by_cases hn : r.daemon.nqNode < 0
    · refine ⟨3, ?_⟩
      simp [Release.binderDied, *, Int.not_le.2 hn, wordAfterAll]
    · refine ⟨4, ?_⟩
      simp [Release.binderDied, *, Int.not_lt.1 hn, wordAfterAll]
  · obtain ⟨k, hwalk⟩ := run_walk_binderDied c
      (r := { daemon := r.daemon.unregister c.mPid, word := r.word, off := r.off.erased c, died := .walk .begin }) ho' rfl (by simp)
    refine ⟨2 + k, ?_⟩
    rw [List.replicate_add, Machine.run_append, if_neg fun h => he h.1]
    rw [Bool.not_eq_true] at he
    simp [Release.binderDied, *, wordAfterAll]

end EseManager
