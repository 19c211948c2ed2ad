import FtlStream.LifecycleTokens

set_option autoImplicit false

namespace FtlStream.Lifecycle

open List

def ConnectPc.creating : ConnectPc → Bool
  | .finish _ | .detachUnlessStopping | .clearConnecting | .exited => false
  | _ => true

def SendPc.looping : SendPc → Bool
  | .wait | .waitOn _ | .checkStop | .dequeue | .checkDeadline _ | .transmit _ | .sending _ _ _ => true
  | _ => false

def Worker.creating : Worker → Bool
  | .connect pc => pc.creating
  | _ => false

def Worker.looping : Worker → Bool
  | .send pc => pc.looping
  | _ => false

def Worker.follows : Worker → Worker → Bool
  | .connect pc, .connect pc' => (pc' == .exited || pc != .exited) && (!pc'.creating || pc.creating)
  | .send pc, .send pc' => (pc' == .exited || pc != .exited) && (!pc'.looping || pc.looping)
  | .status _, .status _ => true
  | _, _ => false

def State.Solo (s : State) : Prop := s.liveSendWorkers ≤ 1 ∧ s.liveConnectWorkers ≤ 1

instance (s : State) : Decidable s.Solo := inferInstanceAs (Decidable (_ ∧ _))

structure Roster where
  connecting : Bool
  active : Bool
  connectThread : Option Nat
  sendThread : Option Nat
  statusThread : Option Nat
  control : Control
  threads : List Thread

def State.roster (s : State) : Roster :=
  ⟨s.connecting, s.active, s.connectThread, s.sendThread, s.statusThread, s.control, s.threads⟩

def workerAt (threads : List Thread) (j : Nat) : Option Worker := (threads[j]?).map Thread.worker

def Roster.worker (r : Roster) (j : Nat) : Option Worker := workerAt r.threads j

structure Demands where
  noCreator : Bool
  noLoop : Bool
  loopsAt : Option Nat
  createsAt : Option Nat

def Control.demands : Control → Demands
  | .destroyJoinSend | .destroySignal | .destroyPost | .destroyJoinSendActive => ⟨true, false, none, none⟩
  | .destroyFree => ⟨true, true, none, none⟩
  | .join t .destroyFree => ⟨true, false, some t, none⟩
  | .join c .destroySignal => ⟨false, false, none, some c⟩
  | .join _ next => next.demands
  | _ => ⟨false, false, none, none⟩

def NoCreator (threads : List Thread) : Prop := ∀ j pc, workerAt threads j = some (.connect pc) → pc.creating = false

def NoLoop (threads : List Thread) : Prop := ∀ j pc, workerAt threads j = some (.send pc) → pc.looping = false

structure Meets (threads : List Thread) (d : Demands) : Prop where
  noCreator : d.noCreator = true → NoCreator threads
  noLoop : d.noLoop = true → NoLoop threads
  loopsAt : ∀ t, d.loopsAt = some t → ∀ j pc, workerAt threads j = some (.send pc) → pc.looping = true → j = t
  createsAt : ∀ c, d.createsAt = some c → ∀ j pc, workerAt threads j = some (.connect pc) → pc.creating = true →
    j = c

structure Roster.Sound (r : Roster) : Prop where
  connectLive : ∀ j pc, r.worker j = some (.connect pc) → pc ≠ .exited →
    r.connecting = true ∧ r.connectThread = some j
  sendLive : ∀ j pc, r.worker j = some (.send pc) → pc ≠ .exited → r.sendThread = some j
  statusTyped : ∀ k, r.statusThread = some k → ∃ pc, r.worker k = some (.status pc)
  joinable : ∀ (j : Nat) (thread : Thread), r.threads[j]? = some thread →
    (thread.worker.creating || thread.worker.looping) = true →
    thread.detached = false ∧ thread.joined = false
  looping : ∀ j pc, r.worker j = some (.send pc) → pc.looping = true →
    r.active = true ∨ ∃ k, r.worker k = some (.connect .setActive)
  destroying : Meets r.threads r.control.demands

section Demands

variable {threads threads' : List Thread} {d : Demands}

theorem Meets.mono (meets : Meets threads d)
    (creates : ∀ j pc, workerAt threads' j = some (.connect pc) → pc.creating = true →
      ∃ pc₀, workerAt threads j = some (.connect pc₀) ∧ pc₀.creating = true)
    (loops : ∀ j pc, workerAt threads' j = some (.send pc) → pc.looping = true →
      ∃ pc₀, workerAt threads j = some (.send pc₀) ∧ pc₀.looping = true) : Meets threads' d where
  noCreator demanded j pc found := by
    by_contra creating
    obtain ⟨pc₀, found₀, creating₀⟩ := creates j pc found (by simpa using creating)
    simp [meets.noCreator demanded j pc₀ found₀] at creating₀
  noLoop demanded j pc found := by
    by_contra loop
    obtain ⟨pc₀, found₀, loop₀⟩ := loops j pc found (by simpa using loop)
    simp [meets.noLoop demanded j pc₀ found₀] at loop₀
  loopsAt t at_ j pc found loop := by
    obtain ⟨pc₀, found₀, loop₀⟩ := loops j pc found loop
    exact meets.loopsAt t at_ j pc₀ found₀ loop₀
  createsAt c at_ j pc found creating := by
    obtain ⟨pc₀, found₀, creating₀⟩ := creates j pc found creating
    exact meets.createsAt c at_ j pc₀ found₀ creating₀

theorem Meets.of_noCreator (noCreator : NoCreator threads) : Meets threads ⟨true, false, none, none⟩ :=
  ⟨fun _ => noCreator, nofun, nofun, nofun⟩

theorem Meets.of_idle (noCreator : NoCreator threads) (noLoop : NoLoop threads) :
    Meets threads ⟨true, true, none, none⟩ :=
  ⟨fun _ => noCreator, fun _ => noLoop, nofun, nofun⟩

theorem meets_of_none {d : Demands} (noCreator : d.noCreator = false)
    (noLoop : d.noLoop = false) (loopsAt : d.loopsAt = none) (createsAt : d.createsAt = none) : Meets threads d where
  noCreator := by simp [noCreator]
  noLoop := by simp [noLoop]
  loopsAt := by simp [loopsAt]
  createsAt := by simp [createsAt]

end Demands

theorem Worker.follows_connect {old : Worker} {pc : ConnectPc} (follows : old.follows (.connect pc) = true) :
    ∃ pc₀, old = .connect pc₀ ∧ (pc ≠ .exited → pc₀ ≠ .exited) ∧ (pc.creating = true → pc₀.creating = true) := by
  cases old with
  | connect pc₀ =>
    simp only [Worker.follows, Bool.and_eq_true, Bool.or_eq_true, beq_iff_eq, bne_iff_ne, ne_eq,
      Bool.not_eq_true'] at follows
    refine ⟨pc₀, rfl, fun live => follows.1.resolve_left live, fun creating => ?_⟩
    simpa [creating] using follows.2
  | _ => simp [Worker.follows] at follows

theorem Worker.follows_send {old : Worker} {pc : SendPc} (follows : old.follows (.send pc) = true) :
    ∃ pc₀, old = .send pc₀ ∧ (pc ≠ .exited → pc₀ ≠ .exited) ∧ (pc.looping = true → pc₀.looping = true) := by
  cases old with
  | send pc₀ =>
    simp only [Worker.follows, Bool.and_eq_true, Bool.or_eq_true, beq_iff_eq, bne_iff_ne, ne_eq,
      Bool.not_eq_true'] at follows
    refine ⟨pc₀, rfl, fun live => follows.1.resolve_left live, fun loop => ?_⟩
    simpa [loop] using follows.2
  | _ => simp [Worker.follows] at follows

theorem Worker.follows_status {pc₀ : StatusPc} {w : Worker} (follows : (Worker.status pc₀).follows w = true) :
    ∃ pc, w = .status pc := by
  cases w <;> simp_all [Worker.follows]

theorem Worker.follows_joinable {old w : Worker} (follows : old.follows w = true)
    (waits : (w.creating || w.looping) = true) : (old.creating || old.looping) = true := by
  cases w with
  | connect pc =>
    obtain ⟨pc₀, rfl, -, creates⟩ := Worker.follows_connect follows
    simp_all [Worker.creating, Worker.looping]
  | send pc =>
    obtain ⟨pc₀, rfl, -, loops⟩ := Worker.follows_send follows
    simp_all [Worker.creating, Worker.looping]
  | status pc => simp [Worker.creating, Worker.looping] at waits

theorem Control.demands_join (t : Nat) (next : Control) :
    next = .destroyFree ∨ next = .destroySignal ∨ (Control.join t next).demands = next.demands := by
  cases next <;> simp [Control.demands]

theorem Control.demands_loops (c : Control) (creating : c.demands.noCreator = false) :
    c.demands.noLoop = false ∧ c.demands.loopsAt = none := by
  induction c with
  | join t next ih =>
    rcases Control.demands_join t next with rfl | rfl | same
    · simp [Control.demands] at creating
    · simp [Control.demands]
    · rw [same] at creating ⊢
      exact ih creating
  | _ => simp_all [Control.demands]

theorem index_unique_of_countP_le_one {α : Type} {p : α → Bool} :
    ∀ {l : List α} {i j : Nat} {a b : α}, l.countP p ≤ 1 → l[i]? = some a → p a = true →
      l[j]? = some b → p b = true → i = j
  | [], _, _, _, _, _, found, _, _, _ => by simp at found
  | x :: rest, i, j, a, b, le, found, pa, found', pb => by
    have present : ∀ {k c}, rest[k]? = some c → p c = true → 1 ≤ rest.countP p := fun found pc =>
      List.countP_pos_iff.mpr ⟨_, List.getElem?_mem found, pc⟩
    rw [List.countP_cons] at le
    match i, j, found, found' with
    | 0, 0, _, _ => rfl
    | 0, k + 1, found, found' =>
      obtain rfl : x = a := by simpa using found
      have := present (by simpa using found') pb
      simp only [pa, if_true] at le
      omega
    | k + 1, 0, found, found' =>
      obtain rfl : x = b := by simpa using found'
      have := present (by simpa using found) pa
      simp only [pb, if_true] at le
      omega
    | k + 1, m + 1, found, found' =>
      exact congrArg (· + 1) (index_unique_of_countP_le_one (l := rest) (by split at le <;> omega)
        (by simpa using found) pa (by simpa using found') pb)

theorem Worker.waits_exited {w : Worker} (exited : w.exited = true) : (w.creating || w.looping) = false := by
  rcases w with (pc | pc | pc) <;> cases pc <;>
    simp_all [Worker.exited, Worker.creating, Worker.looping, ConnectPc.creating, SendPc.looping]

theorem ConnectPc.live_of_creating {pc : ConnectPc} (creating : pc.creating = true) : pc ≠ .exited := by
  rintro rfl
  simp [ConnectPc.creating] at creating

theorem SendPc.live_of_looping {pc : SendPc} (loop : pc.looping = true) : pc ≠ .exited := by
  rintro rfl
  simp [SendPc.looping] at loop

section Fields

variable {r : Roster}

theorem Roster.Sound.withActive (sound : r.Sound) (b : Bool)
    (keeps : ∀ j pc, r.worker j = some (.send pc) → pc.looping = true →
      b = true ∨ ∃ k, r.worker k = some (.connect .setActive)) : { r with active := b }.Sound :=
  { sound with looping := keeps }

theorem Roster.Sound.withConnecting (sound : r.Sound) (b : Bool)
    (keeps : ∀ j pc, r.worker j = some (.connect pc) → pc ≠ .exited → b = true) :
    { r with connecting := b }.Sound :=
  { sound with connectLive := fun j pc found live => ⟨keeps j pc found live, (sound.connectLive j pc found live).2⟩ }

theorem Roster.Sound.withControl (sound : r.Sound) (c : Control) (meets : Meets r.threads c.demands) :
    { r with control := c }.Sound :=
  { sound with destroying := meets }

theorem Roster.Sound.noCreator_of_idle (sound : r.Sound) (connecting : r.connecting = false) :
    NoCreator r.threads := by
  intro j pc found
  by_contra creating
  have live := ConnectPc.live_of_creating (by simpa using creating)
  simp [(sound.connectLive j pc found live).1] at connecting

theorem Roster.Sound.noLoop_of_inactive (sound : r.Sound) (noCreator : NoCreator r.threads)
    (active : r.active = false) : NoLoop r.threads := by
  intro j pc found
  by_contra loop
  rcases sound.looping j pc found (by simpa using loop) with running | ⟨k, setting⟩
  · simp [active] at running
  · exact absurd (noCreator k _ setting) (by decide)

end Fields

section Steps

variable {s s' : State} {id : Nat} {choice : Choice}

theorem State.thread_of_worker {j : Nat} {w : Worker} (found : s.roster.worker j = some w) :
    ∃ thread, s.threads[j]? = some thread ∧ thread.worker = w :=
  Option.map_eq_some'.mp found

theorem State.send_unique (solo : s.liveSendWorkers ≤ 1) {i j : Nat} {pc pc' : SendPc}
    (found : s.roster.worker i = some (.send pc)) (live : pc ≠ .exited)
    (found' : s.roster.worker j = some (.send pc')) (live' : pc' ≠ .exited) : i = j := by
  obtain ⟨a, fa, sa⟩ := State.thread_of_worker found
  obtain ⟨b, fb, sb⟩ := State.thread_of_worker found'
  exact index_unique_of_countP_le_one solo fa (Thread.alive_send sa live) fb (Thread.alive_send sb live')

theorem State.connect_unique (solo : s.liveConnectWorkers ≤ 1) {i j : Nat} {pc pc' : ConnectPc}
    (found : s.roster.worker i = some (.connect pc)) (live : pc ≠ .exited)
    (found' : s.roster.worker j = some (.connect pc')) (live' : pc' ≠ .exited) : i = j := by
  obtain ⟨a, fa, sa⟩ := State.thread_of_worker found
  obtain ⟨b, fb, sb⟩ := State.thread_of_worker found'
  exact index_unique_of_countP_le_one solo fa (Thread.alive_connect sa live) fb (Thread.alive_connect sb live')

theorem State.roster_setWorker {w : Worker} {j : Nat} :
    (s.setWorker id w).roster.worker j = (s.roster.worker j).map fun old => if id = j then w else old :=
  State.setWorker_workers w

theorem State.worker_setWorker {w w' : Worker} {j : Nat} (found : (s.setWorker id w).roster.worker j = some w') :
    (id = j ∧ w' = w) ∨ (id ≠ j ∧ s.roster.worker j = some w') := by
  rw [State.roster_setWorker] at found
  obtain ⟨old, found, same⟩ := Option.map_eq_some'.mp found
  by_cases at_ : id = j
  · simp only [at_, if_true] at same
    exact .inl ⟨at_, same.symm⟩
  · simp only [at_, if_false] at same
    exact .inr ⟨at_, same ▸ found⟩

theorem Roster.Sound.setWorker (sound : s.roster.Sound) {old w : Worker}
    (own : s.roster.worker id = some old) (follows : old.follows w = true)
    (settled : old = .connect .setActive → s.active = true) : (s.setWorker id w).roster.Sound where
  connectLive j pc found live := by
    rcases State.worker_setWorker found with ⟨rfl, rfl⟩ | ⟨-, found⟩
    · obtain ⟨pc₀, rfl, live₀, -⟩ := Worker.follows_connect follows
      exact sound.connectLive _ pc₀ own (live₀ live)
    · exact sound.connectLive j pc found live
  sendLive j pc found live := by
    rcases State.worker_setWorker found with ⟨rfl, rfl⟩ | ⟨-, found⟩
    · obtain ⟨pc₀, rfl, live₀, -⟩ := Worker.follows_send follows
      exact sound.sendLive _ pc₀ own (live₀ live)
    · exact sound.sendLive j pc found live
  statusTyped k named := by
    obtain ⟨pc, typed⟩ := sound.statusTyped k named
    by_cases at_ : id = k
    · subst at_
      obtain rfl := Option.some.inj (own.symm.trans typed)
      obtain ⟨pc', rfl⟩ := Worker.follows_status follows
      exact ⟨pc', by simp [State.roster_setWorker, own]⟩
    · exact ⟨pc, by simp [State.roster_setWorker, typed, at_]⟩
  joinable j thread found waits := by
    simp only [State.roster, State.setWorker, List.getElem?_modify] at found
    by_cases at_ : id = j
    · subst at_
      simp only [if_true] at found
      obtain ⟨thread₀, found₀, rfl⟩ := Option.map_eq_some'.mp found
      have old₀ : thread₀.worker = old := by simpa [Roster.worker, workerAt, State.roster, found₀] using own
      exact sound.joinable _ thread₀ found₀ (old₀ ▸ Worker.follows_joinable follows waits)
    · simp only [at_, if_false, id_map'] at found
      exact sound.joinable j thread found waits
  looping j pc found loop := by
    have transport : (s.active = true ∨ ∃ k, s.roster.worker k = some (.connect .setActive)) →
        s.active = true ∨ ∃ k, (s.setWorker id w).roster.worker k = some (.connect .setActive) := by
      rintro (active | ⟨k, setting⟩)
      · exact .inl active
      by_cases at_ : id = k
      · subst at_
        exact .inl (settled (Option.some.inj (own.symm.trans setting)))
      · exact .inr ⟨k, by simp [State.roster_setWorker, setting, at_]⟩
    rcases State.worker_setWorker found with ⟨rfl, rfl⟩ | ⟨-, found⟩
    · obtain ⟨pc₀, rfl, -, loops⟩ := Worker.follows_send follows
      exact transport (sound.looping _ pc₀ own (loops loop))
    · exact transport (sound.looping j pc found loop)
  destroying := by
    refine sound.destroying.mono (fun j pc found creating => ?_) (fun j pc found loop => ?_)
    · rcases State.worker_setWorker found with ⟨rfl, rfl⟩ | ⟨-, found⟩
      · obtain ⟨pc₀, rfl, -, creates⟩ := Worker.follows_connect follows
        exact ⟨pc₀, own, creates creating⟩
      · exact ⟨pc, found, creating⟩
    · rcases State.worker_setWorker found with ⟨rfl, rfl⟩ | ⟨-, found⟩
      · obtain ⟨pc₀, rfl, -, loops⟩ := Worker.follows_send follows
        exact ⟨pc₀, own, loops loop⟩
      · exact ⟨pc, found, loop⟩

end Steps

section Flags

variable {s s' : State} {id : Nat} {choice : Choice}

theorem Roster.Sound.modifyFlags (sound : s.roster.Sound) {k : Nat} {f : Thread → Thread}
    (worker : ∀ thread, (f thread).worker = thread.worker)
    (quiet : ∀ w, s.roster.worker k = some w → (w.creating || w.looping) = false) :
    { s.roster with threads := s.threads.modify f k }.Sound := by
  have workers : ∀ j, ({ s.roster with threads := s.threads.modify f k } : Roster).worker j = s.roster.worker j := by
    intro j
    simp only [Roster.worker, workerAt, State.roster, List.getElem?_modify]
    cases s.threads[j]? <;> simp [apply_ite, worker]
  exact {
    connectLive := fun j pc found => sound.connectLive j pc ((workers j).symm.trans found)
    sendLive := fun j pc found => sound.sendLive j pc ((workers j).symm.trans found)
    statusTyped := fun k' named => by
      obtain ⟨pc, typed⟩ := sound.statusTyped k' named
      exact ⟨pc, (workers k').trans typed⟩
    joinable := fun j thread found waits => by
      simp only [List.getElem?_modify] at found
      by_cases at_ : k = j
      · subst at_
        simp only [if_true] at found
        obtain ⟨thread₀, found₀, rfl⟩ := Option.map_eq_some'.mp found
        rw [worker] at waits
        have quiet₀ := quiet thread₀.worker (by simp [Roster.worker, workerAt, State.roster, found₀])
        simp [quiet₀] at waits
      · simp only [at_, if_false, id_map'] at found
        exact sound.joinable j thread found waits
    looping := fun j pc found loop => by
      rcases sound.looping j pc ((workers j).symm.trans found) loop with active | ⟨k', setting⟩
      · exact .inl active
      · exact .inr ⟨k', (workers k').trans setting⟩
    destroying := sound.destroying.mono
      (fun j pc found creating => ⟨pc, (workers j).symm.trans found, creating⟩)
      (fun j pc found loop => ⟨pc, (workers j).symm.trans found, loop⟩) }

theorem Roster.Sound.reap (sound : s.roster.Sound) {target : Nat} (reaped : s.reap target = some s') :
    s'.roster.Sound := by
  unfold State.reap at reaped
  split at reaped
  · next thread found =>
    split at reaped
    · next exits =>
      cases reaped
      refine sound.modifyFlags (fun _ => rfl) fun w named => ?_
      simp only [Roster.worker, workerAt, State.roster, found, Option.map_some', Option.some.injEq] at named
      subst named
      exact Worker.waits_exited (show thread.detached = false ∧ thread.worker.exited = true by simpa using exits).2
    · cases reaped
  · cases reaped

theorem Roster.Sound.detach (sound : s.roster.Sound) {k : Nat}
    (quiet : ∀ w, s.roster.worker k = some w → (w.creating || w.looping) = false) :
    (s.detach (some k)).roster.Sound :=
  sound.modifyFlags (fun _ => rfl) quiet

theorem State.spawn_thread {w : Worker} {j : Nat} {thread : Thread} (found : (s.spawn w).threads[j]? = some thread) :
    (j < s.threads.length ∧ s.threads[j]? = some thread) ∨ (j = s.threads.length ∧ thread = ⟨w, false, false⟩) := by
  simp only [State.spawn] at found
  rcases Nat.lt_or_ge j s.threads.length with lt | ge
  · rw [List.getElem?_append_left lt] at found
    exact .inl ⟨lt, found⟩
  · rw [List.getElem?_append_right ge] at found
    cases gap : j - s.threads.length with
    | zero =>
      simp only [gap, List.getElem?_cons_zero, Option.some.injEq] at found
      exact .inr ⟨by omega, found.symm⟩
    | succ n => simp [gap] at found

theorem State.worker_spawn {w w' : Worker} {j : Nat} (found : (s.spawn w).roster.worker j = some w') :
    (j < s.threads.length ∧ s.roster.worker j = some w') ∨ (j = s.threads.length ∧ w' = w) := by
  obtain ⟨thread, inTable, rfl⟩ := State.thread_of_worker (s := s.spawn w) found
  rcases State.spawn_thread inTable with ⟨lt, found⟩ | ⟨at_, rfl⟩
  · exact .inl ⟨lt, by simp [Roster.worker, workerAt, State.roster, found]⟩
  · exact .inr ⟨at_, rfl⟩

theorem State.worker_spawn_old {w w' : Worker} {j : Nat} (found : s.roster.worker j = some w') :
    (s.spawn w).roster.worker j = some w' := by
  obtain ⟨thread, inTable, rfl⟩ := State.thread_of_worker found
  have lt : j < s.threads.length := (List.getElem?_eq_some.mp inTable).1
  simp [Roster.worker, workerAt, State.roster, State.spawn, List.getElem?_append_left lt, inTable]

theorem State.worker_spawn_new (w : Worker) : (s.spawn w).roster.worker s.threads.length = some w := by
  simp [Roster.worker, workerAt, State.roster, State.spawn]

theorem Roster.Sound.spawn_joinable (sound : s.roster.Sound) (w : Worker) {j : Nat} {thread : Thread}
    (found : (s.spawn w).threads[j]? = some thread) (waits : (thread.worker.creating || thread.worker.looping) = true) :
    thread.detached = false ∧ thread.joined = false := by
  rcases State.spawn_thread found with ⟨-, found⟩ | ⟨-, rfl⟩
  · exact sound.joinable j thread found waits
  · exact ⟨rfl, rfl⟩

theorem Roster.Sound.spawnStatus (sound : s.roster.Sound) :
    { s.spawn (.status .loop) with statusThread := some s.threads.length }.roster.Sound where
  connectLive j pc found live := by
    rcases State.worker_spawn (s := s) found with ⟨-, found⟩ | ⟨-, ⟨⟩⟩
    exact sound.connectLive j pc found live
  sendLive j pc found live := by
    rcases State.worker_spawn (s := s) found with ⟨-, found⟩ | ⟨-, ⟨⟩⟩
    exact sound.sendLive j pc found live
  statusTyped k named := by
    cases named
    exact ⟨.loop, State.worker_spawn_new _⟩
  joinable _ _ found waits := sound.spawn_joinable _ found waits
  looping j pc found loop := by
    rcases State.worker_spawn (s := s) found with ⟨-, found⟩ | ⟨-, ⟨⟩⟩
    rcases sound.looping j pc found loop with active | ⟨k, setting⟩
    · exact .inl active
    · exact .inr ⟨k, State.worker_spawn_old setting⟩
  destroying := by
    refine sound.destroying.mono (fun j pc found creating => ?_) (fun j pc found loop => ?_)
    · rcases State.worker_spawn (s := s) found with ⟨-, found⟩ | ⟨-, ⟨⟩⟩
      exact ⟨pc, found, creating⟩
    · rcases State.worker_spawn (s := s) found with ⟨-, found⟩ | ⟨-, ⟨⟩⟩
      exact ⟨pc, found, loop⟩

theorem Roster.Sound.spawnSend (sound : s.roster.Sound) (setting : s.roster.worker id = some (.connect .setActive))
    (solo : { s.spawn (.send .wait) with sendThread := some s.threads.length }.liveSendWorkers ≤ 1) :
    { s.spawn (.send .wait) with sendThread := some s.threads.length }.roster.Sound where
  connectLive j pc found live := by
    rcases State.worker_spawn (s := s) found with ⟨-, found⟩ | ⟨-, ⟨⟩⟩
    exact sound.connectLive j pc found live
  sendLive j pc found live := by
    rcases State.worker_spawn (s := s) found with ⟨lt, found⟩ | ⟨rfl, -⟩
    · have := State.send_unique solo (State.worker_spawn_old found) live (State.worker_spawn_new (s := s) _)
        (by decide)
      omega
    · rfl
  statusTyped k named := by
    obtain ⟨pc, typed⟩ := sound.statusTyped k named
    exact ⟨pc, State.worker_spawn_old typed⟩
  joinable _ _ found waits := sound.spawn_joinable _ found waits
  looping j pc found loop := by
    rcases State.worker_spawn (s := s) found with ⟨-, found⟩ | ⟨-, -⟩
    · rcases sound.looping j pc found loop with active | ⟨k, setting⟩
      · exact .inl active
      · exact .inr ⟨k, State.worker_spawn_old setting⟩
    · exact .inr ⟨id, State.worker_spawn_old setting⟩
  destroying := by
    show Meets _ s.control.demands
    by_cases creates : s.control.demands.noCreator = true
    · exact absurd (sound.destroying.noCreator creates id _ setting) (by decide)
    obtain ⟨noLoop, loopsAt⟩ := Control.demands_loops _ (by simpa using creates)
    exact {
      noCreator := fun demanded => absurd demanded creates
      noLoop := by simp [noLoop]
      loopsAt := by simp [loopsAt]
      createsAt := fun c at_ j pc found creating => by
        rcases State.worker_spawn (s := s) found with ⟨-, found⟩ | ⟨-, ⟨⟩⟩
        exact sound.destroying.createsAt c at_ j pc found creating }

theorem Roster.Sound.spawnConnect (sound : s.roster.Sound) (connecting : s.connecting = true)
    (idle : s.control = .idle)
    (solo : { s.spawn (.connect .start) with connectThread := some s.threads.length }.liveConnectWorkers ≤ 1) :
    { s.spawn (.connect .start) with connectThread := some s.threads.length }.roster.Sound where
  connectLive j pc found live := by
    rcases State.worker_spawn (s := s) found with ⟨lt, found⟩ | ⟨rfl, -⟩
    · have := State.connect_unique solo (State.worker_spawn_old found) live (State.worker_spawn_new (s := s) _)
        (by decide)
      omega
    · exact ⟨connecting, rfl⟩
  sendLive j pc found live := by
    rcases State.worker_spawn (s := s) found with ⟨-, found⟩ | ⟨-, ⟨⟩⟩
    exact sound.sendLive j pc found live
  statusTyped k named := by
    obtain ⟨pc, typed⟩ := sound.statusTyped k named
    exact ⟨pc, State.worker_spawn_old typed⟩
  joinable _ _ found waits := sound.spawn_joinable _ found waits
  looping j pc found loop := by
    rcases State.worker_spawn (s := s) found with ⟨-, found⟩ | ⟨-, ⟨⟩⟩
    rcases sound.looping j pc found loop with active | ⟨k, setting⟩
    · exact .inl active
    · exact .inr ⟨k, State.worker_spawn_old setting⟩
  destroying := by
    show Meets _ s.control.demands
    rw [idle]
    exact meets_of_none rfl rfl rfl rfl

theorem Roster.Sound.start (sound : s.roster.Sound) (idle : s.control = .idle) (spawned : Bool)
    (solo : (ftlStreamStart s spawned).liveConnectWorkers ≤ 1) : (ftlStreamStart s spawned).roster.Sound := by
  have connecting := sound.withConnecting true fun _ _ _ _ => rfl
  cases spawned
  · exact connecting
  · exact Roster.Sound.spawnConnect (s := { s with sender := _, connecting := true }) connecting rfl idle solo

theorem State.detach_worker {handle : Option Nat} {j : Nat} : (s.detach handle).roster.worker j = s.roster.worker j :=
  State.detach_workers handle

theorem State.joinable_some {handle : Option Nat} {t : Nat} (joined : s.joinable handle = some t) :
    handle = some t := by
  unfold State.joinable at joined
  split at joined
  · split at joined
    · split at joined
      · exact joined ▸ rfl
      · cases joined
    · cases joined
  · cases joined

theorem State.reap_exited {target : Nat} (reaped : s.reap target = some s') :
    ∃ w, s.roster.worker target = some w ∧ w.exited = true := by
  unfold State.reap at reaped
  split at reaped
  · next thread found =>
    split at reaped
    · next exits =>
      exact ⟨thread.worker, by simp [Roster.worker, workerAt, State.roster, found],
        (show thread.detached = false ∧ thread.worker.exited = true by simpa using exits).2⟩
    · cases reaped
  · cases reaped

theorem Roster.Sound.joinable_of_waits (sound : s.roster.Sound) {j : Nat} {w : Worker}
    (found : s.roster.worker j = some w) (waits : (w.creating || w.looping) = true) :
    s.joinable (some j) = some j := by
  obtain ⟨thread, inTable, rfl⟩ := State.thread_of_worker found
  obtain ⟨detached, joined⟩ := sound.joinable j thread inTable waits
  simp [State.joinable, inTable, detached, joined]

theorem Roster.Sound.callJoin (sound : s.roster.Sound) {handle : Option Nat} {next : Control}
    (joins : ∀ t, s.joinable handle = some t → Meets s.threads (Control.join t next).demands)
    (skips : s.joinable handle = none → Meets s.threads next.demands) : (s.callJoin handle next).roster.Sound := by
  unfold State.callJoin
  split
  · next t joined => exact sound.withControl _ (joins t joined)
  · next skipped => exact sound.withControl _ (skips skipped)

theorem Roster.Sound.joinSend (sound : s.roster.Sound) (noCreator : NoCreator s.threads) :
    (s.callJoin s.sendThread .destroyFree).roster.Sound := by
  refine sound.callJoin (fun t joined => ?_) (fun skipped => ?_)
  · have handle := State.joinable_some joined
    exact {
      noCreator := fun _ => noCreator
      noLoop := by simp [Control.demands]
      loopsAt := fun t' at_ j pc found loop => by
        simp only [Control.demands, Option.some.injEq] at at_
        subst at_
        exact Option.some.inj ((sound.sendLive j pc found (SendPc.live_of_looping loop)).symm.trans handle)
      createsAt := by simp [Control.demands] }
  · exact {
      noCreator := fun _ => noCreator
      noLoop := fun _ j pc found => by
        by_contra loop
        have loop : pc.looping = true := by simpa using loop
        have handle : s.sendThread = some j := sound.sendLive j pc found (SendPc.live_of_looping loop)
        rw [handle, sound.joinable_of_waits found (by simp [Worker.looping, loop])] at skipped
        cases skipped
      loopsAt := by simp [Control.demands]
      createsAt := by simp [Control.demands] }

theorem Roster.Sound.joinConnect (sound : s.roster.Sound) :
    (s.callJoin s.connectThread .destroySignal).roster.Sound := by
  refine sound.callJoin (fun c joined => ?_) (fun skipped => ?_)
  · have handle := State.joinable_some joined
    exact {
      noCreator := by simp [Control.demands]
      noLoop := by simp [Control.demands]
      loopsAt := by simp [Control.demands]
      createsAt := fun c' at_ j pc found creating => by
        simp only [Control.demands, Option.some.injEq] at at_
        subst at_
        exact Option.some.inj
          ((sound.connectLive j pc found (ConnectPc.live_of_creating creating)).2.symm.trans handle) }
  · exact {
      noCreator := fun _ j pc found => by
        by_contra creating
        have creating : pc.creating = true := by simpa using creating
        have handle : s.connectThread = some j := (sound.connectLive j pc found (ConnectPc.live_of_creating creating)).2
        rw [handle, sound.joinable_of_waits found (by simp [Worker.creating, creating])] at skipped
        cases skipped
      noLoop := by simp [Control.demands]
      loopsAt := by simp [Control.demands]
      createsAt := by simp [Control.demands] }

theorem Roster.Sound.withQuietControl (sound : s.roster.Sound) (c : Control)
    (quiet : c.demands = ⟨false, false, none, none⟩) : { s with control := c }.roster.Sound :=
  sound.withControl c (meets_of_none (by rw [quiet]) (by rw [quiet]) (by rw [quiet]) (by rw [quiet]))

theorem Roster.Sound.of_controlStep (sound : s.roster.Sound) (stepped : controlStep s s.control = some s') :
    s'.roster.Sound := by
  have demands : Meets s.threads s.control.demands := sound.destroying
  cases control : s.control <;> rw [control] at stepped demands <;> simp only [controlStep] at stepped
  case idle | destroyed => cases stepped
  case join target next =>
    obtain ⟨r, reaped, rfl⟩ := Option.map_eq_some'.mp stepped
    refine (sound.reap reaped).withControl next ?_
    have workers : ∀ j, workerAt r.threads j = workerAt s.threads j := fun j => State.reap_workers reaped
    obtain ⟨w, named, exits⟩ := State.reap_exited reaped
    have gone : ∀ j pc, workerAt r.threads j = some pc → j = target → (pc.creating || pc.looping) = false := by
      rintro j pc found rfl
      rw [workers, show workerAt s.threads j = some w from named] at found
      cases found
      exact Worker.waits_exited exits
    rcases Control.demands_join target next with rfl | rfl | same
    · refine Meets.of_idle (fun j pc found => demands.noCreator rfl j pc ((workers j).symm.trans found))
        fun j pc found => Bool.eq_false_iff.mpr fun loop => ?_
      have := gone j _ found (demands.loopsAt target rfl j pc ((workers j).symm.trans found) loop)
      simp [Worker.looping, loop] at this
    · refine Meets.of_noCreator fun j pc found => Bool.eq_false_iff.mpr fun creating => ?_
      have := gone j _ found (demands.createsAt target rfl j pc ((workers j).symm.trans found) creating)
      simp [Worker.creating, creating] at this
    · rw [same] at demands
      exact demands.mono (fun j pc found creating => ⟨pc, (workers j).symm.trans found, creating⟩)
        (fun j pc found loop => ⟨pc, (workers j).symm.trans found, loop⟩)
  case stopJoinStatus ts | stopJoinConnect ts | destroyJoinStatus =>
    cases stepped
    exact sound.callJoin (fun _ _ => meets_of_none rfl rfl rfl rfl) (fun _ => meets_of_none rfl rfl rfl rfl)
  case destroyTestRunning =>
    cases stepped
    split
    · exact sound.withQuietControl _ rfl
    · next running =>
      simp only [Bool.or_eq_true, not_or, Bool.not_eq_true] at running
      have noCreator := sound.noCreator_of_idle running.1
      exact sound.withControl _ (Meets.of_idle noCreator (sound.noLoop_of_inactive noCreator running.2))
  case destroyTestConnecting =>
    cases stepped
    split
    · exact sound.withQuietControl _ rfl
    · next idle => exact sound.withControl _ (Meets.of_noCreator (sound.noCreator_of_idle (by simpa using idle)))
  case destroyJoinSend | destroyJoinSendActive =>
    cases stepped
    exact sound.joinSend (demands.noCreator rfl)
  case destroyJoinConnect =>
    cases stepped
    exact sound.joinConnect
  case destroySignal =>
    cases stepped
    exact sound.withControl _ (Meets.of_noCreator (demands.noCreator rfl))
  case destroyPost =>
    have noCreator := demands.noCreator rfl
    split at stepped <;> cases stepped
    · exact sound.withControl _ (Meets.of_noCreator noCreator)
    · next inactive =>
      exact sound.withControl _ (Meets.of_idle noCreator (sound.noLoop_of_inactive noCreator (by simpa using inactive)))
  all_goals
    cases stepped
    (try split) <;> exact sound.withQuietControl _ rfl

theorem Roster.Sound.of_connectStep (sound : s.roster.Sound) (solo : s.Solo) (solo' : s'.Solo) {pc : ConnectPc}
    (own : s.roster.worker id = some (.connect pc)) (stepped : connectStep s id choice pc = some s') :
    s'.roster.Sound := by
  cases pc <;> simp only [connectStep] at stepped
  case waitSend target =>
    obtain ⟨r, reaped, rfl⟩ := Option.map_eq_some'.mp stepped
    exact (sound.reap reaped).setWorker ((State.reap_workers reaped).trans own) rfl nofun
  case createStatus =>
    repeat' split at stepped
    all_goals first
      | (cases stepped; exact (sound.setWorker (w := .connect .resetSemaphore) own rfl nofun).spawnStatus)
      | (cases stepped; exact sound.setWorker own rfl nofun)
      | cases stepped
  case createSend =>
    have setting : (s.setWorker id (.connect .setActive)).roster.worker id = some (.connect .setActive) := by
      simp [State.roster_setWorker, own]
    repeat' split at stepped
    all_goals first
      | (cases stepped
         exact (sound.setWorker (w := .connect .setActive) own rfl nofun).spawnSend setting solo'.1)
      | (cases stepped; exact sound.setWorker own rfl nofun)
      | cases stepped
  case setActive =>
    cases stepped
    exact Roster.Sound.setWorker (sound.withActive true fun _ _ _ _ => .inl rfl) own rfl fun _ => rfl
  case detachUnlessStopping =>
    cases stepped
    split
    · have handle : s.connectThread = some id := (sound.connectLive id _ own (by decide)).2
      rw [handle]
      exact (sound.detach fun w named => by cases own.symm.trans named; rfl).setWorker
        (State.detach_worker.trans own) rfl nofun
    · exact sound.setWorker own rfl nofun
  case clearConnecting =>
    cases stepped
    refine (sound.setWorker (w := .connect .exited) own rfl nofun).withConnecting false fun j pc found live => ?_
    rcases State.worker_setWorker found with ⟨-, same⟩ | ⟨other, found⟩
    · cases same
      exact absurd rfl live
    · exact absurd (State.connect_unique solo.2 own (by decide) found live) other
  all_goals
    repeat' split at stepped
    all_goals first
      | (cases stepped; exact sound.setWorker own rfl nofun)
      | cases stepped

theorem Roster.Sound.of_packetStep (sound : s.roster.Sound) {packet : EncoderPacket} {call : Call} {pc : PacketPc}
    (own : s.roster.worker id = some (.send (.sending packet call pc)))
    (stepped : packetStep s id choice packet call pc = some s') : s'.roster.Sound := by
  obtain ⟨frame, pc', threads, kind⟩ := packetStep_frame stepped
  have follows : (Worker.send (.sending packet call pc)).follows (.send pc') = true := by
    split at kind
    · rcases kind with rfl | rfl | ⟨_, rfl⟩ <;> rfl
    · obtain ⟨⟨_, rfl⟩, -⟩ := kind
      rfl
  rw [frame, threads]
  exact sound.setWorker own follows nofun

theorem Roster.Sound.of_sendStep (sound : s.roster.Sound) (solo : s.Solo) {pc : SendPc}
    (own : s.roster.worker id = some (.send pc)) (stepped : sendStep s id choice pc = some s') :
    s'.roster.Sound := by
  cases pc <;> simp only [sendStep] at stepped
  case sending packet call pc => exact sound.of_packetStep own stepped
  case exitSignal =>
    cases stepped
    split
    · have handle : s.sendThread = some id := sound.sendLive id _ own (by decide)
      rw [handle]
      exact (sound.detach fun w named => by cases own.symm.trans named; rfl).setWorker
        (State.detach_worker.trans own) rfl nofun
    · exact sound.setWorker own rfl nofun
  case exitClear =>
    cases stepped
    refine (sound.setWorker (w := .send .exited) own rfl nofun).withActive false fun j pc found loop => ?_
    rcases State.worker_setWorker found with ⟨-, same⟩ | ⟨other, found⟩
    · cases same
      cases loop
    · exact absurd (State.send_unique solo.1 own (by decide) found (SendPc.live_of_looping loop)) other
  all_goals
    repeat' split at stepped
    all_goals first
      | (cases stepped; exact sound.setWorker own rfl nofun)
      | cases stepped

theorem Roster.Sound.of_statusStep (sound : s.roster.Sound) {pc : StatusPc}
    (own : s.roster.worker id = some (.status pc)) (stepped : statusStep s id choice pc = some s') :
    s'.roster.Sound := by
  rcases statusStep_cases stepped with rfl | ⟨pc', rfl⟩ | rfl | rfl
  · exact sound
  · exact sound.setWorker own rfl nofun
  · exact sound.setWorker own rfl nofun
  · cases named : s.statusThread with
    | none => exact sound.setWorker own rfl nofun
    | some k =>
      obtain ⟨pc₀, typed⟩ := sound.statusTyped k named
      exact (sound.detach fun w found => by cases typed.symm.trans found; rfl).setWorker
        (State.detach_worker.trans own) rfl nofun

theorem producerStep_roster {producer : Producer} (stepped : producerStep s producer = some s') :
    s'.roster = s.roster := by
  cases producer <;> simp only [producerStep] at stepped
  all_goals
    repeat' split at stepped
    all_goals first | (cases stepped; rfl) | cases stepped

theorem Roster.Sound.of_step {action : Action} (sound : s.roster.Sound) (solo : s.Solo) (solo' : s'.Solo)
    (stepped : step s action = some s') : s'.roster.Sound := by
  cases action with
  | start spawned =>
    simp only [step, Option.ite_none_right_eq_some, Option.some.injEq, beq_iff_eq] at stepped
    obtain ⟨idle, rfl⟩ := stepped
    exact sound.start idle spawned solo'.2
  | stop ts =>
    rw [step_stop stepped]
    unfold ftlStreamStop
    split
    · exact sound
    · exact sound.withQuietControl _ rfl
  | destroy =>
    rw [step_destroy stepped]
    unfold ftlStreamDestroy
    split
    · next stopped =>
      simp only [Bool.and_eq_true, Bool.not_eq_true'] at stepped stopped
      exact sound.withControl _ { noCreator := fun _ => sound.noCreator_of_idle stopped.2
                                  noLoop := by simp [Control.demands]
                                  loopsAt := by simp [Control.demands]
                                  createsAt := by simp [Control.demands] }
    · exact sound.withQuietControl _ rfl
  | control => exact sound.of_controlStep stepped
  | data packet =>
    rw [(step_data stepped).2]
    unfold ftlStreamData
    split <;> exact sound
  | produce => exact producerStep_roster stepped ▸ sound
  | worker id choice =>
    obtain ⟨thread, found, stepped⟩ := step_worker stepped
    have own : s.roster.worker id = some thread.worker := by simp [Roster.worker, workerAt, State.roster, found]
    cases worker : thread.worker with
    | connect pc => rw [worker] at stepped own; exact sound.of_connectStep solo solo' own stepped
    | send pc => rw [worker] at stepped own; exact sound.of_sendStep solo own stepped
    | status pc => rw [worker] at stepped own; exact sound.of_statusStep own stepped

end Flags

theorem Roster.Sound.of_initial : initial.roster.Sound where
  connectLive j pc found := by simp [Roster.worker, workerAt, State.roster, initial] at found
  sendLive j pc found := by simp [Roster.worker, workerAt, State.roster, initial] at found
  statusTyped k named := by cases named
  joinable j thread found := by simp [State.roster, initial] at found
  looping j pc found := by simp [Roster.worker, workerAt, State.roster, initial] at found
  destroying := meets_of_none rfl rfl rfl rfl

theorem inFlight_of_noLoop {threads : List Thread} (noLoop : NoLoop threads) : inFlight threads = [] := by
  refine List.flatMap_eq_nil_iff.mpr fun thread member => ?_
  obtain ⟨j, found⟩ := List.mem_iff_getElem?.mp member
  cases worker : thread.worker with
  | send pc =>
    have := noLoop j pc (by simp [workerAt, found, worker])
    cases pc <;> simp_all [Worker.holding, SendPc.looping]
  | _ => simp [Worker.holding]

inductive SoloTracked : State → Ledger → Prop
  | initial : SoloTracked initial ⟨[], []⟩
  | step {s s' : State} {l : Ledger} {action : Action} :
    SoloTracked s l → step s action = some s' → s'.Solo → SoloTracked s' (l.record (stepLedger s action))

def soloTrack : State × Ledger → List Action → Option (State × Ledger)
  | current, [] => some current
  | (s, l), action :: rest =>
    (step s action).bind fun s' => if s'.Solo then soloTrack (s', l.record (stepLedger s action)) rest else none

section SoloTracked

variable {s s' : State} {l l' : Ledger}

theorem SoloTracked.soloTrack {actions : List Action} (tracked : SoloTracked s l)
    (ran : Lifecycle.soloTrack (s, l) actions = some (s', l')) : SoloTracked s' l' := by
  induction actions generalizing s l with
  | nil =>
    simp only [Lifecycle.soloTrack, Option.some.injEq, Prod.mk.injEq] at ran
    obtain ⟨rfl, rfl⟩ := ran
    exact tracked
  | cons action rest ih =>
    simp only [Lifecycle.soloTrack, Option.bind_eq_some] at ran
    obtain ⟨next, stepped, ran⟩ := ran
    split at ran
    · exact ih (tracked.step stepped ‹_›) ran
    · cases ran

theorem SoloTracked.tracked (tracked : SoloTracked s l) : Tracked s l := by
  induction tracked with
  | initial => exact .initial
  | step _ stepped _ ih => exact ih.step stepped

theorem SoloTracked.solo (tracked : SoloTracked s l) : s.Solo := by
  cases tracked with
  | initial => decide
  | step _ _ alone => exact alone

theorem SoloTracked.sound (tracked : SoloTracked s l) : s.roster.Sound := by
  induction tracked with
  | initial => exact Roster.Sound.of_initial
  | step before stepped alone ih => exact ih.of_step before.solo alone stepped

end SoloTracked

theorem packet_copies_released_once {s : State} {l : Ledger} (tracked : SoloTracked s l) :
    l.created ~ l.freed ++ s.held ∧
      ∀ s', s.control = .destroyFree → step s .control = some s' →
        s'.control = .destroyed ∧
          (l.record (stepLedger s .control)).created ~ (l.record (stepLedger s .control)).freed ++ s'.producer.holding := by
  refine ⟨tracked.tracked.conserves, fun s' freeing stepped => ?_⟩
  obtain ⟨destroyed, -, held⟩ := controlStep_destroyFree freeing stepped
  have demands : Meets s.threads s.control.demands := tracked.sound.destroying
  rw [freeing] at demands
  have remaining := (tracked.tracked.step stepped).conserves
  have producer : s'.producer = s.producer := by
    simp only [step, freeing, controlStep, Option.some.injEq] at stepped
    rw [← stepped]
    rfl
  rw [held, inFlight_of_noLoop (demands.noLoop rfl), List.append_nil, ← producer] at remaining
  exact ⟨destroyed, remaining⟩

theorem packet_copies_released_once_during_destroy :
    ∃ s l, soloTrack (initial, ⟨[], []⟩) destroyDuringData = some (s, l) ∧
      (l.created ~ l.freed ++ s.held ∧
        ∀ s', s.control = .destroyFree → step s .control = some s' →
          s'.control = .destroyed ∧
            (l.record (stepLedger s .control)).created ~
              (l.record (stepLedger s .control)).freed ++ s'.producer.holding) := by
  obtain ⟨s, l, ran⟩ : ∃ s l, soloTrack (initial, ⟨[], []⟩) destroyDuringData = some (s, l) := ⟨_, _, rfl⟩
  exact ⟨s, l, ran, packet_copies_released_once (SoloTracked.initial.soloTrack ran)⟩

end FtlStream.Lifecycle
