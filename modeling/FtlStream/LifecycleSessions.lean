import FtlStream.LifecycleStop
import FtlStream.QueueHistory

set_option autoImplicit false

namespace FtlStream.Lifecycle

variable {s s' : State} {action : Action} {id : Nat} {choice : Choice}

def State.failsSend (s : State) : Action → Bool
  | .worker id _ =>
    match (s.threads[id]?).map Thread.worker with
    | some (.send pc) => pc.failsSend
    | _ => false
  | _ => false

def failsDuring : State → List Action → Bool
  | _, [] => false
  | s, action :: rest => s.failsSend action || ((step s action).map (failsDuring · rest)).getD false

theorem step_disconnected (stepped : step s action = some s') (clear : s.disconnected = false)
    (noFailure : s.failsSend action = false) : s'.disconnected = false := by
  cases action with
  | start spawned =>
    rw [step_start stepped]
    unfold ftlStreamStart; split <;> exact clear
  | stop ts =>
    rw [step_stop stepped]
    unfold ftlStreamStop; split_ifs <;> exact clear
  | destroy => rw [step_destroy stepped]; exact clear
  | control => rw [(controlStep_flags stepped).2, clear]
  | data packet =>
    rw [(step_data stepped).2]
    unfold ftlStreamData; split_ifs <;> exact clear
  | produce => rw [(producerStep_flags stepped).2, clear]
  | worker id choice =>
    obtain ⟨thread, found, stepped⟩ := step_worker stepped
    cases worker : thread.worker with
    | connect pc =>
      rw [worker] at stepped
      rcases (connectStep_flags stepped).2 with same | cleared
      · rw [same, clear]
      · exact cleared
    | send pc =>
      rw [worker] at stepped
      rw [(sendStep_flags stepped).2, clear]
      simpa [State.failsSend, found, worker] using noFailure
    | status pc =>
      rw [worker] at stepped
      rw [statusStep_frame stepped]
      exact clear

theorem disconnected_set_only_by_send_failure {actions : List Action} (ran : run s actions = some s')
    (clear : s.disconnected = false) (noFailure : failsDuring s actions = false) :
    s'.disconnected = false ∧
      ∀ packet, s'.active = true → ftlStreamData s' packet = { s' with producer := .locking packet } := by
  have cleared : s'.disconnected = false := by
    induction actions generalizing s with
    | nil =>
      simp only [run, Option.some.injEq] at ran
      exact ran ▸ clear
    | cons action rest ih =>
      simp only [run, Option.bind_eq_some] at ran
      obtain ⟨next, stepped, ran⟩ := ran
      simp only [failsDuring, stepped, Option.map_some', Option.getD_some, Bool.or_eq_false_iff] at noFailure
      exact ih ran (step_disconnected stepped clear noFailure.1) noFailure.2
  exact ⟨cleared, fun packet active => by simp [ftlStreamData, cleared, active]⟩

def ingestDrops : List Action := [.worker 1 (.status .success (.disconnectedEvent false)), .worker 1 .go]

def dropThenPacket : List Action :=
  ingestDrops ++ [.data silence, .produce, .produce] ++ List.replicate 6 (.worker 2 .go) ++
    [.worker 2 (.media 0), .worker 2 .go, .worker 2 .go]

theorem disconnected_set_only_by_send_failure_after_drop :
    ∃ s s', run initial openSession = some s ∧ run s dropThenPacket = some s' ∧
      s.disconnected = false ∧ failsDuring s dropThenPacket = false ∧
      s'.disconnected = false ∧
      ∀ packet, s'.active = true → ftlStreamData s' packet = { s' with producer := .locking packet } := by
  obtain ⟨s, s', opened, ran⟩ : ∃ s s', run initial openSession = some s ∧ run s dropThenPacket = some s' :=
    ⟨_, _, rfl, rfl⟩
  have clear : s.disconnected = false := run_map opened (f := (·.disconnected)) (by decide)
  have noFailure : failsDuring s dropThenPacket = false :=
    run_map opened (f := (failsDuring · dropThenPacket)) (by decide)
  exact ⟨s, s', opened, ran, clear, noFailure, disconnected_set_only_by_send_failure ran clear noFailure⟩

def disconnectThenPacket : List Action := openSession ++ dropThenPacket

theorem packet_sent_after_ingest_disconnect :
    ∃ s, run initial disconnectThenPacket = some s ∧
      .signalStop .disconnected ∈ s.events ∧ s.disconnected = false ∧ s.sent = [silence] := by
  refine ⟨_, rfl, ?_⟩
  decide

def reconnect : List Action :=
  [.start true, .worker 3 .go, .worker 3 .go, .worker 3 (.initConnect true true 0),
   .worker 3 (.tryConnect false .success none), .worker 3 (.spawn true), .worker 3 .go,
   .worker 3 (.spawn true)]

theorem reconnect_runs_two_send_workers :
    ∃ s₁ s₂, run initial (openSession ++ ingestDrops) = some s₁ ∧
      s₁.events.getLast? = some (.signalStop .disconnected) ∧ s₁.liveSendWorkers = 1 ∧
      run s₁ reconnect = some s₂ ∧ s₂.liveSendWorkers = 2 := by
  refine ⟨_, _, rfl, ?_, ?_, rfl, ?_⟩ <;> decide

theorem countP_modify {α : Type} (p : α → Bool) (f : α → α) (l : List α) (i : Nat) :
    (l.modify f i).countP p + ((l[i]?).map fun a => if p a then 1 else 0).getD 0 =
      l.countP p + ((l[i]?).map fun a => if p (f a) then 1 else 0).getD 0 := by
  induction l generalizing i with
  | nil => simp
  | cons a l ih =>
    cases i with
    | zero => simp [List.countP_cons]; split_ifs <;> omega
    | succ i => simp [List.countP_cons]; have := ih i; omega

theorem countP_modify_of_same {α : Type} {p : α → Bool} {f : α → α} (same : ∀ a, p (f a) = p a)
    (l : List α) (i : Nat) : (l.modify f i).countP p = l.countP p := by
  have := countP_modify p f l i
  simp only [same] at this
  omega

def SendPc.woken : SendPc → Bool
  | .checkStop | .dequeue => true
  | _ => false

def Worker.woken : Worker → Bool
  | .send pc => pc.woken
  | _ => false

@[simp] theorem Worker.woken_connect (pc : ConnectPc) : (Worker.connect pc).woken = false := rfl
@[simp] theorem Worker.woken_send (pc : SendPc) : (Worker.send pc).woken = pc.woken := rfl
@[simp] theorem Worker.woken_status (pc : StatusPc) : (Worker.status pc).woken = false := rfl

def State.freePermits (s : State) : Nat := (s.sendSem.bind fun sem => s.sems[sem]?).getD 0

def State.hasSem (s : State) : Bool := (s.sendSem.bind fun sem => s.sems[sem]?).isSome

def State.permits (s : State) : Nat :=
  s.freePermits + (if s.producer = .posting then 1 else 0) + s.threads.countP (·.worker.woken)

theorem State.post_freePermits : s.post.freePermits = s.freePermits + if s.hasSem then 1 else 0 := by
  unfold State.freePermits State.hasSem
  cases handle : s.sendSem with
  | none => simp [handle]
  | some sem => cases found : s.sems[sem]? <;> simp [handle, List.getElem?_modify, found]

theorem State.freePermits_waitOn {sem permits : Nat} (found : s.sems[sem]? = some (permits + 1)) :
    s.freePermits ≤ { s with sems := s.sems.set sem permits }.freePermits + 1 := by
  unfold State.freePermits
  cases handle : s.sendSem with
  | none => simp
  | some k =>
    by_cases same : sem = k
    · subst same
      have bound : sem < s.sems.length := (List.getElem?_eq_some.mp found).1
      simp [found, List.getElem?_set_self bound]
    · simp [List.getElem?_set, same]

theorem State.woken_setWorker {old : Worker} (own : (s.threads[id]?).map Thread.worker = some old)
    (w : Worker) :
    (s.setWorker id w).threads.countP (·.worker.woken) + (if old.woken then 1 else 0) =
      s.threads.countP (·.worker.woken) + (if w.woken then 1 else 0) := by
  obtain ⟨thread, found, rfl⟩ := Option.map_eq_some'.mp own
  simpa [found, State.setWorker] using
    countP_modify (·.worker.woken) (fun t => { t with worker := w }) s.threads id

theorem State.permits_setWorker {old : Worker} (own : (s.threads[id]?).map Thread.worker = some old)
    (w : Worker) : (s.setWorker id w).permits + (if old.woken then 1 else 0) = s.permits + (if w.woken then 1 else 0) := by
  have := State.woken_setWorker own w
  simp only [State.permits, State.freePermits, State.setWorker_sendSem, State.setWorker_sems,
    State.setWorker_producer]
  omega

@[simp] theorem State.woken_setWorker_quiet
    (oldQuiet : ((s.threads[id]?).map Thread.worker).all (fun old => !old.woken) = true) {w : Worker}
    (quiet : w.woken = false) :
    (s.setWorker id w).threads.countP (·.worker.woken) = s.threads.countP (·.worker.woken) := by
  have := countP_modify (·.worker.woken) (fun t => { t with worker := w }) s.threads id
  cases found : s.threads[id]? <;> simp_all [State.setWorker]

@[simp] theorem State.woken_detach (handle : Option Nat) :
    (s.detach handle).threads.countP (·.worker.woken) = s.threads.countP (·.worker.woken) := by
  cases handle with
  | none => rfl
  | some k =>
    apply countP_modify_of_same
    intro; rfl

@[simp] theorem State.woken_spawn (w : Worker) :
    (s.spawn w).threads.countP (·.worker.woken) =
      s.threads.countP (·.worker.woken) + if w.woken then 1 else 0 := by
  simp [State.spawn, List.countP_append, List.countP_cons]

theorem State.woken_reap {target : Nat} (reaped : s.reap target = some s') :
    s'.threads.countP (·.worker.woken) = s.threads.countP (·.worker.woken) := by
  unfold State.reap at reaped
  split at reaped
  · split at reaped
    · cases reaped
      apply countP_modify_of_same
      intro; rfl
    · cases reaped
  · cases reaped

theorem State.reap_workers {target j : Nat} (reaped : s.reap target = some s') :
    (s'.threads[j]?).map Thread.worker = (s.threads[j]?).map Thread.worker := by
  unfold State.reap at reaped
  split at reaped
  · split at reaped
    · cases reaped
      simp only [List.getElem?_modify]
      cases s.threads[j]? <;> simp [apply_ite]
    · cases reaped
  · cases reaped

theorem State.permits_le_post : s.permits ≤ s.post.permits := by
  have free := State.post_freePermits (s := s)
  unfold State.permits
  rw [free, State.post_producer, State.post_threads]
  omega

theorem controlStep_permits {control : Control} (stepped : controlStep s control = some s') :
    s.permits ≤ s'.permits ∧ s'.queue.packets.length ≤ s.queue.packets.length := by
  cases control <;> simp only [controlStep] at stepped
  case join target next =>
    obtain ⟨r, reaped, rfl⟩ := Option.map_eq_some'.mp stepped
    have woken := State.woken_reap reaped
    rw [State.reap_frame reaped] at woken ⊢
    simp [State.permits, State.freePermits, woken]
  case stopPost =>
    cases stepped
    split
    · exact ⟨State.permits_le_post, le_refl _⟩
    · exact ⟨le_refl _, le_refl _⟩
  case destroyPost =>
    split at stepped <;> cases stepped
    · exact ⟨State.permits_le_post, le_refl _⟩
    · exact ⟨le_refl _, le_refl _⟩
  all_goals
    repeat' split at stepped
    all_goals first
      | (cases stepped; rw [State.callJoin_frame]; exact ⟨le_refl _, le_refl _⟩)
      | (cases stepped; simp [State.permits, State.freePermits, freePackets]; try omega)
      | cases stepped

theorem producerStep_permits {producer : Producer} (stepped : producerStep s producer = some s')
    (current : s.producer = producer) (delivered : s.producer = .posting → s.hasSem = true)
    (covered : s.queue.packets.length ≤ s.permits) : s'.queue.packets.length ≤ s'.permits := by
  subst current
  cases producing : s.producer <;> rw [producing] at stepped <;> simp only [producerStep] at stepped
  case idle => cases stepped
  case locking packet =>
    unfold State.permits at covered ⊢
    have grows := addStreamPacket_length s.queue packet
    split at stepped <;> cases stepped
    · simpa [producing] using covered
    · simp only [producing, reduceCtorEq, if_false] at covered ⊢
      split_ifs at grows ⊢ <;> simp_all [State.freePermits] <;> omega
  case posting =>
    cases stepped
    have free := State.post_freePermits (s := s)
    rw [delivered producing, if_pos rfl] at free
    unfold State.permits at covered ⊢
    rw [producing, if_pos rfl] at covered
    change s.queue.packets.length ≤
      s.post.freePermits + (if Producer.idle = .posting then 1 else 0) + s.threads.countP _
    rw [if_neg nofun]
    omega

theorem connectStep_permits {pc : ConnectPc} (stepped : connectStep s id choice pc = some s')
    (own : (s.threads[id]?).map Thread.worker = some (.connect pc)) (notReset : pc ≠ .resetSemaphore) :
    s.permits ≤ s'.permits ∧ s'.queue.packets.length ≤ s.queue.packets.length := by
  cases pc <;> simp only [connectStep] at stepped
  case waitSend target =>
    obtain ⟨r, reaped, rfl⟩ := Option.map_eq_some'.mp stepped
    have rOwn : (r.threads[id]?).map Thread.worker = some (.connect (.waitSend target)) := by
      rw [State.reap_workers reaped, own]
    have woken := State.woken_reap reaped
    rw [State.reap_frame reaped] at woken rOwn ⊢
    simp [State.permits, State.freePermits, rOwn, woken, -State.setWorker_threads]
  case resetSemaphore => exact absurd rfl notReset
  all_goals
    repeat' split at stepped
    all_goals cases stepped
  all_goals
    simp only [State.permits, State.freePermits, State.setWorker_sendSem, State.setWorker_sems,
      State.setWorker_producer, State.setWorker_queue, State.emit_sendSem, State.emit_sems,
      State.emit_producer, State.emit_queue, State.emit_threads, State.spawn_sendSem, State.spawn_sems,
      State.spawn_producer, State.spawn_queue, State.woken_spawn, State.detach_sendSem, State.detach_sems,
      State.detach_producer, State.detach_queue, State.woken_detach, freePackets,
      State.woken_setWorker_quiet, State.detach_workers, own, Option.all_some, Worker.woken_connect,
      Worker.woken_send, Worker.woken_status, SendPc.woken, Bool.not_false, List.length_nil, le_refl,
      and_self, Nat.zero_le, Bool.false_eq_true, if_false, add_zero]

theorem packetStep_permits {packet : EncoderPacket} {call : Call} {pc : PacketPc}
    (stepped : packetStep s id choice packet call pc = some s')
    (own : (s.threads[id]?).map Thread.worker = some (.send (.sending packet call pc))) :
    s'.permits = s.permits ∧ s'.queue = s.queue := by
  obtain ⟨frame, pc', threads, kind⟩ := packetStep_frame stepped
  have quiet : pc'.woken = false := by
    split at kind
    · rcases kind with rfl | rfl | ⟨_, rfl⟩ <;> rfl
    · obtain ⟨⟨_, rfl⟩, -⟩ := kind
      rfl
  rw [frame]
  refine ⟨?_, rfl⟩
  simp only [State.permits, State.freePermits, threads]
  rw [State.woken_setWorker_quiet (by simp [own, SendPc.woken]) (by simpa using quiet)]

theorem sendStep_permits {pc : SendPc} (stepped : sendStep s id choice pc = some s')
    (own : (s.threads[id]?).map Thread.worker = some (.send pc))
    (stays : ¬ (pc = .checkStop ∧ s.stopEvent = true ∧ s.stopTs = 0))
    (covered : s.queue.packets.length ≤ s.permits) : s'.queue.packets.length ≤ s'.permits := by
  cases pc <;> simp only [sendStep] at stepped
  case waitOn sem =>
    split at stepped <;> cases stepped
    next permits found =>
      have traded := State.permits_setWorker (s := { s with sems := s.sems.set sem permits }) own (.send .checkStop)
      have free := State.freePermits_waitOn found
      simp only [State.permits, Worker.woken_send, SendPc.woken, State.setWorker_queue, if_true, if_false,
        Bool.false_eq_true] at traded covered ⊢
      omega
  case checkStop =>
    cases stepped
    split
    · next leaves => simp_all
    · have traded := State.permits_setWorker own (.send .dequeue)
      simp only [Worker.woken_send, SendPc.woken, if_true, Nat.add_right_cancel_iff] at traded
      rw [traded, State.setWorker_queue]
      exact covered
  case dequeue =>
    split at stepped <;> cases stepped
    · next empty => simp [getNextPacket_none empty]
    · next queue packet popped =>
      have traded := State.permits_setWorker (s := { s with queue := queue }) own (.send (.checkDeadline packet))
      rw [getNextPacket_some popped] at covered
      simp only [State.permits, State.freePermits, Worker.woken_send, SendPc.woken, State.setWorker_queue,
        List.length_cons, if_true, if_false, Bool.false_eq_true] at traded covered ⊢
      omega
  case sending packet call pc =>
    obtain ⟨permits, queue⟩ := packetStep_permits stepped own
    rw [permits, queue]
    exact covered
  all_goals
    repeat' split at stepped
    all_goals cases stepped
  all_goals
    unfold State.permits at covered ⊢
    simp only [State.freePermits, State.setWorker_sendSem, State.setWorker_sems, State.setWorker_producer,
      State.setWorker_queue, State.emit_sendSem, State.emit_sems, State.emit_producer, State.emit_queue,
      State.emit_threads, State.detach_sendSem, State.detach_sems, State.detach_producer,
      State.detach_queue, State.woken_detach, freePackets, State.woken_setWorker_quiet,
      State.detach_workers, own, Option.all_some, Worker.woken_send, SendPc.woken, Bool.not_false,
      List.length_nil, Bool.false_eq_true, Nat.zero_le] at covered ⊢
    try exact covered

theorem statusStep_permits {pc : StatusPc} (stepped : statusStep s id choice pc = some s')
    (own : (s.threads[id]?).map Thread.worker = some (.status pc)) :
    s.permits ≤ s'.permits ∧ s'.queue.packets.length ≤ s.queue.packets.length := by
  rcases statusStep_cases stepped with rfl | ⟨_, rfl⟩ | rfl | rfl <;>
    simp [State.permits, State.freePermits, own, -State.setWorker_threads, -State.detach_threads]

def State.dropsPermit (s : State) : Action → Bool
  | .produce => s.producer == .posting && !s.hasSem
  | .worker id _ =>
    match (s.threads[id]?).map Thread.worker with
    | some (.connect .resetSemaphore) => true
    | some (.send .checkStop) => s.stopEvent && s.stopTs == 0
    | _ => false
  | _ => false

theorem step_keeps_queue_covered (stepped : step s action = some s')
    (keeps : s.dropsPermit action = false) (covered : s.queue.packets.length ≤ s.permits) :
    s'.queue.packets.length ≤ s'.permits := by
  cases action with
  | start spawned =>
    rw [step_start stepped]
    unfold ftlStreamStart; split <;> simpa [State.permits, State.freePermits] using covered
  | stop ts =>
    rw [step_stop stepped]
    unfold ftlStreamStop; split_ifs <;> simpa [State.permits, State.freePermits] using covered
  | destroy => simpa [step_destroy stepped, ftlStreamDestroy, State.permits, State.freePermits] using covered
  | control =>
    have := controlStep_permits stepped
    omega
  | data packet =>
    obtain ⟨idle, rfl⟩ := step_data stepped
    unfold ftlStreamData; split_ifs <;> simpa [State.permits, State.freePermits, idle] using covered
  | produce =>
    refine producerStep_permits stepped rfl (fun posting => ?_) covered
    simpa [State.dropsPermit, posting] using keeps
  | worker id choice =>
    obtain ⟨thread, found, stepped⟩ := step_worker stepped
    have own : (s.threads[id]?).map Thread.worker = some thread.worker := by simp [found]
    cases worker : thread.worker with
    | connect pc =>
      rw [worker] at stepped own
      have notReset : pc ≠ .resetSemaphore := by
        rintro rfl
        simp [State.dropsPermit, found, worker] at keeps
      have := connectStep_permits stepped own notReset
      omega
    | send pc =>
      rw [worker] at stepped own
      refine sendStep_permits stepped own ?_ covered
      rintro ⟨rfl, signalled, zero⟩
      simp [State.dropsPermit, found, worker, signalled, zero] at keeps
    | status pc =>
      rw [worker] at stepped own
      have := statusStep_permits stepped own
      omega

theorem step_keeps_queue_covered_at_post :
    ∃ s s', run initial (openSession ++ [.data silence, .produce]) = some s ∧
      step s .produce = some s' ∧ s.dropsPermit .produce = false ∧
      s.queue.packets.length ≤ s.permits ∧ s'.queue.packets.length ≤ s'.permits := by
  obtain ⟨s, s', ran, stepped⟩ : ∃ s s',
      run initial (openSession ++ [Action.data silence, .produce]) = some s ∧
        step s .produce = some s' := ⟨_, _, rfl, rfl⟩
  have keeps : s.dropsPermit .produce = false := run_map ran (f := (·.dropsPermit .produce)) (by decide)
  have covered : s.queue.packets.length ≤ s.permits :=
    of_decide_eq_true
      (run_map ran (f := fun s => decide (s.queue.packets.length ≤ s.permits)) (by decide))
  exact ⟨s, s', ran, stepped, keeps, covered, step_keeps_queue_covered stepped keeps covered⟩

def reconnectWithPacket : List Action :=
  [.start true, .worker 3 .go, .worker 3 .go, .data silence, .produce, .produce,
   .worker 3 (.initConnect true true 0), .worker 3 (.tryConnect false .success none),
   .worker 3 (.spawn true), .worker 3 .go, .worker 3 (.spawn true)]

theorem reset_semaphore_strands_packet :
    ∃ s, run initial (openSession ++ ingestDrops ++ reconnectWithPacket) = some s ∧
      s.queue.packets = [silence] ∧ s.sendSem = some 1 ∧ s.sems = [1, 0] ∧ s.producer = .idle ∧
      s.threads[2]? = some ⟨.send .wait, false, false⟩ ∧
      s.threads[5]? = some ⟨.send .wait, false, false⟩ := by
  refine ⟨_, rfl, ?_⟩
  decide

def stopWhileConnecting : List Action := [.start true, .stop 5000000, .control]

theorem stop_joins_uncreated_status_thread :
    ∃ s, run initial stopWhileConnecting = some s ∧ s.connecting = true ∧
      s.control = .stopJoinStatus 5000000 ∧ s.statusThread = none ∧
      step s .control = some { s with control := .stopJoinConnect 5000000 } := by
  refine ⟨_, rfl, ?_⟩
  decide

def stopThenDestroy : List Action := openSession ++ forcedStop ++ [.destroy, .control, .control]

theorem destroy_returns_with_status_worker_running :
    ∃ s, run initial stopThenDestroy = some s ∧ s.control = .destroyed ∧
      s.threads[1]? = some ⟨.status .loop, false, false⟩ ∧
      (step s (.worker 1 (.status .statusTimeout .other))).isSome := by
  refine ⟨_, rfl, ?_⟩
  decide

end FtlStream.Lifecycle
