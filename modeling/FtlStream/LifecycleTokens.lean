import FtlStream.LifecycleSessions

set_option autoImplicit false

/-!
Each copy `ftl_stream_data` makes of a packet, and each header packet
`send_video_header` builds, is a ghost token; each `obs_free_encoder_packet` call
releases one.
-/

namespace FtlStream.Lifecycle

open List

inductive Releaser
  | sendPacket
  | dropFrames
  | streamData
  | deadline
  | freePackets
  deriving DecidableEq, Repr

structure Ledger where
  created : List EncoderPacket
  released : List (Releaser × EncoderPacket)
  deriving DecidableEq, Repr

def Ledger.record (l entries : Ledger) : Ledger :=
  ⟨l.created ++ entries.created, l.released ++ entries.released⟩

def Ledger.freed (l : Ledger) : List EncoderPacket := l.released.map Prod.snd

def Producer.holding : Producer → List EncoderPacket
  | .locking packet => [packet]
  | _ => []

def Worker.holding : Worker → List EncoderPacket
  | .send (.checkDeadline packet) | .send (.transmit packet) | .send (.sending packet .frame _) => [packet]
  | .send (.sending packet (.header built) _) => [built, packet]
  | _ => []

def Worker.pending : Worker → List EncoderPacket
  | .send (.checkDeadline packet) | .send (.transmit packet) | .send (.sending packet _ _) => [packet]
  | _ => []

def pendingOf (threads : List Thread) : List EncoderPacket := threads.flatMap fun thread => thread.worker.pending

def inFlight (threads : List Thread) : List EncoderPacket := threads.flatMap fun thread => thread.worker.holding

def State.held (s : State) : List EncoderPacket := s.producer.holding ++ s.queue.packets ++ inFlight s.threads

def stepLedger (s : State) : Action → Ledger
  | .data packet => if s.disconnected || !s.active then ⟨[], []⟩ else ⟨[packet], []⟩
  | .produce =>
    match s.producer with
    | .locking packet =>
      if s.disconnected then ⟨[], [(.streamData, packet)]⟩
      else
        let added := addStreamPacket s.queue packet
        ⟨[], added.2.2.map (.dropFrames, ·) ++ if added.2.1 then [] else [(.streamData, packet)]⟩
    | _ => ⟨[], []⟩
  | .control =>
    match s.control with
    | .destroyFree => ⟨[], s.queue.packets.map (.freePackets, ·)⟩
    | _ => ⟨[], []⟩
  | .worker id choice =>
    match (s.threads[id]?).map Thread.worker, choice with
    | some (.connect .freePackets), _ | some (.send .exitFree), _ =>
      ⟨[], s.queue.packets.map (.freePackets, ·)⟩
    | some (.send (.checkDeadline packet)), _ =>
      if s.stopEvent && decide (packet.sysDtsUsec ≥ toInt64 s.stopTs) then ⟨[], [(.deadline, packet)]⟩
      else ⟨[], []⟩
    | some (.send (.transmit packet)), .header bytes =>
      if packet.keyframe then ⟨[headerPacket bytes packet.dtsUsec], []⟩ else ⟨[], []⟩
    | some (.send (.sending packet call (.storeBytes _ _))), _ => ⟨[], [(.sendPacket, call.packet packet)]⟩
    | _, _ => ⟨[], []⟩
  | _ => ⟨[], []⟩

theorem flatMap_modify {α β : Type} [DecidableEq β] (g : α → List β) (f : α → α) (l : List α) (i : Nat) :
    (l.modify f i).flatMap g ++ ((l[i]?).map g).getD [] ~ l.flatMap g ++ ((l[i]?).map (g ∘ f)).getD [] := by
  induction l generalizing i with
  | nil => simp
  | cons a l ih =>
    cases i with
    | zero =>
      simp only [List.modify_zero_cons, List.flatMap_cons, List.getElem?_cons_zero, Option.map_some',
        Option.getD_some, Function.comp_apply, List.append_assoc]
      rw [List.perm_iff_count]
      intro x
      simp only [List.count_append]
      omega
    | succ i =>
      simp only [List.modify_succ_cons, List.flatMap_cons, List.getElem?_cons_succ, List.append_assoc]
      exact (ih i).append_left _

theorem flatMap_modify_of_same {α β : Type} {g : α → List β} {f : α → α} (l : List α) (i : Nat)
    (same : ∀ a ∈ l[i]?, g (f a) = g a) : (l.modify f i).flatMap g = l.flatMap g := by
  induction l generalizing i with
  | nil => simp
  | cons a l ih =>
    cases i with
    | zero => simp [same a (by simp)]
    | succ i => simp [ih i (by simpa using same)]

section InFlight

variable {s s' : State} {id : Nat}

@[simp] theorem inFlight_append_single (threads : List Thread) (thread : Thread) :
    inFlight (threads ++ [thread]) = inFlight threads ++ thread.worker.holding := by
  simp [inFlight]

theorem inFlight_setWorker {old : Worker} (own : (s.threads[id]?).map Thread.worker = some old)
    (w : Worker) : inFlight (s.setWorker id w).threads ++ old.holding ~ inFlight s.threads ++ w.holding := by
  obtain ⟨thread, found, rfl⟩ := Option.map_eq_some'.mp own
  simpa [inFlight, State.setWorker, found] using
    flatMap_modify (fun thread => thread.worker.holding) (fun t => { t with worker := w }) s.threads id

@[simp] theorem inFlight_setWorker_quiet
    (quietOld : ((s.threads[id]?).map Thread.worker).all (·.holding.isEmpty) = true) {w : Worker}
    (quiet : w.holding = []) : inFlight (s.setWorker id w).threads = inFlight s.threads := by
  refine flatMap_modify_of_same _ _ fun thread found => ?_
  rw [Option.mem_def.mp found] at quietOld
  simp only [Option.map_some', Option.all_some, List.isEmpty_iff] at quietOld
  simp [quiet, quietOld]

theorem inFlight_setWorker_same {old : Worker} (own : (s.threads[id]?).map Thread.worker = some old)
    {w : Worker} (same : w.holding = old.holding) : inFlight (s.setWorker id w).threads = inFlight s.threads := by
  refine flatMap_modify_of_same _ _ fun thread found => ?_
  rw [Option.mem_def.mp found] at own
  simp only [Option.map_some', Option.some.injEq] at own
  simp [same, own]

@[simp] theorem inFlight_detach (handle : Option Nat) : inFlight (s.detach handle).threads = inFlight s.threads := by
  cases handle with
  | none => rfl
  | some k => exact flatMap_modify_of_same _ _ fun _ _ => rfl

theorem inFlight_reap {target : Nat} (reaped : s.reap target = some s') :
    inFlight s'.threads = inFlight s.threads := by
  unfold State.reap at reaped
  split at reaped
  · split at reaped
    · cases reaped
      exact flatMap_modify_of_same _ _ fun _ _ => rfl
    · cases reaped
  · cases reaped

@[simp] theorem pendingOf_append_single (threads : List Thread) (thread : Thread) :
    pendingOf (threads ++ [thread]) = pendingOf threads ++ thread.worker.pending := by
  simp [pendingOf]

@[simp] theorem pendingOf_setWorker_quiet
    (quietOld : ((s.threads[id]?).map Thread.worker).all (·.pending.isEmpty) = true) {w : Worker}
    (quiet : w.pending = []) : pendingOf (s.setWorker id w).threads = pendingOf s.threads := by
  refine flatMap_modify_of_same _ _ fun thread found => ?_
  rw [Option.mem_def.mp found] at quietOld
  simp only [Option.map_some', Option.all_some, List.isEmpty_iff] at quietOld
  simp [quiet, quietOld]

@[simp] theorem pendingOf_detach (handle : Option Nat) : pendingOf (s.detach handle).threads = pendingOf s.threads := by
  cases handle with
  | none => rfl
  | some k => exact flatMap_modify_of_same _ _ fun _ _ => rfl

theorem pendingOf_reap {target : Nat} (reaped : s.reap target = some s') :
    pendingOf s'.threads = pendingOf s.threads := by
  unfold State.reap at reaped
  split at reaped
  · split at reaped
    · cases reaped
      exact flatMap_modify_of_same _ _ fun _ _ => rfl
    · cases reaped
  · cases reaped

end InFlight

section Conserves

variable {s s' : State} {id : Nat} {choice : Choice}

def Conserves (s s' : State) (entries : Ledger) : Prop :=
  s.held ++ entries.created ~ s'.held ++ entries.freed

theorem Conserves.quiet (same : s'.held = s.held) : Conserves s s' ⟨[], []⟩ := by
  simp [Conserves, Ledger.freed, same]

theorem Conserves.free (producer : s'.producer = s.producer) (held : inFlight s'.threads = inFlight s.threads)
    (cleared : s'.queue.packets = []) : Conserves s s' ⟨[], s.queue.packets.map (.freePackets, ·)⟩ := by
  simp only [Conserves, State.held, Ledger.freed, List.map_map, Prod.snd_comp_mk, List.map_id, producer, held,
    cleared, List.append_nil, List.append_assoc]
  exact List.perm_append_comm.append_left _

theorem controlStep_packets (stepped : controlStep s s.control = some s') :
    s'.sent = s.sent ∧ s'.producer = s.producer ∧ inFlight s'.threads = inFlight s.threads ∧
      s'.queue.packets = (if s.control = .destroyFree then [] else s.queue.packets) ∧
      pendingOf s'.threads = pendingOf s.threads := by
  cases control : s.control <;> rw [control] at stepped <;> simp only [controlStep, State.callJoin] at stepped
  case join target next =>
    obtain ⟨r, reaped, rfl⟩ := Option.map_eq_some'.mp stepped
    have held := inFlight_reap reaped
    have pending := pendingOf_reap reaped
    rw [State.reap_frame reaped] at held pending ⊢
    exact ⟨rfl, rfl, held, rfl, pending⟩
  all_goals
    repeat' split at stepped
    all_goals first
      | (cases stepped; exact ⟨rfl, rfl, rfl, rfl, rfl⟩)
      | cases stepped

theorem controlStep_conserves (stepped : controlStep s s.control = some s') :
    Conserves s s' (stepLedger s .control) := by
  obtain ⟨-, producer, held, queue, -⟩ := controlStep_packets stepped
  by_cases freeing : s.control = .destroyFree
  · simp only [freeing, if_true] at queue
    simp only [stepLedger, freeing]
    exact Conserves.free producer held queue
  · have quiet : stepLedger s .control = ⟨[], []⟩ := by simp only [stepLedger, freeing]
    rw [quiet]
    exact Conserves.quiet (by simp only [State.held, producer, held, queue, freeing, if_false])

theorem producerStep_conserves (stepped : producerStep s s.producer = some s') :
    Conserves s s' (stepLedger s .produce) := by
  cases producing : s.producer <;> rw [producing] at stepped <;> simp only [producerStep] at stepped
  case idle => cases stepped
  case posting =>
    cases stepped
    simp only [stepLedger, producing]
    exact Conserves.quiet (by simp [State.held, producing, Producer.holding])
  case locking packet =>
    have split := addStreamPacket_perm s.queue packet
    rw [List.perm_iff_count] at split
    simp only [stepLedger, producing]
    by_cases disconnected : s.disconnected
    · simp only [disconnected, if_true] at stepped ⊢
      cases stepped
      simp only [Conserves, State.held, producing, Ledger.freed]
      rw [List.perm_iff_count]
      intro p
      simp [Producer.holding, List.count_append, List.count_cons]
      omega
    · simp only [disconnected, Bool.false_eq_true, if_false] at stepped ⊢
      cases stepped
      simp only [Conserves, State.held, producing, Ledger.freed]
      rw [List.perm_iff_count]
      intro p
      have := split p
      simp only [addStreamPacketDiscarded, List.count_append] at this
      split_ifs at this ⊢ <;>
        simp [Producer.holding, List.count_append, List.count_cons, List.map_map] at this ⊢ <;> omega

theorem connectStep_packets {pc : ConnectPc} (stepped : connectStep s id choice pc = some s')
    (own : (s.threads[id]?).map Thread.worker = some (.connect pc)) :
    s'.sent = s.sent ∧ s'.producer = s.producer ∧ inFlight s'.threads = inFlight s.threads ∧
      s'.queue.packets = (if pc = .freePackets then [] else s.queue.packets) ∧
      pendingOf s'.threads = pendingOf s.threads := by
  cases pc <;> simp only [connectStep] at stepped
  case waitSend target =>
    obtain ⟨r, reaped, rfl⟩ := Option.map_eq_some'.mp stepped
    have rOwn : (r.threads[id]?).map Thread.worker = some (.connect (.waitSend target)) := by
      rw [State.reap_workers reaped, own]
    have held := inFlight_reap reaped
    have pending := pendingOf_reap reaped
    rw [State.reap_frame reaped] at held pending rOwn ⊢
    simp [rOwn, held, pending, Worker.holding, Worker.pending, -State.setWorker_threads]
  all_goals
    repeat' split at stepped
    all_goals first
      | (cases stepped
         simp only [own, Worker.holding, freePackets, State.setWorker_sent, State.setWorker_producer,
           State.setWorker_queue, State.emit_sent, State.emit_producer, State.emit_queue, State.emit_threads,
           State.spawn_sent, State.spawn_producer, State.spawn_queue, State.spawn_threads, State.detach_sent,
           State.detach_producer, State.detach_queue, State.detach_workers, inFlight_setWorker_quiet,
           inFlight_append_single, inFlight_detach, pendingOf_setWorker_quiet, pendingOf_append_single,
           pendingOf_detach, Worker.pending, Option.all_some, List.isEmpty_nil, List.append_nil,
           reduceCtorEq, if_true, if_false, and_self])
      | cases stepped

theorem stepLedger_connect {pc : ConnectPc} (own : (s.threads[id]?).map Thread.worker = some (.connect pc))
    (keeps : pc ≠ .freePackets) : stepLedger s (.worker id choice) = ⟨[], []⟩ := by
  cases pc <;> first | exact absurd rfl keeps | simp only [stepLedger, own]

theorem connectStep_conserves {pc : ConnectPc} (stepped : connectStep s id choice pc = some s')
    (own : (s.threads[id]?).map Thread.worker = some (.connect pc)) :
    Conserves s s' (stepLedger s (.worker id choice)) := by
  obtain ⟨-, producer, held, queue, -⟩ := connectStep_packets stepped own
  by_cases freeing : pc = .freePackets
  · subst freeing
    simp only [stepLedger, own]
    exact Conserves.free producer held (by simpa only [if_true] using queue)
  · rw [stepLedger_connect own freeing]
    exact Conserves.quiet (by simp [State.held, producer, held, queue, freeing])

def SendPc.movesPackets : SendPc → Bool
  | .dequeue | .checkDeadline _ | .transmit _ | .sending _ _ _ | .exitFree => true
  | _ => false

theorem sendStep_quiet {pc : SendPc} (stepped : sendStep s id choice pc = some s')
    (own : (s.threads[id]?).map Thread.worker = some (.send pc)) (quiet : pc.movesPackets = false) :
    s'.sent = s.sent ∧ s'.producer = s.producer ∧ s'.queue.packets = s.queue.packets ∧
      inFlight s'.threads = inFlight s.threads ∧ pendingOf s'.threads = pendingOf s.threads := by
  cases pc <;> simp only [SendPc.movesPackets, reduceCtorEq] at quiet <;> simp only [sendStep] at stepped
  all_goals
    repeat' split at stepped
    all_goals first
      | (cases stepped
         simp only [own, Worker.holding, Worker.pending, State.setWorker_sent, State.setWorker_producer,
           State.setWorker_queue, State.emit_sent, State.emit_producer, State.emit_queue, State.emit_threads,
           State.detach_sent, State.detach_producer, State.detach_queue, State.detach_workers,
           inFlight_setWorker_quiet, inFlight_detach, pendingOf_setWorker_quiet, pendingOf_detach,
           Option.all_some, List.isEmpty_nil, and_self])
      | cases stepped

theorem stepLedger_send_quiet {pc : SendPc} (own : (s.threads[id]?).map Thread.worker = some (.send pc))
    (quiet : pc.movesPackets = false) : stepLedger s (.worker id choice) = ⟨[], []⟩ := by
  cases pc <;> simp only [SendPc.movesPackets, reduceCtorEq] at quiet <;> simp only [stepLedger, own]

theorem held_setWorker {t : State} {old : Worker} (own : (t.threads[id]?).map Thread.worker = some old)
    (w : Worker) : (t.setWorker id w).held ++ old.holding ~ t.held ++ w.holding := by
  simpa only [State.held, State.setWorker_producer, State.setWorker_queue, List.append_assoc] using
    (inFlight_setWorker own w).append_left (t.producer.holding ++ t.queue.packets)

theorem Conserves.trade {t : State} {old w : Worker} {entries : Ledger}
    (own : (t.threads[id]?).map Thread.worker = some old)
    (balance : old.holding ++ entries.created ~ w.holding ++ entries.freed) :
    Conserves t (t.setWorker id w) entries := by
  have moved := (balance.append_left (t.setWorker id w).held).symm.trans
    (by simpa only [List.append_assoc] using (held_setWorker own w).append_right entries.created)
  refine (List.perm_append_right_iff w.holding).mp ?_
  calc t.held ++ entries.created ++ w.holding ~ t.held ++ (w.holding ++ entries.created) := by
        rw [List.append_assoc]; exact List.perm_append_comm.append_left t.held
    _ ~ (t.setWorker id w).held ++ (w.holding ++ entries.freed) := moved.symm
    _ ~ (t.setWorker id w).held ++ entries.freed ++ w.holding := by
        simpa only [List.append_assoc] using List.perm_append_comm.append_left _

theorem packetStep_conserves {packet : EncoderPacket} {call : Call} {pc : PacketPc}
    (stepped : packetStep s id choice packet call pc = some s')
    (own : (s.threads[id]?).map Thread.worker = some (.send (.sending packet call pc))) :
    Conserves s s' (stepLedger s (.worker id choice)) := by
  cases pc
  case storeBytes bytesSent total =>
    simp only [stepLedger, own]
    cases call with
    | header built =>
      simp only [packetStep, show ¬ sendPacketReturn < 0 by decide, if_false, Option.some.injEq] at stepped
      subst stepped
      exact Conserves.trade (t := { s with sender := _ }) own (List.perm_append_singleton _ _).symm
    | frame =>
      simp only [packetStep, show ¬ sendPacketReturn < 0 by decide, if_false, Option.some.injEq] at stepped
      subst stepped
      exact Conserves.trade (t := { s with sender := _, sent := _ }) own (List.perm_append_singleton _ _).symm
  all_goals
    obtain ⟨frame, pc', threads, kind⟩ := packetStep_frame stepped
    simp only [PacketPc.returns, Bool.false_eq_true, if_false] at kind
    obtain ⟨⟨inner, rfl⟩, -⟩ := kind
    simp only [stepLedger, own]
    refine Conserves.quiet ?_
    rw [frame]
    simp only [State.held, threads]
    rw [inFlight_setWorker_same own (by cases call <;> rfl)]

theorem sendStep_conserves {pc : SendPc} (stepped : sendStep s id choice pc = some s')
    (own : (s.threads[id]?).map Thread.worker = some (.send pc)) :
    Conserves s s' (stepLedger s (.worker id choice)) := by
  cases pc
  case dequeue =>
    simp only [sendStep] at stepped
    simp only [stepLedger, own]
    split at stepped <;> cases stepped
    · exact Conserves.quiet (by simp [State.held, own, Worker.holding, -State.setWorker_threads])
    · next queue packet popped =>
      have moved : _ ++ [] ~ _ ++ [packet] := held_setWorker (t := { s with queue := queue }) own
        (.send (.checkDeadline packet))
      have dequeued : s.held ~ { s with queue := queue }.held ++ [packet] := by
        simpa only [State.held, getNextPacket_some popped, List.cons_append, List.append_assoc] using
          (List.perm_append_singleton packet (queue.packets ++ inFlight s.threads)).symm.append_left
            s.producer.holding
      simpa only [Conserves, Ledger.freed, List.map_nil, List.append_nil] using dequeued.trans moved.symm
  case checkDeadline packet =>
    simp only [sendStep] at stepped
    cases stepped
    simp only [stepLedger, own]
    split <;> exact Conserves.trade own (.refl _)
  case transmit packet =>
    simp only [sendStep] at stepped
    split at stepped
    · next keyframe =>
      split at stepped
      · cases stepped
        simp only [stepLedger, own, keyframe, if_true]
        exact Conserves.trade (t := { s with sender := _ }) own (.swap _ _ _)
      · cases stepped
    · next notKey =>
      cases stepped
      have quiet : stepLedger s (.worker id choice) = ⟨[], []⟩ := by
        cases choice <;> simp [stepLedger, own, notKey]
      rw [quiet]
      exact Conserves.trade own (.refl _)
  case sending packet call pc => exact packetStep_conserves stepped own
  case exitFree =>
    simp only [sendStep] at stepped
    cases stepped
    simp only [stepLedger, own]
    exact Conserves.free rfl (inFlight_setWorker_quiet (by simp [own, Worker.holding]) rfl) rfl
  all_goals
    obtain ⟨-, producer, queue, held, -⟩ := sendStep_quiet stepped own rfl
    rw [stepLedger_send_quiet own rfl]
    exact Conserves.quiet (by simp only [State.held, producer, queue, held])

theorem statusStep_packets {pc : StatusPc} (stepped : statusStep s id choice pc = some s')
    (own : (s.threads[id]?).map Thread.worker = some (.status pc)) :
    s'.sent = s.sent ∧ s'.producer = s.producer ∧ s'.queue.packets = s.queue.packets ∧
      inFlight s'.threads = inFlight s.threads ∧ pendingOf s'.threads = pendingOf s.threads := by
  rcases statusStep_cases stepped with rfl | ⟨_, rfl⟩ | rfl | rfl <;>
    simp only [own, Worker.holding, Worker.pending, State.setWorker_sent, State.setWorker_producer,
      State.setWorker_queue, State.emit_sent, State.emit_producer, State.emit_queue, State.emit_threads,
      State.detach_sent, State.detach_producer, State.detach_queue, State.detach_workers, inFlight_setWorker_quiet,
      inFlight_detach, pendingOf_setWorker_quiet, pendingOf_detach, Option.all_some, List.isEmpty_nil, and_self]

theorem statusStep_conserves {pc : StatusPc} (stepped : statusStep s id choice pc = some s')
    (own : (s.threads[id]?).map Thread.worker = some (.status pc)) :
    Conserves s s' (stepLedger s (.worker id choice)) := by
  obtain ⟨-, producer, queue, held, -⟩ := statusStep_packets stepped own
  simp only [stepLedger, own]
  exact Conserves.quiet (by simp only [State.held, producer, queue, held])

theorem step_conserves {action : Action} (stepped : step s action = some s') :
    Conserves s s' (stepLedger s action) := by
  cases action with
  | start spawned =>
    rw [step_start stepped]
    exact Conserves.quiet (by unfold ftlStreamStart; split <;> simp [State.held, Worker.holding])
  | stop ts =>
    rw [step_stop stepped]
    exact Conserves.quiet (by unfold ftlStreamStop; split_ifs <;> rfl)
  | destroy => rw [step_destroy stepped]; exact Conserves.quiet rfl
  | control => exact controlStep_conserves stepped
  | data packet =>
    obtain ⟨idle, rfl⟩ := step_data stepped
    simp only [stepLedger, ftlStreamData]
    split
    · exact Conserves.quiet rfl
    · simp only [Conserves, State.held, Ledger.freed, idle, Producer.holding, List.map_nil, List.append_nil,
        List.nil_append]
      exact List.perm_append_comm
  | produce => exact producerStep_conserves stepped
  | worker id choice =>
    obtain ⟨thread, found, stepped⟩ := step_worker stepped
    have own : (s.threads[id]?).map Thread.worker = some thread.worker := by simp [found]
    cases worker : thread.worker with
    | connect pc => rw [worker] at stepped own; exact connectStep_conserves stepped own
    | send pc => rw [worker] at stepped own; exact sendStep_conserves stepped own
    | status pc => rw [worker] at stepped own; exact statusStep_conserves stepped own

end Conserves

inductive Tracked : State → Ledger → Prop
  | initial : Tracked initial ⟨[], []⟩
  | step {s s' : State} {l : Ledger} {action : Action} :
    Tracked s l → step s action = some s' → Tracked s' (l.record (stepLedger s action))

def track : State × Ledger → List Action → Option (State × Ledger)
  | current, [] => some current
  | (s, l), action :: rest => (step s action).bind fun s' => track (s', l.record (stepLedger s action)) rest

theorem Tracked.track {s s' : State} {l l' : Ledger} {actions : List Action} (tracked : Tracked s l)
    (ran : Lifecycle.track (s, l) actions = some (s', l')) : Tracked s' l' := by
  induction actions generalizing s l with
  | nil =>
    simp only [Lifecycle.track, Option.some.injEq, Prod.mk.injEq] at ran
    obtain ⟨rfl, rfl⟩ := ran
    exact tracked
  | cons action rest ih =>
    simp only [Lifecycle.track, Option.bind_eq_some] at ran
    obtain ⟨next, stepped, ran⟩ := ran
    exact ih (tracked.step stepped) ran

@[simp] theorem Ledger.record_created (l entries : Ledger) :
    (l.record entries).created = l.created ++ entries.created := rfl

@[simp] theorem Ledger.record_freed (l entries : Ledger) :
    (l.record entries).freed = l.freed ++ entries.freed := by
  simp [Ledger.record, Ledger.freed]

theorem Tracked.conserves {s : State} {l : Ledger} (tracked : Tracked s l) : l.created ~ l.freed ++ s.held := by
  induction tracked with
  | initial => rfl
  | @step s s' l action _ stepped ih =>
    have kept : s.held ++ (stepLedger s action).created ~ s'.held ++ (stepLedger s action).freed :=
      step_conserves stepped
    rw [Ledger.record_created, Ledger.record_freed]
    calc l.created ++ (stepLedger s action).created
        ~ l.freed ++ (s.held ++ (stepLedger s action).created) := by
          rw [← List.append_assoc]; exact ih.append_right _
      _ ~ l.freed ++ (s'.held ++ (stepLedger s action).freed) := kept.append_left _
      _ ~ (l.freed ++ (stepLedger s action).freed) ++ s'.held := by
          rw [List.append_assoc]; exact (List.perm_append_comm).append_left _

theorem controlStep_destroyFree {s s' : State} (freeing : s.control = .destroyFree)
    (stepped : step s .control = some s') :
    s'.control = .destroyed ∧ s'.queue.packets = [] ∧ s'.held = s.producer.holding ++ inFlight s.threads := by
  simp only [step, freeing, controlStep, Option.some.injEq] at stepped
  subst stepped
  refine ⟨rfl, rfl, ?_⟩
  show _ ++ (freePackets s.queue).1.packets ++ _ = _
  rw [show (freePackets s.queue).1.packets = [] from rfl, List.append_nil]
  rfl

def destroyDuringData : List Action :=
  openSession ++ [.data silence, .destroy] ++ List.replicate 5 .control ++ List.replicate 8 (.worker 2 .go) ++
    [.control]

theorem destroy_returns_with_copy_unreleased :
    ∃ s l, track (initial, ⟨[], []⟩) (destroyDuringData ++ [.control]) = some (s, l) ∧
      s.control = .destroyed ∧ s.producer = .locking silence ∧ l.created = [silence] ∧ l.released = [] := by
  refine ⟨_, _, rfl, ?_⟩
  decide

end FtlStream.Lifecycle
