import FtlStream.LifecycleTokens

set_option autoImplicit false

namespace FtlStream.Lifecycle

open List

def State.pipeline (s : State) : List EncoderPacket := s.sent ++ pendingOf s.threads ++ s.queue.packets

def State.admits (s : State) : Action → List EncoderPacket
  | .produce =>
    match s.producer with
    | .locking packet => if !s.disconnected && (addStreamPacket s.queue packet).2.1 then [packet] else []
    | _ => []
  | _ => []

theorem addStreamPacket_sublist_added (q : Queue) (packet : EncoderPacket) :
    (addStreamPacket q packet).1.packets <+
      q.packets ++ if (addStreamPacket q packet).2.1 then [packet] else [] := by
  have kept := checkToDropFrames_sublist q
  cases kind : packet.type
  · simp [addStreamPacket, kind]
  · simp only [addStreamPacket, kind, addVideoPacket]
    split
    · simpa using kept
    · simpa using kept.append (List.Sublist.refl [packet])

theorem Worker.pending_of_not_live {w : Worker} (quiet : (!w.exited && w.isSend) = false) : w.pending = [] := by
  cases w with
  | send pc => cases pc <;> simp_all [Worker.exited, Worker.isSend, Worker.pending]
  | _ => rfl

theorem pendingOf_of_solo {threads : List Thread} {id : Nat} {thread : Thread} (found : threads[id]? = some thread)
    (live : (thread.alive && thread.worker.isSend) = true)
    (solo : threads.countP (fun t => t.alive && t.worker.isSend) ≤ 1) :
    pendingOf threads = thread.worker.pending := by
  induction threads generalizing id with
  | nil => simp at found
  | cons first rest ih =>
    rw [countP_cons] at solo
    cases id with
    | zero =>
      obtain rfl : first = thread := by simpa using found
      have none : rest.countP (fun t => t.alive && t.worker.isSend) = 0 := by
        simp only [live, if_true] at solo
        omega
      have others : ∀ t ∈ rest, t.worker.pending = [] := fun t member =>
        Worker.pending_of_not_live (by simpa [Thread.alive] using countP_eq_zero.mp none t member)
      simp [pendingOf, List.flatMap_eq_nil_iff.mpr others]
    | succ k =>
      rw [List.getElem?_cons_succ] at found
      have present : 0 < rest.countP (fun t => t.alive && t.worker.isSend) :=
        countP_pos_iff.mpr ⟨thread, List.getElem?_mem found, live⟩
      have notLive : (first.alive && first.worker.isSend) = false := by
        by_contra both
        simp only [Bool.not_eq_false] at both
        simp only [both, if_true] at solo
        omega
      have quiet : first.worker.pending = [] :=
        Worker.pending_of_not_live (by simpa [Thread.alive] using notLive)
      simp only [notLive, Bool.false_eq_true, if_false, Nat.add_zero] at solo
      simpa [pendingOf, quiet] using ih found solo

theorem State.pendingOf_of_solo {s : State} {id : Nat} {pc : SendPc} (solo : s.liveSendWorkers ≤ 1)
    (own : (s.threads[id]?).map Thread.worker = some (.send pc)) (live : pc ≠ .exited) :
    pendingOf s.threads = (Worker.send pc).pending := by
  obtain ⟨thread, found, same⟩ := Option.map_eq_some'.mp own
  rw [← same]
  exact Lifecycle.pendingOf_of_solo found (Thread.alive_send same live) solo

theorem State.setWorker_own {s : State} {id : Nat} {old : Worker}
    (own : (s.threads[id]?).map Thread.worker = some old) (w : Worker) :
    ((s.setWorker id w).threads[id]?).map Thread.worker = some w := by
  simp [own, -State.setWorker_threads]

section Steps

variable {s s' : State} {id : Nat} {choice : Choice}

theorem pipeline_sublist_of_eq (same : s'.pipeline = s.pipeline) : s'.pipeline <+ s.pipeline := same ▸ .refl _

theorem pipeline_sublist_of_cleared (sent : s'.sent = s.sent) (pending : pendingOf s'.threads = pendingOf s.threads)
    (cleared : s'.queue.packets = []) : s'.pipeline <+ s.pipeline := by
  simp only [State.pipeline, sent, pending, cleared, List.append_nil]
  exact sublist_append_left _ _

theorem controlStep_pipeline (stepped : controlStep s s.control = some s') : s'.pipeline <+ s.pipeline := by
  obtain ⟨sent, -, -, queue, pending⟩ := controlStep_packets stepped
  split at queue
  · exact pipeline_sublist_of_cleared sent pending queue
  · exact pipeline_sublist_of_eq (by simp only [State.pipeline, sent, pending, queue])

theorem producerStep_pipeline (stepped : producerStep s s.producer = some s') :
    s'.pipeline <+ s.pipeline ++ s.admits .produce := by
  cases producing : s.producer <;> rw [producing] at stepped <;> simp only [producerStep] at stepped
  case idle => cases stepped
  case posting =>
    cases stepped
    simp [State.admits, producing, State.pipeline]
  case locking packet =>
    split at stepped <;> cases stepped
    · simp [State.admits, producing, State.pipeline, *]
    · next connected =>
      have kept := (addStreamPacket_sublist_added s.queue packet).append_left (s.sent ++ pendingOf s.threads)
      simpa [State.admits, producing, State.pipeline, connected] using kept

theorem connectStep_pipeline {pc : ConnectPc} (stepped : connectStep s id choice pc = some s')
    (own : (s.threads[id]?).map Thread.worker = some (.connect pc)) : s'.pipeline <+ s.pipeline := by
  obtain ⟨sent, -, -, queue, pending⟩ := connectStep_packets stepped own
  split at queue
  · exact pipeline_sublist_of_cleared sent pending queue
  · exact pipeline_sublist_of_eq (by simp only [State.pipeline, sent, pending, queue])

theorem packetStep_pipeline {packet : EncoderPacket} {call : Call} {pc : PacketPc} (solo : s.liveSendWorkers ≤ 1)
    (solo' : s'.liveSendWorkers ≤ 1) (stepped : packetStep s id choice packet call pc = some s')
    (own : (s.threads[id]?).map Thread.worker = some (.send (.sending packet call pc))) :
    s'.pipeline = s.pipeline := by
  have before := State.pendingOf_of_solo solo own (by simp)
  cases pc
  case storeBytes bytesSent total =>
    cases call with
    | header built =>
      simp only [packetStep, show ¬ sendPacketReturn < 0 by decide, if_false, Option.some.injEq] at stepped
      subst stepped
      have after := State.pendingOf_of_solo solo' (State.setWorker_own own _) (by simp)
      rw [State.pipeline, State.pipeline, before, after]
      rfl
    | frame =>
      simp only [packetStep, show ¬ sendPacketReturn < 0 by decide, if_false, Option.some.injEq] at stepped
      subst stepped
      have after := State.pendingOf_of_solo solo' (State.setWorker_own own _) (by simp)
      rw [State.pipeline, State.pipeline, before, after]
      simp [Worker.pending]
  all_goals
    obtain ⟨frame, pc', threads, kind⟩ := packetStep_frame stepped
    simp only [PacketPc.returns, Bool.false_eq_true, if_false] at kind
    obtain ⟨⟨inner, rfl⟩, sent⟩ := kind
    have after : pendingOf s'.threads = (Worker.send (.sending packet call inner)).pending :=
      State.pendingOf_of_solo solo' (by rw [threads]; exact State.setWorker_own own _) (by simp)
    have queue : s'.queue = s.queue := by rw [frame]
    rw [State.pipeline, State.pipeline, sent, after, before, queue]
    rfl

theorem sendStep_pipeline {pc : SendPc} (solo : s.liveSendWorkers ≤ 1) (solo' : s'.liveSendWorkers ≤ 1)
    (stepped : sendStep s id choice pc = some s') (own : (s.threads[id]?).map Thread.worker = some (.send pc)) :
    s'.pipeline <+ s.pipeline := by
  cases pc
  case dequeue =>
    simp only [sendStep] at stepped
    split at stepped <;> cases stepped
    · exact pipeline_sublist_of_eq (by simp [State.pipeline, own, Worker.pending, -State.setWorker_threads])
    · next queue packet popped =>
      have before := State.pendingOf_of_solo solo own (by decide)
      have after := State.pendingOf_of_solo solo' (State.setWorker_own own _) (by simp)
      exact pipeline_sublist_of_eq (by
        rw [State.pipeline, State.pipeline, before, after, getNextPacket_some popped]
        simp [Worker.pending])
  case checkDeadline packet =>
    simp only [sendStep] at stepped
    cases stepped
    have before := State.pendingOf_of_solo solo own (by simp)
    split_ifs at solo' ⊢
    · have after := State.pendingOf_of_solo solo' (State.setWorker_own own _) (by simp)
      rw [State.pipeline, State.pipeline, before, after]
      simp [Worker.pending]
    · have after := State.pendingOf_of_solo solo' (State.setWorker_own own _) (by simp)
      exact pipeline_sublist_of_eq (by rw [State.pipeline, State.pipeline, before, after]; rfl)
  case transmit packet =>
    simp only [sendStep] at stepped
    have before := State.pendingOf_of_solo solo own (by simp)
    repeat' split at stepped
    all_goals first
      | (cases stepped
         have after := State.pendingOf_of_solo solo' (State.setWorker_own own _) (by simp)
         exact pipeline_sublist_of_eq (by rw [State.pipeline, State.pipeline, before, after]; rfl))
      | cases stepped
  case sending packet call pc => exact pipeline_sublist_of_eq (packetStep_pipeline solo solo' stepped own)
  case exitFree =>
    simp only [sendStep] at stepped
    cases stepped
    exact pipeline_sublist_of_cleared rfl (by simp [own, Worker.pending, -State.setWorker_threads]) rfl
  all_goals
    obtain ⟨sent, -, queue, -, pending⟩ := sendStep_quiet stepped own rfl
    exact pipeline_sublist_of_eq (by simp only [State.pipeline, sent, queue, pending])

theorem statusStep_pipeline {pc : StatusPc} (stepped : statusStep s id choice pc = some s')
    (own : (s.threads[id]?).map Thread.worker = some (.status pc)) : s'.pipeline <+ s.pipeline := by
  obtain ⟨sent, -, queue, -, pending⟩ := statusStep_packets stepped own
  exact pipeline_sublist_of_eq (by simp only [State.pipeline, sent, queue, pending])

theorem step_pipeline {action : Action} (solo : s.liveSendWorkers ≤ 1) (solo' : s'.liveSendWorkers ≤ 1)
    (stepped : step s action = some s') : s'.pipeline <+ s.pipeline ++ s.admits action := by
  cases action
  case produce => exact producerStep_pipeline stepped
  all_goals refine .trans ?_ (sublist_append_left _ _)
  case start spawned =>
    rw [step_start stepped]
    exact pipeline_sublist_of_eq (by unfold ftlStreamStart; split <;> simp [State.pipeline, Worker.pending])
  case stop ts =>
    rw [step_stop stepped]
    exact pipeline_sublist_of_eq (by unfold ftlStreamStop; split_ifs <;> rfl)
  case destroy => rw [step_destroy stepped]; exact .refl _
  case control => exact controlStep_pipeline stepped
  case data packet =>
    rw [(step_data stepped).2]
    exact pipeline_sublist_of_eq (by unfold ftlStreamData; split <;> rfl)
  case worker id choice =>
    obtain ⟨thread, found, stepped⟩ := step_worker stepped
    have own : (s.threads[id]?).map Thread.worker = some thread.worker := by simp [found]
    cases worker : thread.worker with
    | connect pc => rw [worker] at stepped own; exact connectStep_pipeline stepped own
    | send pc => rw [worker] at stepped own; exact sendStep_pipeline solo solo' stepped own
    | status pc => rw [worker] at stepped own; exact statusStep_pipeline stepped own

end Steps

/-- The runs of the lifecycle from `ftl_stream_create` in which no two send workers
are ever alive at once, each with the packets the queue accepted, in order. -/
inductive SoloRun : State → List EncoderPacket → Prop
  | initial : SoloRun initial []
  | step {s s' : State} {accepted : List EncoderPacket} {action : Action} :
    SoloRun s accepted → step s action = some s' → s'.liveSendWorkers ≤ 1 →
      SoloRun s' (accepted ++ s.admits action)

def soloRun : State × List EncoderPacket → List Action → Option (State × List EncoderPacket)
  | current, [] => some current
  | (s, accepted), action :: rest =>
    (step s action).bind fun s' =>
      if s'.liveSendWorkers ≤ 1 then soloRun (s', accepted ++ s.admits action) rest else none

theorem SoloRun.soloRun {s s' : State} {accepted accepted' : List EncoderPacket} {actions : List Action}
    (solo : SoloRun s accepted) (ran : Lifecycle.soloRun (s, accepted) actions = some (s', accepted')) :
    SoloRun s' accepted' := by
  induction actions generalizing s accepted with
  | nil =>
    simp only [Lifecycle.soloRun, Option.some.injEq, Prod.mk.injEq] at ran
    obtain ⟨rfl, rfl⟩ := ran
    exact solo
  | cons action rest ih =>
    simp only [Lifecycle.soloRun, Option.bind_eq_some] at ran
    obtain ⟨next, stepped, ran⟩ := ran
    split at ran
    · exact ih (solo.step stepped ‹_›) ran
    · cases ran

theorem SoloRun.solo {s : State} {accepted : List EncoderPacket} (solo : SoloRun s accepted) :
    s.liveSendWorkers ≤ 1 := by
  cases solo with
  | initial => decide
  | step _ _ alone => exact alone

theorem SoloRun.pipeline_sublist {s : State} {accepted : List EncoderPacket} (solo : SoloRun s accepted) :
    s.pipeline <+ accepted := by
  induction solo with
  | initial => exact .refl _
  | step before stepped alone ih => exact (step_pipeline before.solo alone stepped).trans (ih.append_right _)

theorem sends_follow_acceptance_order {s : State} {accepted : List EncoderPacket} (solo : SoloRun s accepted) :
    s.sent ++ pendingOf s.threads ++ s.queue.packets <+ accepted ∧
      (accepted.Sorted (fun a b => a.sysDtsUsec ≤ b.sysDtsUsec) →
        ∀ (id : Nat) (choice : Choice) (packet : EncoderPacket) (s' : State),
          (s.threads[id]?).map Thread.worker = some (.send (.checkDeadline packet)) → s.stopEvent = true →
          step s (.worker id choice) = some s' →
          (∀ earlier ∈ s.sent, earlier.sysDtsUsec ≤ packet.sysDtsUsec) ∧
          (toInt64 s.stopTs ≤ packet.sysDtsUsec →
            s'.sent = s.sent ∧ (s'.threads[id]?).map Thread.worker = some (.send .exitSignal) ∧
              ∀ later ∈ s'.queue.packets, toInt64 s.stopTs ≤ later.sysDtsUsec) ∧
          (packet.sysDtsUsec < toInt64 s.stopTs →
            (s'.threads[id]?).map Thread.worker = some (.send (.transmit packet)) ∧
              ∀ earlier ∈ s'.sent, earlier.sysDtsUsec < toInt64 s.stopTs)) := by
  have ordered := solo.pipeline_sublist
  refine ⟨ordered, fun sorted id choice packet s' own stopped stepped => ?_⟩
  have held := State.pendingOf_of_solo solo.solo own (by simp)
  have pipelineSorted := sorted.sublist ordered
  simp only [State.pipeline, held, Worker.pending, List.Sorted, List.pairwise_append, List.mem_append,
    List.mem_singleton] at pipelineSorted
  have before : ∀ earlier ∈ s.sent, earlier.sysDtsUsec ≤ packet.sysDtsUsec :=
    fun earlier sent => pipelineSorted.1.2.2 earlier sent packet rfl
  have after : ∀ later ∈ s.queue.packets, packet.sysDtsUsec ≤ later.sysDtsUsec :=
    fun later queued => pipelineSorted.2.2 packet (.inr rfl) later queued
  obtain ⟨thread, found, stepped⟩ := step_worker stepped
  rw [show thread.worker = .send (.checkDeadline packet) by simpa [found] using own] at stepped
  simp only [workerStep, sendStep, Option.some.injEq] at stepped
  subst stepped
  refine ⟨before, fun late => ⟨rfl, ?_, fun later queued => le_trans late (after later queued)⟩,
    fun early => ⟨?_, fun earlier sent => lt_of_le_of_lt (before earlier sent) early⟩⟩
  · simp [stopped, late, own, -State.setWorker_threads]
  · simp [stopped, not_le.mpr early, own, -State.setWorker_threads]

def audioAt (dts : Int) : EncoderPacket := ⟨[0], dts, dts, .audio, false, 0, 0, 1⟩

def stopWithQueued : List Action :=
  openSession ++ [.data (audioAt 1), .produce, .produce, .data (audioAt 2), .produce, .produce,
    .stop 5000000, .control, .control, .control] ++ List.replicate 4 (.worker 2 .go)

theorem sends_follow_acceptance_order_after_stop :
    ∃ s accepted, soloRun (initial, []) stopWithQueued = some (s, accepted) ∧
      (s.sent ++ pendingOf s.threads ++ s.queue.packets <+ accepted ∧
        (accepted.Sorted (fun a b => a.sysDtsUsec ≤ b.sysDtsUsec) →
          ∀ (id : Nat) (choice : Choice) (packet : EncoderPacket) (s' : State),
            (s.threads[id]?).map Thread.worker = some (.send (.checkDeadline packet)) → s.stopEvent = true →
            step s (.worker id choice) = some s' →
            (∀ earlier ∈ s.sent, earlier.sysDtsUsec ≤ packet.sysDtsUsec) ∧
            (toInt64 s.stopTs ≤ packet.sysDtsUsec →
              s'.sent = s.sent ∧ (s'.threads[id]?).map Thread.worker = some (.send .exitSignal) ∧
                ∀ later ∈ s'.queue.packets, toInt64 s.stopTs ≤ later.sysDtsUsec) ∧
            (packet.sysDtsUsec < toInt64 s.stopTs →
              (s'.threads[id]?).map Thread.worker = some (.send (.transmit packet)) ∧
                ∀ earlier ∈ s'.sent, earlier.sysDtsUsec < toInt64 s.stopTs))) := by
  obtain ⟨s, accepted, ran⟩ : ∃ s accepted, soloRun (initial, []) stopWithQueued = some (s, accepted) :=
    ⟨_, _, rfl⟩
  exact ⟨s, accepted, ran, sends_follow_acceptance_order (SoloRun.initial.soloRun ran)⟩

example : (soloRun (initial, []) stopWithQueued).map (fun run => (run.2, (run.1.threads[2]?).map Thread.worker,
    run.1.queue.packets, run.1.stopEvent, run.1.stopTs)) =
    some ([audioAt 1, audioAt 2], some (.send (.checkDeadline (audioAt 1))), [audioAt 2], true, 5000) := by
  decide

def reorderAfterStop : List Action :=
  openSession ++ ingestDrops ++ reconnect ++ List.replicate 4 (.worker 3 .go) ++
    [.stop 5000000, .control, .control, .control,
     .data (audioAt 1), .produce, .produce, .data (audioAt 2), .produce, .produce] ++
    List.replicate 4 (.worker 2 .go) ++ List.replicate 6 (.worker 5 .go) ++
    [.worker 5 (.media 0), .worker 5 .go, .worker 5 .go, .worker 2 .go, .worker 2 .go, .worker 2 (.media 0),
     .worker 2 .go, .worker 2 .go]

theorem two_send_workers_reorder_after_stop :
    ∃ s, run initial reorderAfterStop = some s ∧ s.stopEvent = true ∧ s.stopTs = 5000 ∧
      s.liveSendWorkers = 2 ∧ s.sent = [audioAt 2, audioAt 1] := by
  refine ⟨_, rfl, ?_⟩
  decide

end FtlStream.Lifecycle
