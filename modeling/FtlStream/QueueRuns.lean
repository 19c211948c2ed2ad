import FtlStream.QueueHistory

set_option autoImplicit false

namespace FtlStream

open List

@[simp] theorem History.step_queue (h : History) (op : QueueOp) :
    (h.step op).queue = (op.events h.queue).1 := rfl

@[simp] theorem History.step_accepted (h : History) (op : QueueOp) :
    (h.step op).accepted = h.accepted ++ (op.events h.queue).2.flatMap QueueEvent.acceptedPackets := by
  simp [History.step, History.accepted]

@[simp] theorem History.step_popped (h : History) (op : QueueOp) :
    (h.step op).popped = h.popped ++ (op.events h.queue).2.flatMap QueueEvent.poppedPackets := by
  simp [History.step, History.popped]

@[simp] theorem History.step_freed (h : History) (op : QueueOp) :
    (h.step op).freed = h.freed ++ (op.events h.queue).2.flatMap QueueEvent.freedPackets := by
  simp [History.step, History.freed]

@[simp] theorem History.step_discarded (h : History) (op : QueueOp) :
    (h.step op).discarded =
      h.discarded ++ (op.events h.queue).2.flatMap QueueEvent.discardedPackets := by
  simp [History.step, History.discarded]

theorem History.run_cons (h : History) (op : QueueOp) (ops : List QueueOp) :
    h.run (op :: ops) = (h.step op).run ops := rfl

@[simp] theorem events_data_queue (q : Queue) (packet : EncoderPacket) :
    ((QueueOp.data packet).events q).1 = (addStreamPacket q packet).1 := rfl

theorem events_next (q : Queue) :
    QueueOp.next.events q =
      match q.packets with
      | [] => (q, [])
      | packet :: rest => ({ q with packets := rest }, [.popped packet]) := by
  cases queued : q.packets <;> simp [QueueOp.events, getNextPacket, queued]

structure History.Sound (h : History) : Prop where
  order : h.popped ++ h.queue.packets <+ h.accepted
  conserved : h.accepted ~ h.popped ++ h.queue.packets ++ h.freed ++ h.discarded
  discardedVideo : ∀ packet ∈ h.discarded, packet.type = .video ∧
    ¬ (packet.priority = obsNalPriorityHighest ∧ packet.dropPriority = obsNalPriorityHighest)
  bounded : ∀ packet ∈ h.queue.packets, packet.dropPriority ≤ obsNalPriorityHighest
  gate : h.queue.minPriority < obsNalPriorityHighest

theorem History.Sound.data {h : History} (sound : h.Sound) (packet : EncoderPacket)
    (atMost : packet.dropPriority ≤ obsNalPriorityHighest) : (h.step (.data packet)).Sound := by
  have kept := addStreamPacket_sublist h.queue packet
  have split := addStreamPacket_perm h.queue packet
  constructor
  · simp only [History.step_popped, History.step_queue, History.step_accepted, events_data_popped,
      events_data_accepted, List.append_nil]
    exact (kept.append_left _).trans (by simpa using sound.order.append (Sublist.refl [packet]))
  · rw [List.perm_iff_count]
    intro x
    have before := sound.conserved.count_eq x
    have after := split.count_eq x
    simp only [History.step_popped, History.step_queue, History.step_accepted, History.step_freed,
      History.step_discarded, events_data_queue, events_data_popped, events_data_accepted,
      events_data_freed, events_data_discarded, List.append_nil, List.count_append] at before after ⊢
    omega
  · intro dropped member
    simp only [History.step_discarded, events_data_discarded, List.mem_append] at member
    rcases member with old | new
    · exact sound.discardedVideo dropped old
    · exact addStreamPacket_discarded h.queue packet sound.gate sound.bounded dropped new
  · intro queued member
    rcases List.mem_append.mp (kept.subset member) with old | new
    · exact sound.bounded queued old
    · rw [List.mem_singleton.mp new]
      exact atMost
  · exact addStreamPacket_minPriority_lt h.queue packet sound.gate sound.bounded

theorem History.Sound.next {h : History} (sound : h.Sound) : (h.step .next).Sound := by
  obtain ⟨order, conserved, discardedVideo, bounded, gate⟩ := sound
  cases queued : h.queue.packets with
  | nil =>
    simp only [History.step, events_next, queued]
    simp only [History.accepted, History.popped, History.freed, History.discarded,
      List.append_nil] at *
    exact ⟨order, conserved, discardedVideo, bounded, gate⟩
  | cons packet rest =>
    rw [queued] at order conserved bounded
    refine ⟨?_, ?_, ?_, ?_, ?_⟩ <;>
      simp only [History.step_popped, History.step_queue, History.step_accepted,
        History.step_freed, History.step_discarded, events_next, queued] <;>
      simp_all [QueueEvent.acceptedPackets, QueueEvent.poppedPackets, QueueEvent.freedPackets,
        QueueEvent.discardedPackets]

theorem History.Sound.free {h : History} (sound : h.Sound) : (h.step .free).Sound := by
  obtain ⟨order, conserved, discardedVideo, bounded, gate⟩ := sound
  refine ⟨?_, ?_, ?_, ?_, ?_⟩ <;>
    simp only [History.step_popped, History.step_queue, History.step_accepted,
      History.step_freed, History.step_discarded, QueueOp.events, freePackets]
  · simpa [QueueEvent.acceptedPackets, QueueEvent.poppedPackets] using
      (List.sublist_append_left _ _).trans order
  · rw [List.perm_iff_count]
    intro x
    have before := conserved.count_eq x
    simp only [List.count_append] at before
    simp [QueueEvent.acceptedPackets, QueueEvent.poppedPackets, QueueEvent.freedPackets,
      QueueEvent.discardedPackets, List.count_append]
    omega
  · simpa [QueueEvent.discardedPackets] using discardedVideo
  · simp
  · exact gate

theorem History.Sound.run {h : History} (sound : h.Sound) (ops : List QueueOp)
    (inRange : ∀ packet, QueueOp.data packet ∈ ops → packet.dropPriority ≤ obsNalPriorityHighest) :
    (h.run ops).Sound := by
  induction ops generalizing h with
  | nil => exact sound
  | cons op ops ih =>
    rw [History.run_cons]
    apply ih _ (fun packet member => inRange packet (List.mem_cons_of_mem _ member))
    cases op with
    | data packet => exact sound.data packet (inRange packet (List.mem_cons_self _ _))
    | next => exact sound.next
    | free => exact sound.free

def pFrame (dts : Int) : EncoderPacket := ⟨[0x41], dts, dts, .video, false, 1, 1, 0⟩

theorem queue_run_preserves_order (q : Queue) (ops : List QueueOp) (empty : q.packets = [])
    (cleared : q.minPriority = 0)
    (inRange : ∀ packet, QueueOp.data packet ∈ ops → packet.PriorityInRange) :
    let h := History.run ⟨q, []⟩ ops
    h.popped ++ h.queue.packets <+ h.accepted ∧
      h.accepted ~ h.popped ++ h.queue.packets ++ h.freed ++ h.discarded ∧
      ∀ packet ∈ h.discarded, packet.type = .video ∧
        ¬ (packet.priority = obsNalPriorityHighest ∧ packet.dropPriority = obsNalPriorityHighest) := by
  have start : History.Sound ⟨q, []⟩ :=
    ⟨by simp [History.popped, History.accepted, empty], by simp [History.popped, History.accepted,
      History.freed, History.discarded, empty], by simp [History.discarded], by simp [empty],
      by simp [cleared, obsNalPriorityHighest]⟩
  have sound := start.run ops (fun packet member => (inRange packet member).2.2.2)
  exact ⟨sound.order, sound.conserved, sound.discardedVideo⟩

theorem queue_run_preserves_order_sample :
    let q : Queue := ⟨[], 0, 0, 0, 0, 0⟩
    let ops := [QueueOp.data (pFrame 0), .next, .data (pFrame 1), .free]
    (q.packets = [] ∧ q.minPriority = 0 ∧
      ∀ packet, QueueOp.data packet ∈ ops → packet.PriorityInRange) ∧
    let h := History.run ⟨q, []⟩ ops
    h.popped ++ h.queue.packets <+ h.accepted ∧
      h.accepted ~ h.popped ++ h.queue.packets ++ h.freed ++ h.discarded ∧
      ∀ packet ∈ h.discarded, packet.type = .video ∧
        ¬ (packet.priority = obsNalPriorityHighest ∧ packet.dropPriority = obsNalPriorityHighest) :=
  have inRange : ∀ packet, QueueOp.data packet ∈ [QueueOp.data (pFrame 0), .next,
      .data (pFrame 1), .free] → packet.PriorityInRange := by
    intro packet member
    simp only [List.mem_cons, QueueOp.data.injEq, List.mem_nil_iff, or_false, reduceCtorEq,
      false_or] at member
    rcases member with rfl | rfl <;> decide
  ⟨⟨rfl, rfl, inRange⟩, queue_run_preserves_order _ _ rfl rfl inRange⟩

end FtlStream
