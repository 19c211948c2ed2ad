import FtlStream.QueueRuns

set_option autoImplicit false

namespace FtlStream

theorem checkToDropFrames_droppedFrames (q : Queue) :
    int32 (checkToDropFrames q).1.droppedFrames = int32 (q.droppedFrames + (checkToDropFrames q).2.length) := by
  unfold checkToDropFrames
  split
  · simp
  · simp

theorem addStreamPacket_droppedFrames (q : Queue) (packet : EncoderPacket) :
    int32 (addStreamPacket q packet).1.droppedFrames =
      int32 (q.droppedFrames + (addStreamPacketDiscarded q packet).length) := by
  have checked := checkToDropFrames_droppedFrames q
  cases kind : packet.type
  · simp [addStreamPacketDiscarded, addStreamPacket, kind]
  · simp only [addStreamPacketDiscarded, addStreamPacket, kind, addVideoPacket]
    split
    · simp only [Bool.false_eq_true, if_false, List.length_append, List.length_singleton, Nat.cast_add,
        Nat.cast_one, int32_int32]
      rw [← add_assoc, ← int32_add_int32 (q.droppedFrames + _), ← checked, int32_add_int32]
    · simpa using checked

theorem addStreamPacket_droppedFrames_int (q : Queue) (packet : EncoderPacket)
    (inRange : int32 q.droppedFrames = q.droppedFrames) :
    int32 (addStreamPacket q packet).1.droppedFrames = (addStreamPacket q packet).1.droppedFrames := by
  have checked : int32 (checkToDropFrames q).1.droppedFrames = (checkToDropFrames q).1.droppedFrames := by
    unfold checkToDropFrames
    split <;> simp [inRange]
  cases kind : packet.type
  · simpa [addStreamPacket, kind] using inRange
  · simp only [addStreamPacket, kind, addVideoPacket]
    split <;> simp [checked]

theorem addStreamPacketDiscarded_video (q : Queue) (packet : EncoderPacket) :
    ∀ dropped ∈ addStreamPacketDiscarded q packet, dropped.type = .video := by
  have freed := checkToDropFrames_freed_dropped q
  cases kind : packet.type
  · simp [addStreamPacketDiscarded, addStreamPacket, kind]
  · simp only [addStreamPacketDiscarded, addStreamPacket, kind, addVideoPacket]
    split <;> simp only [Bool.false_eq_true, ↓reduceIte, List.mem_append, List.mem_singleton,
      List.append_nil] <;> intro dropped member
    · rcases member with old | rfl
      · exact (freed dropped old).1
      · exact kind
    · exact (freed dropped member).1

structure History.Accounted (q : Queue) (h : History) : Prop where
  dropped : h.queue.droppedFrames = int32 (q.droppedFrames + h.discarded.length)
  video : ∀ packet ∈ h.discarded, packet.type = .video
  counted : h.accepted.length + q.packets.length = h.popped.length + h.queue.packets.length + h.discarded.length

theorem History.Accounted.data {q : Queue} {h : History} (accounted : h.Accounted q)
    (packet : EncoderPacket) : (h.step (.data packet)).Accounted q := by
  have lengths := (addStreamPacket_perm h.queue packet).length_eq
  obtain ⟨before, video, counted⟩ := accounted
  have dropped : (addStreamPacket h.queue packet).1.droppedFrames =
      int32 (q.droppedFrames + (h.discarded.length + (addStreamPacketDiscarded h.queue packet).length)) := by
    rw [← addStreamPacket_droppedFrames_int h.queue packet (by rw [before, int32_int32]),
      addStreamPacket_droppedFrames, before, int32_add_int32, add_assoc]
  simp only [List.length_append, List.length_singleton] at lengths
  refine ⟨?_, ?_, ?_⟩ <;>
    simp only [History.step_queue, History.step_discarded, History.step_accepted,
      History.step_popped, events_data_queue, events_data_discarded, events_data_accepted,
      events_data_popped, List.length_append, List.length_singleton, List.length_nil, List.append_nil,
      List.mem_append]
  · exact dropped
  · rintro dropped (old | new)
    · exact video dropped old
    · exact addStreamPacketDiscarded_video h.queue packet dropped new
  · omega

theorem History.Accounted.next {q : Queue} {h : History} (accounted : h.Accounted q) :
    (h.step .next).Accounted q := by
  obtain ⟨dropped, video, counted⟩ := accounted
  cases queued : h.queue.packets with
  | nil =>
    simp only [History.step, events_next, queued]
    simp only [History.accepted, History.popped, History.discarded, List.append_nil] at *
    exact ⟨dropped, video, counted⟩
  | cons packet rest =>
    rw [queued] at counted
    refine ⟨?_, ?_, ?_⟩ <;>
      simp only [History.step_queue, History.step_discarded, History.step_accepted,
        History.step_popped, events_next, queued] <;>
      simp_all [QueueEvent.acceptedPackets, QueueEvent.poppedPackets, QueueEvent.discardedPackets]
    omega

end FtlStream
