import FtlStream.Queue

set_option autoImplicit false

namespace FtlStream

open List

inductive QueueOp
  | data (packet : EncoderPacket)
  | next
  | free
  deriving DecidableEq, Repr

inductive QueueEvent
  | episode (discarded : List EncoderPacket)
  | admitted (packet : EncoderPacket)
  | rejected (packet : EncoderPacket)
  | popped (packet : EncoderPacket)
  | freed (packets : List EncoderPacket)
  deriving DecidableEq, Repr

def QueueOp.events (q : Queue) : QueueOp → Queue × List QueueEvent
  | .data packet =>
    let added := addStreamPacket q packet
    (added.1, (if packet.type = .video ∧ dropDue q then [.episode added.2.2] else []) ++
      [if added.2.1 then .admitted packet else .rejected packet])
  | .next =>
    match getNextPacket q with
    | (q', some packet) => (q', [.popped packet])
    | (q', none) => (q', [])
  | .free => ((freePackets q).1, [.freed (freePackets q).2])

structure History where
  queue : Queue
  log : List QueueEvent

def History.step (h : History) (op : QueueOp) : History :=
  ⟨(op.events h.queue).1, h.log ++ (op.events h.queue).2⟩

def History.run (h : History) (ops : List QueueOp) : History := ops.foldl History.step h

def QueueEvent.acceptedPackets : QueueEvent → List EncoderPacket
  | .admitted packet | .rejected packet => [packet]
  | _ => []

def QueueEvent.poppedPackets : QueueEvent → List EncoderPacket
  | .popped packet => [packet]
  | _ => []

def QueueEvent.freedPackets : QueueEvent → List EncoderPacket
  | .freed packets => packets
  | _ => []

def QueueEvent.discardedPackets : QueueEvent → List EncoderPacket
  | .episode packets => packets
  | .rejected packet => [packet]
  | _ => []

def History.accepted (h : History) : List EncoderPacket := h.log.flatMap QueueEvent.acceptedPackets
def History.popped (h : History) : List EncoderPacket := h.log.flatMap QueueEvent.poppedPackets
def History.freed (h : History) : List EncoderPacket := h.log.flatMap QueueEvent.freedPackets
def History.discarded (h : History) : List EncoderPacket :=
  h.log.flatMap QueueEvent.discardedPackets

theorem checkToDropFrames_sublist (q : Queue) :
    (checkToDropFrames q).1.packets <+ q.packets := by
  unfold checkToDropFrames
  split
  · simp
  · exact List.Sublist.refl _

theorem checkToDropFrames_perm (q : Queue) :
    (checkToDropFrames q).1.packets ++ (checkToDropFrames q).2 ~ q.packets := by
  unfold checkToDropFrames
  split
  · simpa using List.filter_append_perm keepsPacket q.packets
  · simp

theorem checkToDropFrames_freed_dropped (q : Queue) :
    ∀ packet ∈ (checkToDropFrames q).2,
      packet.type = .video ∧ packet.dropPriority ≠ obsNalPriorityHighest := by
  unfold checkToDropFrames
  split
  · intro packet member
    simp only [dropFrames_freed, List.mem_filter, Bool.not_eq_true', keepsPacket,
      Bool.or_eq_false_iff, beq_eq_false_iff_ne] at member
    obtain ⟨-, notAudio, notHighest⟩ := member
    cases kind : packet.type <;> simp_all
  · simp

theorem checkToDropFrames_minPriority_lt (q : Queue) (below : q.minPriority < obsNalPriorityHighest)
    (bounded : ∀ packet ∈ q.packets, packet.dropPriority ≤ obsNalPriorityHighest) :
    (checkToDropFrames q).1.minPriority < obsNalPriorityHighest := by
  unfold checkToDropFrames
  split
  · rw [dropFrames_minPriority]
    apply maxDropPriority_lt
    intro packet member
    simp only [dropFrames_freed, List.mem_filter, Bool.not_eq_true', keepsPacket,
      Bool.or_eq_false_iff, beq_eq_false_iff_ne] at member
    have atMost := bounded packet member.1
    have notHighest := member.2.2
    omega
  · exact below

def addStreamPacketDiscarded (q : Queue) (packet : EncoderPacket) : List EncoderPacket :=
  (addStreamPacket q packet).2.2 ++ if (addStreamPacket q packet).2.1 then [] else [packet]

theorem addStreamPacket_sublist (q : Queue) (packet : EncoderPacket) :
    (addStreamPacket q packet).1.packets <+ q.packets ++ [packet] := by
  have kept := checkToDropFrames_sublist q
  cases kind : packet.type
  · simp [addStreamPacket, kind]
  · simp only [addStreamPacket, kind, addVideoPacket]
    split
    · exact kept.trans (List.sublist_append_left _ _)
    · simpa using kept.append (List.Sublist.refl [packet])

theorem addStreamPacket_perm (q : Queue) (packet : EncoderPacket) :
    (addStreamPacket q packet).1.packets ++ addStreamPacketDiscarded q packet ~
      q.packets ++ [packet] := by
  rw [List.perm_iff_count]
  intro x
  have split := (checkToDropFrames_perm q).count_eq x
  simp only [List.count_append] at split
  cases kind : packet.type
  · simp [addStreamPacketDiscarded, addStreamPacket, kind, List.count_append]
  · simp only [addStreamPacketDiscarded, addStreamPacket, kind, addVideoPacket]
    split <;> simp [List.count_append, List.count_cons] <;> omega

theorem addStreamPacket_length (q : Queue) (packet : EncoderPacket) :
    (addStreamPacket q packet).1.packets.length + (if (addStreamPacket q packet).2.1 then 0 else 1) ≤
      q.packets.length + 1 := by
  have lengths := (addStreamPacket_perm q packet).length_eq
  simp only [List.length_append, addStreamPacketDiscarded, List.length_singleton] at lengths
  split_ifs at lengths ⊢ <;> simp only [List.length_nil, List.length_singleton] at lengths <;> omega

theorem addStreamPacket_minPriority_lt (q : Queue) (packet : EncoderPacket)
    (below : q.minPriority < obsNalPriorityHighest)
    (bounded : ∀ packet ∈ q.packets, packet.dropPriority ≤ obsNalPriorityHighest) :
    (addStreamPacket q packet).1.minPriority < obsNalPriorityHighest := by
  have checked := checkToDropFrames_minPriority_lt q below bounded
  cases kind : packet.type
  · simpa [addStreamPacket, kind] using below
  · simp only [addStreamPacket, kind, addVideoPacket]
    split
    · exact checked
    · simp [obsNalPriorityHighest]

theorem addStreamPacket_discarded (q : Queue) (packet : EncoderPacket)
    (below : q.minPriority < obsNalPriorityHighest)
    (bounded : ∀ packet ∈ q.packets, packet.dropPriority ≤ obsNalPriorityHighest) :
    ∀ dropped ∈ addStreamPacketDiscarded q packet, dropped.type = .video ∧
      ¬ (dropped.priority = obsNalPriorityHighest ∧ dropped.dropPriority = obsNalPriorityHighest) := by
  have checked := checkToDropFrames_minPriority_lt q below bounded
  have freed := checkToDropFrames_freed_dropped q
  cases kind : packet.type
  · simp [addStreamPacketDiscarded, addStreamPacket, kind]
  · simp only [addStreamPacketDiscarded, addStreamPacket, kind, addVideoPacket]
    split
    · next rejected =>
      simp only [Bool.false_eq_true, ↓reduceIte, List.mem_append, List.mem_singleton]
      rintro dropped (member | rfl)
      · exact ⟨(freed dropped member).1, fun both => (freed dropped member).2 both.2⟩
      · exact ⟨kind, fun both => by omega⟩
    · simp only [↓reduceIte, List.append_nil]
      exact fun dropped member =>
        ⟨(freed dropped member).1, fun both => (freed dropped member).2 both.2⟩

@[simp] theorem events_data_accepted (q : Queue) (packet : EncoderPacket) :
    ((QueueOp.data packet).events q).2.flatMap QueueEvent.acceptedPackets = [packet] := by
  simp only [QueueOp.events, List.flatMap_append]
  split_ifs <;> rfl

@[simp] theorem events_data_popped (q : Queue) (packet : EncoderPacket) :
    ((QueueOp.data packet).events q).2.flatMap QueueEvent.poppedPackets = [] := by
  simp only [QueueOp.events, List.flatMap_append]
  split_ifs <;> rfl

@[simp] theorem events_data_freed (q : Queue) (packet : EncoderPacket) :
    ((QueueOp.data packet).events q).2.flatMap QueueEvent.freedPackets = [] := by
  simp only [QueueOp.events, List.flatMap_append]
  split_ifs <;> rfl

theorem events_data_discarded (q : Queue) (packet : EncoderPacket) :
    ((QueueOp.data packet).events q).2.flatMap QueueEvent.discardedPackets =
      addStreamPacketDiscarded q packet := by
  have none : ¬ (packet.type = .video ∧ dropDue q) → (addStreamPacket q packet).2.2 = [] := by
    intro due
    cases kind : packet.type
    · simp [addStreamPacket, kind]
    · simp only [addStreamPacket, kind, addVideoPacket]
      split <;> simp_all [checkToDropFrames]
  simp only [QueueOp.events, List.flatMap_append, addStreamPacketDiscarded]
  split_ifs <;> simp_all [QueueEvent.discardedPackets]

end FtlStream
