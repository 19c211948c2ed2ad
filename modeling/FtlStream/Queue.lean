import FtlStream.Packet

set_option autoImplicit false

/-!
Each function that runs under `packets_mutex` returns the packets it passes to
`obs_free_encoder_packet`.
-/

namespace FtlStream

structure Queue where
  packets : List EncoderPacket
  dropThresholdUsec : Int
  minDropDtsUsec : Int
  minPriority : Int
  lastDtsUsec : Int
  droppedFrames : Int
  deriving DecidableEq, Repr

def addPacket (q : Queue) (packet : EncoderPacket) : Queue :=
  { q with packets := q.packets ++ [packet], lastDtsUsec := packet.dtsUsec }

def keepsPacket (packet : EncoderPacket) : Bool :=
  packet.type == .audio || packet.dropPriority == obsNalPriorityHighest

structure DropSweep where
  newBuf : List EncoderPacket
  freed : List EncoderPacket
  dropPriority : Int
  lastDropDtsUsec : Nat
  numFramesDropped : Int

def dropSweepStep (sweep : DropSweep) (packet : EncoderPacket) : DropSweep :=
  let sweep := { sweep with lastDropDtsUsec := toUInt64 packet.dtsUsec }
  if keepsPacket packet then { sweep with newBuf := sweep.newBuf ++ [packet] }
  else
    { sweep with
      dropPriority := if sweep.dropPriority < packet.dropPriority then packet.dropPriority
        else sweep.dropPriority
      numFramesDropped := int32 (sweep.numFramesDropped + 1)
      freed := sweep.freed ++ [packet] }

def dropFrames (q : Queue) : Queue × List EncoderPacket :=
  let sweep := q.packets.foldl dropSweepStep ⟨[], [], 0, 0, 0⟩
  ({ q with
      packets := sweep.newBuf
      minPriority := sweep.dropPriority
      minDropDtsUsec := toInt64 sweep.lastDropDtsUsec
      droppedFrames := int32 (q.droppedFrames + sweep.numFramesDropped) },
    sweep.freed)

def dropDue (q : Queue) : Bool :=
  match q.packets with
  | [] => false
  | first :: _ =>
    decide (5 ≤ q.packets.length) && !decide (first.dtsUsec < q.minDropDtsUsec) &&
      decide (q.lastDtsUsec - first.dtsUsec > q.dropThresholdUsec)

def checkToDropFrames (q : Queue) : Queue × List EncoderPacket :=
  if dropDue q then dropFrames q else (q, [])

def addVideoPacket (q : Queue) (packet : EncoderPacket) : Queue × Bool × List EncoderPacket :=
  let checked := checkToDropFrames q
  if packet.priority < checked.1.minPriority then
    ({ checked.1 with droppedFrames := int32 (checked.1.droppedFrames + 1) }, false, checked.2)
  else (addPacket { checked.1 with minPriority := 0 } packet, true, checked.2)

def addStreamPacket (q : Queue) (packet : EncoderPacket) : Queue × Bool × List EncoderPacket :=
  match packet.type with
  | .video => addVideoPacket q packet
  | .audio => (addPacket q packet, true, [])

def getNextPacket (q : Queue) : Queue × Option EncoderPacket :=
  match q.packets with
  | [] => (q, none)
  | packet :: rest => ({ q with packets := rest }, some packet)

def freePackets (q : Queue) : Queue × List EncoderPacket :=
  ({ q with packets := [] }, q.packets)

theorem getNextPacket_none {q q' : Queue} (empty : getNextPacket q = (q', none)) : q.packets = [] := by
  unfold getNextPacket at empty
  split at empty
  · assumption
  · cases empty

theorem getNextPacket_some {q q' : Queue} {packet : EncoderPacket}
    (popped : getNextPacket q = (q', some packet)) : q.packets = packet :: q'.packets := by
  unfold getNextPacket at popped
  split at popped
  · cases popped
  · next rest queued => cases popped; exact queued

@[simp] theorem addPacket_packets (q : Queue) (packet : EncoderPacket) :
    (addPacket q packet).packets = q.packets ++ [packet] := rfl

@[simp] theorem addPacket_minPriority (q : Queue) (packet : EncoderPacket) :
    (addPacket q packet).minPriority = q.minPriority := rfl

@[simp] theorem addPacket_dropThresholdUsec (q : Queue) (packet : EncoderPacket) :
    (addPacket q packet).dropThresholdUsec = q.dropThresholdUsec := rfl

@[simp] theorem addPacket_droppedFrames (q : Queue) (packet : EncoderPacket) :
    (addPacket q packet).droppedFrames = q.droppedFrames := rfl

theorem keepsPacket_iff (packet : EncoderPacket) :
    keepsPacket packet = true ↔
      packet.type = .audio ∨ packet.dropPriority = obsNalPriorityHighest := by
  simp [keepsPacket]

def maxDropPriority (packets : List EncoderPacket) : Int :=
  packets.foldl (fun highest packet => max highest packet.dropPriority) 0

theorem foldl_dropSweepStep (packets : List EncoderPacket) (sweep : DropSweep) :
    (packets.foldl dropSweepStep sweep).newBuf = sweep.newBuf ++ packets.filter keepsPacket ∧
      (packets.foldl dropSweepStep sweep).freed =
        sweep.freed ++ packets.filter (fun packet => !keepsPacket packet) ∧
      (packets.foldl dropSweepStep sweep).dropPriority =
        (packets.filter (fun packet => !keepsPacket packet)).foldl
          (fun highest packet => max highest packet.dropPriority) sweep.dropPriority := by
  induction packets generalizing sweep with
  | nil => simp
  | cons packet rest ih =>
    obtain ⟨newBuf, freed, priority⟩ := ih (dropSweepStep sweep packet)
    by_cases keeps : keepsPacket packet
    · simp_all [dropSweepStep, List.filter_cons]
    · have larger : (if sweep.dropPriority < packet.dropPriority then packet.dropPriority
          else sweep.dropPriority) = max sweep.dropPriority packet.dropPriority := by
        split <;> omega
      simp_all [dropSweepStep, List.filter_cons]

@[simp] theorem dropFrames_packets (q : Queue) :
    (dropFrames q).1.packets = q.packets.filter keepsPacket := by
  simpa [dropFrames] using (foldl_dropSweepStep q.packets ⟨[], [], 0, 0, 0⟩).1

@[simp] theorem dropFrames_freed (q : Queue) :
    (dropFrames q).2 = q.packets.filter (fun packet => !keepsPacket packet) := by
  simpa [dropFrames] using (foldl_dropSweepStep q.packets ⟨[], [], 0, 0, 0⟩).2.1

theorem dropFrames_minPriority (q : Queue) :
    (dropFrames q).1.minPriority = maxDropPriority (dropFrames q).2 := by
  rw [dropFrames_freed]
  simpa [dropFrames, maxDropPriority] using (foldl_dropSweepStep q.packets ⟨[], [], 0, 0, 0⟩).2.2

@[simp] theorem dropFrames_dropThresholdUsec (q : Queue) :
    (dropFrames q).1.dropThresholdUsec = q.dropThresholdUsec := rfl

@[simp] theorem dropSweepStep_numFramesDropped (sweep : DropSweep) (packet : EncoderPacket) :
    (dropSweepStep sweep packet).numFramesDropped =
      if keepsPacket packet then sweep.numFramesDropped else int32 (sweep.numFramesDropped + 1) := by
  unfold dropSweepStep
  split <;> simp_all

@[simp] theorem dropSweepStep_lastDropDtsUsec (sweep : DropSweep) (packet : EncoderPacket) :
    (dropSweepStep sweep packet).lastDropDtsUsec = toUInt64 packet.dtsUsec := by
  unfold dropSweepStep
  split <;> rfl

theorem foldl_dropSweepStep_counts (packets : List EncoderPacket) (sweep : DropSweep) :
    int32 (packets.foldl dropSweepStep sweep).numFramesDropped =
        int32 (sweep.numFramesDropped + (packets.filter (fun packet => !keepsPacket packet)).length) ∧
      (packets.foldl dropSweepStep sweep).lastDropDtsUsec =
        (packets.getLast?.map fun packet => toUInt64 packet.dtsUsec).getD sweep.lastDropDtsUsec := by
  induction packets generalizing sweep with
  | nil => simp
  | cons packet rest ih =>
    obtain ⟨dropped, last⟩ := ih (dropSweepStep sweep packet)
    rw [List.foldl_cons, dropped, last, List.getLast?_cons, dropSweepStep_numFramesDropped,
      dropSweepStep_lastDropDtsUsec]
    constructor
    · by_cases keeps : keepsPacket packet
      · simp [List.filter_cons, keeps]
      · simp only [keeps, List.filter_cons, Bool.not_false, Bool.false_eq_true, if_true, if_false,
          int32_add_int32, List.length_cons, Nat.cast_succ]
        ring_nf
    · cases rest.getLast? <;> rfl

@[simp] theorem dropFrames_droppedFrames (q : Queue) :
    (dropFrames q).1.droppedFrames = int32 (q.droppedFrames + (dropFrames q).2.length) := by
  have counted := (foldl_dropSweepStep_counts q.packets ⟨[], [], 0, 0, 0⟩).1
  rw [dropFrames_freed, dropFrames, ← add_int32_int32, counted, zero_add, add_int32_int32]

theorem dropFrames_minDropDtsUsec (q : Queue) (last : EncoderPacket)
    (ends : q.packets.getLast? = some last) :
    (dropFrames q).1.minDropDtsUsec = toInt64 (toUInt64 last.dtsUsec) := by
  simp [dropFrames, (foldl_dropSweepStep_counts q.packets ⟨[], [], 0, 0, 0⟩).2, ends]

theorem maxDropPriority_lt (packets : List EncoderPacket)
    (below : ∀ packet ∈ packets, packet.dropPriority < obsNalPriorityHighest) :
    maxDropPriority packets < obsNalPriorityHighest := by
  have folded : ∀ (packets : List EncoderPacket) (start : Int), start < obsNalPriorityHighest →
      (∀ packet ∈ packets, packet.dropPriority < obsNalPriorityHighest) →
      packets.foldl (fun highest packet => max highest packet.dropPriority) start <
        obsNalPriorityHighest := by
    intro packets
    induction packets with
    | nil => simp
    | cons packet rest ih =>
      intro start startBelow below
      exact ih _ (max_lt startBelow (below packet (List.mem_cons_self _ _)))
        (fun p member => below p (List.mem_cons_of_mem _ member))
  exact folded packets 0 (by decide) below

theorem drop_frames_exact (q : Queue) (last : EncoderPacket) (ends : q.packets.getLast? = some last)
    (int64 : -2 ^ 63 ≤ last.dtsUsec ∧ last.dtsUsec < 2 ^ 63) :
    let discarded := q.packets.filter (fun packet => !keepsPacket packet)
    dropFrames q =
      ({ q with
          packets := q.packets.filter keepsPacket
          minPriority := maxDropPriority discarded
          minDropDtsUsec := last.dtsUsec
          droppedFrames := int32 (q.droppedFrames + discarded.length) }, discarded) := by
  have minDrop := dropFrames_minDropDtsUsec q last ends
  rw [toInt64_toUInt64 _ int64.1 int64.2] at minDrop
  have minPriority := dropFrames_minPriority q
  rw [dropFrames_freed] at minPriority
  refine Prod.ext ?_ (dropFrames_freed q)
  calc (dropFrames q).1
      = ⟨(dropFrames q).1.packets, q.dropThresholdUsec, (dropFrames q).1.minDropDtsUsec,
          (dropFrames q).1.minPriority, q.lastDtsUsec, (dropFrames q).1.droppedFrames⟩ := rfl
    _ = _ := by
      rw [dropFrames_packets, minDrop, minPriority, dropFrames_droppedFrames, dropFrames_freed]

theorem drop_frames_exact_at_negative_dts :
    let keyframe : EncoderPacket := ⟨[0x65], -2000, -2000, .video, true, 3, 3, 0⟩
    let predicted : EncoderPacket := ⟨[0x41], -1000, -1000, .video, false, 1, 1, 0⟩
    let q : Queue := ⟨[keyframe, predicted], 5, 0, 0, -1000, 2⟩
    (q.packets.getLast? = some predicted ∧
      (-2 ^ 63 ≤ predicted.dtsUsec ∧ predicted.dtsUsec < 2 ^ 63)) ∧
    let discarded := q.packets.filter (fun packet => !keepsPacket packet)
    dropFrames q =
      ({ q with
          packets := q.packets.filter keepsPacket
          minPriority := maxDropPriority discarded
          minDropDtsUsec := predicted.dtsUsec
          droppedFrames := int32 (q.droppedFrames + discarded.length) }, discarded) :=
  ⟨⟨rfl, by decide⟩, drop_frames_exact _ _ rfl (by decide)⟩

end FtlStream
