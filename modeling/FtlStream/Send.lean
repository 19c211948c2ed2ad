import FtlStream.Nalu

set_option autoImplicit false

/-!
Every call of `ftl_ingest_send_media_dts` is recorded, and what the ingest returns for
a call is the parameter `ingest`.
-/

namespace FtlStream

inductive MediaType
  | video
  | audio
  deriving DecidableEq, Repr

/-- One call of `ftl_ingest_send_media_dts`; `offset` locates the data pointer in the
packet's data. -/
structure MediaCall where
  type : MediaType
  dtsUsec : Int
  offset : Int
  len : Int
  endOfFrame : Bool
  deriving DecidableEq, Repr

structure Sender where
  codedPicBuffer : List Nalu
  framesSent : Int
  totalBytesSent : Nat
  sentHeaders : Bool
  media : List MediaCall
  deriving DecidableEq, Repr

def naluCall (dtsUsec : Int) (nalu : Nalu) : MediaCall :=
  ⟨.video, dtsUsec, nalu.offset, nalu.len, nalu.sendMarkerBit⟩

def sendNalus (ingest : MediaCall → Int) (dtsUsec : Int) :
    List Nalu → Sender × Int → Sender × Int
  | [], sent => sent
  | nalu :: rest, (s, bytesSent) =>
    sendNalus ingest dtsUsec rest
      ({ s with
          media := s.media ++ [naluCall dtsUsec nalu]
          framesSent := if nalu.sendMarkerBit then s.framesSent + 1 else s.framesSent },
        int32 (bytesSent + ingest (naluCall dtsUsec nalu)))

/-- `send_packet`: `none` when `avc_get_video_frame` does not return within `fuel`
iterations, an error when it makes an out-of-bounds access. Its return value is
ignored, as in the source. -/
def sendPacket (fuel : Nat) (ingest : MediaCall → Int) (s : Sender) (packet : EncoderPacket)
    (isHeader : Bool) : Option (Except FrameEnd Sender) :=
  match packet.type with
  | .video =>
    (avcGetVideoFrame fuel packet isHeader []).map fun (nalus, ended) =>
      match ended with
      | .returned _ =>
        let sent := sendNalus ingest packet.dtsUsec nalus ({ s with codedPicBuffer := nalus }, 0)
        .ok { sent.1 with totalBytesSent := (sent.1.totalBytesSent + toUInt64 sent.2) % 2 ^ 64 }
      | stop => .error stop
  | .audio =>
    let call : MediaCall := ⟨.audio, packet.dtsUsec, 0, packet.size, false⟩
    some (.ok { s with
      media := s.media ++ [call]
      totalBytesSent := (s.totalBytesSent + toUInt64 (int32 (0 + ingest call))) % 2 ^ 64 })

def headerPacket (header : List UInt8) (dtsUsec : Int) : EncoderPacket :=
  ⟨header, dtsUsec, 0, .video, true, 0, 0, 0⟩

def sendHeaders (fuel : Nat) (ingest : MediaCall → Int) (header : List UInt8) (s : Sender)
    (dtsUsec : Int) : Option (Except FrameEnd Sender) :=
  sendPacket fuel ingest { s with sentHeaders := true } (headerPacket header dtsUsec) true

def sendDequeued (fuel : Nat) (ingest : MediaCall → Int) (header : List UInt8) (s : Sender)
    (packet : EncoderPacket) : Option (Except FrameEnd Sender) :=
  if packet.keyframe then
    match sendHeaders fuel ingest header s packet.dtsUsec with
    | some (.ok s) => sendPacket fuel ingest s packet false
    | other => other
  else sendPacket fuel ingest s packet false

theorem sendNalus_media (ingest : MediaCall → Int) (dtsUsec : Int) (nalus : List Nalu)
    (s : Sender) (bytesSent : Int) :
    (sendNalus ingest dtsUsec nalus (s, bytesSent)).1.media =
        s.media ++ nalus.map (naluCall dtsUsec) ∧
      (sendNalus ingest dtsUsec nalus (s, bytesSent)).1.framesSent =
        s.framesSent + (nalus.filter (·.sendMarkerBit)).length := by
  induction nalus generalizing s bytesSent with
  | nil => simp [sendNalus]
  | cons nalu rest ih =>
    obtain ⟨media, frames⟩ := ih
      { s with
        media := s.media ++ [naluCall dtsUsec nalu]
        framesSent := if nalu.sendMarkerBit then s.framesSent + 1 else s.framesSent }
      (int32 (bytesSent + ingest (naluCall dtsUsec nalu)))
    constructor
    · simpa [sendNalus] using media
    · cases marker : nalu.sendMarkerBit <;> simp_all [sendNalus, List.filter_cons]; omega

theorem frameStep_ok {packet : EncoderPacket} {isHeader : Bool} {s next : FrameLoop}
    (stepped : frameStep packet isHeader s = .ok next) :
    s.nalus.length < 100 ∧ ∃ consumed videoStream len byte,
      readLength packet isHeader s = .ok (consumed, videoStream, len) ∧
      readByte packet.data videoStream = .ok byte ∧
      next = ⟨int32 (consumed + len), videoStream + len,
        if naluPasses byte then s.nalus ++ [⟨videoStream, len, false⟩] else s.nalus⟩ := by
  unfold frameStep at stepped
  by_cases full : 100 ≤ s.nalus.length
  · simp [full, throw, throwThe, MonadExceptOf.throw, bind, Except.bind] at stepped
  · cases length : readLength packet isHeader s with
    | error stop => simp [full, length, bind, Except.bind, pure, Except.pure] at stepped
    | ok read =>
      obtain ⟨consumed, videoStream, len⟩ := read
      simp only [full, length, bind, Except.bind, pure, Except.pure, if_false] at stepped
      cases byte : readByte packet.data videoStream with
      | error stop => simp [byte, Functor.map, Except.map] at stepped
      | ok value =>
        simp only [byte, Functor.map, Except.map, Except.ok.injEq] at stepped
        exact ⟨by omega, consumed, videoStream, len, value, rfl, byte, stepped.symm⟩

theorem frameLoop_unmarked (packet : EncoderPacket) (isHeader : Bool) (fuel : Nat) (s : FrameLoop)
    (nalus : List Nalu) (ended : FrameEnd) (unmarked : ∀ nalu ∈ s.nalus, nalu.sendMarkerBit = false)
    (result : frameLoop packet isHeader fuel s = some (nalus, ended)) :
    (∀ nalu ∈ nalus, nalu.sendMarkerBit = false) ∨
      (isHeader = false ∧ ended = .returned 0 ∧ ∃ recorded, recorded ≠ [] ∧
        (∀ nalu ∈ recorded, nalu.sendMarkerBit = false) ∧ nalus = markLast recorded) := by
  induction fuel generalizing s with
  | zero => simp [frameLoop] at result
  | succ fuel ih =>
    simp only [frameLoop] at result
    split at result
    · split at result
      · next next stepped =>
        obtain ⟨-, consumed, videoStream, len, byte, -, -, rfl⟩ := frameStep_ok stepped
        apply ih _ _ result
        split
        · simpa [or_imp, forall_and] using unmarked
        · exact unmarked
      · cases result
        exact .inl unmarked
    · simp only [frameFinish] at result
      split at result
      · cases result
        exact .inl unmarked
      · next frame =>
        split at result
        · cases result
          exact .inl unmarked
        · next nonempty =>
          cases result
          exact .inr ⟨by simpa using frame, rfl, s.nalus, nonempty, unmarked, rfl⟩

theorem sendPacket_frame (fuel : Nat) (ingest : MediaCall → Int) (s : Sender) (packet : EncoderPacket)
    (isHeader : Bool) (nalus : List Nalu) (code : Int) (video : packet.type = .video)
    (parsed : avcGetVideoFrame fuel packet isHeader [] = some (nalus, .returned code)) :
    ∃ sent, sendPacket fuel ingest s packet isHeader = some (.ok sent) ∧
      sent.media = s.media ++ nalus.map (naluCall packet.dtsUsec) ∧
      sent.framesSent = s.framesSent + (nalus.filter (·.sendMarkerBit)).length := by
  obtain ⟨media, frames⟩ :=
    sendNalus_media ingest packet.dtsUsec nalus { s with codedPicBuffer := nalus } 0
  refine ⟨_, by simp only [sendPacket, video, parsed, Option.map_some']; rfl, ?_, ?_⟩
  · exact media
  · exact frames

theorem sendPacket_rejected (fuel : Nat) (ingest : MediaCall → Int) (s : Sender)
    (packet : EncoderPacket) (isHeader : Bool) (nalus : List Nalu) (video : packet.type = .video)
    (parsed : avcGetVideoFrame fuel packet isHeader [] = some (nalus, .returned (-1))) :
    ∃ sent, sendPacket fuel ingest s packet isHeader = some (.ok sent) ∧
      sent.media = s.media ++ nalus.map (naluCall packet.dtsUsec) ∧
      (∀ nalu ∈ nalus, nalu.sendMarkerBit = false) ∧ sent.framesSent = s.framesSent := by
  have unmarked : ∀ nalu ∈ nalus, nalu.sendMarkerBit = false := by
    rcases frameLoop_unmarked packet isHeader fuel _ nalus _ (by simp) parsed with
      unmarked | ⟨-, wrong, -⟩
    · exact unmarked
    · cases wrong
  obtain ⟨sent, sends, media, frames⟩ := sendPacket_frame fuel ingest s packet isHeader nalus (-1) video parsed
  refine ⟨sent, sends, media, unmarked, ?_⟩
  rw [frames, List.filter_eq_nil_iff.mpr (fun nalu member => by simp [unmarked nalu member])]
  simp

def sliceFrame (count : Nat) : EncoderPacket :=
  ⟨(List.range (5 * count)).map (fun i => [0, 0, 0, 1, 0x41].getD (i % 5) 0), 0, 0, .video, false,
    2, 2, 0⟩

def sliceUnits (count : Nat) : List Nalu :=
  (List.range count).map fun i : Nat => ⟨5 * (i : Int) + 4, 1, false⟩

theorem sliceFrame_read (count : Nat) (offset : Int) (low : 0 ≤ offset) (high : offset < 5 * count) :
    readByte (sliceFrame count).data offset = .ok ([0, 0, 0, 1, 0x41].getD (offset.toNat % 5) 0) := by
  have inside : offset.toNat < 5 * count := by omega
  simp [readByte, sliceFrame, low, high, List.getD_eq_getElem?_getD, inside]

theorem sliceFrame_step (count k : Nat) (within : k < count) (below : k < 100) :
    frameStep (sliceFrame count) false ⟨5 * k, 5 * k, sliceUnits k⟩ =
      .ok ⟨5 * (k + 1 : Nat), 5 * (k + 1 : Nat), sliceUnits (k + 1)⟩ := by
  have read : ∀ j : Nat, j < 5 → readByte (sliceFrame count).data (5 * k + j) =
      .ok ([0, 0, 0, 1, 0x41].getD j 0) := by
    intro j small
    rw [sliceFrame_read count _ (by omega) (by omega)]
    congr 2
    omega
  have r0 := read 0 (by omega)
  have r1 := read 1 (by omega)
  have r2 := read 2 (by omega)
  have r3 := read 3 (by omega)
  have r4 := read 4 (by omega)
  simp only [Nat.cast_zero, add_zero, Nat.cast_ofNat, Nat.cast_one] at r0 r1 r2 r3 r4
  have length : (sliceUnits k).length = k := by rw [sliceUnits, List.length_map, List.length_range]
  have passes : naluPasses 0x41 = true := by decide
  have notFull : ¬ 100 ≤ k := by omega
  have one : int32 1 = 1 := by decide
  have offset : int32 (5 * k + 4) = 5 * k + 4 := int32_of_small _ (by omega) (by omega)
  have next : int32 (5 * k + 4 + 1) = 5 * (k + 1 : Nat) := by
    rw [int32_of_small _ (by omega) (by omega)]
    push_cast
    ring
  simp [frameStep, readLength, r0, r1, r2, r3, r4, bind, Except.bind, pure, Except.pure, length,
    notFull, Functor.map, Except.map, passes, one, offset, next]
  exact ⟨by ring, by simp [sliceUnits, List.range_succ]⟩

theorem sliceFrame_loop (count fuel k : Nat) (over : 100 < count) (upTo : k ≤ 100)
    (enough : 100 - k < fuel) :
    frameLoop (sliceFrame count) false fuel ⟨5 * k, 5 * k, sliceUnits k⟩ =
      some (sliceUnits 100, .returned (-1)) := by
  induction fuel generalizing k with
  | zero => omega
  | succ fuel ih =>
    have size : (sliceFrame count).size = 5 * count := by simp [EncoderPacket.size, sliceFrame]
    have inside : 0 ≤ (5 * k : Int) ∧ (5 * k : Int) < (sliceFrame count).size := by
      rw [size]
      omega
    rw [frameLoop, if_pos inside]
    by_cases full : k = 100
    · subst full
      have length : (sliceUnits 100).length = 100 := by
        rw [sliceUnits, List.length_map, List.length_range]
      simp [frameStep, length, throw, throwThe, MonadExceptOf.throw, bind, Except.bind]
    · rw [sliceFrame_step count k (by omega) (by omega)]
      exact ih (k + 1) (by omega) (by omega)

theorem overfull_frame_sends_partial_unit (count fuel : Nat) (over : 100 < count)
    (enough : 100 < fuel) (ingest : MediaCall → Int) (s : Sender) :
    avcGetVideoFrame fuel (sliceFrame count) false [] = some (sliceUnits 100, .returned (-1)) ∧
      ∃ sent, sendPacket fuel ingest s (sliceFrame count) false = some (.ok sent) ∧
        sent.media = s.media ++ (sliceUnits 100).map (naluCall 0) ∧
        (∀ call ∈ (sliceUnits 100).map (naluCall 0), call.endOfFrame = false) ∧
        sent.framesSent = s.framesSent := by
  have parsed : avcGetVideoFrame fuel (sliceFrame count) false [] =
      some (sliceUnits 100, .returned (-1)) := by
    simpa [sliceUnits] using sliceFrame_loop count fuel 0 over (by omega) (by omega)
  obtain ⟨sent, sends, media, unmarked, frames⟩ :=
    sendPacket_rejected fuel ingest s _ false _ rfl parsed
  refine ⟨parsed, sent, sends, media, ?_, frames⟩
  simpa [naluCall] using unmarked

theorem overfull_frame_sends_partial_unit_at_101 :
    (100 < 101 ∧ 100 < 101) ∧
      avcGetVideoFrame 101 (sliceFrame 101) false [] = some (sliceUnits 100, .returned (-1)) ∧
      ∃ sent, sendPacket 101 (fun _ => 1) ⟨[], 0, 0, false, []⟩ (sliceFrame 101) false =
          some (.ok sent) ∧
        sent.media = [] ++ (sliceUnits 100).map (naluCall 0) ∧
        (∀ call ∈ (sliceUnits 100).map (naluCall 0), call.endOfFrame = false) ∧
        sent.framesSent = 0 :=
  ⟨⟨by decide, by decide⟩,
    overfull_frame_sends_partial_unit 101 101 (by decide) (by decide) _ ⟨[], 0, 0, false, []⟩⟩

end FtlStream
