import FtlStream.NaluFraming

set_option autoImplicit false

namespace FtlStream

theorem int32_lt (x : Int) : int32 x < 2 ^ 31 := Int.bmod_lt (by decide)

theorem int32_wraps (x : Int) : ∃ k : Int, int32 x = x - 2 ^ 32 * k ∧ -2 ^ 31 ≤ int32 x ∧ int32 x < 2 ^ 31 := by
  unfold int32
  rw [Int.bmod_def]
  push_cast
  split
  · exact ⟨x / 2 ^ 32, by omega, by omega, by omega⟩
  · exact ⟨x / 2 ^ 32 + 1, by omega, by omega, by omega⟩

theorem short_frame_reads_outside (packet : EncoderPacket) (fuel : Nat) (nonempty : 0 < packet.size)
    (short : packet.size ≤ 4) : avcGetVideoFrame (fuel + 1) packet false [] = some ([], .readOutside packet.size) := by
  obtain ⟨data, dtsUsec, sysDtsUsec, type, keyframe, priority, dropPriority, trackIdx⟩ := packet
  simp only [EncoderPacket.size] at nonempty short ⊢
  match data, nonempty, short with
  | [_], _, _ | [_, _], _, _ | [_, _, _], _, _ | [_, _, _, _], _, _ => rfl

theorem short_header_reads_outside (packet : EncoderPacket) (fuel : Nat) (nonempty : 0 < packet.size)
    (short : packet.size ≤ 8) :
    avcGetVideoFrame (fuel + 1) packet true [] = some ([], .readOutside (max packet.size 6)) := by
  obtain ⟨data, dtsUsec, sysDtsUsec, type, keyframe, priority, dropPriority, trackIdx⟩ := packet
  simp only [EncoderPacket.size] at nonempty short ⊢
  match data, nonempty, short with
  | [_], _, _ | [_, _], _, _ | [_, _, _], _, _ | [_, _, _, _], _, _ | [_, _, _, _, _], _, _
  | [_, _, _, _, _, _], _, _ | [_, _, _, _, _, _, _], _, _ | [_, _, _, _, _, _, _, _], _, _ => rfl

theorem oversized_length_recorded (packet : EncoderPacket) (len : Nat) (byte : UInt8) (rest : List UInt8)
    (fuel : Nat) (data : packet.data = be32 len ++ byte :: rest) (kept : naluPasses byte = true)
    (over : rest.length + 1 < len) (fits : len < 2 ^ 31) :
    avcGetVideoFrame (fuel + 2) packet false [] = some ([⟨4, len, true⟩], .returned 0) := by
  have length := readLength_avcc packet [] (byte :: rest) len [] data (by decide) fits
  have typed : readByte packet.data (([] : List UInt8).length + 4 : Nat) = .ok byte := by
    have := readByte_append (be32 len) (byte :: rest) 0 (by simp)
    simpa [data] using this
  have size : packet.size = rest.length + 5 := by simp [EncoderPacket.size, data]; omega
  obtain ⟨k, past, low, high⟩ := int32_wraps (4 + len)
  have ends : ¬ (0 ≤ int32 (4 + len) ∧ int32 (4 + len) < packet.size) := by omega
  rw [avcGetVideoFrame, frameLoop_step _ (by simp; omega) (frameStep_of_read (s := ⟨0, 0, []⟩) (by simp) length typed),
    frameLoop_exit _ (by simpa using ends)]
  simp [kept, frameFinish, markLast]

theorem empty_frame_writes_outside (packet : EncoderPacket) (fuel : Nat) (empty : packet.size = 0) :
    avcGetVideoFrame (fuel + 1) packet false [] = some ([], .writeOutside (-1)) := by
  obtain ⟨data, dtsUsec, sysDtsUsec, type, keyframe, priority, dropPriority, trackIdx⟩ := packet
  simp only [EncoderPacket.size, List.length_eq_zero] at empty
  subst empty
  rfl

theorem avc_get_video_frame_out_of_bounds (fuel : Nat) :
    (∀ packet : EncoderPacket, 0 < packet.size → packet.size ≤ 4 →
      avcGetVideoFrame (fuel + 2) packet false [] = some ([], .readOutside packet.size)) ∧
    (∀ packet : EncoderPacket, 0 < packet.size → packet.size ≤ 8 →
      avcGetVideoFrame (fuel + 2) packet true [] = some ([], .readOutside (max packet.size 6))) ∧
    (∀ packet : EncoderPacket, packet.size = 0 →
      avcGetVideoFrame (fuel + 2) packet false [] = some ([], .writeOutside (-1))) ∧
    (∀ (packet : EncoderPacket) (len : Nat) (byte : UInt8) (rest : List UInt8),
      packet.data = be32 len ++ byte :: rest → naluPasses byte = true → rest.length + 1 < len → len < 2 ^ 31 →
        avcGetVideoFrame (fuel + 2) packet false [] = some ([⟨4, len, true⟩], .returned 0)) :=
  ⟨fun packet => short_frame_reads_outside packet (fuel + 1),
    fun packet => short_header_reads_outside packet (fuel + 1),
    fun packet => empty_frame_writes_outside packet (fuel + 1),
    fun packet len byte rest data kept over fits => oversized_length_recorded packet len byte rest fuel data kept over fits⟩

def truncatedFrame : EncoderPacket := ⟨be32 16 ++ [0x65], 0, 0, .video, true, 3, 3, 0⟩

theorem avc_get_video_frame_out_of_bounds_on_truncated :
    naluPasses 0x65 = true ∧
      avcGetVideoFrame 2 truncatedFrame false [] = some ([⟨4, 16, true⟩], .returned 0) :=
  ⟨by decide, (avc_get_video_frame_out_of_bounds 0).2.2.2 truncatedFrame 16 0x65 [] rfl (by decide) (by decide)
    (by decide)⟩

theorem frameLoop_fixed_point (packet : EncoderPacket) (isHeader : Bool) (s : FrameLoop)
    (guard : 0 ≤ s.consumed ∧ s.consumed < packet.size) (fixed : frameStep packet isHeader s = .ok s) :
    ∀ fuel, frameLoop packet isHeader fuel s = none := by
  intro fuel
  induction fuel with
  | zero => rfl
  | succ fuel ih => rw [frameLoop_step fuel guard fixed, ih]

theorem negative_length_loops_forever (packet : EncoderPacket) (byte : UInt8) (rest : List UInt8)
    (data : packet.data = [0xff, 0xff, 0xff, 0xfc, byte] ++ rest) (skipped : naluPasses byte = false)
    (fuel : Nat) : avcGetVideoFrame fuel packet false [] = none := by
  have length := readLength_frame packet [] (byte :: rest) 0xff 0xff 0xff 0xfc [] data (by decide)
  have typed : readByte packet.data (([] : List UInt8).length + 4 : Nat) = .ok byte := by
    have := readByte_append [0xff, 0xff, 0xff, 0xfc] (byte :: rest) 0 (by simp)
    simpa [data] using this
  have fixed : frameStep packet false ⟨0, 0, []⟩ = .ok ⟨0, 0, []⟩ := by
    rw [frameStep_of_read (s := ⟨0, 0, []⟩) (by simp) length typed, skipped]
    rfl
  exact frameLoop_fixed_point packet false ⟨0, 0, []⟩ (by simp [EncoderPacket.size, data]; omega) fixed fuel

def negativeLengthFrame : EncoderPacket := ⟨[0xff, 0xff, 0xff, 0xfc, 0x06], 0, 0, .video, false, 1, 1, 0⟩

theorem negative_length_loops_forever_on_sei :
    naluPasses 0x06 = false ∧ avcGetVideoFrame 1000 negativeLengthFrame false [] = none :=
  ⟨by decide, negative_length_loops_forever negativeLengthFrame 0x06 [] rfl (by decide) 1000⟩

theorem readLength_header_ok {packet : EncoderPacket} {s : FrameLoop} {consumed videoStream len : Int}
    (read : readLength packet true s = .ok (consumed, videoStream, len)) :
    (consumed = int32 (s.consumed + 6 + 2) ∨ consumed = int32 (s.consumed + 1 + 2)) ∧ 0 ≤ len ∧ len < 2 ^ 16 := by
  simp only [readLength, if_true, bind, Except.bind, pure, Except.pure] at read
  split at read
  · cases read
  · split at read
    · cases read
    · rename_i _ b0 _ _ b1 _
      cases read
      have := b0.toNat_lt
      have := b1.toNat_lt
      refine ⟨?_, by omega, by omega⟩
      split <;> simp

theorem frameStep_header_advances {packet : EncoderPacket} {s next : FrameLoop} (start : 0 ≤ s.consumed)
    (inRange : s.consumed < 2 ^ 31) (stepped : frameStep packet true s = .ok next) :
    next.consumed < 0 ∨ s.consumed + 3 ≤ next.consumed := by
  obtain ⟨_, consumed, videoStream, len, byte, read, _, rfl⟩ := frameStep_ok stepped
  obtain ⟨header, lenLow, lenHigh⟩ := readLength_header_ok read
  obtain ⟨k, wrapped, low, high⟩ := int32_wraps (consumed + len)
  rcases header with rfl | rfl
  · obtain ⟨j, headerWrapped, headerLow, headerHigh⟩ := int32_wraps (s.consumed + 6 + 2)
    simp only
    omega
  · obtain ⟨j, headerWrapped, headerLow, headerHigh⟩ := int32_wraps (s.consumed + 1 + 2)
    simp only
    omega

theorem frameLoop_header_ends (packet : EncoderPacket) (fuel : Nat) (s : FrameLoop)
    (inRange : s.consumed < 2 ^ 31) (running : 0 < fuel)
    (enough : 0 ≤ s.consumed → (packet.size : Int) - s.consumed < fuel) :
    ∃ result, frameLoop packet true fuel s = some result := by
  induction fuel generalizing s with
  | zero => omega
  | succ fuel ih =>
    by_cases guard : 0 ≤ s.consumed ∧ s.consumed < packet.size
    · cases stepped : frameStep packet true s with
      | error stop => exact ⟨_, frameLoop_stop fuel guard stepped⟩
      | ok next =>
        rw [frameLoop_step fuel guard stepped]
        have advanced := frameStep_header_advances guard.1 inRange stepped
        have := enough guard.1
        exact ih next (by obtain ⟨_, _, _, _, _, _, _, rfl⟩ := frameStep_ok stepped; exact int32_lt _)
          (by omega) (fun start => by omega)
    · exact ⟨_, frameLoop_exit fuel guard⟩

theorem header_split_terminates (packet : EncoderPacket) (nalus : List Nalu) (fuel : Nat)
    (enough : packet.size < fuel) : ∃ result, avcGetVideoFrame fuel packet true nalus = some result :=
  frameLoop_header_ends packet fuel ⟨0, 0, nalus⟩ (by norm_num) (by omega) (fun _ => by simp; omega)

def overlongHeader : EncoderPacket := ⟨[1, 0x42, 0, 0x1e, 0xff, 0xe1, 0xff, 0xff, 0x67], 0, 0, .video, true, 3, 3, 0⟩

theorem header_split_terminates_on_overlong :
    overlongHeader.size < 10 ∧ ∃ result, avcGetVideoFrame 10 overlongHeader true [] = some result :=
  ⟨by decide, header_split_terminates overlongHeader [] 10 (by decide)⟩

end FtlStream
