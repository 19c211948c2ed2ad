import FtlStream.Send

set_option autoImplicit false

namespace FtlStream

def be32 (n : Nat) : List UInt8 :=
  [UInt8.ofNat (n / 2 ^ 24), UInt8.ofNat (n / 2 ^ 16), UInt8.ofNat (n / 2 ^ 8), UInt8.ofNat n]

def be16 (n : Nat) : List UInt8 := [UInt8.ofNat (n / 2 ^ 8), UInt8.ofNat n]

@[simp] theorem be32_length (n : Nat) : (be32 n).length = 4 := rfl

@[simp] theorem be16_length (n : Nat) : (be16 n).length = 2 := rfl

def headerSkip (offset : Nat) : Nat := if offset = 0 then 6 else 1

def encodePieces (pieces : List (List UInt8 × List UInt8)) : List UInt8 :=
  pieces.flatMap fun piece => piece.1 ++ piece.2

@[simp] theorem encodePieces_cons (piece : List UInt8 × List UInt8) (rest : List (List UInt8 × List UInt8)) :
    encodePieces (piece :: rest) = piece.1 ++ piece.2 ++ encodePieces rest := by
  simp [encodePieces]

theorem encodePieces_length (pieces : List (List UInt8 × List UInt8)) :
    (encodePieces pieces).length = (pieces.map fun piece => piece.1.length + piece.2.length).sum := by
  induction pieces with
  | nil => rfl
  | cons piece rest ih => simp [ih, Nat.add_assoc]

def Framed (isHeader : Bool) (offset : Nat) (piece : List UInt8 × List UInt8) : Prop :=
  piece.2 ≠ [] ∧
    if isHeader then
      piece.2.length < 2 ^ 16 ∧ piece.1.length = headerSkip offset + 2 ∧
        piece.1.drop (headerSkip offset) = be16 piece.2.length
    else piece.2.length < 2 ^ 31 ∧ piece.1 = be32 piece.2.length

def FramedFrom (isHeader : Bool) : Nat → List (List UInt8 × List UInt8) → Prop
  | _, [] => True
  | offset, piece :: rest =>
    Framed isHeader offset piece ∧ FramedFrom isHeader (offset + piece.1.length + piece.2.length) rest

instance (isHeader : Bool) (offset : Nat) (piece : List UInt8 × List UInt8) :
    Decidable (Framed isHeader offset piece) := by
  unfold Framed; infer_instance

instance framedFromDecidable (isHeader : Bool) :
    (offset : Nat) → (pieces : List (List UInt8 × List UInt8)) → Decidable (FramedFrom isHeader offset pieces)
  | _, [] => isTrue trivial
  | offset, piece :: rest =>
    have := framedFromDecidable isHeader (offset + piece.1.length + piece.2.length) rest
    inferInstanceAs (Decidable (_ ∧ _))

theorem framedFrom_avcc (offset : Nat) (pieces : List (List UInt8 × List UInt8))
    (framed : ∀ piece ∈ pieces, Framed false 0 piece) : FramedFrom false offset pieces := by
  induction pieces generalizing offset with
  | nil => trivial
  | cons piece rest ih =>
    exact ⟨by simpa [Framed] using framed piece (by simp), ih _ fun other mem => framed other (by simp [mem])⟩

def pieceUnits (offset : Nat) : List (List UInt8 × List UInt8) → List Nalu
  | [] => []
  | (framing, unit) :: rest =>
    (if naluPasses (unit.headD 0) then [⟨offset + framing.length, unit.length, false⟩] else []) ++
      pieceUnits (offset + framing.length + unit.length) rest

theorem pieceUnits_cons (offset : Nat) (piece : List UInt8 × List UInt8) (rest : List (List UInt8 × List UInt8)) :
    pieceUnits offset (piece :: rest) =
      pieceUnits offset [piece] ++ pieceUnits (offset + piece.1.length + piece.2.length) rest := by
  simp [pieceUnits]

theorem pieceUnits_single_length (offset : Nat) (piece : List UInt8 × List UInt8) :
    (pieceUnits offset [piece]).length ≤ 1 := by
  simp only [pieceUnits]; split <;> simp

theorem pieceUnits_length (offset : Nat) (pieces : List (List UInt8 × List UInt8)) :
    (pieceUnits offset pieces).length = (pieces.filter fun piece => naluPasses (piece.2.headD 0)).length := by
  induction pieces generalizing offset with
  | nil => rfl
  | cons piece rest ih =>
    obtain ⟨framing, unit⟩ := piece
    simp only [pieceUnits, List.filter_cons, List.length_append, ih]
    split <;> simp [Nat.add_comm]

def Nalu.payload (data : List UInt8) (nalu : Nalu) : List UInt8 :=
  (data.drop nalu.offset.toNat).take nalu.len.toNat

theorem readByte_append (before after : List UInt8) (i : Nat) (inside : i < after.length) :
    readByte (before ++ after) (before.length + i : Nat) = .ok (after.getD i 0) := by
  have within : ((before.length + i : Nat) : Int) < ((before ++ after).length : Nat) := by
    simp only [List.length_append]; omega
  simp only [readByte, Nat.cast_nonneg, true_and, within, if_true, Int.toNat_ofNat]
  rw [List.getD_append_right _ _ _ _ (by omega), Nat.add_sub_cancel_left]

theorem be32_decode (n : Nat) (small : n < 2 ^ 31) :
    int32 (((UInt8.ofNat (n / 2 ^ 24)).toNat : Int) * 2 ^ 24 +
      ((UInt8.ofNat (n / 2 ^ 16)).toNat : Int) * 2 ^ 16 +
      ((UInt8.ofNat (n / 2 ^ 8)).toNat : Int) * 2 ^ 8 + ((UInt8.ofNat n).toNat : Int)) = n := by
  have byte (m : Nat) : (UInt8.ofNat m).toNat = m % 256 := rfl
  rw [byte, byte, byte, byte, int32_of_small] <;> omega

theorem be16_decode (n : Nat) (small : n < 2 ^ 16) :
    ((UInt8.ofNat (n / 2 ^ 8)).toNat : Int) * 2 ^ 8 + ((UInt8.ofNat n).toNat : Int) = n := by
  have byte (m : Nat) : (UInt8.ofNat m).toNat = m % 256 := rfl
  rw [byte, byte]
  omega

theorem readLength_frame (packet : EncoderPacket) (before rest : List UInt8) (b0 b1 b2 b3 : UInt8)
    (nalus : List Nalu) (data : packet.data = before ++ b0 :: b1 :: b2 :: b3 :: rest)
    (small : before.length + 4 < 2 ^ 31) :
    readLength packet false ⟨before.length, before.length, nalus⟩ =
      .ok ((before.length + 4 : Nat), (before.length + 4 : Nat),
        int32 (b0.toNat * 2 ^ 24 + b1.toNat * 2 ^ 16 + b2.toNat * 2 ^ 8 + b3.toNat)) := by
  have read (i : Nat) (inside : i < 4) :
      readByte packet.data (before.length + i : Nat) = .ok ((b0 :: b1 :: b2 :: b3 :: rest).getD i 0) := by
    rw [data]; exact readByte_append _ _ i (by simp; omega)
  have four : int32 ((before.length : Int) + 4) = (before.length : Int) + 4 :=
    int32_of_small _ (by omega) (by omega)
  have r0 := read 0 (by omega)
  have r1 := read 1 (by omega)
  have r2 := read 2 (by omega)
  have r3 := read 3 (by omega)
  simp only [Nat.cast_add, Nat.cast_ofNat, Nat.cast_one, Nat.cast_zero, add_zero, List.getD_cons_zero,
    List.getD_cons_succ] at r0 r1 r2 r3
  simp only [readLength, Bool.false_eq_true, if_false, r0, r1, r2, r3, bind, Except.bind, pure,
    Except.pure, four, Nat.cast_add, Nat.cast_ofNat]

theorem readLength_avcc (packet : EncoderPacket) (before rest : List UInt8) (n : Nat) (nalus : List Nalu)
    (data : packet.data = before ++ (be32 n ++ rest)) (small : before.length + 4 < 2 ^ 31)
    (fits : n < 2 ^ 31) :
    readLength packet false ⟨before.length, before.length, nalus⟩ =
      .ok ((before.length + 4 : Nat), (before.length + 4 : Nat), n) := by
  rw [readLength_frame packet before rest (UInt8.ofNat (n / 2 ^ 24)) (UInt8.ofNat (n / 2 ^ 16))
    (UInt8.ofNat (n / 2 ^ 8)) (UInt8.ofNat n) nalus data small, be32_decode n fits]

theorem readLength_header (packet : EncoderPacket) (before skipped rest : List UInt8) (n : Nat)
    (nalus : List Nalu) (data : packet.data = before ++ (skipped ++ (be16 n ++ rest)))
    (skip : skipped.length = headerSkip before.length) (small : before.length + skipped.length + 2 < 2 ^ 31)
    (fits : n < 2 ^ 16) :
    readLength packet true ⟨before.length, before.length, nalus⟩ =
      .ok ((before.length + skipped.length + 2 : Nat), (before.length + skipped.length + 2 : Nat), n) := by
  have read (i : Nat) (inside : i < 2) :
      readByte packet.data (before.length + skipped.length + i : Nat) = .ok ((be16 n ++ rest).getD i 0) := by
    rw [data, ← List.append_assoc, ← List.length_append]
    exact readByte_append _ _ i (by simp; omega)
  have skipInt : (if (before.length : Int) = 0 then (6 : Int) else 1) = skipped.length := by
    rw [skip, headerSkip]; split <;> simp_all
  have total : int32 ((before.length : Int) + skipped.length + 2) = (before.length : Int) + skipped.length + 2 :=
    int32_of_small _ (by omega) (by omega)
  have r0 := read 0 (by omega)
  have r1 := read 1 (by omega)
  simp only [Nat.cast_add, Nat.cast_ofNat, Nat.cast_one, Nat.cast_zero, add_zero, be16, List.cons_append,
    List.getD_cons_zero, List.getD_cons_succ] at r0 r1
  simp only [readLength, if_true, skipInt, r0, r1, bind, Except.bind, pure, Except.pure, total,
    be16_decode n fits, Nat.cast_add, Nat.cast_ofNat]

theorem frameStep_of_read {packet : EncoderPacket} {isHeader : Bool} {s : FrameLoop}
    {consumed videoStream len : Int} {byte : UInt8} (room : s.nalus.length < 100)
    (length : readLength packet isHeader s = .ok (consumed, videoStream, len))
    (typed : readByte packet.data videoStream = .ok byte) :
    frameStep packet isHeader s = .ok ⟨int32 (consumed + len), videoStream + len,
      if naluPasses byte then s.nalus ++ [⟨videoStream, len, false⟩] else s.nalus⟩ := by
  simp only [frameStep, length, typed, Nat.not_le.mpr room, if_false, bind, Except.bind, pure,
    Except.pure, Functor.map, Except.map]

theorem frameStep_framed (packet : EncoderPacket) (isHeader : Bool) (before after : List UInt8)
    (piece : List UInt8 × List UInt8) (nalus : List Nalu)
    (data : packet.data = before ++ (piece.1 ++ piece.2 ++ after))
    (framed : Framed isHeader before.length piece)
    (small : before.length + piece.1.length + piece.2.length < 2 ^ 31) (room : nalus.length < 100) :
    frameStep packet isHeader ⟨before.length, before.length, nalus⟩ =
      .ok ⟨(before.length + piece.1.length + piece.2.length : Nat),
        (before.length + piece.1.length + piece.2.length : Nat), nalus ++ pieceUnits before.length [piece]⟩ := by
  obtain ⟨framing, unit⟩ := piece
  obtain ⟨nonempty, fits⟩ := framed
  dsimp only at data small nonempty fits ⊢
  obtain ⟨first, rest, rfl⟩ := List.exists_cons_of_ne_nil nonempty
  have length : readLength packet isHeader ⟨before.length, before.length, nalus⟩ =
      .ok ((before.length + framing.length : Nat), (before.length + framing.length : Nat),
        (first :: rest).length) := by
    cases isHeader with
    | false =>
      obtain ⟨fits, rfl⟩ := fits
      exact readLength_avcc packet before _ _ nalus (by simpa using data) (by simp at small ⊢; omega) fits
    | true =>
      obtain ⟨fits, count, skipped⟩ := fits
      obtain ⟨bytes, rfl⟩ : ∃ bytes, framing = bytes ++ be16 (first :: rest).length :=
        ⟨_, by rw [← skipped, List.take_append_drop]⟩
      simp only [List.length_append, be16_length, Nat.add_right_cancel_iff] at count
      have := readLength_header packet before bytes (first :: rest ++ after) _ nalus (by simpa using data)
        count (by simp at small; omega) fits
      simpa only [List.length_append, be16_length] using this
  have typed : readByte packet.data (before.length + framing.length : Nat) = .ok first := by
    have := readByte_append (before ++ framing) (first :: rest ++ after) 0 (by simp)
    simpa [data] using this
  have next : int32 (((before.length + framing.length : Nat) : Int) + (first :: rest).length) =
      ((before.length + framing.length + (first :: rest).length : Nat) : Int) := by
    rw [int32_of_small _ (by omega) (by omega)]; push_cast; rfl
  rw [frameStep_of_read room length typed, next]
  simp only [pieceUnits, List.headD_cons, List.append_nil, Nat.cast_add]
  split <;> simp

theorem frameStep_full {packet : EncoderPacket} {isHeader : Bool} {s : FrameLoop}
    (full : 100 ≤ s.nalus.length) : frameStep packet isHeader s = .error (.returned (-1)) := by
  simp [frameStep, full, throw, throwThe, MonadExceptOf.throw, bind, Except.bind]

theorem frameLoop_step {packet : EncoderPacket} {isHeader : Bool} {s next : FrameLoop} (fuel : Nat)
    (guard : 0 ≤ s.consumed ∧ s.consumed < packet.size) (stepped : frameStep packet isHeader s = .ok next) :
    frameLoop packet isHeader (fuel + 1) s = frameLoop packet isHeader fuel next := by
  simp only [frameLoop, guard, and_self, if_true, stepped]

theorem frameLoop_stop {packet : EncoderPacket} {isHeader : Bool} {s : FrameLoop} {stop : FrameEnd} (fuel : Nat)
    (guard : 0 ≤ s.consumed ∧ s.consumed < packet.size) (stepped : frameStep packet isHeader s = .error stop) :
    frameLoop packet isHeader (fuel + 1) s = some (s.nalus, stop) := by
  simp only [frameLoop, guard, and_self, if_true, stepped]

theorem frameLoop_exit {packet : EncoderPacket} {isHeader : Bool} {s : FrameLoop} (fuel : Nat)
    (ends : ¬ (0 ≤ s.consumed ∧ s.consumed < packet.size)) :
    frameLoop packet isHeader (fuel + 1) s = some (frameFinish isHeader s.nalus) := by
  simp only [frameLoop, ends, if_false]

theorem frameLoop_framed (packet : EncoderPacket) (isHeader : Bool) (pieces : List (List UInt8 × List UInt8)) :
    ∀ (before : List UInt8) (recorded : List Nalu) (fuel : Nat),
      packet.data = before ++ encodePieces pieces → FramedFrom isHeader before.length pieces →
      packet.size < 2 ^ 31 → recorded.length ≤ 100 → pieces.length < fuel →
      frameLoop packet isHeader fuel ⟨before.length, before.length, recorded⟩ =
        some (if pieces ≠ [] ∧ 100 ≤ (recorded ++ pieceUnits before.length pieces.dropLast).length
          then ((recorded ++ pieceUnits before.length pieces).take 100, .returned (-1))
          else frameFinish isHeader (recorded ++ pieceUnits before.length pieces)) := by
  induction pieces with
  | nil =>
    intro before recorded fuel data _ _ _ enough
    obtain ⟨fuel, rfl⟩ := Nat.exists_eq_succ_of_ne_zero (by omega : fuel ≠ 0)
    rw [frameLoop_exit fuel (by simp [EncoderPacket.size, data, encodePieces])]
    simp [pieceUnits]
  | cons piece rest ih =>
    intro before recorded fuel data framed small bound enough
    obtain ⟨fuel, rfl⟩ := Nat.exists_eq_succ_of_ne_zero (by omega : fuel ≠ 0)
    have sized : packet.size = before.length + piece.1.length + piece.2.length + (encodePieces rest).length := by
      simp [EncoderPacket.size, data, Nat.add_assoc]
    have guard : 0 ≤ (before.length : Int) ∧ (before.length : Int) < packet.size := by
      have := List.length_pos.mpr framed.1.1
      omega
    by_cases full : 100 ≤ recorded.length
    · have kept : (recorded ++ pieceUnits before.length (piece :: rest)).take 100 = recorded := by
        rw [List.take_append_of_le_length (by omega), List.take_of_length_le (by omega)]
      rw [frameLoop_stop fuel guard (frameStep_full (s := ⟨_, _, recorded⟩) full)]
      simp [kept, full, Nat.le_trans full (Nat.le_add_right _ _)]
    · have stepped := frameStep_framed packet isHeader before (encodePieces rest) piece recorded
        (by simpa using data) framed.1 (by omega) (by omega)
      have next := ih (before ++ piece.1 ++ piece.2) (recorded ++ pieceUnits before.length [piece]) fuel
        (by simpa using data) (by simpa [Nat.add_assoc] using framed.2) small
        (by have := pieceUnits_single_length before.length piece; simp; omega) (by simpa using enough)
      simp only [List.length_append] at next
      rw [frameLoop_step fuel guard stepped, next]
      simp only [List.append_assoc, ← pieceUnits_cons]
      congr 2
      cases rest with
      | nil => simp [pieceUnits, full]
      | cons second rest =>
        rw [List.dropLast_cons₂, pieceUnits_cons before.length piece (second :: rest).dropLast]
        simp [Nat.add_assoc]

theorem pieceUnits_payload (pieces : List (List UInt8 × List UInt8)) (before : List UInt8) :
    (pieceUnits before.length pieces).map (Nalu.payload (before ++ encodePieces pieces)) =
      (pieces.map Prod.snd).filter fun unit => naluPasses (unit.headD 0) := by
  induction pieces generalizing before with
  | nil => rfl
  | cons piece rest ih =>
    obtain ⟨framing, unit⟩ := piece
    have later := ih (before ++ framing ++ unit)
    have slice : Nalu.payload (before ++ encodePieces ((framing, unit) :: rest))
        ⟨(before.length + framing.length : Nat), unit.length, false⟩ = unit := by
      have split : before ++ encodePieces ((framing, unit) :: rest) = before ++ framing ++ (unit ++ encodePieces rest) := by
        simp
      rw [Nalu.payload, split, Int.toNat_ofNat, Int.toNat_ofNat, ← List.length_append, List.drop_left,
        List.take_left]
    simp only [List.length_append, List.append_assoc, ← Nat.add_assoc] at later
    simp only [pieceUnits, List.map_append, later, List.map_cons, List.filter_cons]
    split <;> simp_all

theorem avcGetVideoFrame_framed (isHeader : Bool) (pieces : List (List UInt8 × List UInt8))
    (packet : EncoderPacket) (fuel : Nat) (encoded : packet.data = encodePieces pieces)
    (framed : FramedFrom isHeader 0 pieces) (small : packet.size < 2 ^ 31) (enough : pieces.length < fuel) :
    avcGetVideoFrame fuel packet isHeader [] =
      some (if 100 ≤ (pieceUnits 0 pieces.dropLast).length
        then ((pieceUnits 0 pieces).take 100, .returned (-1))
        else frameFinish isHeader (pieceUnits 0 pieces)) := by
  have run := frameLoop_framed packet isHeader pieces [] [] fuel (by simpa using encoded) framed small
    (by simp) enough
  cases pieces with
  | nil => simpa [pieceUnits] using run
  | cons piece rest => simpa [avcGetVideoFrame] using run

theorem avc_get_video_frame_round_trip (isHeader : Bool) (pieces : List (List UInt8 × List UInt8))
    (packet : EncoderPacket) (fuel : Nat) (encoded : packet.data = encodePieces pieces)
    (framed : FramedFrom isHeader 0 pieces) (small : packet.size < 2 ^ 31) (enough : pieces.length < fuel)
    (kept : isHeader = false → pieceUnits 0 pieces ≠ []) :
    avcGetVideoFrame fuel packet isHeader [] =
        some (if 100 ≤ (pieceUnits 0 pieces.dropLast).length
          then ((pieceUnits 0 pieces).take 100, .returned (-1))
          else (if isHeader then pieceUnits 0 pieces else markLast (pieceUnits 0 pieces), .returned 0)) ∧
      (pieceUnits 0 pieces).map (Nalu.payload packet.data) =
        (pieces.map Prod.snd).filter fun unit => naluPasses (unit.headD 0) := by
  have finish : frameFinish isHeader (pieceUnits 0 pieces) =
      (if isHeader then pieceUnits 0 pieces else markLast (pieceUnits 0 pieces), .returned 0) := by
    cases isHeader
    · simp [frameFinish, kept rfl]
    · rfl
  refine ⟨?_, by simpa [encoded] using pieceUnits_payload pieces []⟩
  rw [avcGetVideoFrame_framed isHeader pieces packet fuel encoded framed small enough, finish]

def spsPpsPieces : List (List UInt8 × List UInt8) :=
  [([1, 0x42, 0, 0x1e, 0xff, 0xe1] ++ be16 1, [0x67]), ([1] ++ be16 1, [0x68])]

def spsPpsPacket : EncoderPacket := ⟨encodePieces spsPpsPieces, 0, 0, .video, true, 3, 3, 0⟩

theorem avc_get_video_frame_round_trip_sps_pps :
    FramedFrom true 0 spsPpsPieces ∧ spsPpsPacket.size < 2 ^ 31 ∧
      avcGetVideoFrame 3 spsPpsPacket true [] = some ([⟨8, 1, false⟩, ⟨12, 1, false⟩], .returned 0) ∧
      [⟨8, 1, false⟩, ⟨12, 1, false⟩].map (Nalu.payload spsPpsPacket.data) = [[0x67], [0x68]] :=
  ⟨by decide, by decide, avc_get_video_frame_round_trip true spsPpsPieces spsPpsPacket 3 rfl (by decide)
    (by decide) (by decide) nofun⟩

def capBoundaryPieces : List (List UInt8 × List UInt8) :=
  List.replicate 100 (be32 1, [0x41]) ++ [(be32 1, [0x0c])]

def capBoundaryFrame : EncoderPacket := ⟨encodePieces capBoundaryPieces, 0, 0, .video, false, 2, 2, 0⟩

theorem avc_get_video_frame_round_trip_boundaries :
    ((capBoundaryPieces.map Prod.snd).filter fun unit => naluPasses (unit.headD 0)).length = 100 ∧
      avcGetVideoFrame 102 capBoundaryFrame false [] =
        some ((pieceUnits 0 capBoundaryPieces).take 100, .returned (-1)) := by
  have kept : naluPasses 0x41 = true := by decide
  have skipped : naluPasses 0x0c = false := by decide
  have units : capBoundaryPieces.map Prod.snd = List.replicate 100 [0x41] ++ [[0x0c]] := by
    simp only [capBoundaryPieces, List.map_append, List.map_replicate, List.map_cons, List.map_nil]
  refine ⟨?_, ?_⟩
  · simp only [units, List.filter_append, List.filter_replicate, List.headD_cons, kept, skipped, if_true,
      List.filter_cons, List.filter_nil, if_false, Bool.false_eq_true, List.append_nil, List.length_replicate]
  have framed : FramedFrom false 0 capBoundaryPieces := by
    refine framedFrom_avcc 0 _ fun piece mem => ?_
    simp only [capBoundaryPieces, List.mem_append, List.mem_replicate, List.mem_singleton] at mem
    rcases mem with ⟨_, rfl⟩ | rfl <;> decide
  have small : capBoundaryFrame.size < 2 ^ 31 := by
    simp only [capBoundaryFrame, capBoundaryPieces, EncoderPacket.size, encodePieces_length, List.map_append,
      List.map_replicate, List.sum_append, List.sum_replicate, smul_eq_mul]
    decide
  have count : capBoundaryPieces.length < 102 := by
    simp only [capBoundaryPieces, List.length_append, List.length_replicate, List.length_singleton]
    decide
  have capped : 100 ≤ (pieceUnits 0 capBoundaryPieces.dropLast).length := by
    simp only [capBoundaryPieces, List.dropLast_concat, pieceUnits_length, List.filter_replicate, List.headD_cons,
      kept, if_true, List.length_replicate, le_refl]
  rw [avcGetVideoFrame_framed false capBoundaryPieces capBoundaryFrame 102 rfl framed small count, if_pos capped]

end FtlStream
