import FtlStream.NaluFraming

set_option autoImplicit false

namespace FtlStream

def MediaCall.payload (data : List UInt8) (call : MediaCall) : List UInt8 :=
  (data.drop call.offset.toNat).take call.len.toNat

@[simp] theorem naluCall_payload (data : List UInt8) (dtsUsec : Int) (nalu : Nalu) :
    (naluCall dtsUsec nalu).payload data = nalu.payload data := rfl

theorem pieceUnits_unmarked (offset : Nat) (pieces : List (List UInt8 × List UInt8)) :
    ∀ nalu ∈ pieceUnits offset pieces, nalu.sendMarkerBit = false := by
  induction pieces generalizing offset with
  | nil => simp [pieceUnits]
  | cons piece rest ih =>
    intro nalu member
    rw [pieceUnits_cons, List.mem_append] at member
    rcases member with single | later
    · obtain ⟨framing, unit⟩ := piece
      simp only [pieceUnits, List.append_nil] at single
      split at single <;> simp_all
    · exact ih _ nalu later

theorem markLast_map {β : Type} (f : Nalu → β) (ignores : ∀ nalu, f { nalu with sendMarkerBit := true } = f nalu)
    (nalus : List Nalu) : (markLast nalus).map f = nalus.map f := by
  rcases List.eq_nil_or_concat nalus with rfl | ⟨init, last, rfl⟩
  · rfl
  · simp [markLast, ignores]

theorem markLast_length (nalus : List Nalu) : (markLast nalus).length = nalus.length := by
  rcases List.eq_nil_or_concat nalus with rfl | ⟨init, last, rfl⟩ <;> simp [markLast]

theorem markLast_markers {nalus : List Nalu} (nonempty : nalus ≠ [])
    (unmarked : ∀ nalu ∈ nalus, nalu.sendMarkerBit = false) :
    (markLast nalus).map Nalu.sendMarkerBit = List.replicate (nalus.length - 1) false ++ [true] := by
  obtain ⟨init, last, rfl⟩ := (List.eq_nil_or_concat nalus).resolve_left nonempty
  have before : init.map Nalu.sendMarkerBit = List.replicate init.length false :=
    List.eq_replicate_iff.mpr ⟨by simp, fun b member => by
      obtain ⟨nalu, inInit, rfl⟩ := List.mem_map.mp member
      exact unmarked nalu (by simp [inInit])⟩
  simp [markLast, before]

theorem markLast_marked {nalus : List Nalu} (nonempty : nalus ≠ [])
    (unmarked : ∀ nalu ∈ nalus, nalu.sendMarkerBit = false) :
    ((markLast nalus).filter (·.sendMarkerBit)).length = 1 := by
  obtain ⟨init, last, rfl⟩ := (List.eq_nil_or_concat nalus).resolve_left nonempty
  have none : init.filter (·.sendMarkerBit) = [] :=
    List.filter_eq_nil_iff.mpr fun nalu member => by simp [unmarked nalu (by simp [member])]
  simp [markLast, List.filter_append, none]

theorem sendPacket_framed {fuel : Nat} {ingest : MediaCall → Int} {s : Sender} {packet : EncoderPacket}
    {isHeader : Bool} {pieces : List (List UInt8 × List UInt8)} (video : packet.type = .video)
    (encoded : packet.data = encodePieces pieces) (framed : FramedFrom isHeader 0 pieces)
    (small : packet.size < 2 ^ 31) (room : (pieceUnits 0 pieces.dropLast).length < 100)
    (enough : pieces.length < fuel) (kept : isHeader = false → pieceUnits 0 pieces ≠ []) :
    ∃ sent, sendPacket fuel ingest s packet isHeader = some (.ok sent) ∧
      sent.media = s.media ++
        (if isHeader then pieceUnits 0 pieces else markLast (pieceUnits 0 pieces)).map (naluCall packet.dtsUsec) ∧
      sent.framesSent = s.framesSent + if isHeader then 0 else 1 := by
  have parsed := avcGetVideoFrame_framed isHeader pieces packet fuel encoded framed small enough
  rw [if_neg (by omega)] at parsed
  have unmarked := pieceUnits_unmarked 0 pieces
  cases isHeader
  · have nonempty := kept rfl
    simp only [frameFinish, Bool.false_eq_true, if_false, nonempty] at parsed
    obtain ⟨sent, sends, media, frames⟩ := sendPacket_frame fuel ingest s packet false _ 0 video parsed
    exact ⟨sent, sends, media, by rw [frames, markLast_marked nonempty unmarked]; rfl⟩
  · simp only [frameFinish, if_true] at parsed
    obtain ⟨sent, sends, media, frames⟩ := sendPacket_frame fuel ingest s packet true _ 0 video parsed
    refine ⟨sent, sends, media, ?_⟩
    rw [frames, List.filter_eq_nil_iff.mpr fun nalu member => by simp [unmarked nalu member]]
    simp

section Calls

variable (dtsUsec : Int)

theorem naluCalls_unmarked (nalus : List Nalu) (unmarked : ∀ nalu ∈ nalus, nalu.sendMarkerBit = false) :
    (nalus.map (naluCall dtsUsec)).map MediaCall.endOfFrame = List.replicate nalus.length false :=
  List.eq_replicate_iff.mpr ⟨by simp, fun b member => by
    obtain ⟨nalu, inNalus, rfl⟩ := by simpa using member
    exact unmarked nalu inNalus⟩

theorem naluCalls_typed (nalus : List Nalu) :
    ∀ call ∈ nalus.map (naluCall dtsUsec), call.type = .video ∧ call.dtsUsec = dtsUsec := by
  simp [naluCall]

theorem naluCalls_payload (pieces : List (List UInt8 × List UInt8)) :
    ((pieceUnits 0 pieces).map (naluCall dtsUsec)).map (MediaCall.payload (encodePieces pieces)) =
      (pieces.map Prod.snd).filter fun unit => naluPasses (unit.headD 0) := by
  simpa [Function.comp_def] using pieceUnits_payload pieces []

end Calls

theorem send_thread_hands_kept_units (fuel : Nat) (ingest : MediaCall → Int) (header : List UInt8) (s : Sender)
    (packet : EncoderPacket) (pieces headerPieces : List (List UInt8 × List UInt8))
    (video : packet.type = .video) (encoded : packet.data = encodePieces pieces)
    (framed : FramedFrom false 0 pieces) (small : packet.size < 2 ^ 31)
    (room : (pieceUnits 0 pieces.dropLast).length < 100) (kept : pieceUnits 0 pieces ≠ [])
    (enough : pieces.length < fuel)
    (headerFramed : packet.keyframe = true → header = encodePieces headerPieces ∧ FramedFrom true 0 headerPieces ∧
      header.length < 2 ^ 31 ∧ (pieceUnits 0 headerPieces.dropLast).length < 100 ∧ headerPieces.length < fuel) :
    ∃ sent, sendDequeued fuel ingest header s packet = some (.ok sent) ∧
      ∃ headerCalls frameCalls, sent.media = s.media ++ headerCalls ++ frameCalls ∧
        headerCalls.map (MediaCall.payload header) =
          (if packet.keyframe then (headerPieces.map Prod.snd).filter fun unit => naluPasses (unit.headD 0)
           else []) ∧
        frameCalls.map (MediaCall.payload packet.data) =
          (pieces.map Prod.snd).filter (fun unit => naluPasses (unit.headD 0)) ∧
        (∀ call ∈ headerCalls ++ frameCalls, call.type = .video ∧ call.dtsUsec = packet.dtsUsec) ∧
        (headerCalls ++ frameCalls).map MediaCall.endOfFrame =
          List.replicate (headerCalls.length + frameCalls.length - 1) false ++ [true] ∧
        sent.framesSent = s.framesSent + 1 := by
  have frame (t : Sender) :=
    @sendPacket_framed fuel ingest t packet false pieces video encoded framed small room enough fun _ => kept
  have framePayloads : ((markLast (pieceUnits 0 pieces)).map (naluCall packet.dtsUsec)).map
      (MediaCall.payload packet.data) = (pieces.map Prod.snd).filter (fun unit => naluPasses (unit.headD 0)) := by
    rw [List.map_map, markLast_map (MediaCall.payload packet.data ∘ naluCall packet.dtsUsec) (fun _ => rfl),
      ← List.map_map, encoded]
    exact naluCalls_payload _ pieces
  have frameMarkers : ((markLast (pieceUnits 0 pieces)).map (naluCall packet.dtsUsec)).map MediaCall.endOfFrame =
      List.replicate ((pieceUnits 0 pieces).length - 1) false ++ [true] := by
    rw [List.map_map]
    exact markLast_markers kept (pieceUnits_unmarked 0 pieces)
  have frameCount : ((markLast (pieceUnits 0 pieces)).map (naluCall packet.dtsUsec)).length =
      (pieceUnits 0 pieces).length := by
    rw [List.length_map, markLast_length]
  have nonempty : 0 < (pieceUnits 0 pieces).length := List.length_pos.mpr kept
  cases keyframe : packet.keyframe
  case false =>
    obtain ⟨sent, sends, media, frames⟩ := frame s
    refine ⟨sent, by simp [sendDequeued, keyframe, sends], [], _, by simpa using media, rfl, framePayloads,
      by simpa using naluCalls_typed packet.dtsUsec _, ?_, by simpa using frames⟩
    rw [List.nil_append, frameMarkers, List.length_nil, frameCount, Nat.zero_add]
  case true =>
    obtain ⟨blob, headerFramed, headerSmall, headerRoom, headerEnough⟩ := headerFramed keyframe
    obtain ⟨afterHeader, headerSends, headerMedia, headerFrames⟩ :=
      @sendPacket_framed fuel ingest { s with sentHeaders := true } (headerPacket header packet.dtsUsec) true
        headerPieces rfl blob headerFramed headerSmall headerRoom headerEnough (fun wrong => nomatch wrong)
    obtain ⟨sent, sends, media, frames⟩ := frame afterHeader
    refine ⟨sent, by simp [sendDequeued, keyframe, sendHeaders, headerSends, sends],
      (pieceUnits 0 headerPieces).map (naluCall packet.dtsUsec), _, ?_, ?_, framePayloads, ?_, ?_, ?_⟩
    · simp only [media, headerMedia, if_true, List.append_assoc]
      rfl
    · simpa [blob] using naluCalls_payload packet.dtsUsec headerPieces
    · exact fun call member => by
        rcases List.mem_append.mp member with inHeader | inFrame
        · exact naluCalls_typed _ _ call inHeader
        · exact naluCalls_typed _ _ call inFrame
    · rw [List.map_append, naluCalls_unmarked _ _ (pieceUnits_unmarked 0 headerPieces), frameMarkers, frameCount,
        List.length_map, ← List.append_assoc, List.append_replicate_replicate]
      congr 2
      omega
    · simpa [headerFrames] using frames

def idrPieces : List (List UInt8 × List UInt8) := [(be32 1, [0x65])]

def idrFrame : EncoderPacket := ⟨encodePieces idrPieces, 0, 0, .video, true, 3, 3, 0⟩

theorem send_thread_hands_kept_units_on_idr :
    FramedFrom false 0 idrPieces ∧ idrFrame.size < 2 ^ 31 ∧ pieceUnits 0 idrPieces ≠ [] ∧
      FramedFrom true 0 spsPpsPieces ∧
      ∃ sent, sendDequeued 3 (fun _ => 1) (encodePieces spsPpsPieces) ⟨[], 0, 0, false, []⟩ idrFrame =
          some (.ok sent) ∧
        ∃ headerCalls frameCalls, sent.media = [] ++ headerCalls ++ frameCalls ∧
          headerCalls.map (MediaCall.payload (encodePieces spsPpsPieces)) =
            (if idrFrame.keyframe then (spsPpsPieces.map Prod.snd).filter fun unit => naluPasses (unit.headD 0)
             else []) ∧
          frameCalls.map (MediaCall.payload idrFrame.data) =
            (idrPieces.map Prod.snd).filter (fun unit => naluPasses (unit.headD 0)) ∧
          (∀ call ∈ headerCalls ++ frameCalls, call.type = .video ∧ call.dtsUsec = idrFrame.dtsUsec) ∧
          (headerCalls ++ frameCalls).map MediaCall.endOfFrame =
            List.replicate (headerCalls.length + frameCalls.length - 1) false ++ [true] ∧
          sent.framesSent = 0 + 1 :=
  ⟨by decide, by decide, by decide, by decide,
    send_thread_hands_kept_units 3 (fun _ => 1) _ ⟨[], 0, 0, false, []⟩ idrFrame idrPieces spsPpsPieces rfl rfl
      (by decide) (by decide) (by decide) (by decide) (by decide)
      fun _ => ⟨rfl, by decide, by decide, by decide, by decide⟩⟩

end FtlStream
