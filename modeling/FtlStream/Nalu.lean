import FtlStream.Packet

set_option autoImplicit false

/-!
In `avc_get_video_frame` pointers into `packet->data` are offsets; `consumed` and
`len` are C `int`s, wrapped to 32 bits. A read of a byte outside the packet, or the
write to `nalus[total - 1]` with `total = 0`, is undefined behaviour in C: the model
stops there and names the access. The loop need not terminate, so it runs on fuel.
-/

namespace FtlStream

/-- `nalu_t`, with `data` as an offset into the packet. -/
structure Nalu where
  offset : Int
  len : Int
  sendMarkerBit : Bool
  deriving DecidableEq, Repr

inductive FrameEnd
  | returned (code : Int)
  | readOutside (offset : Int)
  | writeOutside (index : Int)
  deriving DecidableEq, Repr

def readByte (data : List UInt8) (offset : Int) : Except FrameEnd UInt8 :=
  if 0 ≤ offset ∧ offset < data.length then .ok (data.getD offset.toNat 0)
  else .error (.readOutside offset)

def naluPasses (byte : UInt8) : Bool :=
  let naluType := byte &&& 0x1F
  let nri := (byte >>> 5) &&& 0x3
  (naluType != 12 && naluType != 6 && naluType != 9) || nri != 0

structure FrameLoop where
  consumed : Int
  videoStream : Int
  nalus : List Nalu
  deriving DecidableEq, Repr

def readLength (packet : EncoderPacket) (isHeader : Bool) (s : FrameLoop) :
    Except FrameEnd (Int × Int × Int) := do
  if isHeader then
    let skip : Int := if s.consumed = 0 then 6 else 1
    let videoStream := s.videoStream + skip
    let b0 ← readByte packet.data videoStream
    let b1 ← readByte packet.data (videoStream + 1)
    pure (int32 (s.consumed + skip + 2), videoStream + 2, b0.toNat * 2 ^ 8 + b1.toNat)
  else
    let b0 ← readByte packet.data s.videoStream
    let b1 ← readByte packet.data (s.videoStream + 1)
    let b2 ← readByte packet.data (s.videoStream + 2)
    let b3 ← readByte packet.data (s.videoStream + 3)
    -- the `len > packet->size - consumed` test only logs
    pure (int32 (s.consumed + 4), s.videoStream + 4,
      int32 (b0.toNat * 2 ^ 24 + b1.toNat * 2 ^ 16 + b2.toNat * 2 ^ 8 + b3.toNat))

def frameStep (packet : EncoderPacket) (isHeader : Bool) (s : FrameLoop) :
    Except FrameEnd FrameLoop := do
  if 100 ≤ s.nalus.length then throw (.returned (-1))
  let (consumed, videoStream, len) ← readLength packet isHeader s
  let byte ← readByte packet.data videoStream
  let nalus := if naluPasses byte then s.nalus ++ [⟨videoStream, len, false⟩] else s.nalus
  pure ⟨int32 (consumed + len), videoStream + len, nalus⟩

def markLast (nalus : List Nalu) : List Nalu :=
  nalus.dropLast ++ (nalus.getLast?.map fun nalu => { nalu with sendMarkerBit := true }).toList

def frameFinish (isHeader : Bool) (nalus : List Nalu) : List Nalu × FrameEnd :=
  if isHeader then (nalus, .returned 0)
  else if nalus = [] then (nalus, .writeOutside (-1))
  else (markLast nalus, .returned 0)

/-- The loop on `fuel` iterations; `none` when it has not ended by then. The
comparison of the `int` `consumed` with the `size_t` size is unsigned. -/
def frameLoop (packet : EncoderPacket) (isHeader : Bool) : Nat → FrameLoop → Option (List Nalu × FrameEnd)
  | 0, _ => none
  | fuel + 1, s =>
    if 0 ≤ s.consumed ∧ s.consumed < packet.size then
      match frameStep packet isHeader s with
      | .ok next => frameLoop packet isHeader fuel next
      | .error stop => some (s.nalus, stop)
    else some (frameFinish isHeader s.nalus)

def avcGetVideoFrame (fuel : Nat) (packet : EncoderPacket) (isHeader : Bool) (nalus : List Nalu) :
    Option (List Nalu × FrameEnd) :=
  frameLoop packet isHeader fuel ⟨0, 0, nalus⟩

end FtlStream
