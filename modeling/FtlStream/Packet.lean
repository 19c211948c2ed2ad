import Mathlib

set_option autoImplicit false

/-!
Only the fields of libobs' `struct encoder_packet` that `ftl-stream.c` reads are
modelled. A C `int` is an `Int` wrapped to 32 bits with `int32`: signed overflow is
undefined in C, and the model takes the two's complement result.
-/

namespace FtlStream

inductive EncoderType
  | audio
  | video
  deriving DecidableEq, Repr

/-- Modelled from the spec: `OBS_NAL_PRIORITY_HIGHEST` is defined in `obs-avc.h`,
which is not in the repository; scenario S2 gives keyframes priority and drop
priority 3. -/
def obsNalPriorityHighest : Int := 3

structure EncoderPacket where
  data : List UInt8
  dtsUsec : Int
  sysDtsUsec : Int
  type : EncoderType
  keyframe : Bool
  priority : Int
  dropPriority : Int
  trackIdx : Nat
  deriving DecidableEq, Repr

def EncoderPacket.size (packet : EncoderPacket) : Nat := packet.data.length

def int32 (x : Int) : Int := x.bmod (2 ^ 32)

def toUInt64 (x : Int) : Nat := (x % 2 ^ 64).toNat

def toInt64 (n : Nat) : Int := if n < 2 ^ 63 then n else (n : Int) - 2 ^ 64

theorem toInt64_toUInt64 (x : Int) (low : -2 ^ 63 ≤ x) (high : x < 2 ^ 63) :
    toInt64 (toUInt64 x) = x := by
  unfold toInt64 toUInt64
  split <;> omega

theorem int32_of_small (x : Int) (low : -2 ^ 31 ≤ x) (high : x < 2 ^ 31) : int32 x = x := by
  rw [int32, Int.bmod_def]
  split <;> omega

@[simp] theorem int32_int32 (x : Int) : int32 (int32 x) = int32 x := Int.bmod_bmod

@[simp] theorem int32_add_int32 (x y : Int) : int32 (int32 x + y) = int32 (x + y) :=
  Int.bmod_add_bmod_congr

@[simp] theorem add_int32_int32 (x y : Int) : int32 (x + int32 y) = int32 (x + y) :=
  Int.add_bmod_bmod

def EncoderPacket.PriorityInRange (packet : EncoderPacket) : Prop :=
  0 ≤ packet.priority ∧ packet.priority ≤ obsNalPriorityHighest ∧
    0 ≤ packet.dropPriority ∧ packet.dropPriority ≤ obsNalPriorityHighest

instance (packet : EncoderPacket) : Decidable packet.PriorityInRange :=
  inferInstanceAs (Decidable (_ ∧ _))

end FtlStream
