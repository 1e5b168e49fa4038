import NetCam.Semantics.Memory

/-! The picture packet as `server.c` builds it, on the 32-bit little-endian target.

There `size_t` is `uint32_t` and `ssize_t` is a signed 32-bit integer. An array given by
its address is the list of the bytes that may be read from there.
-/

set_option autoImplicit false

namespace NetCam.Camera

open Semantics

def BUFSIZE : Nat := 50000

/-- Undefined when it reads past its source or writes past its destination. -/
def memcpy {size : Nat} (dest : Memory size) (offset : Nat) (src : List UInt8) (count : Nat) :
    Option (Memory size) :=
  if count ≤ src.length then dest.store offset (src.take count) else none

/-- The size of the entire packet and the buffer it was built in, none where the copies
are undefined. The doc comment's "-1 if frame too large" is not in the code. -/
def setupPacket (picPacket : Memory BUFSIZE) (timeStamp : UInt64) (frameSz : UInt32)
    (data : List UInt8) : Option (Int32 × Memory BUFSIZE) :=
  let headerSize : UInt32 := 10
  let timeStamp := timeStamp / 1000000
  match memcpy picPacket 0 (littleEndian 8 timeStamp.toNat) 8 with
  | none => none
  | some picPacket =>
    match memcpy picPacket 8 (littleEndian 4 frameSz.toNat) 2 with
    | none => none
    | some picPacket =>
      match memcpy picPacket headerSize.toNat data frameSz.toNat with
      | none => none
      | some picPacket => some ((headerSize + frameSz).toInt32, picPacket)

def packetBytes (timeStamp : UInt64) (data : List UInt8) : List UInt8 :=
  littleEndian 8 (timeStamp / 1000000).toNat ++ littleEndian 2 data.length ++ data

theorem memcpy_all {size : Nat} (dest : Memory size) (offset : Nat) (src : List UInt8) {count : Nat}
    (whole : count = src.length) : memcpy dest offset src count = dest.store offset src := by
  subst whole
  unfold memcpy
  rw [if_pos (Nat.le_refl _), List.take_length]

theorem toInt32_toInt {x : UInt32} (small : x.toNat < 2 ^ 31) : x.toInt32.toInt = x.toNat := by
  exact BitVec.toInt_eq_toNat_of_lt (x := x.toBitVec) (by change 2 * x.toNat < 2 ^ 32; omega)

theorem setupPacket_spec (picPacket : Memory BUFSIZE) (timeStamp : UInt64) {frameSz : UInt32}
    {data : List UInt8} (sized : frameSz.toNat = data.length) (fits : data.length ≤ BUFSIZE - 10) :
    ∃ packetSz packet, setupPacket picPacket timeStamp frameSz data = some (packetSz, packet) ∧
      packetSz.toInt = 10 + data.length ∧
      packet.load 0 (10 + data.length) = some (packetBytes timeStamp data) := by
  unfold BUFSIZE at fits
  have low : (littleEndian 4 frameSz.toNat).take 2 = littleEndian 2 data.length := by
    rw [sized]
    exact littleEndian_take 2 2 data.length
  obtain ⟨first, time⟩ := Memory.store_isSome picPacket 0
    (littleEndian 8 (timeStamp / 1000000).toNat) (by simp [BUFSIZE])
  obtain ⟨second, size⟩ := Memory.store_isSome first 8 (littleEndian 2 data.length)
    (by simp [BUFSIZE])
  obtain ⟨third, body⟩ := Memory.store_isSome second 10 data
    (by unfold BUFSIZE; omega)
  refine ⟨(10 + frameSz).toInt32, third, ?_, ?_, ?_⟩
  · have copied : memcpy first 8 (littleEndian 4 frameSz.toNat) 2 = some second := by
      unfold memcpy
      rw [if_pos (by simp), low, size]
    have header : (10 : UInt32).toNat = 10 := rfl
    simp only [setupPacket, memcpy_all _ _ (littleEndian 8 _) (littleEndian_length 8 _).symm, time,
      copied, memcpy_all _ _ data sized, header, body]
  · have whole : (10 + frameSz).toNat = 10 + data.length := by
      rw [UInt32.toNat_add, sized]
      exact Nat.mod_eq_of_lt (by change 10 + data.length < 2 ^ 32; omega)
    rw [toInt32_toInt (by omega), whole]
    rfl
  · -- each part is stored once and lies clear of the ones after it
    have timeKept : third.load 0 8 = some (littleEndian 8 (timeStamp / 1000000).toNat) := by
      have own := Memory.load_store_self time
      rw [littleEndian_length] at own
      rw [Memory.load_store_disjoint body (by omega), Memory.load_store_disjoint size (by omega), own]
    have sizeKept : third.load 8 2 = some (littleEndian 2 data.length) := by
      have own := Memory.load_store_self size
      rw [littleEndian_length] at own
      rw [Memory.load_store_disjoint body (by omega), own]
    exact Memory.load_append (Memory.load_append timeKept sizeKept) (Memory.load_store_self body)

end NetCam.Camera
