import Mathlib.Data.UInt
import NetCam.Camera.Packet

/-! `networking.PicturePack`, which takes apart what `setup_packet` put together.

The format is 64 bits of time stamp, 16 bits of size, then the data. The decoder looks
at four of the eight time bytes only.
-/

set_option autoImplicit false

namespace NetCam.Network

open Semantics

def HEAD_SIZE : Nat := 10

def getInt (bytes : List UInt8) : Int32 := Int32.ofNat (fromLittleEndian bytes)

namespace PicturePack

variable {size : Nat}

/-- None where `System.arraycopy` throws, on a buffer without a header. The int is
widened to the long it is returned as. -/
def getTimeStamp (buffer : Memory size) : Option Int64 :=
  match buffer.load 0 4 with
  | some tsData => some (getInt tsData).toInt64
  | none => none

/-- Two bytes are copied into an array of four, which starts out as zeros. -/
def getPictureSize (buffer : Memory size) : Option Int32 :=
  match buffer.load 8 2 with
  | some sizeData => some (getInt (sizeData ++ [0, 0]))
  | none => none

def Decodes (buffer : Memory size) (timeStamp : UInt64) (data : List UInt8) : Prop :=
  (getTimeStamp buffer).map Int64.toInt = some ((timeStamp / 1000000).toNat : Int) ∧
  (getPictureSize buffer).map Int32.toInt = some (data.length : Int) ∧
  buffer.load HEAD_SIZE data.length = some data

theorem getInt_toInt_of_lt {bytes : List UInt8} (small : fromLittleEndian bytes < 2 ^ 31) :
    (getInt bytes).toInt = fromLittleEndian bytes := by
  unfold getInt
  exact Int32.toInt_ofNat_of_lt small

/-- A size field is never read as a negative number. -/
theorem getInt_size {sizeData : List UInt8} (short : sizeData.length = 2) :
    (getInt (sizeData ++ [0, 0])).toInt = fromLittleEndian sizeData := by
  have padded := fromLittleEndian_padded sizeData 2
  have bound := fromLittleEndian_lt sizeData
  rw [short] at bound
  have zeros : sizeData ++ [0, 0] = sizeData ++ List.replicate 2 0 := rfl
  rw [zeros, getInt_toInt_of_lt (by omega), padded]

/-- The four bytes read are the number itself exactly when it is below `2 ^ 31`. -/
theorem getInt_littleEndian (value : Nat) :
    (getInt (littleEndian 4 value)).toInt64.toInt = (value : Int) ↔ value < 2 ^ 31 := by
  rw [Int32.toInt_toInt64]
  have read := fromLittleEndian_littleEndian 4 value
  constructor
  · intro same
    have bound := (getInt (littleEndian 4 value)).toInt_lt
    omega
  · intro small
    have kept : value % 256 ^ 4 = value := Nat.mod_eq_of_lt (by omega)
    rw [kept] at read
    rw [getInt_toInt_of_lt (by omega), read]

theorem read_packet {buffer : Memory size} {timeStamp : UInt64} {data : List UInt8}
    (held : buffer.load 0 (10 + data.length) = some (Camera.packetBytes timeStamp data)) :
    getTimeStamp buffer = some (getInt (littleEndian 4 (timeStamp / 1000000).toNat)).toInt64 ∧
    getPictureSize buffer = some (getInt (littleEndian 2 data.length ++ [0, 0])) ∧
    buffer.load HEAD_SIZE data.length = some data := by
  have time : buffer.load 0 4 = some (littleEndian 4 (timeStamp / 1000000).toNat) := by
    rw [← littleEndian_take 4 4]
    have part := Memory.load_within 0 4 held (by omega)
    rw [part]
    simp [Camera.packetBytes, List.take_append_of_le_length]
  have length : buffer.load 8 2 = some (littleEndian 2 data.length) := by
    have part := Memory.load_within 8 2 held (by omega)
    rw [part]
    simp [Camera.packetBytes]
  have body : buffer.load HEAD_SIZE data.length = some data := by
    have part := Memory.load_within 10 data.length held (by omega)
    have dropped : (Camera.packetBytes timeStamp data).drop 10 = data := by
      unfold Camera.packetBytes
      exact List.drop_left' (by simp)
    rw [dropped, List.take_length] at part
    exact part
  exact ⟨by simp only [getTimeStamp, time], by simp only [getPictureSize, length], body⟩

end PicturePack

open PicturePack

/-- Encoder and decoder agree on a packet exactly as long as the capture time in
milliseconds fits the signed half of the time stamp that is read. -/
theorem decodes_iff (picPacket : Memory Camera.BUFSIZE) (timeStamp : UInt64) (data : List UInt8)
    (fits : data.length ≤ Camera.BUFSIZE - 10) :
    ∃ packetSz packet,
      Camera.setupPacket picPacket timeStamp (UInt32.ofNat data.length) data = some (packetSz, packet) ∧
      packetSz.toInt = 10 + data.length ∧
      ∀ {size : Nat} (buffer : Memory size),
        buffer.load 0 packetSz.toInt.toNat = packet.load 0 packetSz.toInt.toNat →
          (Decodes buffer timeStamp data ↔ timeStamp / 1000000 < 2 ^ 31) := by
  have small := fits
  unfold Camera.BUFSIZE at small
  have sized : (UInt32.ofNat data.length).toNat = data.length := by
    rw [UInt32.toNat_ofNat']
    exact Nat.mod_eq_of_lt (by omega)
  obtain ⟨packetSz, packet, built, whole, bytes⟩ :=
    Camera.setupPacket_spec picPacket timeStamp sized fits
  refine ⟨packetSz, packet, built, whole, ?_⟩
  intro size buffer held
  have long : packetSz.toInt.toNat = 10 + data.length := by omega
  rw [long, bytes] at held
  obtain ⟨time, length, body⟩ := read_packet held
  have size_read : (getInt (littleEndian 2 data.length ++ [0, 0])).toInt = data.length := by
    rw [getInt_size (littleEndian_length 2 _), fromLittleEndian_littleEndian]
    have kept : data.length % 256 ^ 2 = data.length := Nat.mod_eq_of_lt (by omega)
    rw [kept]
  unfold Decodes
  rw [time, length, Option.map_some, Option.map_some, size_read]
  have law := getInt_littleEndian (timeStamp / 1000000).toNat
  constructor
  · rintro ⟨same, _, _⟩
    exact law.mp (Option.some.inj same)
  · intro early
    exact ⟨congrArg some (law.mpr early), rfl, body⟩

theorem decodes_second : ∃ packetSz packet,
    Camera.setupPacket (.filled _ 0) 1000000000 3 [7, 8, 9] = some (packetSz, packet) ∧
      Decodes packet 1000000000 [7, 8, 9] := by
  obtain ⟨packetSz, packet, built, _, exactly⟩ :=
    decodes_iff (.filled _ 0) 1000000000 [7, 8, 9] (by decide)
  exact ⟨packetSz, packet, built, (exactly packet rfl).mpr (by decide)⟩

/-- After `2 ^ 31` milliseconds the time stamp read is negative. -/
theorem late_time_stamp_negative : ∃ packetSz packet,
    Camera.setupPacket (.filled _ 0) 2147483648000000 3 [7, 8, 9] = some (packetSz, packet) ∧
      getTimeStamp packet = some (-2147483648) ∧ ¬ Decodes packet 2147483648000000 [7, 8, 9] := by
  refine ⟨_, _, rfl, by decide, ?_⟩
  rintro ⟨time, _⟩
  revert time
  decide

end NetCam.Network
