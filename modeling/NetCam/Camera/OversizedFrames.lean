import NetCam.Camera.Server
import NetCam.Camera.WriteN

/-! Frames that do not fit the packet buffer, through `client_save_frame` and
`client_send_frame`.

The capture library returns up to 100000 bytes, the packet buffer holds 50000. The encoder's
comment promises `-1` for a frame that is too large, and `client_save_frame` tests for it
after it has stored packet and size, but nothing returns it.
-/

set_option autoImplicit false

namespace NetCam.Camera

open Semantics

def FRAME_BUF_SZ : Nat := 100000

/-- `client_save_frame`, with the outcome of the size check: the result and the monitor. -/
def clientSaveFrame (sane : Bool) (stack : Memory BUFSIZE) (fr : Frame) (camMon : CameraMonitor) :
    Option (Int32 × CameraMonitor) :=
  if !sane then some (2, camMon)
  else
    match setupPacket stack (getFrameTimestamp fr) (getFrameSize fr) (getFrameBytes fr) with
    | none => none
    | some (packetSz, picPacket) =>
      let camMon := (camMon.savePacketSize packetSz).savePacket picPacket
      some (if packetSz < 0 then 1 else 0, camMon)

/-- `client_send_frame`: the bytes put on the socket and the result. The size is an unsigned
length to `write_n`. -/
def clientSendFrame (sane : Bool) (results : List Int32) (camMon : CameraMonitor) :
    Option (List UInt8 × Int32) :=
  if !sane then some ([], 2)
  else
    let picPacket := (camMon.getPacket.load 0 BUFSIZE).getD []
    let packetSz := camMon.getPacketSize
    match writeN picPacket packetSz.toUInt32 results with
    | none => none
    | some (sent, written) => some (sent, if written ≠ packetSz then 3 else 0)

/-- The packet is not stored, and the next send writes what it would have written before. -/
structure Rejected (stack : Memory BUFSIZE) (fr : Frame) (camMon : CameraMonitor) : Prop where
  encoder : ∃ picPacket, setupPacket stack (getFrameTimestamp fr) (getFrameSize fr) (getFrameBytes fr) =
    some (-1, picPacket)
  result : ∃ result after, clientSaveFrame true stack fr camMon = some (result, after) ∧
    result ≠ 0 ∧ after.picPacket = camMon.picPacket ∧ after.packetSz = camMon.packetSz ∧
      ∀ results, clientSendFrame true results after = clientSendFrame true results camMon

def Stored (stack : Memory BUFSIZE) (fr : Frame) (camMon : CameraMonitor) : Prop :=
  ∃ after, clientSaveFrame true stack fr camMon = some (0, after) ∧
    after.packetSz.toInt = 10 + (getFrameBytes fr).length ∧
    after.picPacket.load 0 (10 + (getFrameBytes fr).length) =
      some (packetBytes (getFrameTimestamp fr) (getFrameBytes fr))

theorem getFrameSize_toNat {fr : Frame} (bounded : (getFrameBytes fr).length ≤ FRAME_BUF_SZ) :
    (getFrameSize fr).toNat = (getFrameBytes fr).length := by
  unfold FRAME_BUF_SZ at bounded
  exact Nat.mod_eq_of_lt (by omega)

/-- The copy of an oversized frame goes past the end of the packet buffer. -/
theorem setupPacket_oversized (picPacket : Memory BUFSIZE) (timeStamp : UInt64) {frameSz : UInt32}
    {data : List UInt8} (oversized : BUFSIZE < 10 + frameSz.toNat) :
    setupPacket picPacket timeStamp frameSz data = none := by
  have outside : ∀ packet : Memory BUFSIZE,
      memcpy packet (10 : UInt32).toNat data frameSz.toNat = none := by
    intro packet
    unfold memcpy
    split
    · next there =>
      unfold Memory.store
      apply if_neg
      rw [List.length_take, Nat.min_eq_left there]
      change ¬ 10 + frameSz.toNat ≤ BUFSIZE
      omega
    · rfl
  unfold setupPacket
  dsimp only
  split
  · rfl
  split
  · rfl
  · simp only [outside]

/-- The test for a packet that is too large never succeeds. -/
theorem packetSz_nonneg {stack picPacket : Memory BUFSIZE} {timeStamp : UInt64} {frameSz : UInt32}
    {data : List UInt8} {packetSz : Int32} (bounded : frameSz.toNat ≤ FRAME_BUF_SZ)
    (made : setupPacket stack timeStamp frameSz data = some (packetSz, picPacket)) :
    ¬ packetSz < 0 := by
  unfold FRAME_BUF_SZ at bounded
  have total : (10 + frameSz).toNat = 10 + frameSz.toNat := by
    rw [UInt32.toNat_add]
    exact Nat.mod_eq_of_lt (by change 10 + frameSz.toNat < 2 ^ 32; omega)
  have size : packetSz = (10 + frameSz).toInt32 := by
    unfold setupPacket at made
    dsimp only at made
    repeat' split at made
    all_goals cases made
    rfl
  rw [size, Int32.lt_iff_toInt_lt, toInt32_toInt (by omega), total]
  exact Int.not_lt.mpr (Int.natCast_nonneg _)

section Tasks

variable {captured : Option MediaFrame} {stack : Memory BUFSIZE} {shared : Shared}

-- The stages of `take_picture_task` do what `client_save_frame` does.
theorem takeWork_saves {after : CameraMonitor} {result : Int32} (camera : shared.camMon.cam = true)
    (saved : clientSaveFrame true stack ⟨captured⟩ shared.camMon = some (result, after)) :
    ∃ packetSz picPacket middle,
      takeWork true captured stack shared .capture =
        some (shared, .work (.savePacketSize ⟨captured⟩ packetSz picPacket), []) ∧
      takeWork true captured stack shared (.savePacketSize ⟨captured⟩ packetSz picPacket) =
        some (middle, .work (.savePacket ⟨captured⟩ packetSz picPacket), []) ∧
      takeWork true captured stack middle (.savePacket ⟨captured⟩ packetSz picPacket) =
        some ({ shared with camMon := after }, .flip, [.saved ⟨captured⟩ picPacket packetSz]) := by
  unfold clientSaveFrame at saved
  simp only [Bool.not_true, Bool.false_eq_true, if_false] at saved
  split at saved
  · cases saved
  · next packetSz picPacket made =>
    cases saved
    refine ⟨packetSz, picPacket, _, ?_, rfl, rfl⟩
    simp only [takeWork, camera, tryGetFrame, cameraGetFrame, made, Bool.not_true, Bool.false_eq_true,
      if_false]

theorem sendWork_sends {results : List Int32} {sent : List UInt8} {result : Int32}
    (camera : shared.camMon.cam = true)
    (sends : clientSendFrame true results shared.camMon = some (sent, result)) :
    ∃ picPacket packetSz written,
      sendWork true written shared .getPacket = some (shared, .work (.getPacketSize picPacket), []) ∧
      sendWork true written shared (.getPacketSize picPacket) =
        some (shared, .work (.clientWriteN picPacket packetSz), []) ∧
      sendWork true written shared (.clientWriteN picPacket packetSz) =
        some (shared, .flip, [.wrote picPacket packetSz written]) ∧
      writeN ((picPacket.load 0 BUFSIZE).getD []) packetSz.toUInt32 results = some (sent, written) := by
  unfold clientSendFrame at sends
  simp only [Bool.not_true, Bool.false_eq_true, if_false] at sends
  split at sends
  · cases sends
  · next written wrote =>
    cases sends
    refine ⟨_, _, written, ?_, rfl, rfl, wrote⟩
    simp only [sendWork, camera, Bool.not_true, Bool.or_self, Bool.false_eq_true, if_false]

end Tasks

theorem stored_of_fits {fr : Frame} (stack : Memory BUFSIZE) (camMon : CameraMonitor)
    (fits : 10 + (getFrameBytes fr).length ≤ BUFSIZE) : Stored stack fr camMon := by
  have bounded : (getFrameBytes fr).length ≤ FRAME_BUF_SZ := by
    unfold BUFSIZE at fits
    unfold FRAME_BUF_SZ
    omega
  have sized := getFrameSize_toNat bounded
  obtain ⟨packetSz, packet, made, size, bytes⟩ :=
    setupPacket_spec stack (getFrameTimestamp fr) sized (Nat.le_sub_of_add_le' fits)
  refine ⟨(camMon.savePacketSize packetSz).savePacket packet, ?_, size, bytes⟩
  simp only [clientSaveFrame, Bool.not_true, Bool.false_eq_true, if_false, made,
    if_neg (packetSz_nonneg (sized ▸ bounded) made)]

theorem not_rejected_of_oversized {fr : Frame} (stack : Memory BUFSIZE) (camMon : CameraMonitor)
    (bounded : (getFrameBytes fr).length ≤ FRAME_BUF_SZ)
    (oversized : BUFSIZE < 10 + (getFrameBytes fr).length) : ¬ Rejected stack fr camMon := by
  intro rejected
  obtain ⟨picPacket, made⟩ := rejected.encoder
  rw [setupPacket_oversized _ _ (by rw [getFrameSize_toNat bounded]; exact oversized)] at made
  cases made

theorem clientSaveFrame_oversized {fr : Frame} (stack : Memory BUFSIZE) (camMon : CameraMonitor)
    (bounded : (getFrameBytes fr).length ≤ FRAME_BUF_SZ)
    (oversized : BUFSIZE < 10 + (getFrameBytes fr).length) :
    clientSaveFrame true stack fr camMon = none := by
  simp only [clientSaveFrame, Bool.not_true, Bool.false_eq_true, if_false]
  rw [setupPacket_oversized _ _ (by rw [getFrameSize_toNat bounded]; exact oversized)]

/-- A frame is stored or rejected as promised precisely when it fits. -/
theorem saved_or_rejected_iff (stack : Memory BUFSIZE) {fr : Frame} (camMon : CameraMonitor)
    (bounded : (getFrameBytes fr).length ≤ FRAME_BUF_SZ) :
    ((BUFSIZE < 10 + (getFrameBytes fr).length → Rejected stack fr camMon) ∧
        (10 + (getFrameBytes fr).length ≤ BUFSIZE → Stored stack fr camMon)) ↔
      10 + (getFrameBytes fr).length ≤ BUFSIZE := by
  constructor
  · rintro ⟨rejects, _⟩
    by_contra oversized
    have large : BUFSIZE < 10 + (getFrameBytes fr).length := Nat.lt_of_not_le oversized
    exact not_rejected_of_oversized stack camMon bounded large (rejects large)
  · intro fits
    exact ⟨fun oversized => absurd fits (Nat.not_le_of_lt oversized),
      fun _ => stored_of_fits stack camMon fits⟩

theorem one_byte_stored : Stored (.filled _ 0) ⟨some ⟨[7], 0⟩⟩ (.init (.filled _ 0) 0 true) := by
  have law := @saved_or_rejected_iff (.filled _ 0) ⟨some ⟨[7], 0⟩⟩ (.init (.filled _ 0) 0 true)
    (by decide)
  exact (law.mpr (by decide)).2 (by decide)

theorem full_frame_overflows :
    let fr : Frame := ⟨some ⟨List.replicate BUFSIZE 0, 0⟩⟩
    (getFrameBytes fr).length ≤ FRAME_BUF_SZ ∧ BUFSIZE < 10 + (getFrameBytes fr).length ∧
      clientSaveFrame true (.filled _ 0) fr (.init (.filled _ 0) 0 true) = none ∧
      ¬ Rejected (.filled _ 0) fr (.init (.filled _ 0) 0 true) := by
  intro fr
  have long : (getFrameBytes fr).length = BUFSIZE := List.length_replicate
  have bounded : (getFrameBytes fr).length ≤ FRAME_BUF_SZ := by
    rw [long]
    decide
  have oversized : BUFSIZE < 10 + (getFrameBytes fr).length := by omega
  exact ⟨bounded, oversized, clientSaveFrame_oversized _ _ bounded oversized,
    not_rejected_of_oversized _ _ bounded oversized⟩

end NetCam.Camera
