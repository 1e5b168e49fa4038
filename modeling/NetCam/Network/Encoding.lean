import NetCam.Camera.HandOver
import NetCam.Camera.WriteN

/-! The packets of the frames, and what a write puts of them on the connection. -/

set_option autoImplicit false

namespace NetCam.Network

open Semantics Camera

def frameBytes (fr : Frame) : List UInt8 := packetBytes (getFrameTimestamp fr) (getFrameBytes fr)

structure Encodes (fr : Frame) (picPacket : Memory BUFSIZE) (packetSz : Int32) : Prop where
  size : packetSz.toInt = 10 + (getFrameBytes fr).length
  bytes : picPacket.load 0 (10 + (getFrameBytes fr).length) = some (frameBytes fr)
  fits : (getFrameBytes fr).length ≤ BUFSIZE - 10

def wireBytes (picPacket : Memory BUFSIZE) (packetSz : Int32) : List UInt8 :=
  (picPacket.load 0 packetSz.toInt.toNat).getD []

theorem Encodes.wireBytes {fr : Frame} {picPacket : Memory BUFSIZE} {packetSz : Int32}
    (encodes : Encodes fr picPacket packetSz) : wireBytes picPacket packetSz = frameBytes fr := by
  have long : packetSz.toInt.toNat = 10 + (getFrameBytes fr).length := by
    have := encodes.size
    omega
  unfold Network.wireBytes
  rw [long, encodes.bytes]
  rfl

theorem setupPacket_fits {stack picPacket : Memory BUFSIZE} {timeStamp : UInt64} {frameSz : UInt32}
    {data : List UInt8} {packetSz : Int32} (sized : frameSz.toNat = data.length)
    (built : setupPacket stack timeStamp frameSz data = some (packetSz, picPacket)) :
    data.length ≤ BUFSIZE - 10 := by
  have header : (10 : UInt32).toNat = 10 := rfl
  simp only [setupPacket, memcpy_all _ _ data sized, header] at built
  split at built
  · cases built
  split at built
  · cases built
  split at built
  · cases built
  · next stored =>
    have inside := Memory.store_inside stored
    unfold BUFSIZE at *
    omega

theorem encodes_of_setupPacket {fr : Frame} {stack picPacket : Memory BUFSIZE} {packetSz : Int32}
    (held : (getFrameBytes fr).length < 2 ^ 32)
    (built : setupPacket stack (getFrameTimestamp fr) (getFrameSize fr) (getFrameBytes fr) =
      some (packetSz, picPacket)) : Encodes fr picPacket packetSz := by
  have sized : (getFrameSize fr).toNat = (getFrameBytes fr).length := by
    unfold getFrameSize
    rw [UInt32.toNat_ofNat']
    exact Nat.mod_eq_of_lt held
  have fits := setupPacket_fits sized built
  obtain ⟨packetSz', picPacket', built', size, bytes⟩ :=
    setupPacket_spec stack (getFrameTimestamp fr) sized fits
  cases built.symm.trans built'
  exact ⟨size, bytes, fits⟩

def CapturesSized : Action → Prop
  | .take captured _ => (getFrameBytes ⟨captured⟩).length < 2 ^ 32
  | _ => True

instance : (action : Action) → Decidable (CapturesSized action)
  | .take captured _ => inferInstanceAs (Decidable ((getFrameBytes ⟨captured⟩).length < 2 ^ 32))
  | .send _ | .update _ | .accept => inferInstanceAs (Decidable True)

def TakeStageEncodes : TakeStage → Prop
  | .getMode | .capture => True
  | .savePacketSize fr packetSz picPacket | .savePacket fr packetSz picPacket =>
    Encodes fr picPacket packetSz

def frameSaved : ServerEvent → Option Frame
  | .saved fr _ _ => some fr
  | _ => none

def frames (log : List ServerEvent) : List Frame := log.filterMap frameSaved

def EncodesAll (frames : List Frame) (packets : List (Memory BUFSIZE × Int32)) : Prop :=
  List.Forall₂ (fun fr packet => Encodes fr packet.1 packet.2) frames packets

theorem EncodesAll.fits {frames : List Frame} {packets : List (Memory BUFSIZE × Int32)}
    (encodes : EncodesAll frames packets) : ∀ fr ∈ frames, (getFrameBytes fr).length ≤ BUFSIZE - 10 := by
  induction encodes with
  | nil => nofun
  | cons first _ ih =>
    intro fr member
    rcases List.mem_cons.mp member with rfl | behind
    · exact first.fits
    · exact ih fr behind

section Steps

variable {sane : Bool} {s next : Server} {es : List ServerEvent}

theorem encodes_take_step {captured : Option MediaFrame} {stack : Memory BUFSIZE} {shared : Shared}
    {q : Camera.Position TakeStage} (made : s.take.AtWork TakeStageEncodes)
    (sized : CapturesSized (.take captured stack))
    (taken : takePictureTask sane captured stack s.shared s.take = some (shared, q, es)) :
    q.AtWork TakeStageEncodes ∧ EncodesAll (frames es) (saves es) := by
  unfold takePictureTask at taken
  split at taken
  · next stage at_ =>
    rw [at_] at made
    cases takeWork_does taken with
    | getsMode | noCamera | failed => exact ⟨trivial, .nil⟩
    | @packed fr packetSz picPacket _ got =>
      obtain ⟨_, rfl⟩ := tryGetFrame_ok got
      refine ⟨@encodes_of_setupPacket _ stack _ _ sized ?_, .nil⟩
      simp only [tryGetFrame, cameraGetFrame] at got
      split at got
      · cases got
      · split at got
        · cases got
        · next built =>
          cases got
          exact built
    | savesPacketSize => exact ⟨made, .nil⟩
    | savesPacket => exact ⟨trivial, .cons made .nil⟩
  · obtain ⟨_, started, _, logged⟩ := outline_quiet (P := TakeStageEncodes) taken trivial
    rcases logged with rfl | rfl <;> exact ⟨started, .nil⟩

theorem encodes_step {action : Action} (made : s.take.AtWork TakeStageEncodes)
    (sized : CapturesSized action) (taken : Server.step sane s action = some (next, es)) :
    next.take.AtWork TakeStageEncodes ∧ EncodesAll (frames es) (saves es) := by
  cases Server.step_moves taken with
  | take task => exact encodes_take_step made sized task
  | send task =>
    refine ⟨made, ?_⟩
    unfold sendPictureTask at task
    split at task
    · cases sendWork_does task with
      | failed | getsPacket | getsPacketSize | writes => exact .nil
    · obtain ⟨_, _, _, logged⟩ := outline_quiet (P := fun _ => True) task trivial
      rcases logged with rfl | rfl <;> exact .nil
  | update task =>
    obtain ⟨same, _, reported⟩ := updateModeTask_frame task
    refine ⟨same ▸ made, ?_⟩
    rcases reported with rfl | rfl <;> exact .nil
  | accept => exact ⟨trivial, .nil⟩

end Steps

section Writes

def clientWriteN (picPacket : Memory BUFSIZE) (packetSz : Int32) (calls : List Int32) :
    Option (List UInt8 × Int32) :=
  writeN (wireBytes picPacket packetSz) packetSz.toUInt32 calls

def writing (s : Server) : Action → Option (Memory BUFSIZE × Int32)
  | .send _ =>
    match s.send with
    | .work (.clientWriteN picPacket packetSz) => some (picPacket, packetSz)
    | _ => none
  | _ => none

/-- A step of the server, with the bytes that it puts on the connection. The results of the
calls decide what a write returns. -/
def stepOnto (sane : Bool) (s : Server) (action : Action) (calls : List Int32) :
    Option (Server × List ServerEvent × List UInt8) :=
  match writing s action with
  | some (picPacket, packetSz) =>
    match clientWriteN picPacket packetSz calls with
    | some (bytes, written) =>
      match Server.step sane s (.send written) with
      | some (next, es) => some (next, es, bytes)
      | none => none
    | none => none
  | none =>
    match Server.step sane s action with
    | some (next, es) => some (next, es, [])
    | none => none

/-- The kernel answers as documented, and what a call takes from the start of the packet is what
is due there, as when one call takes all of it. -/
def Answered (calls : List Int32) : Option (Memory BUFSIZE × Int32) → Prop
  | some (picPacket, packetSz) =>
    Answers packetSz.toUInt32 0 calls ∧ InStep (wireBytes picPacket packetSz) 0 calls
  | none => True

theorem answers_nil_iff {n written : UInt32} : Answers n written [] ↔ written = n := by
  constructor
  · rintro ⟨⟩
    rfl
  · rintro rfl
    exact .done

theorem answers_cons_iff {n written : UInt32} {tmp : Int32} {results : List Int32} :
    Answers n written (tmp :: results) ↔ written < n ∧ (tmp < 0 ∧ results = [] ∨
      0 < tmp ∧ tmp.toInt ≤ (n - written).toNat ∧ Answers n (written + tmp.toUInt32) results) := by
  constructor
  · intro answers
    cases answers with
    | failed more negative => exact ⟨more, .inl ⟨negative, rfl⟩⟩
    | accepted more positive asked later => exact ⟨more, .inr ⟨positive, asked, later⟩⟩
  · rintro ⟨more, ⟨negative, rfl⟩ | ⟨positive, asked, later⟩⟩
    · exact .failed more negative
    · exact .accepted more positive asked later

instance decidableAnswers (n : UInt32) :
    (written : UInt32) → (results : List Int32) → Decidable (Answers n written results)
  | _, [] => decidable_of_iff _ answers_nil_iff.symm
  | written, tmp :: results =>
    have := decidableAnswers n (written + tmp.toUInt32) results
    decidable_of_iff _ answers_cons_iff.symm

instance decidableInStep (buf : List UInt8) :
    (written : Nat) → (results : List Int32) → Decidable (InStep buf written results)
  | _, [] => inferInstanceAs (Decidable True)
  | written, tmp :: results =>
    have := decidableInStep buf (written + tmp.toNatClampNeg) results
    inferInstanceAs (Decidable (_ ∧ _))

instance (calls : List Int32) : (write : Option (Memory BUFSIZE × Int32)) → Decidable (Answered calls write)
  | some _ => inferInstanceAs (Decidable (_ ∧ _))
  | none => inferInstanceAs (Decidable True)

variable {sane : Bool} {s next : Server} {action : Action} {es : List ServerEvent} {calls : List Int32}
  {picPacket : Memory BUFSIZE} {packetSz written : Int32} {bytes : List UInt8}

theorem step_writing (writes : writing s action = some (picPacket, packetSz))
    (taken : Server.step sane s (.send written) = some (next, es)) : es = [.wrote picPacket packetSz written] := by
  unfold writing at writes
  split at writes
  · split at writes
    · next at_ =>
      cases writes
      cases Server.step_moves taken with
      | send task =>
        rw [at_] at task
        cases task
        rfl
    · cases writes
  · cases writes

theorem step_quiet (quiet : writing s action = none) (taken : Server.step sane s action = some (next, es)) :
    ∀ e ∈ es, e.packetSent = none := by
  cases Server.step_moves taken with
  | take task =>
    unfold takePictureTask at task
    split at task
    · cases takeWork_does task with
      | getsMode | noCamera | failed | packed | savesPacketSize => simp
      | savesPacket => simp [ServerEvent.packetSent]
    · obtain ⟨_, _, _, rfl | rfl⟩ := outline_quiet (P := fun _ => True) task trivial
      · simp
      · simp [ServerEvent.packetSent]
  | send task =>
    unfold sendPictureTask at task
    split at task
    · next at_ =>
      cases sendWork_does task with
      | failed | getsPacket | getsPacketSize => simp
      | writes =>
        unfold writing at quiet
        rw [at_] at quiet
        cases quiet
    · obtain ⟨_, _, _, rfl | rfl⟩ := outline_quiet (P := fun _ => True) task trivial
      · simp
      · simp [ServerEvent.packetSent]
  | update task =>
    obtain ⟨_, _, rfl | rfl⟩ := updateModeTask_frame task
    · simp
    · simp [ServerEvent.packetSent]
  | accept => simp [ServerEvent.packetSent]

theorem stepOnto_cases (taken : stepOnto sane s action calls = some (next, es, bytes)) :
    (∃ picPacket packetSz written, writing s action = some (picPacket, packetSz) ∧
      clientWriteN picPacket packetSz calls = some (bytes, written) ∧
      Server.step sane s (.send written) = some (next, es) ∧ es = [.wrote picPacket packetSz written]) ∨
    Server.step sane s action = some (next, es) ∧ (∀ e ∈ es, e.packetSent = none) ∧ bytes = [] := by
  unfold stepOnto at taken
  split at taken
  · next picPacket packetSz writes =>
    split at taken
    · next written wrote =>
      split at taken
      · next moved =>
        cases taken
        exact .inl ⟨picPacket, packetSz, written, writes, wrote, moved, step_writing writes moved⟩
      · cases taken
    · cases taken
  · next quiet =>
    split at taken
    · next moved =>
      cases taken
      exact .inr ⟨moved, step_quiet quiet moved, rfl⟩
    · cases taken

theorem stepOnto_moves (sized : CapturesSized action)
    (taken : stepOnto sane s action calls = some (next, es, bytes)) :
    ∃ moved, CapturesSized moved ∧ Server.step sane s moved = some (next, es) := by
  rcases stepOnto_cases taken with ⟨_, _, written, _, _, moved, _⟩ | ⟨moved, _⟩
  · exact ⟨.send written, trivial, moved⟩
  · exact ⟨action, sized, moved⟩

theorem Encodes.sends {fr : Frame} (encodes : Encodes fr picPacket packetSz)
    (answered : Answered calls (some (picPacket, packetSz)))
    (wrote : clientWriteN picPacket packetSz calls = some (bytes, written)) :
    bytes = frameBytes fr ∧ ¬ written < 0 ∨ (∃ tmp ∈ calls, tmp < 0) ∧ bytes <+: frameBytes fr ∧ written < 0 := by
  obtain ⟨answers, inStep⟩ := answered
  have size := encodes.size
  have fits := encodes.fits
  have count := (Memory.load_eq_some_iff.mp encodes.bytes).2.1
  have number : packetSz.toUInt32.toNat = 10 + (getFrameBytes fr).length := by
    have whole := @BitVec.toInt_eq_toNat_cond 32 packetSz.toBitVec
    change packetSz.toBitVec.toInt = _ at size
    change packetSz.toBitVec.toNat = _
    split at whole <;> omega
  rw [clientWriteN, encodes.wireBytes] at wrote
  rw [encodes.wireBytes] at inStep
  have delivered := (writeN_delivers_iff (by omega) answers).mpr ⟨inStep, fun _ => by
    unfold BUFSIZE at fits
    omega⟩
  obtain ⟨bytes', written', wrote', delivers⟩ := delivered
  cases wrote.symm.trans wrote'
  rw [List.take_of_length_le (by omega)] at delivers
  rcases answers_cases answers with succeed | failed
  · obtain ⟨rfl, total⟩ := delivers.all succeed
    refine .inl ⟨rfl, fun negative => ?_⟩
    rw [Int32.lt_iff_toInt_lt, total, Int32.toInt_zero] at negative
    omega
  · obtain ⟨front, negative⟩ := delivers.part failed
    exact .inr ⟨failed, front, negative⟩

theorem stepOnto_bytes {fs : List Frame} (answered : Answered calls (writing s action))
    (through : ∀ tmp ∈ calls, 0 < tmp) (taken : stepOnto sane s action calls = some (next, es, bytes))
    (encodes : EncodesAll fs (sends es)) : bytes = fs.flatMap frameBytes := by
  rcases stepOnto_cases taken with ⟨picPacket, packetSz, written, writes, wrote, _, rfl⟩ | ⟨_, quiet, rfl⟩
  · cases encodes with
    | @cons fr _ rest _ first others =>
      cases others
      rw [writes] at answered
      rcases first.sends answered wrote with ⟨rfl, _⟩ | ⟨⟨tmp, member, negative⟩, _⟩
      · simp
      · exact absurd negative (not_neg_of_pos (through tmp member))
  · have none_sent : sends es = [] := List.filterMap_eq_nil_iff.mpr quiet
    rw [none_sent] at encodes
    cases encodes
    rfl

end Writes

end NetCam.Network
