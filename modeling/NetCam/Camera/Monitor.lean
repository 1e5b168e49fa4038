import NetCam.Camera.Packet

/-! `camera_monitor.c` and `camera.c`: what the tasks of the camera server share, and
where their frames come from.

Every function of the monitor is one critical section of `camera_mutex`. `init` sets the
mode and the turn; the packet slot keeps whatever `malloc` returned.
-/

set_option autoImplicit false

namespace NetCam.Camera

open Semantics

def IDLE_MODE : Int32 := 0

def SEND_PIC_STATE : Int32 := 1
def TAKE_PIC_STATE : Int32 := 0

structure CameraMonitor where
  picPacket : Memory BUFSIZE
  packetSz : Int32
  mode : Int32
  picTakeSend : Int32
  /-- the camera pointer is not null -/
  cam : Bool

namespace CameraMonitor

def init (picPacket : Memory BUFSIZE) (packetSz : Int32) (cam : Bool) : CameraMonitor :=
  { picPacket := picPacket, packetSz := packetSz, mode := IDLE_MODE, picTakeSend := TAKE_PIC_STATE,
    cam := cam }

def getPicTakeSend (camMon : CameraMonitor) : Int32 := camMon.picTakeSend

def flipPicTakeSend (camMon : CameraMonitor) : CameraMonitor :=
  if camMon.picTakeSend = 1 then { camMon with picTakeSend := 0 } else { camMon with picTakeSend := 1 }

def setMode (camMon : CameraMonitor) (val : Int32) : CameraMonitor := { camMon with mode := val }

def getMode (camMon : CameraMonitor) : Int32 := camMon.mode

def getPacket (camMon : CameraMonitor) : Memory BUFSIZE := camMon.picPacket

def savePacket (camMon : CameraMonitor) (pic : Memory BUFSIZE) : CameraMonitor :=
  { camMon with picPacket := pic }

def getPacketSize (camMon : CameraMonitor) : Int32 := camMon.packetSz

def savePacketSize (camMon : CameraMonitor) (packetSz : Int32) : CameraMonitor :=
  { camMon with packetSz := packetSz }

theorem flip_take {camMon : CameraMonitor} (turn : camMon.picTakeSend = TAKE_PIC_STATE) :
    camMon.flipPicTakeSend = { camMon with picTakeSend := SEND_PIC_STATE } := by
  unfold flipPicTakeSend
  rw [turn]
  rfl

theorem flip_send {camMon : CameraMonitor} (turn : camMon.picTakeSend = SEND_PIC_STATE) :
    camMon.flipPicTakeSend = { camMon with picTakeSend := TAKE_PIC_STATE } := by
  unfold flipPicTakeSend
  rw [turn]
  rfl

end CameraMonitor

structure MediaFrame where
  data : List UInt8
  timestamp : UInt64
  deriving DecidableEq, Repr

/-- The wrapper of `camera.h`. Its pointer is null when `capture_get_frame` returned null,
and the accessors then give null, zero and zero. -/
structure Frame where
  fr : Option MediaFrame
  deriving DecidableEq, Repr

/-- The wrapper itself is never null. -/
def cameraGetFrame (fr : Option MediaFrame) : Option Frame := some { fr := fr }

def getFrameBytes (f : Frame) : List UInt8 := (f.fr.map MediaFrame.data).getD []

def getFrameSize (f : Frame) : UInt32 := UInt32.ofNat (getFrameBytes f).length

def getFrameTimestamp (f : Frame) : UInt64 := (f.fr.map MediaFrame.timestamp).getD 0

end NetCam.Camera
