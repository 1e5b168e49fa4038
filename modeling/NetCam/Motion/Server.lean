import NetCam.Semantics.Decimal
import NetCam.Semantics.Memory
import NetCam.Semantics.Trace

/-! `motion_server.c`, on the 32-bit target, where a `long` has 32 bits.

The camera notifies the server on one port, clients ask for the times on another. The task
for notifications reads all of them into one buffer. What the C standard leaves undefined
has no result here.
-/

set_option autoImplicit false

namespace NetCam.Motion

open Semantics

def REQUEST_SIZE : Nat := 1024

def BUFSIZE : Nat := 1000

/-- The fields of `struct global_state` that outlive a request. -/
structure GlobalState where
  tLocal : Int32
  tRemote : Int32
  deriving DecidableEq, Repr

def FitsLong (z : Int) : Prop := -2 ^ 31 ≤ z ∧ z < 2 ^ 31

instance (z : Int) : Decidable (FitsLong z) := inferInstanceAs (Decidable (_ ∧ _))

def long (z : Int) : Option Int32 := if FitsLong z then some (Int32.ofInt z) else none

/-- `atol` on the bytes that may be read: the number has to end before they do. -/
def atol (text : List UInt8) : Option Int32 :=
  let text := text.map UInt8.toNat
  if afterInt text = [] then none else long (leadingInt text)

/-- `strncmp` finds the text, which has no NUL in it, at the offset. -/
def startsWith {size : Nat} (buf : Memory size) (offset : Nat) (text : List UInt8) : Bool :=
  buf.load offset text.length == some text

/-- `snprintf` into an array of this size, without the NUL it adds. -/
def snprintf (size : Nat) (text : List UInt8) : List UInt8 := text.take (size - 1)

def parseMotionRequest (buf : Memory REQUEST_SIZE) (now : Int32) (state : GlobalState) :
    Option (Int32 × GlobalState) :=
  if !startsWith buf 0 (ascii "GET ") && !startsWith buf 0 (ascii "get ") then some (501, state)
  else if !startsWith buf 4 (ascii "/motion") then some (404, state)
  else
    -- without the parameter the time is set to zero, with a warning
    let tRemote :=
      if startsWith buf 11 (ascii "?Message=") then (buf.load 20 (REQUEST_SIZE - 20)).bind atol
      else some 0
    match tRemote with
    | some tRemote => some (1, { tLocal := now, tRemote := tRemote })
    | none => none

def parseHttpRequest (buf : Memory REQUEST_SIZE) : Int32 :=
  if !startsWith buf 0 (ascii "GET ") && !startsWith buf 0 (ascii "get ") then 501
  else if !startsWith buf 4 (ascii "/ ") && !startsWith buf 4 (ascii "/motion.txt ") then 404
  else 0

/-- What one read takes from a connection, and `time(0)` when it is looked at. -/
structure Request where
  bytes : List UInt8
  now : Int32
  short : bytes.length ≤ REQUEST_SIZE

/-- What a poll leads to; a connection that was read is answered, and its `close` can fail. -/
inductive Poll where
  | acceptFails
  | readFails
  | delivers (request : Request) (closed : Bool)

structure MotionTask where
  state : GlobalState
  buf : Memory REQUEST_SIZE
  exited : Bool

def MotionTask.start (state : GlobalState) : MotionTask :=
  { state := state, buf := .filled REQUEST_SIZE 0, exited := false }

/-- One turn of `motion_task` after a poll, with the result of `parse_motion_request`. A read
stores over the front of the buffer, and the parser looks at all of it. -/
def motionTask : Step MotionTask Poll Int32 := fun task polled =>
  if task.exited then none
  else
    match polled with
    | .acceptFails => some (task, [])
    | .readFails => some ({ task with exited := true }, [])
    | .delivers request closed =>
      match task.buf.store 0 request.bytes with
      | none => none
      | some buf =>
        match parseMotionRequest buf request.now task.state with
        | none => none
        | some (hres, state) => some ({ state := state, buf := buf, exited := !closed }, [hres])

def times (tdiff tLocal tRemote : Int32) : List Nat :=
  signedNumeral tdiff.toInt ++ [58] ++ signedNumeral tLocal.toInt ++ [58] ++
    signedNumeral tRemote.toInt

def respond (status : String) (msg : List UInt8) : List UInt8 :=
  snprintf BUFSIZE (ascii "HTTP/1.0 " ++ ascii status ++ (numeral msg.length).map UInt8.ofNat ++
    ascii "\nContent-Type: text/plain\n\n" ++ msg)

def okResponse (tdiff tLocal tRemote : Int32) : List UInt8 :=
  respond "200 OK\nContent-Length:"
    (snprintf 100 ((times tdiff tLocal tRemote).map UInt8.ofNat))

/-- The bytes that `serve_client` sends for the request it has read. -/
def serveClient (state : GlobalState) (request : Request) : Option (List UInt8) :=
  match (Memory.filled REQUEST_SIZE 0).store 0 request.bytes with
  | none => none
  | some buf =>
    let hres := parseHttpRequest buf
    if hres = 0 then
      (long (request.now.toInt - state.tLocal.toInt)).map fun tdiff =>
        okResponse tdiff state.tLocal state.tRemote
    else if hres = 404 then
      some (respond "404 Not Found\nContent-Length: " (ascii "404: File not found"))
    else some (respond "501 Not Implemented\nContent-Length: " (ascii "501: Not implemented"))

section Longs

theorem long_eq_some_iff {z : Int} {t : Int32} : long z = some t ↔ t.toInt = z := by
  unfold long
  constructor
  · intro held
    split at held
    · next fits =>
      cases held
      exact Int32.toInt_ofInt_of_le fits.1 fits.2
    · cases held
  · rintro rfl
    rw [if_pos ⟨t.le_toInt, t.toInt_lt⟩, Int32.ofInt_toInt]

theorem long_isSome_iff {z : Int} : (∃ t, long z = some t) ↔ FitsLong z := by
  unfold long
  split
  · next fits => exact iff_of_true ⟨_, rfl⟩ fits
  · next wide => exact iff_of_false (by simp) wide

theorem atol_eq_some_iff {text : List UInt8} {t : Int32} :
    atol text = some t ↔
      afterInt (text.map UInt8.toNat) ≠ [] ∧ t.toInt = leadingInt (text.map UInt8.toNat) := by
  unfold atol
  dsimp only
  split
  · next endless => simp [endless]
  · next ends => rw [long_eq_some_iff, and_iff_right ends]

end Longs

end NetCam.Motion
