import NetCam.Network.PictureReciever

/-! Reassembly of pictures from a stream that arrives in chunks.

The payload loop is independent of the chunks. The header loop is not: from the third
chunk on it stores at the size of the chunk before, so the header that is decoded is
the one `lay` describes.
-/

set_option autoImplicit false

namespace NetCam.Network

open Semantics

def timeStampIn (header : List UInt8) : Int64 := (getInt (header.take 4)).toInt64

def sizeIn (header : List UInt8) : Nat := (getInt ((header.drop 8).take 2 ++ [0, 0])).toNatClampNeg

structure Packet where
  header : List UInt8
  payload : List UInt8
  headed : header.length = HEAD_SIZE
  sized : sizeIn header = payload.length
  fits : payload.length ≤ MAXIMUM_PICTURE_SIZE - HEAD_SIZE

namespace Packet

def bytes (packet : Packet) : List UInt8 := packet.header ++ packet.payload

def picture (packet : Packet) : Client.Picture := ⟨packet.payload, timeStampIn packet.header⟩

theorem length_bytes (packet : Packet) : packet.bytes.length = HEAD_SIZE + packet.payload.length := by
  rw [bytes, List.length_append, packet.headed]

end Packet

/-- The packets of which all bytes are among the first `arrived`. -/
def complete : Nat → List Packet → List Packet
  | _, [] => []
  | arrived, packet :: rest =>
    if packet.bytes.length ≤ arrived then packet :: complete (arrived - packet.bytes.length) rest
    else []

/-- A packet whose header arrived whole: the chunks it came in, and how much came after it. -/
structure Arrival where
  packet : Packet
  chunks : List Nat
  behind : Nat

def arrivals : List Nat → Nat → List Packet → List Arrival
  | _, _, [] => []
  | cuts, arrived, packet :: rest =>
    if arrived < HEAD_SIZE then []
    else
      let division := divide cuts HEAD_SIZE
      let arrival : Arrival := ⟨packet, division.1, arrived - HEAD_SIZE⟩
      if packet.bytes.length ≤ arrived then
        arrival ::
          arrivals (divide division.2 packet.payload.length).2 (arrived - packet.bytes.length) rest
      else [arrival]

namespace PictureReciever

/-- The header as the header loop leaves it in the buffer. -/
def laidHeader (chunks : List Nat) (header : List UInt8) : List UInt8 :=
  lay (fun _ n => n) (List.replicate HEAD_SIZE 65) 0 chunks header

end PictureReciever

open PictureReciever

/-- Storing the header's chunks where the loop does changes nothing that is read from it.
Of a packet that was cut off only the size matters: it must ask for more than there is. -/
def Arrival.Kept (arrival : Arrival) : Prop :=
  let laid := laidHeader arrival.chunks arrival.packet.header
  if arrival.packet.payload.length ≤ arrival.behind then
    timeStampIn laid = timeStampIn arrival.packet.header ∧ sizeIn laid = arrival.packet.payload.length
  else arrival.behind < sizeIn laid

instance (arrival : Arrival) : Decidable arrival.Kept := by
  unfold Arrival.Kept
  infer_instance

theorem steady_last : Steady fun _ n => n := by
  intro off n left
  exact Nat.le_add_left (n + left) off

theorem steady_sum : Steady fun position n => position + n := by
  intro off n left
  exact Nat.le_of_eq (Nat.add_assoc off n left)

theorem lay_sum {cells bytes : List UInt8} {off : Nat} {chunks : List Nat}
    (whole : chunks.sum = bytes.length) (inside : off + bytes.length ≤ cells.length) :
    lay (fun position n => position + n) cells off chunks bytes = Memory.splice cells off bytes := by
  induction chunks generalizing cells bytes off with
  | nil =>
    have none_left : bytes = [] := List.eq_nil_of_length_eq_zero whole.symm
    simp [lay, none_left, Memory.splice]
  | cons n chunks ih =>
    rw [List.sum_cons] at whole
    have count : (bytes.take n).length = n := by
      rw [List.length_take]
      omega
    have spliced : (Memory.splice cells off (bytes.take n)).length = cells.length := by
      simp only [Memory.splice, List.length_append, List.length_take, List.length_drop, count]
      omega
    rw [lay, ih (by rw [List.length_drop]; omega) (by rw [List.length_drop, spliced]; omega)]
    calc Memory.splice (Memory.splice cells off (bytes.take n)) (off + n) (bytes.drop n)
        = Memory.splice (Memory.splice cells off (bytes.take n)) (off + (bytes.take n).length)
            (bytes.drop n) := by rw [count]
      _ = Memory.splice cells off bytes := by
          rw [Memory.splice_append (by omega), List.take_append_drop]

theorem lay_of_two {cells bytes : List UInt8} {chunks : List Nat} (few : chunks.length ≤ 2)
    (whole : chunks.sum = bytes.length) (inside : bytes.length ≤ cells.length) :
    lay (fun _ n => n) cells 0 chunks bytes = Memory.splice cells 0 bytes := by
  -- the offset of a second chunk is the size of the first, as it should be
  have in_order : lay (fun _ n => n) cells 0 chunks bytes =
      lay (fun position n => position + n) cells 0 chunks bytes := by
    match chunks, few with
    | [], _ => rfl
    | [_], _ => rfl
    | [first, _], _ => simp [lay]
  rw [in_order, lay_sum whole (by omega)]

theorem laidHeader_of_two {chunks : List Nat} {header : List UInt8} (few : chunks.length ≤ 2)
    (headed : header.length = HEAD_SIZE) (whole : chunks.sum = HEAD_SIZE) :
    laidHeader chunks header = header := by
  have inside : header.length ≤ (List.replicate HEAD_SIZE (65 : UInt8)).length := by
    rw [List.length_replicate, headed]
  unfold laidHeader
  rw [lay_of_two few (by rw [whole, headed]) inside]
  exact Memory.splice_all (by rw [List.length_replicate, headed])

theorem fields_of_header {buffer : Buffer} {header : List UInt8}
    (loaded : buffer.load 0 HEAD_SIZE = some header) :
    PicturePack.getTimeStamp buffer = some (timeStampIn header) ∧
      PicturePack.getPictureSize buffer = some (getInt ((header.drop 8).take 2 ++ [0, 0])) := by
  have time := Memory.load_within 0 4 loaded (by decide)
  have length := Memory.load_within 8 2 loaded (by decide)
  unfold PicturePack.getTimeStamp PicturePack.getPictureSize
  rw [time, length]
  exact ⟨rfl, rfl⟩

section Receive

variable {is : InputStream}

def header (is : InputStream) : List UInt8 :=
  laidHeader (divide is.cuts HEAD_SIZE).1 (is.pending.take HEAD_SIZE)

def afterHeader (is : InputStream) : InputStream :=
  { is with pending := is.pending.drop HEAD_SIZE, cuts := (divide is.cuts HEAD_SIZE).2 }

theorem headerLoop_complete (there : HEAD_SIZE ≤ is.pending.length) :
    ∃ filled : Buffer,
      headerLoop (HEAD_SIZE + 1) (.filled MAXIMUM_PICTURE_SIZE 65) 0 HEAD_SIZE is =
        .ok (0, filled) (afterHeader is) ∧
      filled.load 0 HEAD_SIZE = some (header is) :=
  readLoop_complete steady_last (Nat.le_of_eq (Nat.zero_add _)) there (Nat.lt_succ_self _)
    (Memory.load_filled (by decide))

theorem payloadLoop_complete (buffer : Buffer) {size turns : Nat}
    (inside : HEAD_SIZE + size ≤ MAXIMUM_PICTURE_SIZE) (there : size ≤ is.pending.length)
    (enough : size < turns) : ∃ filled : Buffer,
      payloadLoop turns buffer HEAD_SIZE size is =
        .ok (0, filled)
          { is with pending := is.pending.drop size, cuts := (divide is.cuts size).2 } ∧
      filled.load HEAD_SIZE size = some (is.pending.take size) := by
  obtain ⟨cells, loaded⟩ : ∃ cells, buffer.load 0 (HEAD_SIZE + size) = some cells :=
    Memory.load_isSome buffer (by omega)
  have long := (Memory.load_eq_some_iff.mp loaded).2.1
  have taken : (is.pending.take size).length = size := by
    rw [List.length_take]
    omega
  obtain ⟨filled, done, laid⟩ :=
    readLoop_complete steady_sum (Nat.le_refl _) there enough loaded
  refine ⟨filled, done, ?_⟩
  -- with offsets that add up the chunks do not matter, and the header stays in front
  rw [lay_sum (by rw [divide_sum, taken]) (by rw [taken, long])] at laid
  have part := Memory.load_within HEAD_SIZE size laid (by omega)
  rw [part]
  have front : (cells.take HEAD_SIZE).length = HEAD_SIZE := by
    rw [List.length_take]
    omega
  unfold Memory.splice
  rw [List.append_assoc, List.drop_left' front, List.take_left' taken]

/-- What a turn comes to once the header loop has its ten bytes. -/
theorem receive_body {first : Buffer} {next : InputStream} {header : List UInt8}
    (headed : headerLoop (HEAD_SIZE + 1) (.filled MAXIMUM_PICTURE_SIZE 65) 0 HEAD_SIZE is =
      .ok (0, first) next)
    (loaded : first.load 0 HEAD_SIZE = some header) :
    receive is =
      match payloadLoop (sizeIn header + 1) first HEAD_SIZE (sizeIn header) next with
      | .ok (left, buffer) last =>
        if left ≠ 0 then .ok none last
        else
          match buffer.load HEAD_SIZE (sizeIn header) with
          | some imageData => .ok (some ⟨imageData, timeStampIn header⟩) last
          | none => .error .indexOutOfBounds last
      | .error failure last => .error failure last := by
  obtain ⟨time, length⟩ := fields_of_header loaded
  have folded : (getInt ((header.drop 8).take 2 ++ [0, 0])).toNatClampNeg = sizeIn header := rfl
  simp only [receive, bind, EStateM.bind, headed, time, length, folded, ne_eq, not_true_eq_false,
    if_false]
  cases payloadLoop (sizeIn header + 1) first HEAD_SIZE (sizeIn header) next with
  | ok result last =>
    obtain ⟨left, buffer⟩ := result
    dsimp only
    split
    · rfl
    · cases buffer.load HEAD_SIZE (sizeIn header) <;> rfl
  | error failure last => rfl

theorem receive_delivers (there : HEAD_SIZE ≤ is.pending.length)
    (inside : HEAD_SIZE + sizeIn (header is) ≤ MAXIMUM_PICTURE_SIZE)
    (behind : sizeIn (header is) ≤ (afterHeader is).pending.length) :
    receive is =
      .ok (some ⟨(afterHeader is).pending.take (sizeIn (header is)), timeStampIn (header is)⟩)
        { is with
          pending := (afterHeader is).pending.drop (sizeIn (header is))
          cuts := (divide (afterHeader is).cuts (sizeIn (header is))).2 } := by
  obtain ⟨first, headed, loaded⟩ := headerLoop_complete there
  obtain ⟨second, done, body⟩ := payloadLoop_complete first inside behind (Nat.lt_succ_self _)
  rw [receive_body headed loaded]
  simp only [done, body]
  rfl

-- One turn puts nothing, and there is nothing more to come.
def Silent (is : InputStream) : Prop :=
  ∃ last, (receive is = .ok none last ∧ last.pending = [] ∧ last.reset = false) ∨
    receive is = .error .ioException last ∨ receive is = .error .indexOutOfBounds last

theorem silent_of_short_header (short : is.pending.length < HEAD_SIZE) : Silent is := by
  obtain ⟨last, ended, same, outcome⟩ := @readLoop_short MAXIMUM_PICTURE_SIZE (fun _ n => n)
    steady_last (HEAD_SIZE + 1) 0 HEAD_SIZE (.filled _ 65) is (by decide) short (Nat.lt_succ_self _)
  refine ⟨last, ?_⟩
  rcases outcome with ⟨_, failed⟩ | ⟨calm, left, filled, more, stopped⟩
  · right; left
    simp only [receive, headerLoop, bind, EStateM.bind, failed]
  · left
    refine ⟨?_, ended, same.trans calm⟩
    simp only [receive, headerLoop, bind, EStateM.bind, stopped, ne_eq, more, not_false_eq_true, if_true]
    rfl

theorem silent_of_outside (there : HEAD_SIZE ≤ is.pending.length)
    (outside : MAXIMUM_PICTURE_SIZE < HEAD_SIZE + sizeIn (header is)) : Silent is := by
  obtain ⟨first, headed, loaded⟩ := headerLoop_complete there
  refine ⟨afterHeader is, .inr (.inr ?_)⟩
  rw [receive_body headed loaded]
  -- the first read is asked to store past the end of the buffer
  simp only [payloadLoop, readLoop_outside outside]

theorem silent_of_short_payload (there : HEAD_SIZE ≤ is.pending.length)
    (short : (afterHeader is).pending.length < sizeIn (header is)) : Silent is := by
  by_cases inside : HEAD_SIZE + sizeIn (header is) ≤ MAXIMUM_PICTURE_SIZE
  · obtain ⟨first, headed, loaded⟩ := headerLoop_complete there
    unfold Silent
    rw [receive_body headed loaded]
    obtain ⟨last, ended, same, outcome⟩ := @readLoop_short _ _ steady_sum
      (sizeIn (header is) + 1) _ _ first _ inside short (Nat.lt_succ_self _)
    refine ⟨last, ?_⟩
    rcases outcome with ⟨_, failed⟩ | ⟨calm, left, filled, more, stopped⟩
    · right; left
      simp only [payloadLoop, failed]
    · left
      refine ⟨?_, ended, same.trans calm⟩
      simp only [payloadLoop, stopped]
      exact if_pos more
  · exact silent_of_outside there (Nat.lt_of_not_le inside)

/-- A turn puts a picture or is the last one that could. -/
theorem receive_cases (is : InputStream) : Silent is ∨ ∃ pic next, receive is = .ok (some pic) next := by
  by_cases there : HEAD_SIZE ≤ is.pending.length
  · by_cases inside : HEAD_SIZE + sizeIn (header is) ≤ MAXIMUM_PICTURE_SIZE
    · by_cases behind : sizeIn (header is) ≤ (afterHeader is).pending.length
      · exact .inr ⟨_, _, receive_delivers there inside behind⟩
      · exact .inl (silent_of_short_payload there (Nat.lt_of_not_le behind))
    · exact .inl (silent_of_outside there (Nat.lt_of_not_le inside))
  · exact .inl (silent_of_short_header (Nat.lt_of_not_le there))

end Receive

section Run

theorem receiveAll_silent {is : InputStream} (silent : Silent is) (turns : Nat) :
    (receiveAll (turns + 1) is).1 = [] := by
  obtain ⟨last, ⟨stopped, _⟩ | failed | failed⟩ := silent
  all_goals simp only [receiveAll, *]

/-- The inner loop is left by its breaks only at the end of the stream. -/
theorem receiveAll_break {turns : Nat} {is last : InputStream}
    (left : (receiveAll turns is).2 = .ok () last) : last.pending = [] ∧ last.reset = false := by
  induction turns generalizing is with
  | zero => cases left
  | succ turns ih =>
    rcases receive_cases is with silent | ⟨pic, next, put⟩
    · obtain ⟨end_, ⟨stopped, ended, calm⟩ | failed | failed⟩ := silent
      · simp only [receiveAll, stopped] at left
        cases left
        exact ⟨ended, calm⟩
      · simp only [receiveAll, failed] at left
        cases left
      · simp only [receiveAll, failed] at left
        cases left
    · simp only [receiveAll, put] at left
      exact ih left

theorem receiveAll_ended {is : InputStream} (ended : is.pending = []) (turns : Nat) :
    (receiveAll (turns + 1) is).1 = [] :=
  receiveAll_silent (silent_of_short_header (by rw [ended]; decide)) turns

theorem run_inactive (turns : Nat) {link : Link} (idle : link.netMonitor.isActive = false) :
    (PictureReciever.run turns link).1 = [] := by
  cases turns with
  | zero => rfl
  | succ turns =>
    unfold PictureReciever.run
    split
    · rfl
    · rw [if_pos (by rw [NetMonitor.waitUntilActive, idle]; rfl)]

theorem run_ended (turns : Nat) {link : Link} {socket : Nat}
    (current : link.netMonitor.getSocket = some socket)
    (ended : (link.streams socket).pending = []) : (PictureReciever.run turns link).1 = [] := by
  induction turns generalizing link with
  | zero => rfl
  | succ turns ih =>
    have nothing := receiveAll_ended ended 0
    unfold PictureReciever.run
    split
    · rfl
    split
    · rfl
    simp only [current, ended, List.length_nil, nothing, List.nil_append]
    split
    · next last left =>
      have again : (Function.update link.streams socket last socket).pending = [] := by
        rw [Function.update_self]
        exact (receiveAll_break left).1
      exact @ih { link with streams := Function.update link.streams socket last } current again
    · exact run_inactive turns rfl
    · rfl

/-- All that a connection ever gives is put by its first session. -/
theorem run_connected (turns : Nat) (is : InputStream) :
    (PictureReciever.run (turns + 1) (.connected is)).1 =
      (receiveAll (is.pending.length + 1) is).1 := by
  unfold PictureReciever.run
  rw [if_neg (by simp [Link.connected, NetMonitor.isShutdown]),
    if_neg (by simp [Link.connected, NetMonitor.waitUntilActive])]
  simp only [Link.connected, NetMonitor.getSocket]
  split
  · next last left =>
    have ended : (Function.update (fun _ => is) 0 last 0).pending = [] := by
      rw [Function.update_self]
      exact (receiveAll_break left).1
    rw [run_ended turns rfl ended, List.append_nil]
  · rw [run_inactive turns rfl, List.append_nil]
  · rfl

end Run

/-- The first packet of the stream, the part of it that has arrived being cut at will. -/
theorem first_header {packet : Packet} {more : List UInt8} {cuts : List Nat} {arrived : Nat}
    {reset : Bool} {is : InputStream}
    (stream : is = { pending := (packet.bytes ++ more).take arrived, cuts := cuts, reset := reset })
    (headed : HEAD_SIZE ≤ arrived) :
    HEAD_SIZE ≤ is.pending.length ∧
      header is = laidHeader (divide cuts HEAD_SIZE).1 packet.header ∧
      afterHeader is =
        { pending := (packet.payload ++ more).take (arrived - HEAD_SIZE)
          cuts := (divide cuts HEAD_SIZE).2
          reset := reset } := by
  subst stream
  unfold header afterHeader Packet.bytes
  rw [List.append_assoc]
  refine ⟨?_, ?_, ?_⟩
  · rw [List.length_take, List.length_append, packet.headed]
    omega
  · rw [List.take_take, Nat.min_eq_left headed, List.take_left' packet.headed]
  · rw [List.drop_take, List.drop_left' packet.headed]

/-- A turn on a stream whose header is there puts what the header as laid asks for, if
that many bytes follow and fit. -/
theorem receiveAll_header (turns : Nat) {is : InputStream} (there : HEAD_SIZE ≤ is.pending.length) :
    let size := sizeIn (header is)
    let next : InputStream :=
      { is with
        pending := (afterHeader is).pending.drop size
        cuts := (divide (afterHeader is).cuts size).2 }
    (receiveAll (turns + 1) is).1 =
      if HEAD_SIZE + size ≤ MAXIMUM_PICTURE_SIZE ∧ size ≤ (afterHeader is).pending.length then
        ⟨(afterHeader is).pending.take size, timeStampIn (header is)⟩ :: (receiveAll turns next).1
      else [] := by
  intro size next
  split
  · next room =>
    simp only [receiveAll, receive_delivers there room.1 room.2]
    rfl
  · next room =>
    apply receiveAll_silent
    by_cases inside : HEAD_SIZE + size ≤ MAXIMUM_PICTURE_SIZE
    · exact silent_of_short_payload there (by omega)
    · exact silent_of_outside there (by omega)

/-- Of a packet that is there whole, the next picture is its own exactly if both fields are. -/
theorem first_picture_iff {packet : Packet} {more : List UInt8} {there size : Nat} {ts : Int64}
    {later expected : List Client.Picture} (whole : packet.payload.length ≤ there) :
    ((if HEAD_SIZE + size ≤ MAXIMUM_PICTURE_SIZE ∧
          size ≤ ((packet.payload ++ more).take there).length then
        ⟨((packet.payload ++ more).take there).take size, ts⟩ :: later
      else []) = packet.picture :: expected) ↔
      (ts = timeStampIn packet.header ∧ size = packet.payload.length) ∧ later = expected := by
  have fits := packet.fits
  constructor
  · intro same
    split at same
    · next room =>
      obtain ⟨head, tail⟩ := List.cons.inj same
      obtain ⟨body, time⟩ := Client.Picture.mk.inj head
      have taken := congrArg List.length body
      rw [List.length_take, Nat.min_eq_left room.2] at taken
      exact ⟨⟨time, taken⟩, tail⟩
    · cases same
  · rintro ⟨⟨rfl, rfl⟩, rfl⟩
    rw [if_pos, List.take_take, Nat.min_eq_left whole, List.take_left' rfl]
    · rfl
    · unfold HEAD_SIZE MAXIMUM_PICTURE_SIZE at *
      rw [List.length_take, List.length_append]
      omega

theorem no_picture_iff {packet : Packet} {more : List UInt8} {there size : Nat} {ts : Int64}
    {later : List Client.Picture} (cut : there < packet.payload.length) :
    ((if HEAD_SIZE + size ≤ MAXIMUM_PICTURE_SIZE ∧
          size ≤ ((packet.payload ++ more).take there).length then
        ⟨((packet.payload ++ more).take there).take size, ts⟩ :: later
      else []) = []) ↔ there < size := by
  have fits := packet.fits
  have held : ((packet.payload ++ more).take there).length = there := by
    rw [List.length_take, List.length_append]
    omega
  rw [held]
  unfold HEAD_SIZE MAXIMUM_PICTURE_SIZE at *
  split
  · next room => exact iff_of_false (List.cons_ne_nil _ _) (by omega)
  · next room => exact iff_of_true rfl (by omega)

/-- What the inner loop puts, for the packets of which `arrived` bytes have come. -/
theorem receiveAll_iff (packets : List Packet) (cuts : List Nat) (arrived : Nat) (reset : Bool)
    {turns : Nat} (enough : ((packets.flatMap Packet.bytes).take arrived).length < turns) :
    (receiveAll turns
        { pending := (packets.flatMap Packet.bytes).take arrived, cuts := cuts, reset := reset }).1 =
        (complete arrived packets).map Packet.picture ↔
      ∀ arrival ∈ arrivals cuts arrived packets, arrival.Kept := by
  induction packets generalizing cuts arrived turns with
  | nil =>
    obtain ⟨turns, rfl⟩ := Nat.exists_eq_succ_of_ne_zero (Nat.ne_of_gt (Nat.zero_lt_of_lt enough))
    refine iff_of_true ?_ (by simp [arrivals])
    exact receiveAll_ended (by simp) turns
  | cons packet rest ih =>
    obtain ⟨turns, rfl⟩ := Nat.exists_eq_succ_of_ne_zero (Nat.ne_of_gt (Nat.zero_lt_of_lt enough))
    have long := packet.length_bytes
    have fits := packet.fits
    rw [List.flatMap_cons]
    generalize stream : ({ pending := (packet.bytes ++ rest.flatMap Packet.bytes).take arrived
                           cuts := cuts
                           reset := reset } : InputStream) = is
    by_cases short : arrived < HEAD_SIZE
    -- the header was cut off: neither side has another packet
    · have nothing : Silent is := by
        apply silent_of_short_header
        rw [← stream, List.length_take]
        omega
      rw [receiveAll_silent nothing, complete, if_neg (by omega), arrivals, if_pos short]
      simp
    obtain ⟨there, laid, after⟩ := first_header stream.symm (Nat.le_of_not_lt short)
    rw [receiveAll_header turns there, laid, after, complete, arrivals, if_neg short]
    dsimp only
    by_cases whole : packet.bytes.length ≤ arrived
    -- the packet is there: its own picture must be right, and the rest is the hypothesis
    · have all : packet.payload.length ≤ arrived - HEAD_SIZE := by omega
      rw [if_pos whole, if_pos whole, List.forall_mem_cons, List.map_cons, first_picture_iff all]
      unfold Arrival.Kept
      rw [if_pos all]
      apply and_congr_right
      rintro ⟨_, size⟩
      rw [size, ← stream, List.drop_take, List.drop_left' rfl, Nat.sub_sub, ← long]
      apply ih
      rw [List.flatMap_cons, List.length_take, List.length_append] at enough
      rw [List.length_take]
      unfold HEAD_SIZE at long
      omega
    -- the payload was cut off: nothing more may be put
    · have cut : arrived - HEAD_SIZE < packet.payload.length := by omega
      rw [if_neg whole, if_neg whole, List.forall_mem_singleton, List.map_nil, no_picture_iff cut]
      unfold Arrival.Kept
      rw [if_neg (Nat.not_le_of_lt cut)]

theorem arrivals_whole_header {packets : List Packet} {cuts : List Nat} {arrived : Nat} :
    ∀ arrival ∈ arrivals cuts arrived packets, arrival.chunks.sum = HEAD_SIZE := by
  induction packets generalizing cuts arrived with
  | nil => simp [arrivals]
  | cons packet rest ih =>
    unfold arrivals
    split
    · simp
    dsimp only
    split
    · exact List.forall_mem_cons.mpr ⟨divide_sum _ _, ih⟩
    · exact List.forall_mem_singleton.mpr (divide_sum _ _)

theorem kept_of_two_chunks {arrival : Arrival} (few : arrival.chunks.length ≤ 2)
    (whole : arrival.chunks.sum = HEAD_SIZE) : arrival.Kept := by
  have sized := arrival.packet.sized
  unfold Arrival.Kept
  rw [laidHeader_of_two few arrival.packet.headed whole]
  dsimp only
  rw [sized]
  split
  · exact ⟨rfl, rfl⟩
  · next cut => exact Nat.lt_of_not_le cut

/-- Exactly the complete packets are put, in order and unchanged, if and only if every
header that arrived whole reads the same as laid down by the header loop. No header in
one or two chunks is ever disturbed. -/
theorem puts_complete_packets_iff (packets : List Packet) (cuts : List Nat) (arrived : Nat)
    (reset : Bool) (turns : Nat) :
    ((PictureReciever.run (turns + 1)
        (.connected ⟨(packets.flatMap Packet.bytes).take arrived, cuts, reset⟩)).1 =
          (complete arrived packets).map Packet.picture ↔
      ∀ arrival ∈ arrivals cuts arrived packets, arrival.Kept) ∧
    ∀ arrival ∈ arrivals cuts arrived packets, arrival.chunks.length ≤ 2 → arrival.Kept := by
  constructor
  · rw [run_connected]
    exact receiveAll_iff packets cuts arrived reset (Nat.lt_succ_self _)
  · intro arrival member few
    exact kept_of_two_chunks few (arrivals_whole_header arrival member)

/-- A packet whose header comes in chunks of four, five and one bytes is not put. -/
theorem three_chunks_lose_picture :
    let packet : Packet := ⟨[232, 3, 0, 0, 0, 0, 0, 0, 1, 0], [7], by decide, by decide, by decide⟩
    (PictureReciever.run 1 (.connected ⟨packet.bytes, [4, 5, 1], false⟩)).1 = [] ∧
      complete packet.bytes.length [packet] = [packet] := by
  exact ⟨by decide +kernel, rfl⟩

end NetCam.Network
