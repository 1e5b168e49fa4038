import NetCam.Motion.Server
import NetCam.Network.Receivers

/-! What `MotionPack` makes of the responses of `motion_server.c`.

A response has a header of 60 bytes when its body has two digits of length. The client
counts 58, so the last two bytes of the body are never read, and `getTimes` starts four bytes
into the body.
-/

set_option autoImplicit false

namespace NetCam.Network

open Semantics MotionPack

/-- The times of a response whose body has two digits of length and fits the buffer. -/
structure Times where
  tdiff : Int32
  tLocal : Int32
  tRemote : Int32
  long : 10 ≤ (Motion.times tdiff tLocal tRemote).length
  fits : MotionPack.HEAD_SIZE + (Motion.times tdiff tLocal tRemote).length ≤ BUFFER_SIZE

namespace Times

def body (t : Times) : List Nat := Motion.times t.tdiff t.tLocal t.tRemote

def response (t : Times) : List UInt8 := Motion.okResponse t.tdiff t.tLocal t.tRemote

-- The part of the body that follows the first colon and is read.
def rest (t : Times) : List Nat :=
  (signedNumeral t.tLocal.toInt ++ 58 :: signedNumeral t.tRemote.toInt).take (t.body.length -
    (signedNumeral t.tdiff.toInt).length - 3)

end Times

/-- The buffer after the two reads for a response, if each returns all it is asked for. -/
def receiveWhole (buffer : Buffer) (response : List UInt8) : Option Buffer :=
  match buffer.store 0 (response.take MotionPack.HEAD_SIZE) with
  | none => none
  | some buffer =>
    match getTimeSize buffer with
    | .error _ => none
    | .ok timeSize =>
      buffer.store MotionPack.HEAD_SIZE ((response.drop MotionPack.HEAD_SIZE).take timeSize.toNatClampNeg)

/-- Every response of the sequence is decoded to its own times. -/
def Decoded : Buffer → List Times → Prop
  | _, [] => True
  | buffer, t :: later => ∃ next, receiveWhole buffer t.response = some next ∧
    getTimes next = .ok [t.tdiff, t.tLocal, t.tRemote] ∧ Decoded next later

theorem signedNumeral_length_pos (z : Int) : 0 < (signedNumeral z).length :=
  List.length_pos_iff.mpr (signedNumeral_ne_nil z)

namespace Times

variable (t : Times)

theorem body_eq : t.body = signedNumeral t.tdiff.toInt ++
    58 :: (signedNumeral t.tLocal.toInt ++ 58 :: signedNumeral t.tRemote.toInt) := by
  unfold body Motion.times
  simp

theorem length_body : t.body.length = (signedNumeral t.tdiff.toInt).length +
    (signedNumeral t.tLocal.toInt).length + (signedNumeral t.tRemote.toInt).length + 2 := by
  rw [body_eq]
  simp only [List.length_append, List.length_cons]
  omega

theorem body_bound {c : Nat} (member : c ∈ t.body) : 32 < c ∧ c ≤ 58 := by
  rw [body_eq] at member
  simp only [List.mem_append, List.mem_cons] at member
  rcases member with number | rfl | number | rfl | number
  · have bound := signedNumeral_bound number
    omega
  · omega
  · have bound := signedNumeral_bound number
    omega
  · omega
  · have bound := signedNumeral_bound number
    omega

theorem take_body : t.body.take (t.body.length - 2) =
    signedNumeral t.tdiff.toInt ++ 58 :: t.rest := by
  have length := t.length_body
  have first := signedNumeral_length_pos t.tLocal.toInt
  have second := signedNumeral_length_pos t.tRemote.toInt
  unfold rest
  rw [t.body_eq] at length ⊢
  rw [List.take_append, List.take_of_length_le (by omega)]
  congr 1
  obtain ⟨k, shorter⟩ : ∃ k, (signedNumeral t.tdiff.toInt ++ 58 :: (signedNumeral t.tLocal.toInt ++
      58 :: signedNumeral t.tRemote.toInt)).length - 2 - (signedNumeral t.tdiff.toInt).length = k + 1 :=
    Nat.exists_eq_succ_of_ne_zero (by omega)
  rw [shorter, List.take_succ_cons]
  congr 2
  omega

/-- The server answers the request that `MotionRequestSender` writes. -/
theorem served {state : Motion.GlobalState} {request : Motion.Request}
    (asked : request.bytes = MotionPack.pack) (tLocal : state.tLocal = t.tLocal)
    (tRemote : state.tRemote = t.tRemote)
    (elapsed : request.now.toInt - t.tLocal.toInt = t.tdiff.toInt) :
    Motion.serveClient state request = some t.response := by
  have understood : ((Memory.filled Motion.REQUEST_SIZE 0).store 0 MotionPack.pack).map
      Motion.parseHttpRequest = some 0 := by decide +kernel
  obtain ⟨buf, stored, hres⟩ := Option.map_eq_some_iff.mp understood
  have fits : Motion.long t.tdiff.toInt = some t.tdiff := Motion.long_eq_some_iff.mpr rfl
  simp only [Motion.serveClient, asked, stored, hres, if_true, tLocal, tRemote, elapsed, fits,
    Option.map_some]
  rfl

theorem response_eq : ∃ head,
    t.response = head ++ ([10, 10] ++ t.body.map UInt8.ofNat) ∧ head.length = MotionPack.HEAD_SIZE ∧
      (head.drop 31).take 3 = (numeral t.body.length).map UInt8.ofNat ++ [10] := by
  have long := t.long
  have fits := t.fits
  change 10 ≤ t.body.length at long
  change 58 + t.body.length ≤ 100 at fits
  have digits : (numeral t.body.length).length = 2 :=
    @numeral_length _ 1 (by omega) (by omega)
  have whole : Motion.snprintf 100 (t.body.map UInt8.ofNat) = t.body.map UInt8.ofNat := by
    unfold Motion.snprintf
    exact List.take_of_length_le (by rw [List.length_map]; omega)
  have start : (ascii "HTTP/1.0 " ++ ascii "200 OK\nContent-Length:").length = 31 := by decide
  have middle : ascii "\nContent-Type: text/plain\n\n" =
      [10] ++ ascii "Content-Type: text/plain" ++ [10, 10] := by decide
  have type : (ascii "Content-Type: text/plain").length = 24 := by decide
  refine ⟨ascii "HTTP/1.0 " ++ ascii "200 OK\nContent-Length:" ++
    ((numeral t.body.length).map UInt8.ofNat ++ [10]) ++ ascii "Content-Type: text/plain", ?_, ?_, ?_⟩
  · unfold response Motion.okResponse Motion.respond
    change Motion.snprintf Motion.BUFSIZE (_ ++ _ ++ (numeral (Motion.snprintf 100
      (t.body.map UInt8.ofNat)).length).map UInt8.ofNat ++ _ ++ Motion.snprintf 100
        (t.body.map UInt8.ofNat)) = _
    rw [whole, List.length_map, middle]
    unfold Motion.snprintf
    rw [List.take_of_length_le]
    · simp only [List.append_assoc]
    · simp only [List.length_append, List.length_map, digits, type] at start ⊢
      change _ ≤ 999
      simp only [List.length_cons, List.length_nil]
      omega
  · simp only [List.length_append, List.length_map, digits, type, List.length_singleton] at start ⊢
    change _ = 58
    omega
  · generalize ascii "HTTP/1.0 " ++ ascii "200 OK\nContent-Length:" = line at start
    rw [List.append_assoc line, List.drop_left' start, List.take_left' (by simp [digits])]

end Times

section Receive

variable {t : Times}

theorem char_ofNat {c : Nat} (ascii : c < 128) : char (UInt8.ofNat c) = c := by
  have value : (UInt8.ofNat c).toNat = c := by
    rw [UInt8.toNat_ofNat']
    exact Nat.mod_eq_of_lt (by omega)
  unfold char
  rw [if_pos (by rw [UInt8.lt_iff_toNat_lt, value]; exact ascii), value]

theorem map_char_ofNat {codes : List Nat} (ascii : ∀ c ∈ codes, c < 128) :
    (codes.map UInt8.ofNat).map char = codes := by
  rw [List.map_map]
  have same : ∀ c ∈ codes, (char ∘ UInt8.ofNat) c = id c := fun c member =>
    char_ofNat (ascii c member)
  rw [List.map_congr_left same, List.map_id]

theorem getTimeSize_header (t : Times) {buffer : Buffer} {head : List UInt8}
    (loaded : buffer.load 0 MotionPack.HEAD_SIZE = some head)
    (field : (head.drop 31).take 3 = (numeral t.body.length).map UInt8.ofNat ++ [10]) :
    getTimeSize buffer = .ok (Int32.ofNat t.body.length) := by
  have fits := t.fits
  change 58 + t.body.length ≤ 100 at fits
  have digits : ∀ c ∈ numeral t.body.length, 32 < c ∧ c < 128 := by
    intro c member
    have digit := numeral_isDigit member
    simp only [isDigit, decide_eq_true_eq] at digit
    omega
  have part := Memory.load_within 31 3 loaded (by decide)
  rw [field] at part
  unfold getTimeSize
  rw [part, Option.getD_some, List.map_append, map_char_ofNat (fun c member => (digits c member).2)]
  have blank : [10].map char = [10] := rfl
  rw [blank, trim_solid (fun c member => (digits c member).1) (by simp)]
  exact parseInt_numeral (by omega)

theorem receiveWhole_spec (t : Times) (buffer : Buffer) :
    ∃ next cells, receiveWhole buffer t.response = some next ∧
      buffer.load MotionPack.HEAD_SIZE (BUFFER_SIZE - MotionPack.HEAD_SIZE) = some cells ∧
      next.load 64 (BUFFER_SIZE - 64) =
        some (((t.body.take (t.body.length - 2)).drop 4).map UInt8.ofNat ++ cells.drop t.body.length) := by
  have long := t.long
  have fits := t.fits
  change 10 ≤ t.body.length at long
  change 58 + t.body.length ≤ 100 at fits
  obtain ⟨head, response, headed, field⟩ := t.response_eq
  obtain ⟨cells, behind⟩ := @Memory.load_isSome _ buffer MotionPack.HEAD_SIZE
    (BUFFER_SIZE - MotionPack.HEAD_SIZE) (by decide)
  have size := (Memory.load_eq_some_iff.mp behind).2.1
  obtain ⟨first, stored⟩ := Memory.store_isSome buffer 0 head (by rw [headed]; decide)
  have loaded := Memory.load_store_self stored
  rw [headed] at loaded
  have kept : first.load MotionPack.HEAD_SIZE (BUFFER_SIZE - MotionPack.HEAD_SIZE) = some cells := by
    rw [Memory.load_store_disjoint stored (by rw [headed]; omega), behind]
  generalize arrived : ([10, 10] ++ t.body.map UInt8.ofNat).take t.body.length = bytes at *
  have count : bytes.length = t.body.length := by
    rw [← arrived, List.length_take, List.length_append, List.length_map]
    exact Nat.min_eq_left (Nat.le_add_left _ _)
  obtain ⟨next, rest⟩ := Memory.store_isSome first MotionPack.HEAD_SIZE bytes
    (by rw [count]; change 58 + _ ≤ 100; omega)
  have laid := @Memory.load_store_within BUFFER_SIZE first next _ bytes MotionPack.HEAD_SIZE 0 cells
    kept rest (by rw [count]; change 0 + _ ≤ 42; omega)
  refine ⟨next, cells, ?_, behind, ?_⟩
  · unfold receiveWhole
    rw [response, List.take_left' headed, List.drop_left' headed, stored]
    simp only [getTimeSize_header t loaded field]
    have length : (Int32.ofNat t.body.length).toNatClampNeg = t.body.length := by
      rw [Int32.toNatClampNeg_ofNat_of_lt (by omega)]
    rw [length, arrived, rest]
  · have part := Memory.load_part 6 (BUFFER_SIZE - 64) laid (by decide)
    have start : MotionPack.HEAD_SIZE + 6 = 64 := rfl
    -- the first two of these six cells hold the end of the header
    have six : (bytes.drop 6) = ((t.body.take (t.body.length - 2)).drop 4).map UInt8.ofNat := by
      obtain ⟨k, more⟩ : ∃ k, t.body.length = k + 2 := ⟨t.body.length - 2, by omega⟩
      rw [← arrived, more, Nat.add_sub_cancel, List.map_drop, List.map_take]
      rfl
    have spliced : Memory.splice cells 0 bytes = bytes ++ cells.drop t.body.length := by
      rw [Memory.splice, List.take_zero, List.nil_append, Nat.zero_add, count]
    rw [start, spliced, List.drop_append_of_le_length (by omega), six] at part
    rw [part, List.take_of_length_le]
    change cells.length = 42 at size
    change _ ≤ 36
    simp only [List.length_append, List.length_map, List.length_drop, List.length_take]
    omega

/-- The turns of the receiver on the bytes of a response leave that buffer to `getTimes`. -/
theorem turns_receiveWhole (t : Times) (fields : MotionDataReceiver.Fields) {next : Buffer}
    (received : receiveWhole fields.buffer t.response = some next) (cMon : Client.ClientMonitor) :
    let moment (bytes : List UInt8) (reset : Bool) : Moment := ⟨⟨bytes, [], reset⟩, false, cMon⟩
    ∃ first, (∀ reset,
        MotionDataReceiver.turn (moment t.response reset) fields (.header 0 MotionPack.HEAD_SIZE) =
          (.goesOn (.header MotionPack.HEAD_SIZE 0), { fields with buffer := first }, [])) ∧
      (∀ bytes reset, MotionDataReceiver.turn (moment bytes reset) { fields with buffer := first }
          (.header MotionPack.HEAD_SIZE 0) =
        (.goesOn (.times MotionPack.HEAD_SIZE t.body.length), { fields with buffer := first }, [])) ∧
      (∀ reset, MotionDataReceiver.turn (moment (t.response.drop MotionPack.HEAD_SIZE) reset)
          { fields with buffer := first } (.times MotionPack.HEAD_SIZE t.body.length) =
        (.goesOn (.times t.body.length 0), { fields with buffer := next }, [])) ∧
      ∀ bytes reset, MotionDataReceiver.turn (moment bytes reset) { fields with buffer := next }
          (.times t.body.length 0) =
        ((MotionDataReceiver.report fields.lastMotionTime fields.camNbr next).1,
          { fields with buffer := next },
          (MotionDataReceiver.report fields.lastMotionTime fields.camNbr next).2) := by
  intro moment
  have long := t.long
  have fits := t.fits
  change 10 ≤ t.body.length at long
  change 58 + t.body.length ≤ 100 at fits
  obtain ⟨head, response, headed, field⟩ := t.response_eq
  have taken : t.response.take MotionPack.HEAD_SIZE = head := by
    rw [response, List.take_left' headed]
  have dropped : t.response.drop MotionPack.HEAD_SIZE = [10, 10] ++ t.body.map UInt8.ofNat := by
    rw [response, List.drop_left' headed]
  have whole : MotionPack.HEAD_SIZE ≤ t.response.length := by
    rw [response, List.length_append, headed]
    exact Nat.le_add_right _ _
  have more : t.body.length ≤ (t.response.drop MotionPack.HEAD_SIZE).length := by
    rw [dropped, List.length_append, List.length_map]
    exact Nat.le_add_left _ _
  -- the two stores of `receiveWhole` are those of the two reads
  unfold receiveWhole at received
  split at received
  · cases received
  next first stored =>
  have loaded := Memory.load_store_self stored
  rw [taken, headed] at loaded
  have size := getTimeSize_header t loaded field
  have length : (Int32.ofNat t.body.length).toNatClampNeg = t.body.length :=
    Int32.toNatClampNeg_ofNat_of_lt (by omega)
  have counted : ¬ Int32.ofNat t.body.length < 0 := by
    rw [Int32.lt_iff_toInt_lt, Int32.toInt_ofNat_of_lt (by omega)]
    change ¬ (t.body.length : Int) < 0
    omega
  simp only [size, length] at received
  refine ⟨first, ?_, ?_, ?_, ?_⟩
  · intro reset
    obtain ⟨filled, same, turn⟩ := @readTurn_whole BUFFER_SIZE 0 MotionPack.HEAD_SIZE _ _ fields.buffer
      (fun n => .header n (MotionPack.HEAD_SIZE - n)) MotionDataReceiver.decodeHeader t.response reset
      cMon (by decide) (by decide) whole
    cases stored.symm.trans same
    simp only [moment, MotionDataReceiver.turn, turn, Nat.sub_self]
  · intro bytes reset
    simp only [MotionDataReceiver.turn]
    rw [readTurn_nothing rfl (by decide)]
    simp only [MotionDataReceiver.decodeHeader, size, if_neg counted, length]
  · intro reset
    obtain ⟨filled, same, turn⟩ := @readTurn_whole BUFFER_SIZE MotionPack.HEAD_SIZE t.body.length _ _
      first (fun n => .times n (t.body.length - n))
      (MotionDataReceiver.report fields.lastMotionTime fields.camNbr)
      (t.response.drop MotionPack.HEAD_SIZE) reset cMon (by change 58 + _ ≤ 100; omega) (by omega) more
    cases received.symm.trans same
    simp only [moment, MotionDataReceiver.turn, turn, Nat.sub_self]
  · intro bytes reset
    simp only [MotionDataReceiver.turn]
    rw [readTurn_nothing rfl (by change _ ≤ 100; omega)]

/-- The characters that the tokens are taken from: the body from its fifth character on,
and what was left in the buffer behind it. -/
theorem text_received {next : Buffer} {cells : List UInt8}
    (loaded : next.load 64 (BUFFER_SIZE - 64) =
      some (((t.body.take (t.body.length - 2)).drop 4).map UInt8.ofNat ++ cells)) :
    (timeData next).filter (fun c => !isSpace c) =
      (signedNumeral t.tdiff.toInt ++ 58 :: t.rest).drop 4 ++
        (cells.map char ++ List.replicate 6 0).filter fun c => !isSpace c := by
  have bound : ∀ c ∈ (t.body.take (t.body.length - 2)).drop 4, 32 < c ∧ c ≤ 58 := fun c member =>
    t.body_bound (List.mem_of_mem_take (List.mem_of_mem_drop member))
  have solid : ∀ c ∈ (t.body.take (t.body.length - 2)).drop 4, (!isSpace c) = true := by
    intro c member
    have range := bound c member
    simp only [isSpace, Bool.not_eq_true', decide_eq_false_iff_not]
    omega
  unfold timeData
  rw [loaded, Option.getD_some, List.map_append, List.append_assoc,
    map_char_ofNat (fun c member => by have range := bound c member; omega), List.filter_append,
    List.filter_eq_self.mpr solid, t.take_body]

theorem getTimes_ok {buffer : Buffer} {values : List Int32} (decoded : getTimes buffer = .ok values) :
    ∃ parsed, parseTimes (tokens ((timeData buffer).filter fun c => !isSpace c)) [] = .ok parsed ∧
      values = parsed ++ List.replicate (3 - parsed.length) 0 := by
  unfold getTimes at decoded
  split at decoded
  · cases decoded
  · next parsed done =>
    cases decoded
    exact ⟨parsed, done, rfl⟩

theorem digitsValue_drop_lt {n k : Nat} (positive : 0 < k) (some_left : k < (numeral n).length) :
    digitsValue ((numeral n).drop k) < n := by
  have bound := @digitsValue_lt ((numeral n).drop k) fun c member =>
    numeral_isDigit (List.mem_of_mem_drop member)
  have large := @pow_le_of_lt_numeral_length n ((numeral n).length - 1) (by omega) (by omega)
  have smaller : 10 ^ ((numeral n).length - k) ≤ 10 ^ ((numeral n).length - 1) :=
    Nat.pow_le_pow_right (by decide) (by omega)
  rw [List.length_drop] at bound
  omega

theorem parseInt_digits {digits : List Nat} (all : ∀ c ∈ digits, isDigit c = true) {value : Int32}
    (parsed : parseInt (trim digits) = .ok value) : value.toInt = digitsValue digits := by
  have trimmed := @trim_solid digits [] (fun c member => solid_of_isDigit (all c member)) (by simp)
  rw [List.append_nil] at trimmed
  rw [trimmed] at parsed
  obtain ⟨_, _, same⟩ := parseInt_eq_ok parsed
  rw [splitSign_digits all] at same
  exact same

/-- If the first number has five digits or more, its end is read as a number of its own. -/
theorem first_number_cut (long : 5 ≤ (signedNumeral t.tdiff.toInt).length) {more : List Nat}
    {parsed : List Int32}
    (done : parseTimes (tokens ((signedNumeral t.tdiff.toInt ++ 58 :: t.rest).drop 4 ++ more)) [] =
      .ok parsed) : ∃ value later, parsed = value :: later ∧ value ≠ t.tdiff := by
  have some_left : (signedNumeral t.tdiff.toInt).drop 4 ≠ [] := by
    intro none_left
    have short := List.drop_eq_nil_iff.mp none_left
    omega
  have apart : 58 ∉ (signedNumeral t.tdiff.toInt).drop 4 := fun member =>
    not_delimiter _ (List.mem_of_mem_drop member)
  rw [List.drop_append_of_le_length (by omega), List.append_assoc, List.cons_append,
    tokens_append apart some_left] at done
  obtain ⟨added, rfl, all⟩ := parseTimes_spec done
  cases all with
  | @cons _ value _ later first _ =>
    refine ⟨value, later, rfl, ?_⟩
    rintro rfl
    by_cases negative : t.tdiff.toInt < 0
    -- the sign is cut off
    · have number : signedNumeral t.tdiff.toInt = 45 :: numeral t.tdiff.toInt.natAbs := if_pos negative
      rw [number, List.drop_succ_cons] at first
      have same := parseInt_digits (fun c member => numeral_isDigit (List.mem_of_mem_drop member)) first
      omega
    · have number : signedNumeral t.tdiff.toInt = numeral t.tdiff.toInt.natAbs := if_neg negative
      rw [number] at first long
      have same := parseInt_digits (fun c member => numeral_isDigit (List.mem_of_mem_drop member)) first
      have smaller := @digitsValue_drop_lt t.tdiff.toInt.natAbs 4 (by decide) (by omega)
      omega

theorem tokens_behind (short : (signedNumeral t.tdiff.toInt).length ≤ 4) (more : List Nat) :
    (tokens ((signedNumeral t.tdiff.toInt ++ 58 :: t.rest).drop 4 ++ more)).length ≤
      t.rest.count 58 + more.count 58 + 1 := by
  have behind : ∃ k, tokens ((signedNumeral t.tdiff.toInt ++ 58 :: t.rest).drop 4 ++ more) =
      tokens (t.rest.drop k ++ more) := by
    rw [List.drop_append, List.drop_eq_nil_iff.mpr short, List.nil_append]
    cases left : 4 - (signedNumeral t.tdiff.toInt).length with
    | zero =>
      refine ⟨0, ?_⟩
      rw [List.drop_zero, List.drop_zero, List.cons_append, tokens_delimiter]
    | succ k => exact ⟨k, rfl⟩
  obtain ⟨k, same⟩ := behind
  have bound := tokens_length_le (t.rest.drop k ++ more)
  have fewer : (t.rest.drop k).count 58 ≤ t.rest.count 58 := (List.drop_sublist _ _).count_le _
  rw [List.count_append] at bound
  rw [same]
  omega

theorem rest_count_le (t : Times) : t.rest.count 58 ≤ 1 := by
  have fewer := (List.take_sublist (t.body.length - (signedNumeral t.tdiff.toInt).length - 3)
    (signedNumeral t.tLocal.toInt ++ 58 :: signedNumeral t.tRemote.toInt)).count_le 58
  rw [List.count_append, List.count_cons_self, List.count_eq_zero_of_not_mem (not_delimiter _),
    List.count_eq_zero_of_not_mem (not_delimiter _)] at fewer
  exact fewer

theorem rest_of_zero (zero : t.tRemote = 0) : t.rest = signedNumeral t.tLocal.toInt := by
  have length := t.length_body
  rw [zero] at length
  change _ = _ + _ + 1 + 2 at length
  unfold Times.rest
  exact List.take_left' (by omega)

theorem zero_of_few {parsed : List Int32} {a b c : Int32} {k : Nat}
    (values : [a, b, c] = parsed ++ List.replicate (3 - parsed.length) 0) (few : parsed.length ≤ k)
    (inside : k < 3) : [a, b, c][k]? = some 0 := by
  rw [values, List.getElem?_append_right few, List.getElem?_replicate, if_pos (by omega)]

/-- The first response a receiver gets is not decoded to its times. -/
theorem first_response_misread (t : Times) {next : Buffer}
    (received : receiveWhole (.filled BUFFER_SIZE 0) t.response = some next) :
    getTimes next ≠ .ok [t.tdiff, t.tLocal, t.tRemote] := by
  intro decoded
  obtain ⟨_, cells, same, behind, loaded⟩ := receiveWhole_spec t (.filled BUFFER_SIZE 0)
  cases received.symm.trans same
  obtain ⟨parsed, done, values⟩ := getTimes_ok decoded
  rw [text_received loaded] at done
  by_cases long : 5 ≤ (signedNumeral t.tdiff.toInt).length
  · obtain ⟨value, later, rfl, wrong⟩ := first_number_cut long done
    exact wrong (List.cons.inj values).1.symm
  -- nothing but zeros was in the buffer, so every colon comes from this response
  rw [Memory.load_filled (by decide)] at behind
  cases behind
  generalize junk : (((List.replicate (BUFFER_SIZE - MotionPack.HEAD_SIZE) (0 : UInt8)).drop
    t.body.length).map char ++ List.replicate 6 0).filter (fun c => !isSpace c) = more at done
  have clean : more.count 58 = 0 := by
    apply List.count_eq_zero_of_not_mem
    rw [← junk]
    intro member
    have there := List.mem_of_mem_filter member
    simp [char] at there
  have few := tokens_behind (Nat.le_of_lt_succ (Nat.lt_of_not_le long)) more
  obtain ⟨added, appended, all⟩ := parseTimes_spec done
  rw [appended, List.nil_append] at values
  have count := all.length_eq
  have once := rest_count_le t
  have zero : t.tRemote = 0 := by
    have third := zero_of_few values (by omega : added.length ≤ 2) (by decide)
    exact Option.some.inj third
  have none_left : t.rest.count 58 = 0 := by
    rw [rest_of_zero zero]
    exact List.count_eq_zero_of_not_mem (not_delimiter _)
  have second := zero_of_few values (by omega : added.length ≤ 1) (by decide)
  have zeroes : t.tLocal = 0 := Option.some.inj second
  -- two zeros leave too short a body
  have length := t.length_body
  have enough : 10 ≤ t.body.length := t.long
  rw [zero, zeroes] at length
  change _ = _ + 1 + 1 + 2 at length
  omega

end Receive

/-- No sequence of responses is decoded to its times, as the first one never is. -/
theorem decoded_iff (responses : List Times) :
    Decoded (.filled BUFFER_SIZE 0) responses ↔ responses = [] := by
  cases responses with
  | nil => exact iff_of_true trivial rfl
  | cons t later =>
    refine iff_of_false ?_ (List.cons_ne_nil t later)
    rintro ⟨next, received, decoded, _⟩
    exact first_response_misread t received decoded

def recentEvent : Times :=
  { tdiff := 5, tLocal := 1447000000, tRemote := 1447000003, long := by decide, fits := by decide }

theorem recent_event_misread :
    ((receiveWhole (.filled BUFFER_SIZE 0) recentEvent.response).map getTimes =
      some (.ok [47000000, 14470000, 0])) ∧
    ¬ Decoded (.filled BUFFER_SIZE 0) [recentEvent] := by
  refine ⟨by decide +kernel, ?_⟩
  rintro ⟨next, received, decoded, _⟩
  exact first_response_misread recentEvent received decoded

end NetCam.Network
