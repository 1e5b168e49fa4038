import NetCam.Motion.Server

/-! The response of `serve_client` with the three times, as a client can read it.

Both calls of `snprintf` cut off what does not fit. That never happens, whether a `long` has
32 bits or 64.
-/

set_option autoImplicit false

namespace NetCam.Motion

open Semantics

def printed (tdiff tLocal tRemote : Int) : List Nat :=
  signedNumeral tdiff ++ [58] ++ signedNumeral tLocal ++ [58] ++ signedNumeral tRemote

def formatted (msg : List UInt8) : List UInt8 :=
  ascii "HTTP/1.0 " ++ ascii "200 OK\nContent-Length:" ++ (numeral msg.length).map UInt8.ofNat ++
    ascii "\nContent-Type: text/plain\n\n" ++ msg

/-- `okResponse` for a `long` of any width. -/
def okResponseOf (tdiff tLocal tRemote : Int) : List UInt8 :=
  snprintf BUFSIZE (formatted (snprintf 100 ((printed tdiff tLocal tRemote).map UInt8.ofNat)))

theorem okResponse_eq (tdiff tLocal tRemote : Int32) :
    okResponse tdiff tLocal tRemote = okResponseOf tdiff.toInt tLocal.toInt tRemote.toInt := rfl

section Client

def afterBlankLine : List UInt8 → Option (List UInt8)
  | [] => none
  | c :: rest => if c = 10 ∧ rest.head? = some 10 then some rest.tail else afterBlankLine rest

def field (name response : List UInt8) : Option (List UInt8) :=
  ((response.splitOn 10).find? name.isPrefixOf).map (List.drop name.length)

def codes (text : List UInt8) : List Nat := text.map UInt8.toNat

end Client

/-- The response is what was to be printed, it gives the length of its own body, and the body
consists of the three times. -/
structure SelfConsistent (tdiff tLocal tRemote : Int) (response : List UInt8) : Prop where
  msg : snprintf 100 ((printed tdiff tLocal tRemote).map UInt8.ofNat) =
    (printed tdiff tLocal tRemote).map UInt8.ofNat
  sendBuff : response = formatted ((printed tdiff tLocal tRemote).map UInt8.ofNat)
  text : ∃ body, afterBlankLine response = some body ∧
    (field (ascii "Content-Length:") response).map codes = some (numeral body.length) ∧
    ((codes body).splitOn 58).map readInt = [some tdiff, some tLocal, some tRemote]

section Text

variable {text rest : List UInt8} {tdiff tLocal tRemote : Int}

theorem snprintf_of_short {size : Nat} (short : text.length < size) : snprintf size text = text := by
  unfold snprintf
  exact List.take_of_length_le (by omega)

theorem codes_map_ofNat {numbers : List Nat} (small : ∀ c ∈ numbers, c < 256) :
    codes (numbers.map UInt8.ofNat) = numbers := by
  unfold codes
  rw [List.map_map]
  have same : ∀ c ∈ numbers, (UInt8.toNat ∘ UInt8.ofNat) c = id c := fun c member =>
    UInt8.toNat_ofNat_of_lt (small c member)
  rw [List.map_congr_left same, List.map_id]

/-- A line that is not followed by a blank one is passed over. -/
theorem afterBlankLine_line (plain : 10 ∉ text) : afterBlankLine (text ++ 10 :: rest) =
    if rest.head? = some 10 then some rest.tail else afterBlankLine rest := by
  induction text with
  | nil => simp [afterBlankLine]
  | cons c text ih =>
    rw [List.mem_cons, not_or] at plain
    obtain ⟨other, later⟩ := plain
    rw [List.cons_append, afterBlankLine, if_neg (by simp [Ne.symm other]), ih later]

theorem formatted_lines (msg : List UInt8) : formatted msg =
    ascii "HTTP/1.0 200 OK" ++ 10 :: (ascii "Content-Length:" ++ (numeral msg.length).map UInt8.ofNat ++
      10 :: (ascii "Content-Type: text/plain" ++ 10 :: 10 :: msg)) := by
  have status : ascii "HTTP/1.0 " ++ ascii "200 OK\nContent-Length:" =
      ascii "HTTP/1.0 200 OK" ++ 10 :: ascii "Content-Length:" := rfl
  have type : ascii "\nContent-Type: text/plain\n\n" =
      10 :: (ascii "Content-Type: text/plain" ++ [10, 10]) := rfl
  unfold formatted
  rw [status, type]
  simp only [List.append_assoc, List.cons_append, List.nil_append]

theorem newline_not_digit (n : Nat) : 10 ∉ (numeral n).map UInt8.ofNat := by
  intro member
  obtain ⟨c, there, same⟩ := List.mem_map.mp member
  have digit := numeral_isDigit there
  simp only [isDigit, decide_eq_true_eq] at digit
  have value : (UInt8.ofNat c).toNat = c := UInt8.toNat_ofNat_of_lt (Nat.lt_of_le_of_lt digit.2 (by decide))
  rw [same] at value
  change 10 = c at value
  omega

theorem newline_not_length (n : Nat) :
    10 ∉ ascii "Content-Length:" ++ (numeral n).map UInt8.ofNat := by
  rw [List.mem_append, not_or]
  exact ⟨by decide, newline_not_digit n⟩

theorem afterBlankLine_formatted (msg : List UInt8) : afterBlankLine (formatted msg) = some msg := by
  have length : (ascii "Content-Length:" ++ (numeral msg.length).map UInt8.ofNat ++
      10 :: (ascii "Content-Type: text/plain" ++ 10 :: 10 :: msg)).head? = some 67 := rfl
  have type : (ascii "Content-Type: text/plain" ++ 10 :: 10 :: msg).head? = some 67 := rfl
  have blank : (10 :: msg).head? = some 10 := rfl
  rw [formatted_lines, afterBlankLine_line (by decide), length, if_neg (by decide),
    afterBlankLine_line (newline_not_length msg.length), type, if_neg (by decide),
    afterBlankLine_line (by decide), if_pos blank, List.tail_cons]

theorem field_formatted (msg : List UInt8) :
    field (ascii "Content-Length:") (formatted msg) = some ((numeral msg.length).map UInt8.ofNat) := by
  unfold field
  rw [formatted_lines, List.splitOn_append_cons_self_of_not_mem (by decide),
    List.splitOn_append_cons_self_of_not_mem (newline_not_length msg.length),
    List.find?_cons_of_neg (by decide), List.find?_cons_of_pos
      (List.isPrefixOf_iff_prefix.mpr (List.prefix_append _ _)), Option.map_some, List.drop_left]

theorem printed_pieces (tdiff tLocal tRemote : Int) :
    (printed tdiff tLocal tRemote).splitOn 58 =
      [signedNumeral tdiff, signedNumeral tLocal, signedNumeral tRemote] := by
  unfold printed
  simp only [List.append_assoc, List.cons_append, List.nil_append]
  rw [List.splitOn_append_cons_self_of_not_mem (not_delimiter tdiff),
    List.splitOn_append_cons_self_of_not_mem (not_delimiter tLocal),
    List.splitOn_eq_singleton (not_delimiter tRemote)]

theorem printed_small {c : Nat} (member : c ∈ printed tdiff tLocal tRemote) : c < 256 := by
  have bound {z : Int} (number : c ∈ signedNumeral z) : c < 256 :=
    Nat.lt_trans (signedNumeral_bound number).2 (by decide)
  unfold printed at member
  simp only [List.mem_append, List.mem_singleton] at member
  rcases member with (((first | rfl) | second) | rfl) | third
  · exact bound first
  · decide
  · exact bound second
  · decide
  · exact bound third

theorem printed_length (first : tdiff.natAbs < 10 ^ 19) (second : tLocal.natAbs < 10 ^ 19)
    (third : tRemote.natAbs < 10 ^ 19) : (printed tdiff tLocal tRemote).length ≤ 62 := by
  have a := signedNumeral_length_le (by decide) first
  have b := signedNumeral_length_le (by decide) second
  have c := signedNumeral_length_le (by decide) third
  unfold printed
  simp only [List.length_append, List.length_singleton]
  omega

theorem formatted_length {msg : List UInt8} (short : msg.length ≤ 62) : (formatted msg).length < BUFSIZE := by
  have digits := @numeral_length_le msg.length 2 (by decide) (by omega)
  have status : (ascii "HTTP/1.0 ").length + (ascii "200 OK\nContent-Length:").length = 31 := rfl
  have type : (ascii "\nContent-Type: text/plain\n\n").length = 27 := rfl
  unfold formatted BUFSIZE
  simp only [List.length_append, List.length_map]
  omega

theorem okResponseOf_self_consistent (first : tdiff.natAbs < 10 ^ 19) (second : tLocal.natAbs < 10 ^ 19)
    (third : tRemote.natAbs < 10 ^ 19) :
    SelfConsistent tdiff tLocal tRemote (okResponseOf tdiff tLocal tRemote) := by
  have length := printed_length first second third
  have msg : snprintf 100 ((printed tdiff tLocal tRemote).map UInt8.ofNat) =
      (printed tdiff tLocal tRemote).map UInt8.ofNat :=
    snprintf_of_short (by rw [List.length_map]; omega)
  have sendBuff : okResponseOf tdiff tLocal tRemote =
      formatted ((printed tdiff tLocal tRemote).map UInt8.ofNat) := by
    unfold okResponseOf
    rw [msg]
    exact snprintf_of_short (formatted_length (by rw [List.length_map]; exact length))
  refine ⟨msg, sendBuff, (printed tdiff tLocal tRemote).map UInt8.ofNat, ?_, ?_, ?_⟩
  · rw [sendBuff, afterBlankLine_formatted]
  · rw [sendBuff, field_formatted, Option.map_some, codes_map_ofNat]
    intro c member
    have digit := numeral_isDigit member
    simp only [isDigit, decide_eq_true_eq] at digit
    omega
  · rw [codes_map_ofNat (fun c member => printed_small member), printed_pieces]
    simp only [List.map_cons, List.map_nil, readInt_signedNumeral]

end Text

/-- The answer to a request that asks for the times is that response, with the times of the state. -/
theorem serveClient_ok {state : GlobalState} {request : Request} {buf : Memory REQUEST_SIZE}
    {bytes : List UInt8} (stored : (Memory.filled REQUEST_SIZE 0).store 0 request.bytes = some buf)
    (asks : parseHttpRequest buf = 0) : serveClient state request = some bytes ↔
      ∃ tdiff : Int32, tdiff.toInt = request.now.toInt - state.tLocal.toInt ∧
        bytes = okResponse tdiff state.tLocal state.tRemote := by
  simp only [serveClient, stored, asks, if_true, Option.map_eq_some_iff, long_eq_some_iff]
  exact exists_congr fun tdiff => and_congr_right fun _ => eq_comm

/-- The response with the times is never cut off, and reads back as what it was printed from. It is
what the server sends to a client that asks for the times. -/
theorem ok_response_self_consistent :
    (∀ tdiff tLocal tRemote : Int32, SelfConsistent tdiff.toInt tLocal.toInt tRemote.toInt
        (okResponse tdiff tLocal tRemote)) ∧
      (∀ state request buf bytes, (Memory.filled REQUEST_SIZE 0).store 0 request.bytes = some buf →
        parseHttpRequest buf = 0 → serveClient state request = some bytes →
          SelfConsistent (request.now.toInt - state.tLocal.toInt) state.tLocal.toInt state.tRemote.toInt
            bytes) ∧
      ∀ tdiff tLocal tRemote : Int64, SelfConsistent tdiff.toInt tLocal.toInt tRemote.toInt
        (okResponseOf tdiff.toInt tLocal.toInt tRemote.toInt) := by
  have narrow (t : Int32) : t.toInt.natAbs < 10 ^ 19 := by
    have low := t.le_toInt
    have high := t.toInt_lt
    omega
  have wide (t : Int64) : t.toInt.natAbs < 10 ^ 19 := by
    have low := t.le_toInt
    have high := t.toInt_lt
    omega
  have printed (tdiff tLocal tRemote : Int32) : SelfConsistent tdiff.toInt tLocal.toInt tRemote.toInt
      (okResponse tdiff tLocal tRemote) := by
    rw [okResponse_eq]
    exact okResponseOf_self_consistent (narrow tdiff) (narrow tLocal) (narrow tRemote)
  refine ⟨printed, ?_, ?_⟩
  · intro state request buf bytes stored asks answered
    obtain ⟨tdiff, since, rfl⟩ := (serveClient_ok stored asks).mp answered
    rw [← since]
    exact printed tdiff state.tLocal state.tRemote
  · intro tdiff tLocal tRemote
    exact okResponseOf_self_consistent (wide tdiff) (wide tLocal) (wide tRemote)

end NetCam.Motion
