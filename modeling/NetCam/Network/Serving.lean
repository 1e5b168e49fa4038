import NetCam.Network.Feed
import NetCam.Semantics.Keyed

/-! The frames whose packets the camera has written, over all its clients. -/

set_option autoImplicit false

namespace NetCam.Network

open Semantics

variable {sane cam : Bool} {log : List FeedEvent} {session : Nat}

theorem EncodesAll.split {fs : List Camera.Frame} {before after : List (Memory Camera.BUFSIZE × Int32)}
    {packet : Memory Camera.BUFSIZE × Int32} (encodes : EncodesAll fs (before ++ packet :: after)) :
    ∃ front fr behind, fs = front ++ fr :: behind ∧ front.length = before.length ∧
      Encodes fr packet.1 packet.2 := by
  induction before generalizing fs with
  | nil =>
    cases encodes with
    | @cons fr _ rest _ first _ => exact ⟨[], fr, rest, rfl, rfl, first⟩
  | cons _ _ ih =>
    cases encodes with
    | @cons first _ _ _ _ rest =>
      obtain ⟨front, fr, behind, rfl, long, found⟩ := ih rest
      exact ⟨first :: front, fr, behind, rfl, congrArg (· + 1) long, found⟩

theorem zip_append_of_le {α β : Type} {xs : List α} {ys more : List β} (enough : xs.length ≤ ys.length) :
    xs.zip (ys ++ more) = xs.zip ys := by
  induction xs generalizing ys with
  | nil => rfl
  | cons x rest ih =>
    cases ys with
    | nil => cases enough
    | cons y later =>
      rw [List.cons_append, List.zip_cons_cons, List.zip_cons_cons, ih (Nat.le_of_succ_le_succ enough)]

structure Serving (sane cam : Bool) (log : List FeedEvent) (server : Camera.Server) (session : Nat) : Prop where
  handOver : Camera.HandOver sane cam (Feed.serverLog log) server
  made : server.take.AtWork TakeStageEncodes
  encodes : EncodesAll (frames (Feed.serverLog log)) (Camera.saves (Feed.serverLog log))
  counted : (Feed.sessions log).length = (Camera.sends (Feed.serverLog log)).length
  ordered : KeysOrdered (Feed.written log)
  latest : ∀ entry ∈ Feed.written log, entry.1 ≤ session

variable {server next : Camera.Server} {es : List Camera.ServerEvent} {current : Nat}

theorem Serving.fits (serving : Serving sane cam log server session) {entry : Nat × Camera.Frame}
    (member : entry ∈ Feed.written log) :
    (Camera.getFrameBytes entry.2).length ≤ Camera.BUFSIZE - 10 :=
  serving.encodes.fits entry.2 (List.of_mem_zip member).2

theorem Serving.writes (serving : Serving sane cam log server session)
    (handOver : Camera.HandOver sane cam (Feed.serverLog log ++ es) next)
    {picPacket : Memory Camera.BUFSIZE} {packetSz written : Int32}
    (wrote : es = [.wrote picPacket packetSz written]) :
    ∃ fr, Encodes fr picPacket packetSz ∧
      Feed.written (log ++ es.map (.server current)) = Feed.written log ++ [(current, fr)] := by
  subst wrote
  have balance := handOver.balance
  rw [Camera.saves_append, Camera.sends_append, List.append_assoc] at balance
  have encodes := serving.encodes
  rw [← List.append_nil (Camera.saves _)] at encodes
  change EncodesAll _ (Camera.saves _ ++ Camera.saves [.wrote picPacket packetSz written]) at encodes
  rw [balance] at encodes
  obtain ⟨front, fr, behind, split, long, found⟩ := encodes.split
  refine ⟨fr, found, ?_⟩
  -- each packet written so far was that of a frame in front
  have same : (Feed.sessions log).length = front.length := serving.counted.trans long.symm
  have servers : frames (Feed.serverLog (log ++ List.map (FeedEvent.server current)
      [.wrote picPacket packetSz written])) = front ++ fr :: behind := by
    rw [Feed.serverLog_server, frames, List.filterMap_append, ← split]
    exact List.append_nil _
  have before : Feed.written log = (Feed.sessions log).zip front := by
    unfold Feed.written
    rw [split]
    exact zip_append_of_le (Nat.le_of_eq same)
  rw [before, Feed.written, servers, List.map_singleton, Feed.sessions_wrote, List.zip_append same]
  rfl

/-- No packet is written before a frame is saved for it. -/
theorem Serving.length_le (serving : Serving sane cam log server session) :
    (Feed.sessions log).length ≤ (frames (Feed.serverLog log)).length := by
  obtain ⟨_, total⟩ := serving.encodes.written serving.handOver.balance
  rw [serving.counted, total]
  exact Nat.le_add_right _ _

theorem Serving.quiet (serving : Serving sane cam log server session)
    (silent : ∀ e ∈ es, e.packetSent = none) :
    Feed.written (log ++ es.map (.server current)) = Feed.written log := by
  have enough := serving.length_le
  unfold Feed.written
  rw [Feed.sessions_quiet silent, Feed.serverLog_server, frames, List.filterMap_append]
  change (Feed.sessions log).zip (frames (Feed.serverLog log) ++ _) = _
  exact zip_append_of_le enough

theorem Serving.step (serving : Serving sane cam log server session) {action : Camera.Action}
    {calls : List Int32} {bytes : List UInt8} (sized : CapturesSized action)
    (taken : stepOnto sane server action calls = some (next, es, bytes)) (later : session ≤ current) :
    Serving sane cam (log ++ es.map (.server current)) next current ∧
      ((∃ picPacket packetSz written fr, writing server action = some (picPacket, packetSz) ∧
          clientWriteN picPacket packetSz calls = some (bytes, written) ∧
          es = [.wrote picPacket packetSz written] ∧ Encodes fr picPacket packetSz ∧
          Feed.written (log ++ es.map (.server current)) = Feed.written log ++ [(current, fr)]) ∨
        (∀ e ∈ es, e.packetSent = none) ∧ bytes = [] ∧
          Feed.written (log ++ es.map (.server current)) = Feed.written log) := by
  obtain ⟨_, sized', moved⟩ := stepOnto_moves sized taken
  have handOver := Camera.handOver_step serving.handOver moved
  obtain ⟨made, fresh⟩ := encodes_step serving.made sized' moved
  have encodes : EncodesAll (frames (Feed.serverLog log ++ es)) (Camera.saves (Feed.serverLog log ++ es)) := by
    unfold frames
    rw [List.filterMap_append, Camera.saves_append]
    exact List.rel_append serving.encodes fresh
  have below : ∀ entry ∈ Feed.written log, entry.1 ≤ current :=
    fun entry member => Nat.le_trans (serving.latest entry member) later
  -- a step writes one packet or none, and only the former grows the log of frames
  rcases stepOnto_cases taken with ⟨picPacket, packetSz, count, writes, wrote, _, logged⟩ | ⟨_, silent, none_put⟩
  · obtain ⟨fr, found, grown⟩ := @Serving.writes _ _ _ _ _ _ _ current serving handOver _ _ _ logged
    refine ⟨⟨?_, made, ?_, ?_, ?_, ?_⟩,
      .inl ⟨picPacket, packetSz, count, fr, writes, wrote, logged, found, grown⟩⟩
    · rwa [Feed.serverLog_server]
    · rwa [Feed.serverLog_server]
    · subst logged
      rw [Feed.serverLog_server, List.map_singleton, Feed.sessions_wrote, Camera.sends_append,
        List.length_append, List.length_append, serving.counted]
      rfl
    · rw [grown]
      exact keysOrdered_append serving.ordered below (by simp)
    · rw [grown]
      intro entry member
      rcases List.mem_append.mp member with earlier | last
      · exact below entry earlier
      · rw [List.mem_singleton.mp last]
  · have same := @Serving.quiet _ _ _ _ _ _ current serving silent
    refine ⟨⟨?_, made, ?_, ?_, ?_, ?_⟩, .inr ⟨silent, none_put, same⟩⟩
    · rwa [Feed.serverLog_server]
    · rwa [Feed.serverLog_server]
    · have none_sent : Camera.sends es = [] := List.filterMap_eq_nil_iff.mpr silent
      rw [Feed.serverLog_server, Feed.sessions_quiet silent, Camera.sends_append, none_sent, List.append_nil]
      exact serving.counted
    · rw [same]
      exact serving.ordered
    · rw [same]
      exact below

theorem Serving.client (serving : Serving sane cam log server session)
    (as : List PictureReciever.Act) : Serving sane cam (log ++ as.map .client) server session := by
  obtain ⟨handOver, made, encodes, counted, ordered, latest⟩ := serving
  refine ⟨?_, made, ?_, ?_, ?_, ?_⟩
  · rwa [Feed.serverLog_client]
  · rwa [Feed.serverLog_client]
  · rw [Feed.serverLog_client]
    refine Eq.trans ?_ counted
    simp [Feed.sessions, List.filterMap_append, List.filterMap_map]
  · rwa [Feed.written_client]
  · rwa [Feed.written_client]

theorem Serving.part (serving : Serving sane cam log server session) :
    (Feed.written log).map Prod.snd <+: frames (Feed.serverLog log) := by
  have enough := serving.length_le
  have front : ((frames (Feed.serverLog log)).take (Feed.sessions log).length).length =
      (Feed.sessions log).length := by
    rw [List.length_take]
    omega
  have split := (List.take_append_drop (Feed.sessions log).length (frames (Feed.serverLog log))).symm
  unfold Feed.written
  rw [split, zip_append_of_le (Nat.le_of_eq front.symm), List.map_snd_zip (Nat.le_of_eq front), ← split]
  exact List.take_prefix _ _

end NetCam.Network
