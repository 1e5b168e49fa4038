import NetCam.Network.NetMonitor
import NetCam.Semantics.Condition

/-! The waits of `NetMonitor` with the threads that sleep in them.

`setActive` and `shutdown` call `notifyAll`, and `setSocket` does not. No wait depends on the
socket, so a thread can be taken to wait for its condition and nothing else.
-/

set_option autoImplicit false

namespace NetCam.Network.NetMonitor

open Semantics

/-- The synchronized methods. -/
inductive Method (Socket : Type) where
  | getSocket
  | setSocket (s : Socket)
  | setActive (active : Bool)
  | waitUntilActive
  | waitUntilNotActive
  | shutDown
  | isShutdown
  | waitUntilShutdown
  deriving DecidableEq, Repr

variable {Socket : Type}

def methods (Socket : Type) : Monitor (NetMonitor Socket) (Method Socket) where
  guard monitor
    | .waitUntilActive => monitor.waitUntilActive
    | .waitUntilNotActive => monitor.waitUntilNotActive
    | .waitUntilShutdown => monitor.isShutdown
    | .getSocket | .setSocket _ | .setActive _ | .shutDown | .isShutdown => true
  effect monitor
    | .setSocket s => monitor.setSocket s
    | .setActive active => monitor.setActive active
    | .shutDown => monitor.shutDown
    | .getSocket | .waitUntilActive | .waitUntilNotActive | .isShutdown | .waitUntilShutdown => monitor
  notify
    | .setActive _ | .shutDown => .inside
    | _ => .never

theorem methods_announces : (methods Socket).Announces := by
  intro monitor method waiting _ waits ended silent
  cases method with
  | setActive _ | shutDown => cases silent
  | getSocket | waitUntilActive | waitUntilNotActive | isShutdown | waitUntilShutdown =>
    exact absurd (waits.symm.trans ended) Bool.false_ne_true
  | setSocket s =>
    cases waiting <;> exact absurd (waits.symm.trans ended) Bool.false_ne_true

/-- No thread sleeps in a `NetMonitor` whose condition holds, and everything its threads do is
a sequence of single steps. -/
theorem no_wakeup_lost {ι : Type} [DecidableEq ι] {activities : List (Activity ι (Method Socket))}
    {s : Monitored (NetMonitor Socket) ι (Method Socket)} {log : List (ι × Method Socket)}
    (ran : run (methods Socket).step (.start .fresh) activities = some (s, log)) :
    Monitor.Exact (methods Socket) .fresh log s :=
  Monitor.exact_of_announces methods_announces (fun method => by cases method <;> nofun) ran

def connects : List (Activity Bool (Method Nat)) :=
  [.call false .waitUntilActive, .call true (.setSocket 0), .call true (.setActive true), .resume false]

theorem no_wakeup_lost_connects : ∃ s log,
    run (methods Nat).step (.start .fresh) connects = some (s, log) ∧
      log.map Prod.fst = [true, true, false] ∧ Monitor.Exact (methods Nat) .fresh log s :=
  ⟨_, _, rfl, rfl, @no_wakeup_lost Nat Bool _ connects _ _ rfl⟩

end NetCam.Network.NetMonitor
