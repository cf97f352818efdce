import Microps.Model.Tcp.User
import Microps.Lib.Transition

/-!
# The TCP layer as a transition system

The layer's state is the PCB table with its output log (`Tcp`) and the callers waiting in
`sched_sleep`. Every critical section is one step: a segment handed over by `tcp_input`, a
tick of `tcp_timer`, the event that interrupts every wait, the first section of a user
command, or the return of one of the waits. A waiting caller may return at any time, since
`pthread_cond_wait` may wake up spuriously and the code re-checks its conditions after every
wait. Each step gets its own `TcpEnv`, so the random numbers, the clock and the outcomes of
allocation and output are arbitrary from step to step.
-/

set_option autoImplicit false

namespace Microps

/-- A user command with its arguments (`tcp_listen`'s backlog is ignored by the code, and
`tcp_state` only reads). -/
inductive TcpCommand
  | openRfc793 (local_ : IpEndpoint) (o : TcpOpen)
  /-- `tcp_open` -/
  | openSocket
  | connect (id : Int) (foreign : IpEndpoint)
  | bind (id : Int) (local_ : IpEndpoint)
  | listen (id : Int)
  | accept (id : Int)
  | send (id : Int) (data : List UInt8)
  | receive (id : Int) (size : Nat)
  | close (id : Int)
  deriving DecidableEq, Repr

/-- The first critical section of a command. -/
def tcpCommand (env : TcpEnv) (t : Tcp) : TcpCommand → Tcp × TcpResult
  | .openRfc793 local_ o => tcpOpenRfc793 env t local_ o
  | .openSocket => tcpOpen t
  | .connect id foreign => tcpConnect env t id foreign
  | .bind id local_ => tcpBind t id local_
  | .listen id => tcpListen t id
  | .accept id => tcpAccept t id
  | .send id data => tcpSend env t id data
  | .receive id size => tcpReceive t id size
  | .close id => tcpClose env t id

/-- The callers a result leaves waiting. -/
def TcpResult.waits : TcpResult → List TcpWait
  | .wait w => [w]
  | _ => []

/-- What drives the layer. -/
inductive TcpEvent
  | segment (a : TcpArrival)
  | timer
  | interrupt
  | command (c : TcpCommand)
  /-- The wait at position `k` returns. -/
  | resume (k : Nat)
  deriving DecidableEq, Repr

/-- The layer and the callers waiting on it. -/
structure TcpSystem where
  tcp : Tcp
  waits : List TcpWait

/-- Nothing open, nobody waiting. -/
def TcpSystem.init : TcpSystem := ⟨Tcp.init, []⟩

/-- One critical section, with the result a caller sees when the step is a command's or a
wait's; `none` when there is no `k`-th wait to return. -/
def tcpStep (env : TcpEnv) (s : TcpSystem) : TcpEvent → Option (TcpSystem × Option TcpResult)
  | .segment a => some (⟨tcpSegmentArrives env a s.tcp, s.waits⟩, none)
  | .timer => some (⟨tcpTimer env s.tcp, s.waits⟩, none)
  | .interrupt => some (⟨tcpEventHandler s.tcp, s.waits⟩, none)
  | .command c =>
    let (t, r) := tcpCommand env s.tcp c
    some (⟨t, s.waits ++ r.waits⟩, some r)
  | .resume k =>
    match s.waits[k]? with
    | none => none
    | some w =>
      let (t, r) := tcpResume env s.tcp w
      some (⟨t, s.waits.eraseIdx k ++ r.waits⟩, some r)

/-- One step of the layer, in any environment. -/
def TcpStep (s s' : TcpSystem) : Prop :=
  ∃ env e r, tcpStep env s e = some (s', r)

/-- The states the layer can reach from its start. -/
def TcpReachable (s : TcpSystem) : Prop :=
  Transition.Reachable (· = TcpSystem.init) TcpStep s

/-- Steps one after another, each in its own environment: the state they lead to and the
results callers saw, in order; `none` if some step names a wait that is not there. -/
def tcpRun : TcpSystem → List (TcpEnv × TcpEvent) → Option (TcpSystem × List TcpResult)
  | s, [] => some (s, [])
  | s, (env, e) :: rest =>
    match tcpStep env s e with
    | none => none
    | some (s', r) => (tcpRun s' rest).map fun (s'', rs) => (s'', r.toList ++ rs)

end Microps
