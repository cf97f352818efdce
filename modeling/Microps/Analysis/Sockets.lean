import Microps.Model.Sock
import Microps.Analysis.Frame
import Microps.Analysis.Lifecycle

/-!
# Socket entries and the PCBs they name

`sock_open` marks an entry used before it opens the PCB, and returns `-1` without freeing the
entry when the open fails (`sockOpen_stream_full`): the entry stays used with `desc = -1`,
which names no PCB.

`sock_open_full_run` fills the TCP table with sixteen stream sockets and opens a seventeenth.
-/

set_option autoImplicit false

namespace Microps

theorem sockAlloc_unused {socks : Fin 128 → Sock} {k : Fin 128} (h : sockAlloc socks = some k) :
    (socks k).used = false := by
  have hk := List.find?_some h
  simpa using hk

/-- `tcp_open` on a table with a FREE slot returns that slot's id, now a socket-mode CLOSED
PCB. -/
theorem tcpOpen_of_alloc {t t' : Tcp} {i : Fin TCP_PCB_SIZE} (h : tcpPcbAlloc t = some (i, t')) :
    tcpOpen t = (t'.set i { t'.pcbs i with mode := .socket }, .ret (tcpPcbId i)) := by
  unfold tcpOpen
  rw [h]

/-- `tcp_open` on a full table returns `-1` and changes nothing. -/
theorem tcpOpen_of_full {t : Tcp} (h : tcpPcbAlloc t = none) : tcpOpen t = (t, .ret (-1)) := by
  unfold tcpOpen
  rw [h]

/-- When the TCP table is full, `sock_open` for a stream returns `-1`, yet the entry it took,
unused before, is left used with `desc = -1`. -/
theorem sockOpen_stream_full {s : SockSystem} {k : Fin 128} (hk : sockAlloc s.socks = some k)
    (hfull : tcpPcbAlloc s.tcp = none) :
    (sockOpen s AF_INET SOCK_STREAM 0).2 = -1 ∧ (s.socks k).used = false ∧
      (sockOpen s AF_INET SOCK_STREAM 0).1.socks k =
        { s.socks k with used := true, family := AF_INET, type := SOCK_STREAM, desc := -1 } := by
  have heq : sockOpen s AF_INET SOCK_STREAM 0 = (s.setSock k
      { s.socks k with used := true, family := AF_INET, type := SOCK_STREAM, desc := -1 }, -1) := by
    unfold sockOpen
    simp [hk, tcpOpen_of_full hfull, TcpResult.val]
  rw [heq]
  exact ⟨rfl, sockAlloc_unused hk, SockSystem.setSock_socks_self _ _ _⟩

/-- Seventeen `sock_open(AF_INET, SOCK_STREAM, 0)` calls: the first sixteen take the sixteen
TCP PCBs. -/
def sockOpenFullRun : List (TcpEnv × SockEvent) :=
  List.replicate 17 (lifecycleEnv 0, .call (.open_ AF_INET SOCK_STREAM 0))

/-- The seventeenth call returns `-1`, and entry 16 is left used, of type `SOCK_STREAM`, with
`desc = -1`. -/
theorem sock_open_full_run :
    (sockRun SockSystem.init sockOpenFullRun).map (fun p => (p.2.getLast?, p.1.socks 16)) =
      some (some (.ret (-1)), ⟨true, AF_INET, SOCK_STREAM, -1⟩) := by
  decide

end Microps
