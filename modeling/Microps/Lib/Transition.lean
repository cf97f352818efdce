import Mathlib.Logic.Relation

/-!
# Transition systems

A system given by a step relation on its states, the states it reaches from its initial
ones, and the two induction rules every invariant proof here goes through: a predicate that
holds initially and is kept by each step holds of every reachable state (`Reachable.inv`),
and a predicate kept by each step, once true, stays true (`stable`). A map that simulates
one system by another carries reachability across (`Reachable.map`, `Reachable.lift`).

A deterministic system is a step function over events; `run` applies a list of events in
order, and `run_inv` is the invariant rule over such a list.
-/

set_option autoImplicit false

namespace Transition

variable {σ ε : Type}

/-- The states `step` reaches from a state satisfying `init`. -/
def Reachable (init : σ → Prop) (step : σ → σ → Prop) (s : σ) : Prop :=
  ∃ s₀, init s₀ ∧ Relation.ReflTransGen step s₀ s

/-- A predicate kept by every step, once it holds, holds from then on. -/
theorem stable {step : σ → σ → Prop} {P : σ → Prop} (hs : ∀ s s', P s → step s s' → P s')
    {s s' : σ} (h : Relation.ReflTransGen step s s') (hp : P s) : P s' := by
  induction h with
  | refl => exact hp
  | tail _ hstep ih => exact hs _ _ ih hstep

/-- The invariant rule: holds initially and kept by every step, so it holds everywhere the
system goes. -/
theorem Reachable.inv {init : σ → Prop} {step : σ → σ → Prop} {P : σ → Prop}
    (h0 : ∀ s, init s → P s) (hs : ∀ s s', P s → step s s' → P s') {s : σ}
    (hr : Reachable init step s) : P s := by
  obtain ⟨s₀, hinit, hpath⟩ := hr
  exact stable hs hpath (h0 s₀ hinit)

theorem Reachable.of_init {init : σ → Prop} {step : σ → σ → Prop} {s : σ} (h : init s) :
    Reachable init step s :=
  ⟨s, h, Relation.ReflTransGen.refl⟩

theorem Reachable.tail {init : σ → Prop} {step : σ → σ → Prop} {s s' : σ}
    (hr : Reachable init step s) (h : step s s') : Reachable init step s' := by
  obtain ⟨s₀, hinit, hpath⟩ := hr
  exact ⟨s₀, hinit, hpath.tail h⟩

/-- A map taking initial states to initial states and steps to steps takes what one system
reaches to what the other reaches. -/
theorem Reachable.map {τ : Type} {init : σ → Prop} {step : σ → σ → Prop} {init' : τ → Prop}
    {step' : τ → τ → Prop} (f : σ → τ) (h0 : ∀ s, init s → init' (f s))
    (hs : ∀ s s', step s s' → step' (f s) (f s')) {s : σ} (hr : Reachable init step s) :
    Reachable init' step' (f s) := by
  obtain ⟨s₀, hinit, hpath⟩ := hr
  exact ⟨f s₀, h0 s₀ hinit, hpath.lift f hs⟩

/-- The converse simulation: when every initial state and every step from an image is the
image of one, every reachable state is the image of a reachable one. -/
theorem Reachable.lift {τ : Type} {init : σ → Prop} {step : σ → σ → Prop} {init' : τ → Prop}
    {step' : τ → τ → Prop} (f : σ → τ) (h0 : ∀ t, init' t → ∃ s, init s ∧ f s = t)
    (hs : ∀ s t', step' (f s) t' → ∃ s', step s s' ∧ f s' = t') {t : τ}
    (hr : Reachable init' step' t) : ∃ s, Reachable init step s ∧ f s = t := by
  obtain ⟨t₀, hinit, hpath⟩ := hr
  obtain ⟨s₀, hs₀, rfl⟩ := h0 t₀ hinit
  induction hpath with
  | refl => exact ⟨s₀, .of_init hs₀, rfl⟩
  | tail _ hstep ih =>
    obtain ⟨s, hr, rfl⟩ := ih
    obtain ⟨s', hstep', rfl⟩ := hs s _ hstep
    exact ⟨s', hr.tail hstep', rfl⟩

/-- Events applied in order. -/
def run (step : σ → ε → σ) (s : σ) (es : List ε) : σ := es.foldl step s

@[simp] theorem run_nil (step : σ → ε → σ) (s : σ) : run step s [] = s := rfl

@[simp] theorem run_cons (step : σ → ε → σ) (s : σ) (e : ε) (es : List ε) :
    run step s (e :: es) = run step (step s e) es := rfl

theorem run_append (step : σ → ε → σ) (s : σ) (es fs : List ε) :
    run step s (es ++ fs) = run step (run step s es) fs := by
  simp [run, List.foldl_append]

/-- The invariant rule over a list of events: kept by every event allowed by `ok`. -/
theorem run_inv (step : σ → ε → σ) {P : σ → Prop} {ok : ε → Prop}
    (hs : ∀ s e, ok e → P s → P (step s e)) :
    ∀ (es : List ε) (s : σ), (∀ e ∈ es, ok e) → P s → P (run step s es)
  | [], _, _, hp => hp
  | e :: es, s, hok, hp =>
      run_inv step hs es (step s e) (fun e' he' => hok e' (List.mem_cons_of_mem e he'))
        (hs s e (hok e List.mem_cons_self) hp)

end Transition
