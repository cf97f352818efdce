import Mathlib.Data.List.MinMax

/-!
# The first maximum among the elements that qualify

A lookup that scans a list, keeps the elements that qualify, and takes the one with the greatest
key, the earlier one on a tie, returns `List.argmax key (l.filter p)`. `FirstMaxAmong` says what
that element is without the scan: it qualifies, no qualifying element has a greater key, and
every qualifying element before it has a smaller one. `firstMaxAmong_of_argmax_filter` and
`argmax_filter_eq_none_iff` read the scan's result as that.
-/

set_option autoImplicit false

namespace List

variable {α β : Type} [LinearOrder β]

/-- `a` is the first element of `l` satisfying `p` whose `key` is the greatest among those
satisfying `p`. -/
structure FirstMaxAmong (key : α → β) (p : α → Prop) (l : List α) (a : α) : Prop where
  sat : p a
  split : ∃ pre post, l = pre ++ a :: post ∧ ∀ b ∈ pre, p b → key b < key a
  max : ∀ b ∈ l, p b → key b ≤ key a

namespace FirstMaxAmong

variable {key : α → β} {p : α → Prop} {l : List α} {a : α}

/-- An element that does not qualify, in front of the list, changes nothing. -/
theorem cons_of_not (x : α) (hx : ¬p x) (h : FirstMaxAmong key p l a) :
    FirstMaxAmong key p (x :: l) a := by
  obtain ⟨pre, post, rfl, hpre⟩ := h.split
  refine ⟨h.sat, ⟨x :: pre, post, rfl, ?_⟩, ?_⟩
  · intro b hb hpb
    rcases mem_cons.mp hb with rfl | hb
    · exact absurd hpb hx
    · exact hpre b hb hpb
  · intro b hb hpb
    rcases mem_cons.mp hb with rfl | hb
    · exact absurd hpb hx
    · exact h.max b hb hpb

/-- A qualifying element with a smaller key, in front of the list, changes nothing. -/
theorem cons_of_lt (x : α) (hlt : key x < key a) (h : FirstMaxAmong key p l a) :
    FirstMaxAmong key p (x :: l) a := by
  obtain ⟨pre, post, rfl, hpre⟩ := h.split
  refine ⟨h.sat, ⟨x :: pre, post, rfl, ?_⟩, ?_⟩
  · intro b hb hpb
    rcases mem_cons.mp hb with rfl | hb
    · exact hlt
    · exact hpre b hb hpb
  · intro b hb hpb
    rcases mem_cons.mp hb with rfl | hb
    · exact hlt.le
    · exact h.max b hb hpb

/-- The head of the list, when no later qualifying element has a greater key. -/
theorem head (x : α) (hx : p x) (hmax : ∀ b ∈ l, p b → key b ≤ key x) :
    FirstMaxAmong key p (x :: l) x := by
  refine ⟨hx, ⟨[], l, rfl, by simp⟩, ?_⟩
  intro b hb hpb
  rcases mem_cons.mp hb with rfl | hb
  · exact le_rfl
  · exact hmax b hb hpb

end FirstMaxAmong

variable (key : α → β) (p : α → Prop) [DecidablePred p]

/-- The first maximum of the qualifying elements is the first maximum among them. -/
theorem firstMaxAmong_of_argmax_filter :
    ∀ {l : List α} {a : α}, (l.filter p).argmax key = some a → FirstMaxAmong key p l a
  | [], _, h => by simp at h
  | x :: l, a, h => by
    by_cases hx : p x
    · rw [filter_cons_of_pos (by simpa using hx), argmax_cons] at h
      cases hrest : (l.filter p).argmax key with
      | none =>
        -- nothing after `x` qualifies
        rw [hrest] at h
        obtain rfl := Option.some.inj h
        have hnone : ∀ b ∈ l, ¬p b := by simpa [filter_eq_nil_iff] using hrest
        exact FirstMaxAmong.head _ hx fun b hb hpb => absurd hpb (hnone b hb)
      | some c =>
        have ih := firstMaxAmong_of_argmax_filter hrest
        rw [hrest] at h
        dsimp only at h
        split at h
        · -- a later element has the greater key
          rename_i hlt
          obtain rfl := Option.some.inj h
          exact ih.cons_of_lt x hlt
        · rename_i hge
          obtain rfl := Option.some.inj h
          exact FirstMaxAmong.head _ hx fun b hb hpb =>
            (ih.max b hb hpb).trans (not_lt.mp hge)
    · rw [filter_cons_of_neg (by simpa using hx)] at h
      exact (firstMaxAmong_of_argmax_filter h).cons_of_not x hx

theorem argmax_filter_eq_none_iff {l : List α} :
    (l.filter p).argmax key = none ↔ ∀ b ∈ l, ¬p b := by
  rw [argmax_eq_none, filter_eq_nil_iff]
  simp

end List
