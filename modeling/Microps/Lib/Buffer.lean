import Mathlib.Data.List.TakeDrop

/-!
# Byte buffers as lists

A fixed array of bytes is modelled as the list of its bytes, and `memcpy` into it at an
offset as `writeAt`: the elements from the offset on are overwritten, and elements written
past the end extend the list. A model that keeps the extension (rather than dropping it) can
state that a copy stayed inside the array as a fact about the length of the result.
-/

set_option autoImplicit false

namespace Buffer

variable {α : Type}

/-- Overwrite `buf` from position `off` with `src`. -/
def writeAt (buf : List α) (off : Nat) (src : List α) : List α :=
  buf.take off ++ src ++ buf.drop (off + src.length)

theorem length_writeAt {buf : List α} {off : Nat} (src : List α) (h : off ≤ buf.length) :
    (writeAt buf off src).length = max buf.length (off + src.length) := by
  simp only [writeAt, List.length_append, List.length_take, List.length_drop]
  omega

/-- A copy that fits leaves the length alone. -/
theorem length_writeAt_of_le {buf : List α} {off : Nat} (src : List α)
    (h : off + src.length ≤ buf.length) : (writeAt buf off src).length = buf.length := by
  rw [length_writeAt src (by omega)]
  omega

/-- What lies before the end of the copy: the old prefix, then the copied elements. -/
theorem take_writeAt {buf : List α} {off : Nat} (src : List α) (h : off ≤ buf.length) :
    (writeAt buf off src).take (off + src.length) = buf.take off ++ src := by
  have hlen : (buf.take off ++ src).length = off + src.length := by
    simp only [List.length_append, List.length_take]
    omega
  simp only [writeAt, List.append_assoc]
  rw [← List.append_assoc, List.take_append_of_le_length (by omega), List.take_of_length_le
    (by omega)]

/-- A copy does not touch what lies before its offset. -/
theorem take_writeAt_of_le {buf : List α} {off k : Nat} (src : List α) (h : off ≤ buf.length)
    (hk : k ≤ off) : (writeAt buf off src).take k = buf.take k := by
  simp only [writeAt, List.append_assoc]
  rw [List.take_append_of_le_length (by simp; omega), List.take_take, Nat.min_eq_left hk]

end Buffer
