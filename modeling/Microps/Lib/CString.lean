import Mathlib.Data.List.Basic
import Mathlib.Data.Nat.Digits.Defs

/-!
# C strings and the library functions that read and write them

A C string is read from a pointer into an object: the characters from there to the end of the
object, the string being those before the first `'\0'`. A function that reads past the end of
its object has undefined behaviour; the functions here return `none` there. `strtol` follows
the C standard for a base from `2` to `36` (base `0`, which guesses the base, is not used):
leading white space, an optional sign, for base `16` an optional `0x` or `0X`, then the longest
run of digits; with no digits nothing is converted and the end pointer is the start. A value
outside `long` is clamped to `LONG_MIN` or `LONG_MAX` (a `long` of 64 bits). `snprintf` writes
at most `size - 1` characters and a `'\0'`.

`strtol_digits` is what the round trips of a printer and a parser rest on: a run of digits
not starting with `0x`, followed by a character that is no digit, reads back as its value.
`toDigits` of a number is such a run (`digitsValue_toDigits`, `digitVal_of_mem_toDigits`).
A parser that reads a run of fields, one at a time, then reads back the fields a printer joined
with a separator (`fields_intercalate`).
-/

set_option autoImplicit false

namespace CString

/-- `LONG_MAX` for a `long` of 64 bits. -/
def LONG_MAX : Int := 2 ^ 63 - 1

/-- `LONG_MIN` for a `long` of 64 bits. -/
def LONG_MIN : Int := -2 ^ 63

/-- `isspace` in the C locale. -/
def isSpace (c : Char) : Bool :=
  c == ' ' || c == '\t' || c == '\n' || c == '\x0b' || c == '\x0c' || c == '\r'

/-- The value of a character as a digit of `strtol`: `0`-`9`, then the letters of either case
from `10` on. -/
def digitRaw (c : Char) : Option Nat :=
  if '0' ≤ c ∧ c ≤ '9' then some (c.toNat - '0'.toNat)
  else if 'a' ≤ c ∧ c ≤ 'z' then some (c.toNat - 'a'.toNat + 10)
  else if 'A' ≤ c ∧ c ≤ 'Z' then some (c.toNat - 'A'.toNat + 10)
  else none

/-- The value of a digit of `base`, or `none` for a character that is none. -/
def digitVal (base : Nat) (c : Char) : Option Nat :=
  (digitRaw c).filter fun d => decide (d < base)

/-- How many characters from the start satisfy `p`; the character after them is read too, and
`none` means the object ends first. -/
def scanWhile (p : Char → Bool) : List Char → Option Nat
  | [] => none
  | c :: rest => if p c then (scanWhile p rest).map (· + 1) else some 0

/-- The value of a run of digits of `base`. -/
def digitsValue (base : Nat) (ds : List Char) : Nat :=
  ds.foldl (fun acc c => acc * base + (digitVal base c).getD 0) 0

/-- The length of a `0x` or `0X` prefix `strtol` skips in base `16`: only one followed by a hex
digit counts. -/
def hexPrefix (base : Nat) : List Char → Option Nat
  | '0' :: x :: rest =>
    if base = 16 ∧ (x = 'x' ∨ x = 'X') then
      match rest with
      | [] => none
      | d :: _ => some (if (digitVal 16 d).isSome then 2 else 0)
    else some 0
  | _ => some 0

/-- A value as `long` holds it after `strtol`'s overflow check. -/
def clampLong (v : Int) : Int :=
  max LONG_MIN (min v LONG_MAX)

/-- `strtol(s, &end, base)`: the value and how far `end` is from `s`. -/
def strtol (s : List Char) (base : Nat) : Option (Int × Nat) := do
  let ws ← scanWhile isSpace s
  let s₁ := s.drop ws
  let sg := match s₁ with
    | '+' :: _ | '-' :: _ => 1
    | _ => 0
  let s₂ := s₁.drop sg
  let px ← hexPrefix base s₂
  let n ← scanWhile (fun c => (digitVal base c).isSome) (s₂.drop px)
  if n = 0 then pure (0, 0) else
  let v : Int := digitsValue base ((s₂.drop px).take n)
  pure (clampLong (if s₁.head? = some '-' then -v else v), ws + sg + px + n)

/-- `strlen` -/
def strlen (s : List Char) : Option Nat :=
  scanWhile (· != '\x00') s

/-- `strrchr(s, c)` for a `c` other than `'\0'`: where its last occurrence before the
terminator is, or `none` (`NULL`) inside. -/
def strrchr (c : Char) : List Char → Option (Option Nat)
  | [] => none
  | c' :: rest =>
    if c' = '\x00' then some none else
    (strrchr c rest).map fun r => match r with
      | some i => some (i + 1)
      | none => if c' = c then some 0 else none

/-- `snprintf(buf, size, ...)` of the text `s`: the characters it writes from `buf` on. -/
def snprintf (size : Nat) (s : List Char) : List Char :=
  if size = 0 then [] else s.take (size - 1) ++ ['\x00']

/-- The conversion `%d` of a value that is not negative. -/
def fmtDec (n : Nat) : List Char :=
  Nat.toDigits 10 n

/-- The conversion `%02x`: lower-case hex digits, padded with `0` to two. -/
def fmtHex02 (n : Nat) : List Char :=
  List.replicate (2 - (Nat.toDigits 16 n).length) '0' ++ Nat.toDigits 16 n

/-! ## Digits -/

theorem digitRaw_digitChar : ∀ d, d < 16 → digitRaw (Nat.digitChar d) = some d
  | 0, _ | 1, _ | 2, _ | 3, _ | 4, _ | 5, _ | 6, _ | 7, _ | 8, _ | 9, _ | 10, _ | 11, _ | 12, _
  | 13, _ | 14, _ | 15, _ => by decide
  | _ + 16, h => absurd h (by omega)

theorem digitVal_digitChar {base d : Nat} (hd : d < base) (hb : base ≤ 16) :
    digitVal base (Nat.digitChar d) = some d := by
  rw [digitVal, digitRaw_digitChar d (by omega)]
  simp [Option.filter, hd]

/-- A digit of a base up to `16` is no letter past `f`, in particular no `x`. -/
theorem digitVal_x {base : Nat} (hb : base ≤ 16) : digitVal base 'x' = none ∧ digitVal base 'X' = none := by
  constructor <;> simp [digitVal, digitRaw, Option.filter] <;> omega

theorem isSpace_of_digitVal {base : Nat} {c : Char} (h : (digitVal base c).isSome) : isSpace c = false := by
  cases hs : isSpace c
  · rfl
  · simp only [isSpace, Bool.or_eq_true, beq_iff_eq] at hs
    rcases hs with ((((rfl | rfl) | rfl) | rfl) | rfl) | rfl <;> simp [digitVal, digitRaw] at h

theorem sign_of_digitVal {base : Nat} {c : Char} (h : (digitVal base c).isSome) : c ≠ '+' ∧ c ≠ '-' := by
  constructor <;> rintro rfl <;> simp [digitVal, digitRaw] at h

/-- Every digit `toDigits` writes is the digit of a value below the base. -/
theorem mem_toDigits {b : Nat} (hb : 1 < b) : ∀ {n : Nat} {c : Char}, c ∈ Nat.toDigits b n →
    ∃ d < b, c = Nat.digitChar d := by
  intro n
  induction n using Nat.strongRecOn with
  | ind n ih =>
    intro c hc
    rw [Nat.toDigits_eq_if hb] at hc
    split at hc
    · exact ⟨n, ‹n < b›, List.mem_singleton.mp hc⟩
    · rcases List.mem_append.mp hc with hc | hc
      · exact ih (n / b) (Nat.div_lt_self (by omega) hb) hc
      · exact ⟨n % b, Nat.mod_lt n (by omega), List.mem_singleton.mp hc⟩

theorem digitVal_of_mem_toDigits {b n : Nat} {c : Char} (hb : 1 < b) (hb16 : b ≤ 16)
    (hc : c ∈ Nat.toDigits b n) : (digitVal b c).isSome := by
  obtain ⟨d, hd, rfl⟩ := mem_toDigits hb hc
  rw [digitVal_digitChar hd hb16]
  rfl

theorem digitsValue_append_singleton (base : Nat) (ds : List Char) (c : Char) :
    digitsValue base (ds ++ [c]) = digitsValue base ds * base + (digitVal base c).getD 0 := by
  simp [digitsValue, List.foldl_append]

/-- `toDigits` of a number reads back as the number. -/
theorem digitsValue_toDigits {b : Nat} (hb : 1 < b) (hb16 : b ≤ 16) (n : Nat) :
    digitsValue b (Nat.toDigits b n) = n := by
  induction n using Nat.strongRecOn with
  | ind n ih =>
    rw [Nat.toDigits_eq_if hb]
    split
    · simp [digitsValue, digitVal_digitChar ‹n < b› hb16]
    · rw [digitsValue_append_singleton, ih (n / b) (Nat.div_lt_self (by omega) hb),
        digitVal_digitChar (Nat.mod_lt n (by omega)) hb16]
      simp only [Option.getD_some]
      exact Nat.div_add_mod' n b

/-! ## Scanning -/

theorem scanWhile_append {p : Char → Bool} {c : Char} (rest : List Char) (hc : p c = false) :
    ∀ (L : List Char), (∀ x ∈ L, p x = true) → scanWhile p (L ++ c :: rest) = some L.length
  | [], _ => by simp [scanWhile, hc]
  | x :: L, hL => by
    rw [List.cons_append, scanWhile, if_pos (hL x List.mem_cons_self),
      scanWhile_append rest hc L fun y hy => hL y (List.mem_cons_of_mem x hy)]
    rfl

/-- `strtol` on a run of digits, not starting with a hex prefix, followed by a character that
is no digit: the run's value, and the end pointer just after it. -/
theorem strtol_digits {base : Nat} (hb : base ≤ 16) {L : List Char} {c : Char} (rest : List Char)
    (hne : L ≠ []) (hL : ∀ x ∈ L, (digitVal base x).isSome) (hc : digitVal base c = none)
    (hx : c ≠ 'x' ∧ c ≠ 'X') (hv : (digitsValue base L : Int) ≤ LONG_MAX) :
    strtol (L ++ c :: rest) base = some ((digitsValue base L : Int), L.length) := by
  obtain ⟨x, L', rfl⟩ := List.exists_cons_of_ne_nil hne
  have hxd := hL x List.mem_cons_self
  -- no white space and no sign before the first digit
  have hws : scanWhile isSpace ((x :: L') ++ c :: rest) = some 0 := by
    simp [scanWhile, isSpace_of_digitVal hxd]
  have hsg : (match (x :: L') ++ c :: rest with
      | '+' :: _ | '-' :: _ => 1
      | _ => 0) = 0 := by
    obtain ⟨hp, hm⟩ := sign_of_digitVal hxd
    simp only [List.cons_append]
    split <;> simp_all
  -- a hex prefix needs an `x` second, which is neither a digit nor `c`
  have hpx : hexPrefix base ((x :: L') ++ c :: rest) = some 0 := by
    obtain ⟨hx₁, hx₂⟩ := digitVal_x hb
    cases L' with
    | nil =>
      simp only [List.cons_append, List.nil_append, hexPrefix]
      split <;> simp_all
    | cons y L'' =>
      have hyd := hL y (List.mem_cons_of_mem x List.mem_cons_self)
      have hyx : y ≠ 'x' ∧ y ≠ 'X' := by
        constructor <;> rintro rfl <;> simp_all
      simp only [List.cons_append, hexPrefix]
      split <;> simp_all
  have hscan := scanWhile_append (p := fun ch => (digitVal base ch).isSome) (c := c) rest
    (by simp [hc]) (x :: L') hL
  have hhead : ((x :: L') ++ c :: rest).head? ≠ some '-' := by
    simp [(sign_of_digitVal hxd).2]
  have hnn : (0 : Int) ≤ digitsValue base (x :: L') := Int.natCast_nonneg _
  unfold strtol
  rw [hws]
  simp only [Option.bind_eq_bind, Option.bind_some, List.drop_zero]
  rw [hsg, List.drop_zero, hpx, Option.bind_some, List.drop_zero, hscan, Option.bind_some,
    if_neg (by simp), List.take_left, if_neg hhead]
  -- the value fits a `long`, so the clamp leaves it
  have hclamp : clampLong (digitsValue base (x :: L')) = digitsValue base (x :: L') := by
    unfold clampLong LONG_MIN
    omega
  rw [hclamp, Nat.zero_add]
  rfl

theorem ne_of_digitVal {base : Nat} {x c : Char} (hx : (digitVal base x).isSome)
    (hc : digitVal base c = none) : x ≠ c := by
  rintro rfl
  simp [hc] at hx

/-! ## Reading back what `%d` and `%02x` write -/

theorem digitVal_of_mem_fmtDec {n : Nat} {x : Char} (hx : x ∈ fmtDec n) : (digitVal 10 x).isSome :=
  digitVal_of_mem_toDigits (by decide) (by decide) hx

theorem digitsValue_fmtDec (n : Nat) : digitsValue 10 (fmtDec n) = n :=
  digitsValue_toDigits (by decide) (by decide) n

/-- `strtol` in base `10` reads back what `%d` wrote, up to a character that is no digit. -/
theorem strtol_fmtDec {n : Nat} (hn : n < 2 ^ 63) {c : Char} (rest : List Char)
    (hc : digitVal 10 c = none) (hx : c ≠ 'x' ∧ c ≠ 'X') :
    strtol (fmtDec n ++ c :: rest) 10 = some ((n : Int), (fmtDec n).length) := by
  have h := strtol_digits (L := fmtDec n) (by decide) rest Nat.toDigits_ne_nil
    (fun _ hx => digitVal_of_mem_fmtDec hx) hc hx
    (by rw [digitsValue_fmtDec]; unfold LONG_MAX; omega)
  rwa [digitsValue_fmtDec] at h

/-- Leading zeros add nothing to a run of digits. -/
theorem digitsValue_replicate_zero_append {base : Nat} (hb : 0 < base) (hb16 : base ≤ 16)
    (L : List Char) : ∀ k, digitsValue base (List.replicate k '0' ++ L) = digitsValue base L
  | 0 => rfl
  | k + 1 => by
    have h0 : digitVal base '0' = some 0 := digitVal_digitChar (d := 0) hb hb16
    rw [← digitsValue_replicate_zero_append hb hb16 L k, List.replicate_succ, List.cons_append]
    simp [digitsValue, h0]

theorem length_fmtHex02 {n : Nat} (hn : n < 256) : (fmtHex02 n).length = 2 := by
  have h := Nat.toDigits_length 16 n 2 (by decide) (by omega)
  simp only [fmtHex02, List.length_append, List.length_replicate]
  omega

theorem digitVal_of_mem_fmtHex02 {n : Nat} {x : Char} (hx : x ∈ fmtHex02 n) :
    (digitVal 16 x).isSome := by
  rcases List.mem_append.mp hx with hx | hx
  · rw [(List.mem_replicate.mp hx).2]
    decide
  · exact digitVal_of_mem_toDigits (by decide) (by decide) hx

theorem digitsValue_fmtHex02 (n : Nat) : digitsValue 16 (fmtHex02 n) = n := by
  rw [fmtHex02, digitsValue_replicate_zero_append (by decide) (by decide),
    digitsValue_toDigits (by decide) (by decide)]

/-- `strtol` in base `16` reads back what `%02x` wrote, up to a character that is no digit and
no `x`. -/
theorem strtol_fmtHex02 {n : Nat} (hn : n < 256) {c : Char} (rest : List Char)
    (hc : digitVal 16 c = none) (hx : c ≠ 'x' ∧ c ≠ 'X') :
    strtol (fmtHex02 n ++ c :: rest) 16 = some ((n : Int), 2) := by
  have hne : fmtHex02 n ≠ [] := List.ne_nil_of_length_pos (by rw [length_fmtHex02 hn]; decide)
  have h := strtol_digits (L := fmtHex02 n) (by decide) rest hne
    (fun _ hx => digitVal_of_mem_fmtHex02 hx) hc hx
    (by rw [digitsValue_fmtHex02]; unfold LONG_MAX; omega)
  rwa [digitsValue_fmtHex02, length_fmtHex02 hn] at h

/-! ## Strings in buffers -/

/-- `snprintf` of a text that fits writes all of it and the terminator. -/
theorem snprintf_of_lt {size : Nat} {s : List Char} (h : s.length < size) :
    snprintf size s = s ++ ['\x00'] := by
  rw [snprintf, if_neg (by omega), List.take_of_length_le (by omega)]

theorem strlen_append {L : List Char} (hL : ∀ x ∈ L, x ≠ '\x00') (rest : List Char) :
    strlen (L ++ '\x00' :: rest) = some L.length :=
  scanWhile_append rest (by decide) L (by simpa using hL)

/-- No `c` before the terminator. -/
theorem strrchr_of_forall_ne {c : Char} (rest : List Char) :
    ∀ {L : List Char}, (∀ x ∈ L, x ≠ c ∧ x ≠ '\x00') → strrchr c (L ++ '\x00' :: rest) = some none
  | [], _ => by simp [strrchr]
  | x :: L, hL => by
    obtain ⟨hxc, hx0⟩ := hL x List.mem_cons_self
    rw [List.cons_append, strrchr, if_neg hx0,
      strrchr_of_forall_ne rest fun y hy => hL y (List.mem_cons_of_mem x hy)]
    simp [hxc]

theorem strrchr_cons_self {c : Char} (hc : c ≠ '\x00') {R : List Char} (hR : strrchr c R = some none) :
    strrchr c (c :: R) = some (some 0) := by
  rw [strrchr, if_neg hc, hR]
  simp

/-- A text without a terminator in front moves the last `c` along. -/
theorem strrchr_append {c : Char} {R : List Char} {i : Nat} (hR : strrchr c R = some (some i)) :
    ∀ {L : List Char}, (∀ x ∈ L, x ≠ '\x00') → strrchr c (L ++ R) = some (some (L.length + i))
  | [], _ => by simp [hR]
  | x :: L, hL => by
    rw [List.cons_append, strrchr, if_neg (hL x List.mem_cons_self),
      strrchr_append hR fun y hy => hL y (List.mem_cons_of_mem x hy)]
    simp only [Option.map_some, List.length_cons]
    rw [Nat.add_right_comm]

/-! ## Fields joined by a separator -/

/-- Fields of at most `m` characters joined by one separator. -/
theorem length_intercalate_singleton_le {s : Char} {m : Nat} :
    ∀ (xs : List (List Char)), xs ≠ [] → (∀ l ∈ xs, l.length ≤ m) →
      (List.intercalate [s] xs).length + 1 ≤ xs.length * (m + 1)
  | [l], _, h => by
    have hl := h l List.mem_cons_self
    simp only [List.intercalate_singleton, List.length_singleton, Nat.one_mul]
    omega
  | l :: l' :: xs, _, h => by
    have hl := h l List.mem_cons_self
    have ih := length_intercalate_singleton_le (s := s) (l' :: xs) (by simp)
      fun x hx => h x (List.mem_cons_of_mem l hx)
    simp only [List.intercalate_cons_cons, List.length_append, List.length_cons,
      List.length_nil, Nat.add_mul, Nat.one_mul] at ih ⊢
    omega

/-- A character of fields joined by `s` is `s` or a character of a field. -/
theorem mem_intercalate_singleton {s x : Char} :
    ∀ {xs : List (List Char)}, x ∈ List.intercalate [s] xs → x = s ∨ ∃ l ∈ xs, x ∈ l
  | [], h => by simp at h
  | [l], h => Or.inr ⟨l, List.mem_singleton_self l, by simpa using h⟩
  | l :: l' :: xs, h => by
    rw [List.intercalate_cons_cons, List.append_assoc, List.singleton_append] at h
    rcases List.mem_append.mp h with h | h
    · exact Or.inr ⟨l, List.mem_cons_self, h⟩
    rcases List.mem_cons.mp h with h | h
    · exact Or.inl h
    rcases mem_intercalate_singleton h with h | ⟨l'', hl'', hx⟩
    · exact Or.inl h
    · exact Or.inr ⟨l'', List.mem_cons_of_mem l hl'', hx⟩

/-- A loop that reads `k` fields, each a printed value and the character after it (the
terminator after the last field, `sep` after the others), reads back every nonempty list of
values printed by `f` between `sep`s and terminated. -/
theorem fields_intercalate {β : Type} (parse : Nat → List Char → Option (Option (List β)))
    (f : β → List Char) (sep : Char)
    (hfield : ∀ b k c rest, (if k = 0 then c = '\x00' else c = sep) →
      parse (k + 1) (f b ++ c :: rest) = (parse k rest).map (·.map (b :: ·)))
    (hzero : ∀ rest, parse 0 rest = some (some [])) (rest : List Char) :
    ∀ (bs : List β), bs ≠ [] →
      parse bs.length (List.intercalate [sep] (bs.map f) ++ '\x00' :: rest) = some (some bs)
  | [b], _ => by
    rw [List.map_singleton, List.intercalate_singleton, List.length_singleton,
      hfield b 0 '\x00' rest (by simp), hzero]
    rfl
  | b :: b' :: bs, _ => by
    have ih := fields_intercalate parse f sep hfield hzero rest (b' :: bs) (by simp)
    rw [List.map_cons] at ih
    rw [List.map_cons, List.map_cons, List.intercalate_cons_cons, List.append_assoc,
      List.append_assoc, List.singleton_append, List.length_cons,
      hfield b _ sep _ (by simp), ih]
    rfl

end CString
