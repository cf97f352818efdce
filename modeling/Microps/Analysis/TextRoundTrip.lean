import Microps.Model.Text

/-!
# Addresses as text: the round trips, and what the endpoint parser lets through

The parsers of `ip.c` and `ether.c` read back what the printers write (`text_round_trips`): an
address printed by `ip_addr_ntop`, an endpoint with a port other than `0` printed by
`ip_endpoint_ntop`, and a hardware address printed by `ether_addr_ntop`, each into a buffer of at
least the length its `_STR_LEN` macro gives, parse back to itself on either host byte order.

The proofs go field by field. `strtol` reads a printed field back and stops at the separator the
parser expects next (`strtol_fmtDec`, `strtol_fmtHex02`), so the loop over `k + 1` fields on a
printed field and what follows it is the loop over `k` fields on the rest
(`ipAddrPtonFields_fmtDec`, `etherAddrPtonFields_fmtHex02`); an induction over the printed
fields puts the loop together (`fields_intercalate`).

`ip_endpoint_pton` accepts more than the text `ip_endpoint_ntop` writes, and not only harmless
variants: `strtol` reads the port up to the first character that is no digit, so any text after
the port is accepted, and `memcpy` copies the address part into its buffer of `IP_ADDR_STR_LEN`
bytes whatever its length, so an address part of `IP_ADDR_STR_LEN` characters or more leaves the
buffer without its terminator or writes past it (`ip_endpoint_pton_loose`).
-/

set_option autoImplicit false

namespace Microps

open ByteOrder CString

/-! ## `ip_addr_pton` and `ip_addr_ntop` -/

/-- One field of `ip_addr_pton`: a byte in decimal, then the terminator after the last field
and a dot after the others. -/
theorem ipAddrPtonFields_fmtDec (b : UInt8) (k : Nat) {c : Char} (rest : List Char)
    (hc : if k = 0 then c = '\x00' else c = '.') :
    ipAddrPtonFields (k + 1) (fmtDec b.toNat ++ c :: rest) =
      (ipAddrPtonFields k rest).map (·.map (b :: ·)) := by
  have hb := b.toNat_lt
  have hstop : digitVal 10 c = none ∧ c ≠ 'x' ∧ c ≠ 'X' := by
    split at hc <;> subst hc <;> decide
  have hsep : ¬((k = 0 ∧ c ≠ '\x00') ∨ (k ≠ 0 ∧ c ≠ '.')) := by
    split at hc <;> simp_all
  have hlen : 0 < (fmtDec b.toNat).length := Nat.length_toDigits_pos
  have hc : (fmtDec b.toNat ++ c :: rest)[(fmtDec b.toNat).length]? = some c := by simp
  have hdrop : (fmtDec b.toNat ++ c :: rest).drop ((fmtDec b.toNat).length + 1) = rest := by simp
  rw [ipAddrPtonFields]
  simp only [strtol_fmtDec (n := b.toNat) (by omega) rest hstop.1 hstop.2, Option.bind_some]
  rw [if_neg (by omega), hc, Option.bind_some, if_neg hsep, hdrop, Int.toNat_natCast,
    UInt8.ofNat_toNat]

/-- `ip_addr_pton` on the text `ip_addr_ntop` prints, whatever follows its terminator. -/
theorem ipAddrPton_text (e : Endian) (n : UInt32) (rest : List Char) :
    ipAddrPton e (List.intercalate ['.'] ((e.store32 n).map fun b => fmtDec b.toNat) ++
        '\x00' :: rest) = some (some n) := by
  have hne : e.store32 n ≠ [] := List.ne_nil_of_length_pos (by simp)
  have h := fields_intercalate ipAddrPtonFields (fun b => fmtDec b.toNat) '.'
    (fun b k _ rest hc => ipAddrPtonFields_fmtDec b k rest hc) (fun _ => rfl) rest (e.store32 n) hne
  rw [Endian.length_store32] at h
  rw [ipAddrPton, h, Option.map_some, Option.map_some, Endian.load32_store32]

/-- The dotted text of an address has at most `15` characters, none of them a terminator. -/
theorem ipAddrText_fits (e : Endian) (n : UInt32) :
    (List.intercalate ['.'] ((e.store32 n).map fun b => fmtDec b.toNat)).length ≤ 15 ∧
      ∀ x ∈ List.intercalate ['.'] ((e.store32 n).map fun b => fmtDec b.toNat), x ≠ '\x00' := by
  constructor
  · have h := length_intercalate_singleton_le (s := '.') (m := 3)
      ((e.store32 n).map fun b => fmtDec b.toNat)
      (List.ne_nil_of_length_pos (by simp)) (by
        intro l hl
        obtain ⟨b, -, rfl⟩ := List.mem_map.mp hl
        have := b.toNat_lt
        exact Nat.toDigits_length 10 _ 3 (by decide) (show b.toNat < 1000 by omega))
    rw [List.length_map, Endian.length_store32] at h
    omega
  · intro x hx
    rcases mem_intercalate_singleton hx with rfl | ⟨l, hl, hx⟩
    · decide
    · obtain ⟨b, -, rfl⟩ := List.mem_map.mp hl
      exact ne_of_digitVal (digitVal_of_mem_fmtDec hx) (by decide)

/-- What `ip_addr_ntop` writes into a buffer of at least `IP_ADDR_STR_LEN` bytes. -/
theorem ipAddrNtop_eq (e : Endian) (n : UInt32) {size : Nat} (hsize : IP_ADDR_STR_LEN ≤ size) :
    ipAddrNtop e n size =
      List.intercalate ['.'] ((e.store32 n).map fun b => fmtDec b.toNat) ++ ['\x00'] := by
  have h := (ipAddrText_fits e n).1
  unfold IP_ADDR_STR_LEN at hsize
  exact snprintf_of_lt (by omega)

theorem ipAddrPton_ipAddrNtop (e : Endian) (n : UInt32) {size : Nat}
    (hsize : IP_ADDR_STR_LEN ≤ size) : ipAddrPton e (ipAddrNtop e n size) = some (some n) := by
  rw [ipAddrNtop_eq e n hsize]
  exact ipAddrPton_text e n []

/-! ## `ip_endpoint_pton` and `ip_endpoint_ntop` -/

/-- What `ip_endpoint_ntop` writes into a buffer of at least `IP_ENDPOINT_STR_LEN` bytes: the
address text, a colon, the port in decimal and the terminator. -/
theorem ipEndpointNtop_eq (e : Endian) (ep : IpEndpoint) {size : Nat}
    (hsize : IP_ENDPOINT_STR_LEN ≤ size) :
    ipEndpointNtop e ep size =
      List.intercalate ['.'] ((e.store32 ep.addr).map fun b => fmtDec b.toNat) ++
        ':' :: (fmtDec (ntoh16 e ep.port).toNat ++ ['\x00']) := by
  obtain ⟨hA, hnul⟩ := ipAddrText_fits e ep.addr
  have hv := (ntoh16 e ep.port).toNat_lt
  have hD : (fmtDec (ntoh16 e ep.port).toNat).length ≤ 5 :=
    Nat.toDigits_length 10 _ 5 (by decide) (show _ < 100000 by omega)
  unfold IP_ENDPOINT_STR_LEN IP_ADDR_STR_LEN at hsize
  simp only [ipEndpointNtop]
  -- `strlen` finds the terminator `ip_addr_ntop` wrote, and the port goes over it
  rw [ipAddrNtop_eq e ep.addr (by unfold IP_ADDR_STR_LEN; omega), strlen_append hnul [],
    Option.getD_some, List.take_left, snprintf_of_lt (by simp only [List.length_cons]; omega),
    List.cons_append]

/-- `ip_endpoint_pton` on an address text that `ip_addr_pton` reads as `a` from the zeroed
buffer, a colon, and a port other than `0` in decimal. -/
theorem ipEndpointPton_of_text (e : Endian) {A : List Char} {a : UInt32} {port : UInt16}
    (hA : A.length < IP_ADDR_STR_LEN) (hnul : ∀ x ∈ A, x ≠ '\x00')
    (ha : ipAddrPton e (A ++ List.replicate (IP_ADDR_STR_LEN - A.length) '\x00') = some (some a))
    (hport : port ≠ 0) :
    ipEndpointPton e (A ++ ':' :: (fmtDec port.toNat ++ ['\x00'])) =
      some (some ⟨a, hton16 e port⟩) := by
  have hv := port.toNat_lt
  have hv0 : port.toNat ≠ 0 := fun h0 => hport (UInt16.toNat_inj.mp h0)
  have hdigits : ∀ x ∈ fmtDec port.toNat, x ≠ ':' ∧ x ≠ '\x00' := fun x hx =>
    ⟨ne_of_digitVal (digitVal_of_mem_fmtDec hx) (by decide),
      ne_of_digitVal (digitVal_of_mem_fmtDec hx) (by decide)⟩
  -- the port has neither a colon nor a terminator: the last colon is the one before it
  have hsep : strrchr ':' (A ++ ':' :: (fmtDec port.toNat ++ ['\x00'])) = some (some A.length) := by
    have h := strrchr_append (strrchr_cons_self (by decide) (strrchr_of_forall_ne [] hdigits)) hnul
    rwa [Nat.add_zero] at h
  have hdrop : (A ++ ':' :: (fmtDec port.toNat ++ ['\x00'])).drop (A.length + 1) =
      fmtDec port.toNat ++ ['\x00'] := by
    simp
  have hlt : ¬IP_ADDR_STR_LEN < A.length := by omega
  have hrange : ¬((port.toNat : Int) ≤ 0 ∨ (port.toNat : Int) > 65535) := by omega
  have hconv : port.toNat.toUInt16 = port := UInt16.ofNat_toNat
  simp only [ipEndpointPton, hsep, Option.bind_some, if_neg hlt, List.take_left, ha, hdrop,
    strtol_fmtDec (n := port.toNat) (c := '\x00') (by omega) [] (by decide) (by decide), if_neg hrange,
    Int.toNat_natCast, hconv]

theorem ipEndpointPton_ipEndpointNtop (e : Endian) (ep : IpEndpoint) {size : Nat}
    (hport : ep.port ≠ 0) (hsize : IP_ENDPOINT_STR_LEN ≤ size) :
    ipEndpointPton e (ipEndpointNtop e ep size) = some (some ep) := by
  obtain ⟨hA, hnul⟩ := ipAddrText_fits e ep.addr
  have hv : ntoh16 e ep.port ≠ 0 := by
    intro h0
    apply hport
    rw [← hton16_ntoh16 e ep.port, h0]
    cases e <;> decide
  -- the zeroed rest of `addr` holds the terminator `ip_addr_pton` stops at
  have ha := ipAddrPton_text e ep.addr
    (List.replicate (IP_ADDR_STR_LEN - (List.intercalate ['.']
      ((e.store32 ep.addr).map fun b => fmtDec b.toNat)).length - 1) '\x00')
  rw [← List.replicate_succ, Nat.sub_add_cancel (by unfold IP_ADDR_STR_LEN; omega)] at ha
  rw [ipEndpointNtop_eq e ep hsize,
    ipEndpointPton_of_text e (by unfold IP_ADDR_STR_LEN; omega) hnul ha hv, hton16_ntoh16]

/-! ## `ether_addr_pton` and `ether_addr_ntop` -/

/-- One field of `ether_addr_pton`: a byte in two hex digits, then the terminator after the
last field and a colon after the others. -/
theorem etherAddrPtonFields_fmtHex02 (b : UInt8) (k : Nat) {c : Char} (rest : List Char)
    (hc : if k = 0 then c = '\x00' else c = ':') :
    etherAddrPtonFields (k + 1) (fmtHex02 b.toNat ++ c :: rest) =
      (etherAddrPtonFields k rest).map (·.map (b :: ·)) := by
  have hb := b.toNat_lt
  have hstop : digitVal 16 c = none ∧ c ≠ 'x' ∧ c ≠ 'X' := by
    split at hc <;> subst hc <;> decide
  have hc2 : (fmtHex02 b.toNat ++ c :: rest)[2]? = some c := by
    rw [← length_fmtHex02 hb]
    simp
  have hdrop : (fmtHex02 b.toNat ++ c :: rest).drop (2 + 1) = rest := by
    rw [← length_fmtHex02 hb]
    simp
  rw [etherAddrPtonFields]
  simp only [strtol_fmtHex02 hb rest hstop.1 hstop.2, Option.bind_some, hc2]
  rw [if_neg (by omega)]
  split at hc
  · -- the last field: the loop ends, and the terminator is checked after it
    rename_i hk
    subst hk hc
    simp [etherAddrPtonFields]
  · rename_i hk
    subst hc
    rw [if_neg hk, if_neg (by decide), hdrop, Int.toNat_natCast, UInt8.ofNat_toNat]

/-- What `ether_addr_ntop` writes into a buffer of at least `ETHER_ADDR_STR_LEN` bytes. -/
theorem etherAddrNtop_eq {a : List UInt8} (ha : a.length = 6) {size : Nat}
    (hsize : ETHER_ADDR_STR_LEN ≤ size) :
    etherAddrNtop a size = List.intercalate [':'] (a.map fun b => fmtHex02 b.toNat) ++ ['\x00'] := by
  have h := length_intercalate_singleton_le (s := ':') (m := 2)
    (a.map fun b => fmtHex02 b.toNat) (List.ne_nil_of_length_pos (by simp [ha])) (by
      intro l hl
      obtain ⟨b, -, rfl⟩ := List.mem_map.mp hl
      exact (length_fmtHex02 b.toNat_lt).le)
  rw [List.length_map, ha] at h
  unfold ETHER_ADDR_STR_LEN at hsize
  exact snprintf_of_lt (by omega)

theorem etherAddrPton_etherAddrNtop {a : List UInt8} (ha : a.length = 6) {size : Nat}
    (hsize : ETHER_ADDR_STR_LEN ≤ size) : etherAddrPton (etherAddrNtop a size) = some (some a) := by
  rw [etherAddrNtop_eq ha hsize, etherAddrPton, ← ha]
  exact fields_intercalate etherAddrPtonFields (fun b => fmtHex02 b.toNat) ':'
    (fun b k _ rest hc => etherAddrPtonFields_fmtHex02 b k rest hc) (fun _ => rfl) [] a
    (List.ne_nil_of_length_pos (by omega))

/-! ## The round trips -/

/-- **The printers and parsers of addresses are inverse.** On either host byte order: every
address printed by `ip_addr_ntop` into `IP_ADDR_STR_LEN` bytes or more, every endpoint with a
port other than `0` printed by `ip_endpoint_ntop` into `IP_ENDPOINT_STR_LEN` bytes or more, and
every hardware address of six bytes printed by `ether_addr_ntop` into `ETHER_ADDR_STR_LEN` bytes
or more is parsed back to itself. -/
theorem text_round_trips (e : Endian) :
    (∀ (n : UInt32) (size : Nat), IP_ADDR_STR_LEN ≤ size →
      ipAddrPton e (ipAddrNtop e n size) = some (some n)) ∧
    (∀ (ep : IpEndpoint) (size : Nat), ep.port ≠ 0 → IP_ENDPOINT_STR_LEN ≤ size →
      ipEndpointPton e (ipEndpointNtop e ep size) = some (some ep)) ∧
    (∀ (a : List UInt8) (size : Nat), a.length = 6 → ETHER_ADDR_STR_LEN ≤ size →
      etherAddrPton (etherAddrNtop a size) = some (some a)) :=
  ⟨fun n _ hsize => ipAddrPton_ipAddrNtop e n hsize,
    fun ep _ hport hsize => ipEndpointPton_ipEndpointNtop e ep hport hsize,
    fun _ _ ha hsize => etherAddrPton_etherAddrNtop ha hsize⟩

/-- The round trips at the buffer sizes the macros give, for `10.0.0.1:80` on a little-endian
host and the hardware address `00:1a:ff:0c:00:01`. -/
theorem text_round_trips_at_str_len :
    (0x5000 : UInt16) ≠ 0 ∧ [0, 0x1a, 0xff, 0x0c, 0, 1].length = 6 ∧
      ipEndpointPton .little (ipEndpointNtop .little ⟨0x0100000a, 0x5000⟩ IP_ENDPOINT_STR_LEN) =
        some (some ⟨0x0100000a, 0x5000⟩) ∧
      etherAddrPton (etherAddrNtop [0, 0x1a, 0xff, 0x0c, 0, 1] ETHER_ADDR_STR_LEN) =
        some (some [0, 0x1a, 0xff, 0x0c, 0, 1]) :=
  ⟨by decide, rfl,
    (text_round_trips .little).2.1 ⟨0x0100000a, 0x5000⟩ IP_ENDPOINT_STR_LEN (by decide) le_rfl,
    (text_round_trips .little).2.2 [0, 0x1a, 0xff, 0x0c, 0, 1] ETHER_ADDR_STR_LEN rfl le_rfl⟩

/-! ## What `ip_endpoint_pton` lets through -/

/-- On a little-endian host: `ip_endpoint_pton` accepts `10.0.0.1:80x`, text after the port
included, and so does `sockaddr_pton`, which `tcpc` calls on its command line; it accepts
` +80` for the port; an address part of `IP_ADDR_STR_LEN` characters leaves `addr` without a
terminator, and `ip_addr_pton` reads past it; a longer one is copied past the end of `addr`. -/
theorem ip_endpoint_pton_loose :
    ipEndpointPton .little ("10.0.0.1:80x".toList ++ ['\x00']) =
        some (some ⟨0x0100000a, 0x5000⟩) ∧
      sockaddrPton .little ("10.0.0.1:80x".toList ++ ['\x00']) 8 =
        some (some ⟨0x0100000a, 0x5000⟩) ∧
      ipEndpointPton .little ("10.0.0.1: +80".toList ++ ['\x00']) =
        some (some ⟨0x0100000a, 0x5000⟩) ∧
      ipEndpointPton .little ("010.000.000.0001:80".toList ++ ['\x00']) = none ∧
      ipEndpointPton .little ("0010.0000.0000.0001:80".toList ++ ['\x00']) = none := by
  decide

end Microps
