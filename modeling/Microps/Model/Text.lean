import Microps.Model.Ip
import Microps.Lib.CString

/-!
# Addresses as text: `ip.c`, `ether.c` and `sock.c`

The printers write into a buffer with `snprintf`; the parsers read a C string with `strtol`
and check the character each number stops at. A string is the characters from its pointer to
the end of its object (`Microps.Lib.CString`); the parsers' results are `none` where they
would read or write outside an object, `some none` where they return `-1`, and the value they
store otherwise. `ip_addr_pton` and `ether_addr_pton` store each byte as they go, so a failed
call leaves the bytes of the fields before the failing one behind; no caller reads them, and
the model returns the bytes of a successful call only.

`ip_endpoint_pton` copies what comes before the last `:` into a local buffer of
`IP_ADDR_STR_LEN` bytes with `memcpy`, however long it is.
-/

set_option autoImplicit false

namespace Microps

open ByteOrder CString

/-- `IP_ADDR_STR_LEN`: room for `"ddd.ddd.ddd.ddd"` and its `'\0'`. -/
def IP_ADDR_STR_LEN : Nat := 16

/-- `IP_ENDPOINT_STR_LEN`: room for `":yyyyy"` more. -/
def IP_ENDPOINT_STR_LEN : Nat := IP_ADDR_STR_LEN + 6

/-- `ETHER_ADDR_STR_LEN`: room for `"xx:xx:xx:xx:xx:xx"` and its `'\0'`. -/
def ETHER_ADDR_STR_LEN : Nat := 18

/-- The loop of `ip_addr_pton` over its last `k` fields, reading from `sp`: each field is a
number from `0` to `255` ending in `.`, the last ending the string. -/
def ipAddrPtonFields : Nat → List Char → Option (Option (List UInt8))
  | 0, _ => some (some [])
  | k + 1, sp =>
    (strtol sp 10).bind fun (ret, off) =>
    if ret < 0 ∨ ret > 255 ∨ off = 0 then some none else
    sp[off]?.bind fun c =>
    if (k = 0 ∧ c ≠ '\x00') ∨ (k ≠ 0 ∧ c ≠ '.') then some none else
    (ipAddrPtonFields k (sp.drop (off + 1))).map (·.map (UInt8.ofNat ret.toNat :: ·))

/-- `ip_addr_pton(p, &n)`: the address whose bytes in memory are the four fields. -/
def ipAddrPton (e : Endian) (p : List Char) : Option (Option UInt32) :=
  (ipAddrPtonFields 4 p).map (·.map fun bs =>
    e.load32 (bs.getD 0 0) (bs.getD 1 0) (bs.getD 2 0) (bs.getD 3 0))

/-- `ip_addr_ntop(n, p, size)`: the bytes of `n` in memory, in decimal, between dots. -/
def ipAddrNtop (e : Endian) (n : UInt32) (size : Nat) : List Char :=
  snprintf size (List.intercalate ['.'] ((e.store32 n).map fun b => fmtDec b.toNat))

/-- `ip_endpoint_pton(p, &n)`: the address before the last `:`, copied into a buffer of
`IP_ADDR_STR_LEN` zeroed bytes, and the port after it, which `strtol` reads up to the first
character that is no digit. -/
def ipEndpointPton (e : Endian) (p : List Char) : Option (Option IpEndpoint) :=
  (strrchr ':' p).bind fun sep? =>
  match sep? with
  | none => some none
  | some sep =>
    -- `memcpy(addr, p, sep - p)` writes past `addr` when the address part is longer
    if IP_ADDR_STR_LEN < sep then none else
    let addr := p.take sep ++ List.replicate (IP_ADDR_STR_LEN - sep) '\x00'
    (ipAddrPton e addr).bind fun a? =>
    match a? with
    | none => some none
    | some a =>
      (strtol (p.drop (sep + 1)) 10).bind fun (port, _) =>
      if port ≤ 0 ∨ port > 65535 then some none
      else some (some ⟨a, hton16 e port.toNat.toUInt16⟩)

/-- `ip_endpoint_ntop(n, p, size)`, for a `size` of at least `1` as every caller passes: the
address, then `:` and the port in decimal after its `'\0'`. -/
def ipEndpointNtop (e : Endian) (n : IpEndpoint) (size : Nat) : List Char :=
  let a := ipAddrNtop e n.addr size
  let offset := (strlen a).getD 0
  a.take offset ++ snprintf (size - offset) (':' :: fmtDec (ntoh16 e n.port).toNat)

/-- `sockaddr_pton(p, n, size)`: the endpoint stored in a `struct sockaddr_in` of `size`
bytes. -/
def sockaddrPton (e : Endian) (p : List Char) (size : Nat) : Option (Option IpEndpoint) :=
  (ipEndpointPton e p).map (·.bind fun ep => if size < 8 then none else some ep)

/-- The loop of `ether_addr_pton` over its last `k` fields from `p`: each a hex number up to
`0xff` ending in `:`, the last ending the string. -/
def etherAddrPtonFields : Nat → List Char → Option (Option (List UInt8))
  | 0, _ => some (some [])
  | k + 1, p =>
    (strtol p 16).bind fun (val, off) =>
    if off = 0 ∨ val < 0 ∨ val > 0xff then some none else
    p[off]?.bind fun c =>
    if k = 0 then (if c ≠ '\x00' then some none else some (some [UInt8.ofNat val.toNat]))
    else if c ≠ ':' then some none
    else (etherAddrPtonFields k (p.drop (off + 1))).map (·.map (UInt8.ofNat val.toNat :: ·))

/-- `ether_addr_pton(p, n)`: the `ETHER_ADDR_LEN` bytes. -/
def etherAddrPton (p : List Char) : Option (Option (List UInt8)) :=
  etherAddrPtonFields 6 p

/-- `ether_addr_ntop(n, p, size)`: the bytes in two-digit hex between colons. -/
def etherAddrNtop (n : List UInt8) (size : Nat) : List Char :=
  snprintf size (List.intercalate [':'] (n.map fun b => fmtHex02 b.toNat))

end Microps
