import Microps.Model.Stack
import Microps.Model.Driver

/-!
# What `net_run` and `net_shutdown` leave of the devices

Opening sets the one flag `NET_DEVICE_FLAG_UP` and closing clears it (`flags_or_up_and_not_up`).
So on devices that are all down, `net_shutdown` after `net_run` leaves each device as its
driver's `open` alone left it, whether that `open` failed or not, when the drivers' `open` keeps
the flags and their `close` changes nothing and succeeds (`net_shutdown_after_run`). The
Ethernet drivers are such drivers (`flags_etherOpen`, `etherClose`), and their `open` writes the
hardware address into a device whose address is all zero: such a device does not come back as
it was (`net_shutdown_after_run_tap`).
-/

set_option autoImplicit false

namespace Microps

/-! ## Opening and closing the devices -/

/-- Setting the one bit `NET_DEVICE_FLAG_UP` and clearing it again gives back flags where it
was clear. -/
theorem flags_or_up_and_not_up {flags : UInt16} (h : flags &&& NET_DEVICE_FLAG_UP = 0) :
    (flags ||| NET_DEVICE_FLAG_UP) &&& ~~~NET_DEVICE_FLAG_UP = flags := by
  apply UInt16.toBitVec_inj.mp
  have hbits := congrArg UInt16.toBitVec h
  have hup : NET_DEVICE_FLAG_UP.toBitVec = 1#16 := rfl
  simp only [UInt16.toBitVec_and, UInt16.toBitVec_or, UInt16.toBitVec_not, UInt16.toBitVec_zero,
    hup] at hbits ⊢
  -- bit by bit: bit 0 is clear on both sides, the others are untouched
  ext i hi
  have hbit := congrArg (fun v => v[i]) hbits
  simp only [BitVec.getElem_and, BitVec.getElem_or, BitVec.getElem_not, BitVec.getElem_one,
    BitVec.getElem_zero] at hbit ⊢
  by_cases hi0 : i = 0 <;> simp_all

theorem isUp_eq_false_iff (dev : NetDev) :
    dev.isUp = false ↔ dev.flags &&& NET_DEVICE_FLAG_UP = 0 := by
  simp [NetDev.isUp]

theorem isUp_or_up (dev : NetDev) : { dev with flags := dev.flags ||| NET_DEVICE_FLAG_UP }.isUp := by
  simp only [NetDev.isUp, bne_iff_ne, ne_eq]
  intro hclear
  -- bit 0 of the flags is set, so the mask cannot clear them
  have hbit := congrArg (fun v : UInt16 => v.toBitVec[0]) hclear
  simp [NET_DEVICE_FLAG_UP] at hbit

/-- A driver with no `open` is one whose `open` changes nothing and returns 0. -/
theorem netDeviceOpen_none (dev : NetDev) :
    netDeviceOpen none dev = netDeviceOpen (some fun d => (d, 0)) dev := by
  unfold netDeviceOpen
  split <;> simp

/-- `net_device_open` on a device that is down: what the driver's `open` made of it, brought up
unless that `open` returned -1. -/
theorem netDeviceOpen_of_down {dev : NetDev} (h : dev.isUp = false) (f : NetDev → NetDev × Int) :
    (netDeviceOpen (some f) dev).1 = if (f dev).2 = -1 then (f dev).1
      else { (f dev).1 with flags := (f dev).1.flags ||| NET_DEVICE_FLAG_UP } := by
  unfold netDeviceOpen
  rw [if_neg (by simp [h])]
  by_cases hret : (f dev).2 = -1 <;> simp [hret]

/-- `net_device_close` on a device that is down leaves it. -/
theorem netDeviceClose_of_down {dev : NetDev} (h : dev.isUp = false)
    (driverClose : Option (NetDev → NetDev × Int)) : (netDeviceClose driverClose dev).1 = dev := by
  unfold netDeviceClose
  rw [if_pos (by simp [h])]

/-- `net_device_close` on a device that is up, with a driver `close` that changes nothing and
succeeds (or none): the flag `NET_DEVICE_FLAG_UP` cleared. -/
theorem netDeviceClose_of_up {dev : NetDev} (h : dev.isUp = true)
    {driverClose : Option (NetDev → NetDev × Int)}
    (hclose : ∀ g, driverClose = some g → ∀ d, g d = (d, 0)) :
    (netDeviceClose driverClose dev).1 = { dev with flags := dev.flags &&& ~~~NET_DEVICE_FLAG_UP } := by
  unfold netDeviceClose
  rw [if_neg (by simp [h])]
  cases driverClose with
  | none => rfl
  | some g => simp [hclose g rfl dev]

/-- A device with the flags of one that is down is down. -/
theorem isUp_eq_false_of_flags {dev dev' : NetDev} (h : dev.isUp = false) (hf : dev'.flags = dev.flags) :
    dev'.isUp = false := by
  rw [isUp_eq_false_iff, hf]
  exact (isUp_eq_false_iff dev).mp h

/-- Opening a device that is down, with a driver `open` that keeps the flags, brings it up
exactly when that `open` does not return -1. -/
theorem isUp_netDeviceOpen {dev : NetDev} (h : dev.isUp = false) {f : NetDev → NetDev × Int}
    (hf : (f dev).1.flags = dev.flags) : (netDeviceOpen (some f) dev).1.isUp = ((f dev).2 != -1) := by
  rw [netDeviceOpen_of_down h]
  split
  · -- the driver's `open` failed: the device stays down
    rename_i hret
    rw [isUp_eq_false_of_flags h hf, hret]
    rfl
  · rename_i hret
    rw [isUp_or_up]
    simp [hret]

/-- Opening a device that is down and closing it again leaves what the driver's `open` made of
it, when that `open` keeps the flags and the driver's `close` changes nothing and succeeds. -/
theorem netDeviceClose_netDeviceOpen {dev : NetDev} (h : dev.isUp = false)
    {f : NetDev → NetDev × Int} (hf : (f dev).1.flags = dev.flags)
    {driverClose : Option (NetDev → NetDev × Int)}
    (hclose : ∀ g, driverClose = some g → ∀ d, g d = (d, 0)) :
    (netDeviceClose driverClose (netDeviceOpen (some f) dev).1).1 = (f dev).1 := by
  have hdown : (f dev).1.isUp = false := isUp_eq_false_of_flags h hf
  rw [netDeviceOpen_of_down h]
  split
  · exact netDeviceClose_of_down hdown driverClose
  · -- brought up, then the flag cleared again
    rw [netDeviceClose_of_up (isUp_or_up _) hclose]
    simp only [flags_or_up_and_not_up ((isUp_eq_false_iff _).mp hdown)]

/-- The Ethernet drivers' `open` leaves the flags alone. -/
theorem flags_etherOpen (io : EtherOpenIo) (dev : NetDev) : (etherOpen io dev).1.flags = dev.flags := by
  unfold etherOpen etherAddr
  split
  · rfl
  · split
    · split <;> rfl
    · rfl

/-- **`net_shutdown` after `net_run`.** On devices that are all down, with drivers whose `open`
keeps the flags and whose `close` changes nothing and succeeds, `net_run` returns 0 and brings
up exactly the devices whose driver's `open` does not return -1, and `net_shutdown` after it
leaves every device as its driver's `open` alone left it. -/
theorem net_shutdown_after_run {opens closes : NetDev → Option (NetDev → NetDev × Int)}
    {devices : List NetDev} (hdown : ∀ dev ∈ devices, dev.isUp = false)
    (hopen : ∀ dev ∈ devices, ∀ f, opens dev = some f → (f dev).1.flags = dev.flags)
    (hclose : ∀ dev g, closes dev = some g → ∀ d, g d = (d, 0)) :
    (netRun true opens devices).2 = 0 ∧
      (netRun true opens devices).1.map NetDev.isUp =
        devices.map (fun dev => match opens dev with
          | none => true
          | some f => (f dev).2 != -1) ∧
      netShutdown closes (netRun true opens devices).1 =
        devices.map fun dev => match opens dev with
          | none => dev
          | some f => (f dev).1 := by
  -- a driver with no `open` counts as one whose `open` changes nothing
  have hsome : ∀ dev ∈ devices, ∃ f, (f dev).1.flags = dev.flags ∧
      netDeviceOpen (opens dev) dev = netDeviceOpen (some f) dev ∧
      (match opens dev with | none => dev | some f => (f dev).1) = (f dev).1 ∧
      (match opens dev with | none => true | some f => (f dev).2 != -1) = ((f dev).2 != -1) := by
    intro dev hdev
    cases hop : opens dev with
    | none => exact ⟨fun d => (d, 0), rfl, netDeviceOpen_none dev, rfl, rfl⟩
    | some f => exact ⟨f, hopen dev hdev f hop, rfl, rfl, rfl⟩
  have hrun : netRun true opens devices =
      (devices.map fun dev => (netDeviceOpen (opens dev) dev).1, 0) := by
    rw [netRun, if_pos rfl]
  refine ⟨by rw [hrun], ?_, ?_⟩
  · rw [hrun, List.map_map]
    refine List.map_congr_left fun dev hdev => ?_
    obtain ⟨f, hf, hopen', -, hup⟩ := hsome dev hdev
    simp only [Function.comp, hopen', hup]
    exact isUp_netDeviceOpen (hdown dev hdev) hf
  · -- device by device, the close undoes what the open added
    rw [hrun, netShutdown, List.map_map]
    refine List.map_congr_left fun dev hdev => ?_
    obtain ⟨f, hf, hopen', hback, -⟩ := hsome dev hdev
    simp only [Function.comp, hopen', hback]
    exact netDeviceClose_netDeviceOpen (hdown dev hdev) hf (hclose _)

/-- A loopback device, and a TAP device created without an address (`ether_tap_init` with a
NULL address). -/
def loopbackTapDevices : List NetDev :=
  [⟨0, .loopback, 65535, NET_DEVICE_FLAG_LOOPBACK, [], [], []⟩,
    ⟨1, .ethernet, 1500, NET_DEVICE_FLAG_BROADCAST ||| NET_DEVICE_FLAG_NEED_ARP, ETHER_ADDR_ANY,
      ETHER_ADDR_BROADCAST, []⟩]

/-- The drivers' `open` of those devices: none for the loopback, and for the TAP device an
`ether_tap_open` whose calls succeed and find the hardware address `02:00:00:00:00:09`. -/
def loopbackTapOpens (dev : NetDev) : Option (NetDev → NetDev × Int) :=
  if dev.type = .ethernet then some (etherTapOpen ⟨true, some [2, 0, 0, 0, 0, 9]⟩) else none

/-- The drivers' `close` of those devices. -/
def loopbackTapCloses (dev : NetDev) : Option (NetDev → NetDev × Int) :=
  if dev.type = .ethernet then some etherTapClose else none

/-- After `net_run` and `net_shutdown` the loopback is as it was, and the TAP device keeps the
address its `open` fetched. -/
theorem net_shutdown_after_run_tap :
    (∀ dev ∈ loopbackTapDevices, dev.isUp = false) ∧
      (∀ dev ∈ loopbackTapDevices, ∀ f, loopbackTapOpens dev = some f →
        (f dev).1.flags = dev.flags) ∧
      (∀ dev g, loopbackTapCloses dev = some g → ∀ d, g d = (d, 0)) ∧
      (netRun true loopbackTapOpens loopbackTapDevices).2 = 0 ∧
      netShutdown loopbackTapCloses (netRun true loopbackTapOpens loopbackTapDevices).1 =
        [⟨0, .loopback, 65535, NET_DEVICE_FLAG_LOOPBACK, [], [], []⟩,
          ⟨1, .ethernet, 1500, NET_DEVICE_FLAG_BROADCAST ||| NET_DEVICE_FLAG_NEED_ARP,
            [2, 0, 0, 0, 0, 9], ETHER_ADDR_BROADCAST, []⟩] := by
  have hdown : ∀ dev ∈ loopbackTapDevices, dev.isUp = false := by decide
  have hopen : ∀ dev ∈ loopbackTapDevices, ∀ f, loopbackTapOpens dev = some f →
      (f dev).1.flags = dev.flags := by
    intro dev _ f hf
    unfold loopbackTapOpens at hf
    split at hf
    · rw [← Option.some.inj hf]
      exact flags_etherOpen _ dev
    · cases hf
  have hclose : ∀ dev g, loopbackTapCloses dev = some g → ∀ d, g d = (d, 0) := by
    intro dev g hg d
    unfold loopbackTapCloses at hg
    split at hg
    · rw [← Option.some.inj hg]
      rfl
    · cases hg
  obtain ⟨hret, -, hback⟩ := net_shutdown_after_run hdown hopen hclose
  exact ⟨hdown, hopen, hclose, hret, by rw [hback]; decide⟩

end Microps
