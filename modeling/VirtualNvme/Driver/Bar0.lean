import VirtualNvme.Driver.Context

/-!
# BAR0

The register space of the controller, `bar0.c`. The host stores 32-bit words at byte
offsets. Most go to memory as they are; the read-only registers, the interrupt mask, the
configuration and the subsystem reset have rules of their own.
-/

namespace VirtualNvme

/-- `VNVME_BAR0_SIZE` -/
def vnvmeBar0Size : UInt32 := 0x10000

/-- Replace the low dword of a 64-bit register. -/
def setLow32 (x : UInt64) (v : UInt32) : UInt64 := (x &&& 0xFFFFFFFF00000000) ||| v.toUInt64

/-- Replace the high dword of a 64-bit register. -/
def setHigh32 (x : UInt64) (v : UInt32) : UInt64 :=
  let low : UInt64 := x &&& 0xFFFFFFFF
  low ||| (v.toUInt64 <<< 32)

/-- The dword with index `i`, at byte offset `4 * i`. -/
def Bar0.dword (regs : Bar0) : Nat → UInt32
  | 0 => regs.cap.toUInt32
  | 1 => (regs.cap >>> 32).toUInt32
  | 2 => regs.vs
  | 3 => regs.intms
  | 4 => regs.intmc
  | 5 => regs.cc
  | 7 => regs.csts
  | 8 => regs.nssr
  | 9 => regs.aqa
  | 10 => regs.asq.toUInt32
  | 11 => (regs.asq >>> 32).toUInt32
  | 12 => regs.acq.toUInt32
  | 13 => (regs.acq >>> 32).toUInt32
  | 14 => regs.cmbloc
  | 15 => regs.cmbsz
  | i => if i < 1024 then regs.rest i else regs.doorbells (i - 1024)

/-- Store a dword at index `i`. -/
def Bar0.setDword (regs : Bar0) (v : UInt32) : Nat → Bar0
  | 0 => { regs with cap := setLow32 regs.cap v }
  | 1 => { regs with cap := setHigh32 regs.cap v }
  | 2 => { regs with vs := v }
  | 3 => { regs with intms := v }
  | 4 => { regs with intmc := v }
  | 5 => { regs with cc := v }
  | 7 => { regs with csts := v }
  | 8 => { regs with nssr := v }
  | 9 => { regs with aqa := v }
  | 10 => { regs with asq := setLow32 regs.asq v }
  | 11 => { regs with asq := setHigh32 regs.asq v }
  | 12 => { regs with acq := setLow32 regs.acq v }
  | 13 => { regs with acq := setHigh32 regs.acq v }
  | 14 => { regs with cmbloc := v }
  | 15 => { regs with cmbsz := v }
  | i =>
    if i < 1024 then { regs with rest := Function.update regs.rest i v }
    else { regs with doorbells := Function.update regs.doorbells (i - 1024) v }

/-- `*reg = Value` at a byte offset. Off a dword boundary it goes to two dwords. -/
def Bar0.store32 (regs : Bar0) (offset : Nat) (value : UInt32) : Bar0 :=
  let i := offset / 4
  if offset % 4 = 0 then regs.setDword value i
  else
    let shift := UInt32.ofNat (8 * (offset % 4))
    let mask := (1 <<< shift) - 1
    let low := (regs.dword i &&& mask) ||| (value <<< shift)
    let high := (regs.dword (i + 1) &&& ~~~mask) ||| (value >>> (32 - shift))
    (regs.setDword low i).setDword high (i + 1)

/-- `VnvmeInitializeBar0Registers` -/
def vnvmeInitializeBar0Registers (p : PdoContext) : PdoContext :=
  match p.bar0 with
  | none => p
  | some regs =>
    { p with
      bar0 := some { regs with
        cap := 0x0028000000010FFF, vs := 0x00010400, intms := 0, intmc := 0, cc := 0, csts := 0,
        aqa := 0, asq := 0, acq := 0 }
      cachedCC := 0 }

/-- The value that resets the subsystem, "NVMe". -/
def nssrReset : UInt32 := 0x4E564D65

/-- What `VnvmeWriteBar0Register` does to the registers. -/
def Bar0.write (regs : Bar0) (offset value : UInt32) : Bar0 :=
  if offset ≥ vnvmeBar0Size then regs
  else if offset ∈ [0x00, 0x04, 0x08, 0x1C, 0x38, 0x3C] then regs
  else if offset = 0x0C then { regs with intms := regs.intms ||| value }
  else if offset = 0x10 then { regs with intms := regs.intms &&& ~~~value }
  else if offset = 0x14 then { regs with cc := value }
  else if offset = 0x20 then
    if value = nssrReset then { regs with csts := 0, cc := 0 } else regs
  else if offset = 0x24 then { regs with aqa := value }
  else regs.store32 offset.toNat value

/-- `VnvmeWriteBar0Register`; the cached copy of `CC` is the poller's business. -/
def vnvmeWriteBar0Register (p : PdoContext) (offset value : UInt32) : PdoContext :=
  { p with bar0 := p.bar0.map fun regs => regs.write offset value }

/-! ## 64-bit writes -/

/-- `*reg = Value` for 64 bits: the low dword, and the high dword behind it. -/
def Bar0.store64 (regs : Bar0) (offset : Nat) (value : UInt64) : Bar0 :=
  (regs.store32 offset value.toUInt32).store32 (offset + 4) (value >>> 32).toUInt32

/-- What `VnvmeWriteBar0Register64` does to the registers. `Offset + 8` is a 32-bit sum; a store
behind it that the wrap lets through is far behind BAR0. -/
def Bar0.write64 (regs : Bar0) (offset : UInt32) (value : UInt64) : Bar0 :=
  if offset + 8 > vnvmeBar0Size then regs else regs.store64 offset.toNat value

/-- `VnvmeWriteBar0Register64` -/
def vnvmeWriteBar0Register64 (p : PdoContext) (offset : UInt32) (value : UInt64) : PdoContext :=
  { p with bar0 := p.bar0.map fun regs => regs.write64 offset value }

end VirtualNvme
