import VirtualNvme.WordBytes

/-!
# Accesses to a space of bytes

A space of registers is a range of memory. A routine reaches its bytes with loads and stores at
distances from the start of the space. The memory goes on behind the space, so nothing but the
checks of the routine keeps it inside; here the memory keeps a record of what is accessed.
-/

namespace ByteSpace

open WordBytes

/-- Bytes that are accessed at once. -/
structure Access where
  offset : Nat
  size : Nat
  deriving Repr, DecidableEq

/-- The bytes by their distance from the start of the space, and the accesses so far. -/
structure Mem where
  byte : Nat → UInt8
  accesses : List Access := []

abbrev SpaceM := StateM Mem

/-- All accesses stay in a space of `size` bytes. -/
def StaysIn (size : Nat) (accesses : List Access) : Prop :=
  ∀ a ∈ accesses, a.offset + a.size ≤ size

def Mem.access (m : Mem) (offset size : Nat) : Mem :=
  { m with accesses := m.accesses ++ [⟨offset, size⟩] }

def load (offset size : Nat) : SpaceM (Nat → UInt8) := fun m =>
  (fun i => m.byte (offset + i), m.access offset size)

def store (offset size : Nat) (bytes : Nat → UInt8) : SpaceM Unit := fun m =>
  ((), { m.access offset size with
    byte := fun a => if offset ≤ a ∧ a < offset + size then bytes (a - offset) else m.byte a })

def load32 (offset : Nat) : SpaceM UInt32 := do
  return wordOf (← load offset 4)

def store32 (offset : Nat) (value : UInt32) : SpaceM Unit := store offset 4 (byteOf value)

theorem StaysIn.nil (size : Nat) : StaysIn size [] := fun _ h => nomatch h

theorem staysIn_singleton {size : Nat} {a : Access} :
    StaysIn size [a] ↔ a.offset + a.size ≤ size :=
  List.forall_mem_singleton

theorem staysIn_pair {size : Nat} {a b : Access} :
    StaysIn size [a, b] ↔ a.offset + a.size ≤ size ∧ b.offset + b.size ≤ size :=
  List.forall_mem_cons.trans (and_congr_right fun _ => staysIn_singleton)

theorem StaysIn.mono {size size' : Nat} {accesses : List Access} (h : StaysIn size accesses)
    (hle : size ≤ size') : StaysIn size' accesses :=
  fun a ha => (h a ha).trans hle

end ByteSpace
