import VirtualNvme.RingBuffer.Index

/-!
# Producers that stamp a phase

The producer of a ring without a shared tail marks each entry with a phase flag and
flips the flag when its index returns to slot 0. The consumer can tell new entries from
old ones as long as flag and index are in step (`InStep`) with the number of entries
written.
-/

namespace RingBuffer

variable {c tail : UInt32} {b phase : Bool} {k : Nat}

/-- The phase of step `k` on a ring whose even laps carry the phase `b`. -/
def phaseAt (c : UInt32) (b : Bool) (k : Nat) : Bool :=
  if lapEven c.toNat k then b else !b

theorem phaseAt_of_lt (h : k < c.toNat) : phaseAt c b k = b := by
  rw [phaseAt, lapEven_of_lt h]
  rfl

theorem phaseAt_true_iff : phaseAt c true k = true ↔ k / c.toNat % 2 = 0 := by
  rw [phaseAt, lapEven]
  by_cases h : k / c.toNat % 2 = 0 <;> simp [h]

/-- Index and phase of a producer that has made `k` steps. -/
structure InStep (c : UInt32) (b : Bool) (k : Nat) (tail : UInt32) (phase : Bool) :
    Prop where
  at_tail : At c k tail
  phase_eq : phase = phaseAt c b k

theorem InStep.zero (hc : 0 < c) : InStep c b 0 0 b where
  at_tail := At.zero c
  phase_eq := (phaseAt_of_lt hc).symm

/-- Any slot and any phase can start a count. -/
theorem InStep.start (h : tail < c) : InStep c phase tail.toNat tail phase where
  at_tail := At.self h
  phase_eq := (phaseAt_of_lt h).symm

/-- One entry written: the index moves on, and the phase flips on slot 0. -/
theorem InStep.advance (hc : 0 < c) (h : InStep c b k tail phase) :
    InStep c b (k + 1) (next c tail) (if next c tail = 0 then !phase else phase) := by
  have hat : At c (k + 1) (next c tail) := h.at_tail.next hc
  refine ⟨hat, ?_⟩
  rw [phaseAt, lapEven_succ, h.phase_eq, phaseAt]
  by_cases h0 : next c tail = 0
  · rw [if_pos h0, if_pos (hat.eq_zero_iff.mp h0)]
    cases lapEven c.toNat k <;> simp
  · rw [if_neg h0, if_neg (fun hk => h0 (hat.eq_zero_iff.mpr hk))]

/-! ## Records of stamped entries -/

/-- Every entry of a record, written from slot 0 and phase 1 on, carries the slot and the
phase of its step. -/
def Lapped (c : UInt32) (ws : List (UInt32 × Bool)) : Prop :=
  ∀ k w, ws[k]? = some w → At c k w.1 ∧ w.2 = phaseAt c true k

/-- The phase of the next entry, read off the last one: it flips if the index is back on
slot 0, and the first entry has phase 1. -/
def nextPhase (tail : UInt32) (ws : List (UInt32 × Bool)) : Bool :=
  match ws.getLast? with
  | none => true
  | some w => if tail = 0 then !w.2 else w.2

theorem nextPhase_snoc (tail : UInt32) (ws : List (UInt32 × Bool)) (w : UInt32 × Bool) :
    nextPhase tail (ws ++ [w]) = if tail = 0 then !w.2 else w.2 := by
  rw [nextPhase, List.getLast?_concat]

theorem Lapped.nil (c : UInt32) : Lapped c [] := by
  intro k w hw
  simp at hw

/-- The local rule agrees with the count of all entries. -/
theorem Lapped.nextPhase_eq {ws : List (UInt32 × Bool)} (hc : 0 < c) (h : Lapped c ws)
    (hat : At c ws.length tail) : nextPhase tail ws = phaseAt c true ws.length := by
  rcases List.eq_nil_or_concat ws with rfl | ⟨vs, w, rfl⟩
  · exact (phaseAt_of_lt hc).symm
  · rw [List.concat_eq_append] at h hat ⊢
    rw [List.length_append, List.length_singleton] at hat ⊢
    have hw := (h vs.length w List.getElem?_concat_length).2
    rw [nextPhase_snoc, hw, phaseAt, phaseAt, lapEven_succ]
    by_cases h0 : tail = 0
    · rw [if_pos h0, if_pos (hat.eq_zero_iff.mp h0)]
      cases lapEven c.toNat vs.length <;> rfl
    · rw [if_neg h0, if_neg fun hk => h0 (hat.eq_zero_iff.mpr hk)]

/-- An entry with the next phase continues the record. -/
theorem Lapped.snoc {ws : List (UInt32 × Bool)} (hc : 0 < c) (h : Lapped c ws)
    (hat : At c ws.length tail) (hp : phase = nextPhase tail ws) :
    Lapped c (ws ++ [(tail, phase)]) := by
  intro k w hw
  rcases Nat.lt_or_ge k ws.length with hlt | hge
  · rw [List.getElem?_append_left hlt] at hw
    exact h k w hw
  · have hk := (List.getElem?_eq_some_iff.mp hw).1
    rw [List.length_append, List.length_singleton] at hk
    obtain rfl : k = ws.length := by omega
    rw [List.getElem?_concat_length] at hw
    rw [← Option.some.inj hw]
    exact ⟨hat, hp.trans (h.nextPhase_eq hc hat)⟩

end RingBuffer
