import VirtualNvme.RingBuffer.Index

/-!
# Loops that may not end, and walks round a ring

A `while` loop is run with fuel: `none` is a run that has not finished yet, and a
loop diverges when no amount of fuel finishes it. `walk` is the loop every ring
consumer writes: visit the slots from `head` on until the index meets `tail`. It
ends exactly when it starts on `tail` or `tail` is a slot of the ring (`walk_ends_iff`).
-/

namespace RingBuffer

/-! ## Loops with fuel -/

section Loop

variable {σ ρ : Type*}

/-- Iterate `step`: `inl` asks for another round, `inr` leaves the loop, and `none` is
a round that does not come back itself. -/
def loop (step : σ → Option (σ ⊕ ρ)) : Nat → σ → Option ρ
  | 0, _ => none
  | fuel + 1, s =>
    match step s with
    | none => none
    | some (.inl s') => loop step fuel s'
    | some (.inr r) => some r

theorem loop_inl {step : σ → Option (σ ⊕ ρ)} {s s' : σ} (h : step s = some (.inl s'))
    (fuel : Nat) : loop step (fuel + 1) s = loop step fuel s' := by
  rw [loop, h]

theorem loop_inr {step : σ → Option (σ ⊕ ρ)} {s : σ} {r : ρ} (h : step s = some (.inr r))
    (fuel : Nat) : loop step (fuel + 1) s = some r := by
  rw [loop, h]

/-- More fuel, for the loop and for its rounds, keeps a result. -/
theorem loop_mono {step step' : σ → Option (σ ⊕ ρ)}
    (hstep : ∀ s x, step s = some x → step' s = some x) :
    ∀ {fuel fuel' : Nat} {s : σ} {r : ρ}, fuel ≤ fuel' →
      loop step fuel s = some r → loop step' fuel' s = some r := by
  intro fuel
  induction fuel with
  | zero =>
      intro fuel' s r _ h
      cases h
  | succ fuel ih =>
      intro fuel' s r hle h
      obtain ⟨k, rfl⟩ : ∃ k, fuel' = k + 1 := ⟨fuel' - 1, by omega⟩
      cases hs : step s with
      | none =>
          rw [loop, hs] at h
          cases h
      | some x =>
          have hs' := hstep s x hs
          cases x with
          | inl s' =>
              rw [loop_inl hs] at h
              rw [loop_inl hs']
              exact ih (by omega) h
          | inr r' =>
              rw [loop_inr hs] at h
              rw [loop_inr hs']
              exact h

/-- What every round keeps, and every exit turns into `Q`, holds of the result. -/
theorem loop_induct {step : σ → Option (σ ⊕ ρ)} {I : σ → Prop} {Q : ρ → Prop}
    (hstep : ∀ s s', I s → step s = some (.inl s') → I s')
    (hexit : ∀ s r, I s → step s = some (.inr r) → Q r) :
    ∀ {fuel : Nat} {s : σ} {r : ρ}, I s → loop step fuel s = some r → Q r := by
  intro fuel
  induction fuel with
  | zero =>
      intro s r _ h
      cases h
  | succ fuel ih =>
      intro s r hI h
      cases hs : step s with
      | none =>
          rw [loop, hs] at h
          cases h
      | some x =>
          cases x with
          | inl s' =>
              rw [loop_inl hs] at h
              exact ih (hstep s s' hI hs) h
          | inr r' =>
              rw [loop_inr hs] at h
              obtain rfl : r' = r := Option.some.inj h
              exact hexit s r' hI hs

/-- A measure that falls on every round bounds the fuel. -/
theorem loop_ends_of_measure {step : σ → Option (σ ⊕ ρ)} {I : σ → Prop} (μ : σ → Nat)
    (hstep : ∀ s, I s → (∃ r, step s = some (.inr r)) ∨
      ∃ s', step s = some (.inl s') ∧ I s' ∧ μ s' < μ s) :
    ∀ {fuel : Nat} {s : σ}, I s → μ s < fuel → ∃ r, loop step fuel s = some r := by
  intro fuel
  induction fuel with
  | zero =>
      intro s _ h
      omega
  | succ fuel ih =>
      intro s hI hμ
      rcases hstep s hI with ⟨r, hr⟩ | ⟨s', hs, hI', hlt⟩
      · exact ⟨r, loop_inr hr fuel⟩
      · rw [loop_inl hs]
        exact ih hI' (by omega)

/-- A loop that can always go round once more never ends. -/
theorem loop_diverges {step : σ → Option (σ ⊕ ρ)} {I : σ → Prop}
    (hstep : ∀ s, I s → step s = none ∨ ∃ s', step s = some (.inl s') ∧ I s') :
    ∀ (fuel : Nat) {s : σ}, I s → loop step fuel s = none := by
  intro fuel
  induction fuel with
  | zero =>
      intro s _
      rfl
  | succ fuel ih =>
      intro s hI
      rcases hstep s hI with hs | ⟨s', hs, hI'⟩
      · rw [loop, hs]
      · rw [loop_inl hs]
        exact ih hI'

/-- What every round of a bounded loop keeps holds of its result. -/
theorem foldlM_induct {α : Type*} {f : σ → α → Option σ} {I : σ → Prop} {l : List α}
    (hstep : ∀ s a s', a ∈ l → I s → f s a = some s' → I s') :
    ∀ {s r : σ}, I s → l.foldlM f s = some r → I r := by
  induction l with
  | nil =>
      intro s r hI h
      rwa [← Option.some.inj h]
  | cons a l ih =>
      intro s r hI h
      rw [List.foldlM_cons] at h
      obtain ⟨s', hs', hrest⟩ := Option.bind_eq_some_iff.mp h
      exact ih (fun s b s' hb => hstep s b s' (List.mem_cons_of_mem a hb))
        (hstep s a s' List.mem_cons_self hI hs') hrest

end Loop

/-! ## The walk from one index to another -/

section Walk

variable {σ : Type*} {c head tail : UInt32}

/-- The `n` slots from `i` on. -/
def slots (c i : UInt32) : Nat → List UInt32
  | 0 => []
  | n + 1 => i :: slots c (next c i) n

@[simp] theorem length_slots (c i : UInt32) (n : Nat) : (slots c i n).length = n := by
  induction n generalizing i with
  | zero => rfl
  | succ n ih => rw [slots, List.length_cons, ih]

theorem slots_eq_map (c i : UInt32) (n : Nat) :
    slots c i n = (List.range n).map fun j => (next c)^[j] i := by
  induction n generalizing i with
  | zero => rfl
  | succ n ih =>
      rw [slots, ih, List.range_succ_eq_map, List.map_cons, List.map_map]
      rfl

theorem slots_append (c i : UInt32) (m n : Nat) :
    slots c i (m + n) = slots c i m ++ slots c ((next c)^[m] i) n := by
  induction m generalizing i with
  | zero => rw [Nat.zero_add]; rfl
  | succ m ih =>
      rw [Nat.succ_add, slots, slots, ih, List.cons_append, Function.iterate_succ_apply]

/-- The `j`-th slot of a walk that starts after `k` steps is the slot of step `k + j`. -/
theorem slots_at {i : UInt32} {k : Nat} (hc : 0 < c) (hi : At c k i) {n j : Nat}
    {x : UInt32} (hx : (slots c i n)[j]? = some x) : At c (k + j) x := by
  induction n generalizing i k j with
  | zero => simp [slots] at hx
  | succ n ih =>
      cases j with
      | zero =>
          obtain rfl : i = x := by simpa [slots] using hx
          exact hi
      | succ j =>
          have hx' : (slots c (next c i) n)[j]? = some x := by simpa [slots] using hx
          have := ih (hi.next hc) hx'
          rwa [show k + (j + 1) = k + 1 + j by omega]

/-- One round of `while (head != tail) { body; head = (head + 1) % c; }`. -/
def walkStep (c tail : UInt32) (body : σ → UInt32 → Option σ) (s : UInt32 × σ) :
    Option ((UInt32 × σ) ⊕ (UInt32 × σ)) :=
  if s.1 = tail then some (.inr s)
  else (body s.2 s.1).map fun s' => .inl (next c s.1, s')

/-- `while (head != tail) { body; head = (head + 1) % c; }`. -/
def walk (c tail : UInt32) (body : σ → UInt32 → Option σ) (fuel : Nat) (head : UInt32)
    (s : σ) : Option (UInt32 × σ) :=
  loop (walkStep c tail body) fuel (head, s)

theorem walk_stop (body : σ → UInt32 → Option σ) (h : head = tail) (fuel : Nat) (s : σ) :
    walk c tail body (fuel + 1) head s = some (head, s) := by
  have hstep : walkStep c tail body (head, s) = some (.inr (head, s)) := if_pos h
  exact loop_inr hstep fuel

theorem walk_visit {body : σ → UInt32 → Option σ} (hne : head ≠ tail) {s s' : σ}
    (hbody : body s head = some s') (fuel : Nat) :
    walk c tail body (fuel + 1) head s = walk c tail body fuel (next c head) s' := by
  have hstep : walkStep c tail body (head, s) = some (.inl (next c head, s')) := by
    rw [walkStep, if_neg hne, hbody]
    rfl
  exact loop_inl hstep fuel

/-- A walk that ends stands on its target, or it makes one round and goes on from there. -/
theorem walk_succ {body : σ → UInt32 → Option σ} {fuel : Nat} {s : σ} {r : UInt32 × σ}
    (h : walk c tail body (fuel + 1) head s = some r) :
    (head = tail ∧ r = (head, s)) ∨
      (head ≠ tail ∧ ∃ s', body s head = some s' ∧
        walk c tail body fuel (next c head) s' = some r) := by
  by_cases heq : head = tail
  · rw [walk_stop body heq] at h
    exact Or.inl ⟨heq, (Option.some.inj h).symm⟩
  · cases hb : body s head with
    | none =>
        have hstep : walkStep c tail body (head, s) = none := by
          rw [walkStep, if_neg heq, hb]
          rfl
        rw [walk, loop, hstep] at h
        cases h
    | some s' =>
        rw [walk_visit heq hb] at h
        exact Or.inr ⟨heq, s', rfl, h⟩

theorem walk_mono {body body' : σ → UInt32 → Option σ}
    (hbody : ∀ s i s', body s i = some s' → body' s i = some s') {fuel fuel' : Nat}
    {s : σ} {r : UInt32 × σ} (hle : fuel ≤ fuel')
    (h : walk c tail body fuel head s = some r) :
    walk c tail body' fuel' head s = some r := by
  refine loop_mono ?_ hle h
  intro p x hx
  by_cases hp : p.1 = tail
  · rw [walkStep, if_pos hp] at hx
    rw [walkStep, if_pos hp, hx]
  · rw [walkStep, if_neg hp] at hx
    rw [walkStep, if_neg hp]
    obtain ⟨s', hs', rfl⟩ := Option.map_eq_some_iff.mp hx
    rw [hbody _ _ _ hs']
    rfl

/-- A walk that ends stands on `tail`, and what every round keeps holds at the end. -/
theorem walk_induct {body : σ → UInt32 → Option σ} {I : σ → Prop}
    (hbody : ∀ s i s', I s → body s i = some s' → I s') {fuel : Nat} {s : σ}
    {r : UInt32 × σ} (hI : I s) (h : walk c tail body fuel head s = some r) :
    r.1 = tail ∧ I r.2 := by
  refine loop_induct (I := fun p => I p.2) (Q := fun r => r.1 = tail ∧ I r.2) ?_ ?_ hI h
  · intro p p' hp hstep
    by_cases heq : p.1 = tail
    · rw [walkStep, if_pos heq] at hstep
      cases hstep
    · rw [walkStep, if_neg heq] at hstep
      obtain ⟨s', hs', hp'⟩ := Option.map_eq_some_iff.mp hstep
      rw [← Sum.inl.inj hp']
      exact hbody _ _ _ hp hs'
  · intro p r hp hstep
    by_cases heq : p.1 = tail
    · rw [walkStep, if_pos heq] at hstep
      rw [← Sum.inr.inj (Option.some.inj hstep)]
      exact ⟨heq, hp⟩
    · rw [walkStep, if_neg heq] at hstep
      obtain ⟨s', _, hp'⟩ := Option.map_eq_some_iff.mp hstep
      cases hp'

/-- A walk that has some way to go makes one round and goes on from there. -/
theorem walk_first {body : σ → UInt32 → Option σ} (hne : head ≠ tail) {fuel : Nat} {s : σ}
    {r : UInt32 × σ} (h : walk c tail body fuel head s = some r) :
    ∃ s' fuel', body s head = some s' ∧ walk c tail body fuel' (next c head) s' = some r := by
  cases fuel with
  | zero => cases h
  | succ fuel =>
      rcases walk_succ h with ⟨heq, -⟩ | ⟨-, s', hbody, hrest⟩
      · exact absurd heq hne
      · exact ⟨s', fuel, hbody, hrest⟩

/-- A walk between two slots of the ring visits the slots from `head` up to `tail`,
each once, and stops on `tail`. -/
theorem walk_eq_foldl (body : σ → UInt32 → σ) (hh : head < c) (ht : tail < c)
    {fuel : Nat} (hfuel : dist c head tail < fuel) (s : σ) :
    walk c tail (fun s i => some (body s i)) fuel head s =
      some (tail, (slots c head (dist c head tail)).foldl body s) := by
  induction fuel generalizing head s with
  | zero => omega
  | succ fuel ih =>
      by_cases heq : head = tail
      · subst heq
        rw [walk_stop _ rfl, dist_self hh]
        rfl
      · have hd := dist_next hh ht heq
        rw [walk_visit heq rfl, hd, slots, List.foldl_cons]
        exact ih (next_lt (pos_of_lt hh)) (by omega) _

/-- A walk between two slots ends if every round on the way comes back and keeps `I`. -/
theorem walk_ends (body : σ → UInt32 → Option σ) {I : σ → Prop} (ht : tail < c) {fuel : Nat} :
    ∀ {head : UInt32} {s : σ}, head < c → dist c head tail < fuel →
      (∀ i s, i < c → dist c head i < dist c head tail → I s →
        ∃ s', body s i = some s' ∧ I s') →
      I s → ∃ r, walk c tail body fuel head s = some r := by
  induction fuel with
  | zero =>
      intro head s _ hfuel
      omega
  | succ fuel ih =>
      intro head s hh hfuel hbody hI
      by_cases heq : head = tail
      · exact ⟨_, walk_stop body heq fuel s⟩
      · have hd := dist_next hh ht heq
        have hpos := pos_of_lt hh
        obtain ⟨s', hs', hI'⟩ := hbody head s hh (by rw [dist_self hh]; omega) hI
        obtain ⟨r, hr⟩ := @ih (next c head) s' (next_lt hpos) (by omega) (by
          intro i t hi hlt hIt
          -- the slots still ahead were ahead before
          by_cases hih : i = head
          · have hlt' : dist c head tail < c.toNat := dist_lt hpos
            have hself : dist c (next c head) head + 1 = c.toNat := dist_next_self hh
            rw [hih] at hlt
            omega
          · have hdi := dist_next hh hi (fun h => hih h.symm)
            exact hbody i t hi (by omega) hIt) hI'
        exact ⟨r, (walk_visit heq hs' fuel).trans hr⟩

/-- The index never meets a `tail` that is not a slot of the ring. -/
theorem walk_eq_none (body : σ → UInt32 → Option σ) (hh : head < c) (ht : c ≤ tail)
    (fuel : Nat) (s : σ) : walk c tail body fuel head s = none := by
  refine loop_diverges (I := fun p => p.1 < c) ?_ fuel hh
  rintro ⟨i, s⟩ hi
  have hne : i ≠ tail := by
    rintro rfl
    have h1 : i.toNat < c.toNat := hi
    have h2 : c.toNat ≤ i.toNat := ht
    omega
  cases hb : body s i with
  | none =>
      refine Or.inl ?_
      rw [walkStep, if_neg hne]
      exact congrArg (Option.map _) hb
  | some s' =>
      refine Or.inr ⟨(next c i, s'), ?_, next_lt (pos_of_lt hi)⟩
      rw [walkStep, if_neg hne]
      exact congrArg (Option.map _) hb

/-- The slots a walk visits, wherever it starts: only the first of them can lie outside the
ring. -/
def path (c head tail : UInt32) : List UInt32 :=
  if head = tail then [] else head :: slots c (next c head) (dist c (next c head) tail)

@[simp] theorem path_self (c i : UInt32) : path c i i = [] := if_pos rfl

theorem path_eq_slots (hh : head < c) (ht : tail < c) :
    path c head tail = slots c head (dist c head tail) := by
  by_cases heq : head = tail
  · subst heq
    rw [path_self, dist_self hh, slots]
  · rw [path, if_neg heq, dist_next hh ht heq, slots]

theorem walk_eq_foldl_path (body : σ → UInt32 → σ) (hc : 0 < c)
    (h : head = tail ∨ tail < c) {fuel : Nat} (hfuel : c.toNat < fuel) (s : σ) :
    walk c tail (fun s i => some (body s i)) fuel head s =
      some (tail, (path c head tail).foldl body s) := by
  obtain ⟨fuel, rfl⟩ : ∃ n, fuel = n + 1 := ⟨fuel - 1, by omega⟩
  by_cases heq : head = tail
  · rw [walk_stop _ heq, heq, path_self, List.foldl_nil]
  · have ht : tail < c := h.resolve_left heq
    have hd : dist c (next c head) tail < c.toNat := dist_lt hc
    rw [path, if_neg heq, List.foldl_cons, walk_visit heq rfl]
    exact walk_eq_foldl body (next_lt hc) ht (by omega) _

/-- **Termination of a ring walk.** A walk ends if and only if it starts on its target or the
target is a slot of the ring, and then it takes at most one lap. -/
theorem walk_ends_iff (body : σ → UInt32 → σ) (hc : 0 < c) {fuel : Nat}
    (hfuel : c.toNat < fuel) (s : σ) :
    (∃ r, walk c tail (fun s i => some (body s i)) fuel head s = some r) ↔
      head = tail ∨ tail < c := by
  constructor
  · rintro ⟨r, hr⟩
    by_contra hcon
    rw [not_or] at hcon
    obtain ⟨s', fuel', _, hrest⟩ := walk_first hcon.1 hr
    rw [walk_eq_none _ (next_lt hc) (UInt32.not_lt.mp hcon.2)] at hrest
    cases hrest
  · intro h
    exact ⟨_, walk_eq_foldl_path body hc h hfuel s⟩

/-- A walk that ends has visited its path. -/
theorem walk_eq_some {body : σ → UInt32 → σ} (hc : 0 < c) {fuel : Nat} {s : σ}
    {r : UInt32 × σ} (h : walk c tail (fun s i => some (body s i)) fuel head s = some r) :
    r = (tail, (path c head tail).foldl body s) := by
  have hbig := walk_mono (fun _ _ _ hb => hb) (Nat.le_max_left fuel (c.toNat + 1)) h
  have hlt : c.toNat < max fuel (c.toNat + 1) := by omega
  have hend := (walk_ends_iff body hc hlt s).mp ⟨r, hbig⟩
  rw [walk_eq_foldl_path body hc hend hlt] at hbig
  exact (Option.some.inj hbig).symm

end Walk

end RingBuffer
