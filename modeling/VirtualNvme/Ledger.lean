import Mathlib.Data.List.Perm.Basic
import Mathlib.Data.List.Nodup
import Mathlib.Tactic.Common

/-!
# Ledgers of resources

A service hands out resources and takes them back. A resource may be built on another one,
which then has to outlive it. The ledger keeps what is out and counts the faults: building on
a resource that is not out, and giving back what is not out or what another resource is still
built on. A program that names the resources it holds (`Owns`) has neither lost nor
invented any.
-/

namespace Ledgers

/-- One resource: what it is, its number, and the resource it is built on. -/
structure Resource (κ : Type*) where
  kind : κ
  id : ℕ
  base : Option ℕ := none
  deriving Repr, DecidableEq

/-- What is out, the next number, and the faults so far. -/
structure Ledger (κ : Type*) where
  live : List (Resource κ) := []
  next : ℕ := 0
  faults : ℕ := 0
  deriving Repr, DecidableEq

variable {κ : Type*}

namespace Ledger

def isLive (l : Ledger κ) (i : ℕ) : Bool := l.live.any fun r => r.id = i

/-- Hand out a resource, under a number that has never been used. -/
def acquire (kind : κ) (base : Option ℕ) (l : Ledger κ) : ℕ × Ledger κ :=
  (l.next,
    { live := ⟨kind, l.next, base⟩ :: l.live
      next := l.next + 1
      faults := if base.all l.isLive then l.faults else l.faults + 1 })

/-- Whether the resource is out, as this kind, with nothing built on it. -/
def canRelease [DecidableEq κ] (kind : κ) (i : ℕ) (l : Ledger κ) : Bool :=
  l.live.any (fun r => r.kind = kind ∧ r.id = i) &&
    l.live.all (fun r => r.id = i ∨ r.base ≠ some i)

/-- Take a resource back. -/
def release [DecidableEq κ] (kind : κ) (i : ℕ) (l : Ledger κ) : Ledger κ :=
  if l.canRelease kind i then { l with live := l.live.filter fun r => r.id ≠ i }
  else { l with faults := l.faults + 1 }

/-- Take back everything of some kinds, as the service does on its own. -/
def reclaim (gone : κ → Bool) (l : Ledger κ) : Ledger κ :=
  { l with live := l.live.filter fun r => !gone r.kind }

end Ledger

theorem Ledger.faults_le_acquire (kind : κ) (base : Option ℕ) (l : Ledger κ) :
    l.faults ≤ (l.acquire kind base).2.faults := by
  show l.faults ≤ if _ then _ else _
  split_ifs
  · exact Nat.le_refl _
  · exact Nat.le_succ _

theorem Ledger.faults_le_release [DecidableEq κ] (kind : κ) (i : ℕ) (l : Ledger κ) :
    l.faults ≤ (l.release kind i).faults := by
  rw [Ledger.release]
  split_ifs
  · exact Nat.le_refl _
  · exact Nat.le_succ _

theorem Ledger.mem_acquire {l : Ledger κ} {r : Resource κ} (hr : r ∈ l.live) (kind : κ)
    (base : Option ℕ) : r ∈ (l.acquire kind base).2.live :=
  List.mem_cons_of_mem _ hr

/-- A release takes out one number. -/
theorem Ledger.mem_release [DecidableEq κ] {l : Ledger κ} {r : Resource κ} (hr : r ∈ l.live)
    (kind : κ) {i : ℕ} (hne : r.id ≠ i) : r ∈ (l.release kind i).live := by
  rw [Ledger.release]
  split_ifs
  · exact List.mem_filter.mpr ⟨hr, decide_eq_true hne⟩
  · exact hr

/-- The holder names exactly what is out, and no fault has happened. -/
structure Owns (l : Ledger κ) (held : List (Resource κ)) : Prop where
  perm : l.live.Perm held
  fresh : ∀ r ∈ l.live, r.id < l.next
  distinct : (l.live.map (·.id)).Nodup
  faultless : l.faults = 0

namespace Owns

variable {l : Ledger κ} {held held' : List (Resource κ)}

theorem empty : Owns ({} : Ledger κ) [] := by
  constructor <;> simp

theorem of_perm (h : Owns l held) (hperm : held.Perm held') : Owns l held' :=
  ⟨h.perm.trans hperm, h.fresh, h.distinct, h.faultless⟩

theorem held_distinct (h : Owns l held) : (held.map (·.id)).Nodup :=
  (h.perm.map _).nodup_iff.mp h.distinct

theorem length_eq (h : Owns l held) : l.live.length = held.length := h.perm.length_eq

theorem acquire (h : Owns l held) (kind : κ) (base : Option ℕ)
    (hbase : ∀ i ∈ base, ∃ r ∈ held, r.id = i) :
    Owns (l.acquire kind base).2 (⟨kind, l.next, base⟩ :: held) := by
  refine ⟨h.perm.cons _, ?_, ?_, ?_⟩
  · intro r hr
    rcases List.mem_cons.mp hr with rfl | hr
    · exact Nat.lt_succ_self _
    · exact Nat.lt_succ_of_lt (h.fresh r hr)
  · refine List.nodup_cons.mpr ⟨fun hmem => ?_, h.distinct⟩
    obtain ⟨r, hr, heq⟩ := List.mem_map.mp hmem
    exact absurd heq (Nat.ne_of_lt (h.fresh r hr))
  · have hlive : base.all l.isLive = true := by
      cases base with
      | none => rfl
      | some i =>
          obtain ⟨r, hr, hid⟩ := hbase i rfl
          exact List.any_eq_true.mpr ⟨r, h.perm.mem_iff.mpr hr, decide_eq_true hid⟩
    show (if _ then _ else _) = 0
    rw [if_pos hlive]
    exact h.faultless

section Release

variable [DecidableEq κ]

/-- What is held without anything built on it can be given back. -/
theorem release {r : Resource κ} (h : Owns l (r :: held))
    (htop : ∀ r' ∈ held, r'.base ≠ some r.id) : Owns (l.release r.kind r.id) held := by
  have hmem : r ∈ l.live := h.perm.mem_iff.mpr List.mem_cons_self
  have hcan : l.canRelease r.kind r.id = true := by
    rw [Ledger.canRelease, Bool.and_eq_true]
    refine ⟨List.any_eq_true.mpr ⟨r, hmem, by simp⟩, List.all_eq_true.mpr fun r' hr' => ?_⟩
    rcases List.mem_cons.mp (h.perm.mem_iff.mp hr') with rfl | hheld
    · simp
    · simp [htop r' hheld]
  obtain ⟨hout, -⟩ := List.nodup_cons.mp h.held_distinct
  -- the number occurs once, so the filter takes out `r` alone
  have hfilter : (r :: held).filter (fun r' => r'.id ≠ r.id) = held := by
    rw [List.filter_cons_of_neg (by simp)]
    refine List.filter_eq_self.mpr fun r' hr' => decide_eq_true fun heq => hout ?_
    exact List.mem_map.mpr ⟨r', hr', heq⟩
  rw [Ledger.release, if_pos hcan]
  refine ⟨?_, fun r' hr' => h.fresh r' (List.mem_filter.mp hr').1, ?_, h.faultless⟩
  · exact hfilter ▸ h.perm.filter _
  · exact h.distinct.sublist (List.filter_sublist.map _)

/-- Giving back what is not held under this kind is a fault. -/
theorem faults_release_pos (h : Owns l held) {kind : κ} {i : ℕ}
    (hnone : ∀ r ∈ held, ¬ (r.kind = kind ∧ r.id = i)) : 0 < (l.release kind i).faults := by
  have hcannot : ¬ l.canRelease kind i = true := by
    intro hcan
    obtain ⟨r, hr, hkind⟩ := List.any_eq_true.mp (Bool.and_eq_true_iff.mp hcan).1
    exact hnone r (h.perm.mem_iff.mp hr) (of_decide_eq_true hkind)
  rw [Ledger.release, if_neg hcannot]
  exact Nat.succ_pos _

end Release

/-- What the service takes back leaves the account, unless something was built on it. -/
theorem reclaim (h : Owns l held) (gone : κ → Bool) :
    Owns (l.reclaim gone) (held.filter fun r => !gone r.kind) :=
  ⟨h.perm.filter _, fun r hr => h.fresh r (List.mem_filter.mp hr).1,
    h.distinct.sublist (List.filter_sublist.map _), h.faultless⟩

end Owns

/-- The same where nothing is built on anything, so that all of it can be given back in any
order. -/
structure OwnsFlat (l : Ledger κ) (held : List (Resource κ)) : Prop extends Owns l held where
  flat : ∀ r ∈ held, r.base = none

namespace OwnsFlat

variable {l : Ledger κ} {held held' : List (Resource κ)}

theorem empty : OwnsFlat ({} : Ledger κ) [] := ⟨Owns.empty, by simp⟩

theorem of_perm (h : OwnsFlat l held) (hperm : held.Perm held') : OwnsFlat l held' :=
  ⟨h.toOwns.of_perm hperm, fun r hr => h.flat r (hperm.mem_iff.mpr hr)⟩

theorem acquire (h : OwnsFlat l held) (kind : κ) :
    OwnsFlat (l.acquire kind none).2 (⟨kind, l.next, none⟩ :: held) := by
  refine ⟨h.toOwns.acquire kind none (by simp), fun r hr => ?_⟩
  rcases List.mem_cons.mp hr with rfl | hr
  · rfl
  · exact h.flat r hr

theorem release [DecidableEq κ] {r : Resource κ} (h : OwnsFlat l (r :: held)) :
    OwnsFlat (l.release r.kind r.id) held := by
  have hflat : ∀ r' ∈ held, r'.base = none := fun r' hr' => h.flat r' (List.mem_cons_of_mem r hr')
  refine ⟨h.toOwns.release fun r' hr' heq => ?_, hflat⟩
  rw [hflat r' hr'] at heq
  cases heq

end OwnsFlat

/-! ## Holders in a table -/

section Table

variable {α β : Type*} (f : α → List β) {l : List α} {k : ℕ}

/-- One holder goes, with what it holds. -/
theorem flatMap_eraseIdx_perm (hk : k < l.length) :
    ((l.eraseIdx k).flatMap f ++ f l[k]).Perm (l.flatMap f) := by
  refine List.perm_append_comm.trans ?_
  rw [← List.flatMap_cons]
  exact (List.getElem_cons_eraseIdx_perm hk).flatMap_right f

/-- One holder takes the place of another. -/
theorem flatMap_set_perm (hk : k < l.length) (a : α) :
    ((l.set k a).flatMap f ++ f l[k]).Perm (l.flatMap f ++ f a) := by
  have hset := (List.set_perm_cons_eraseIdx hk a).flatMap_right f
  have hold := flatMap_eraseIdx_perm f hk
  rw [List.flatMap_cons] at hset
  refine (hset.append_right _).trans ?_
  rw [List.append_assoc]
  exact (hold.append_left _).trans List.perm_append_comm

end Table

end Ledgers
