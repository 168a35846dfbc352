import VirtualNvme.Vnvmectl
import Mathlib.Tactic.Common
import Mathlib.Tactic.IntervalCases
import Mathlib.Order.MinMax
import Mathlib.Order.Nat

/-!
# Size strings

What `ParseSizeString` makes of a decimal number with a unit. The number is saturated when it
does not fit into a signed word of 64 bits, and the multiplication by the unit wraps: what comes
out for a size that is too large is in general neither the size nor zero.
-/

namespace VirtualNvme

/-! ## The strings and their sizes -/

/-- The units, powers of 1024. -/
inductive SizeUnit where
  | K
  | M
  | G
  | T

def SizeUnit.exponent : SizeUnit → ℕ
  | .K => 1
  | .M => 2
  | .G => 3
  | .T => 4

def SizeUnit.letter (lower : Bool) : SizeUnit → Char
  | .K => if lower then 'k' else 'K'
  | .M => if lower then 'm' else 'M'
  | .G => if lower then 'g' else 'G'
  | .T => if lower then 't' else 'T'

/-- Decimal digits with an optional unit, in either case. -/
structure SizeString where
  digits : List Char
  isDigit : ∀ c ∈ digits, c.isDigit
  unit : Option (SizeUnit × Bool) := none

namespace SizeString

def unitText (s : SizeString) : List Char :=
  match s.unit with
  | none => []
  | some (u, lower) => [u.letter lower]

def text (s : SizeString) : List Char := s.digits ++ s.unitText

def number (s : SizeString) : ℕ := Nat.ofDigitChars 10 s.digits 0

def exponent (s : SizeString) : ℕ :=
  match s.unit with
  | none => 0
  | some (u, _) => u.exponent

/-- What the string means. -/
def value (s : SizeString) : ℕ := s.number * 1024 ^ s.exponent

/-- What it should be read as: a value that does not fit is no size. -/
def size (s : SizeString) : UInt64 := if s.value < 2 ^ 64 then UInt64.ofNat s.value else 0

/-- The length as `ParseSizeString` knows it. -/
def len (s : SizeString) : Int := (s.text.length : Int).bmod (2 ^ 32)

/-- It should be read as zero. -/
def NoSize (s : SizeString) : Prop := s.value = 0 ∨ 2 ^ 64 ≤ s.value

/-- **The strings that are read correctly.** The number fits into a signed word, and the value
into 64 bits, or its low 64 bits are zero. Without memory for a copy the number before a unit is
lost; and of a string whose length is no `int` some other character is taken for the last. -/
def Parsable (copied : Bool) (s : SizeString) : Prop :=
  if s.text.length < 2 ^ 31 then
    if s.unit.isSome ∧ copied = false then s.NoSize
    else s.number < 2 ^ 63 ∧ (s.value < 2 ^ 64 ∨ 2 ^ 64 ∣ s.value)
  else if s.len = 0 then s.NoSize
  -- the character that is looked at is a digit, so the unit is not seen
  else 0 < s.len ∧ s.number < 2 ^ 63 ∧ (s.unit = none ∨ s.number = 0)

end SizeString

/-! ## Characters -/

/-- Neither white space nor a sign: `_atoi64` does not skip it. -/
def PlainChar (c : Char) : Prop := isSpace c = false ∧ c ≠ '-' ∧ c ≠ '+'

theorem isDigit_range {c : Char} (h : c.isDigit) : 48 ≤ c.toNat ∧ c.toNat ≤ 57 := by
  simpa [Char.isDigit, UInt32.le_iff_toNat_le, ← Char.toNat_val] using h

theorem plainChar_of_isDigit {c : Char} (h : c.isDigit) : PlainChar c := by
  have hrange := isDigit_range h
  refine ⟨?_, ?_, ?_⟩
  · have hblank : c ≠ ' ' := by
      rintro rfl
      exact absurd h (by decide)
    simp only [isSpace, beq_eq_false_iff_ne.mpr hblank, Bool.false_or, Bool.and_eq_false_iff,
      decide_eq_false_iff_not]
    omega
  · rintro rfl
    exact absurd h (by decide)
  · rintro rfl
    exact absurd h (by decide)

theorem isSizeSuffix_of_isDigit {c : Char} (h : c.isDigit) : isSizeSuffix c = false := by
  rw [Bool.eq_false_iff]
  intro hsuffix
  simp only [isSizeSuffix, Bool.or_eq_true, beq_iff_eq] at hsuffix
  rcases hsuffix with ((((((rfl | rfl) | rfl) | rfl) | rfl) | rfl) | rfl) | rfl
  all_goals exact absurd h (by decide)

namespace SizeUnit

variable (u : SizeUnit) (lower : Bool)

theorem isSizeSuffix_letter : isSizeSuffix (u.letter lower) := by
  cases u <;> cases lower <;> decide

theorem isDigit_letter : (u.letter lower).isDigit = false := by
  cases u <;> cases lower <;> decide

theorem plainChar_letter : PlainChar (u.letter lower) := by
  unfold PlainChar
  cases u <;> cases lower <;> decide

theorem applySuffix_letter (value : UInt64) :
    applySuffix value (u.letter lower) = value * UInt64.ofNat (1024 ^ u.exponent) := by
  cases u <;> cases lower <;> rfl

theorem exponent_bounds : 1 ≤ u.exponent ∧ u.exponent ≤ 4 := by
  cases u <;> decide

end SizeUnit

/-! ## Numbers -/

/-- Nothing is skipped before a string of plain characters, and there is no sign. -/
theorem atoi64_of_plain {str : List Char} (h : ∀ c ∈ str, PlainChar c) :
    atoi64 str = min (leadingNumber str : Int) (2 ^ 63 - 1) := by
  cases str with
  | nil => rfl
  | cons c cs =>
      obtain ⟨hspace, hminus, hplus⟩ := h c List.mem_cons_self
      have hkept : (c :: cs).dropWhile isSpace = c :: cs :=
        List.dropWhile_cons_of_neg (by rw [hspace]; exact Bool.false_ne_true)
      unfold atoi64
      rw [hkept]
      split
      · rename_i heq
        exact absurd (List.cons.inj heq).1 hminus
      · rename_i heq
        exact absurd (List.cons.inj heq).1 hplus
      · rfl

namespace SizeString

variable (s : SizeString)

theorem plain_text : ∀ c ∈ s.text, PlainChar c := by
  intro c hc
  rcases List.mem_append.mp hc with hdigit | hletter
  · exact plainChar_of_isDigit (s.isDigit c hdigit)
  · unfold unitText at hletter
    split at hletter
    · cases hletter
    · rw [List.mem_singleton.mp hletter]
      exact SizeUnit.plainChar_letter _ _

theorem leadingNumber_digits : leadingNumber s.digits = s.number := by
  have hall : s.digits.takeWhile Char.isDigit = s.digits := by
    rw [← List.append_nil s.digits, List.takeWhile_append_of_pos s.isDigit, List.takeWhile_nil]
  unfold leadingNumber number
  rw [hall]

theorem leadingNumber_text : leadingNumber s.text = s.number := by
  have hunit : s.unitText.takeWhile Char.isDigit = [] := by
    unfold unitText
    split
    · rfl
    · exact List.takeWhile_cons_of_neg (by rw [SizeUnit.isDigit_letter]; exact Bool.false_ne_true)
  unfold leadingNumber number text
  rw [List.takeWhile_append_of_pos s.isDigit, hunit, List.append_nil]

/-- The number as `_atoi64` returns it. -/
def saturated : ℕ := min s.number (2 ^ 63 - 1)

theorem ofInt_saturated :
    UInt64.ofInt (min (s.number : Int) (2 ^ 63 - 1)) = UInt64.ofNat s.saturated := by
  have hcast : (min (s.number : Int) (2 ^ 63 - 1) % 2 ^ 64).toNat = s.saturated := by
    unfold saturated
    omega
  unfold UInt64.ofInt
  rw [hcast]

theorem atoi64_digits : UInt64.ofInt (atoi64 s.digits) = UInt64.ofNat s.saturated := by
  rw [atoi64_of_plain fun c hc => plainChar_of_isDigit (s.isDigit c hc), leadingNumber_digits,
    ofInt_saturated]

theorem atoi64_text : UInt64.ofInt (atoi64 s.text) = UInt64.ofNat s.saturated := by
  rw [atoi64_of_plain s.plain_text, leadingNumber_text, ofInt_saturated]

/-! ## What the code returns -/

theorem length_text : s.text.length = s.digits.length + s.unitText.length := List.length_append

theorem unitText_length_le : s.unitText.length ≤ 1 := by
  unfold unitText
  split
  · exact Nat.zero_le 1
  · exact Nat.le_refl 1

theorem exponent_of_some {u : SizeUnit} {lower : Bool} (hunit : s.unit = some (u, lower)) :
    s.exponent = u.exponent := by
  unfold exponent
  rw [hunit]

/-- What counts is the character that is looked at. -/
theorem parseSizeString_looks {copied : Bool} (hlen : 0 < s.len) {c : Char}
    (hget : s.text[(s.len - 1).toNat]? = some c) :
    parseSizeString copied s.text = some
      (if isSizeSuffix c then
        applySuffix (if copied then
          UInt64.ofInt (atoi64 (s.text.take (s.len - 1).toNat)) else 0) c
      else UInt64.ofInt (atoi64 s.text)) := by
  have hne : s.len ≠ 0 := by omega
  have hpos : ¬ s.len < 0 := by omega
  unfold len at hne hpos hget ⊢
  unfold parseSizeString
  dsimp only
  rw [if_neg hne, if_neg hpos, hget, Option.map_some]

/-- If the last character that is looked at is a digit, no unit is applied. -/
theorem parseSizeString_digit {copied : Bool} (hlen : 0 < s.len)
    (hdigit : (s.len - 1).toNat < s.digits.length) :
    parseSizeString copied s.text = some (UInt64.ofNat s.saturated) := by
  have hget : s.text[(s.len - 1).toNat]? = some s.digits[(s.len - 1).toNat] := by
    unfold text
    rw [List.getElem?_append_left hdigit, List.getElem?_eq_getElem hdigit]
  have hno : isSizeSuffix s.digits[(s.len - 1).toNat] = false :=
    isSizeSuffix_of_isDigit (s.isDigit _ (List.getElem_mem hdigit))
  rw [s.parseSizeString_looks hlen hget, hno, if_neg Bool.false_ne_true, atoi64_text]

/-- If it is the unit, the number before it is multiplied. -/
theorem parseSizeString_unit {copied : Bool} {u : SizeUnit} {lower : Bool}
    (hunit : s.unit = some (u, lower)) (hlen : s.len = s.text.length) :
    parseSizeString copied s.text =
      some (if copied then UInt64.ofNat s.saturated * UInt64.ofNat (1024 ^ s.exponent) else 0) := by
  have htext : s.text = s.digits ++ [u.letter lower] := by
    unfold text unitText
    rw [hunit]
  have hlength : s.text.length = s.digits.length + 1 := by
    rw [htext, List.length_append]
    rfl
  have hindex : (s.len - 1).toNat = s.digits.length := by omega
  have hget : s.text[(s.len - 1).toNat]? = some (u.letter lower) := by
    rw [hindex, htext, List.getElem?_concat_length]
  have htake : s.text.take (s.len - 1).toNat = s.digits := by
    rw [hindex, htext, List.take_left' rfl]
  rw [s.parseSizeString_looks (by omega) hget, if_pos (SizeUnit.isSizeSuffix_letter u lower), htake,
    atoi64_digits, SizeUnit.applySuffix_letter, s.exponent_of_some hunit]
  cases copied with
  | true => rfl
  | false => exact congrArg some UInt64.zero_mul

/-! ## Which sizes are right -/

/-- The product of the saturated number and the unit, as a word, is the size. -/
theorem wrapped_eq_iff {n e : ℕ} (he : e ≤ 4) :
    (min n (2 ^ 63 - 1) * 1024 ^ e) % 2 ^ 64 =
        (if n * 1024 ^ e < 2 ^ 64 then n * 1024 ^ e else 0) ↔
      n < 2 ^ 63 ∧ (n * 1024 ^ e < 2 ^ 64 ∨ 2 ^ 64 ∣ n * 1024 ^ e) := by
  by_cases hn : n < 2 ^ 63
  · rw [min_eq_left (by omega), and_iff_right hn]
    split_ifs with hfits
    · exact iff_of_true (Nat.mod_eq_of_lt hfits) (Or.inl hfits)
    · rw [← Nat.dvd_iff_mod_eq_zero]
      exact (or_iff_right hfits).symm
  · -- the largest signed word, times any of the units, is neither zero nor a size
    rw [min_eq_right (by omega)]
    refine iff_of_false (fun heq => ?_) (fun h => hn h.1)
    interval_cases e
    all_goals
      split_ifs at heq
      all_goals omega

/-- The saturated number alone is the size only without a unit, or if there is nothing to
multiply. -/
theorem saturated_eq_iff {n e : ℕ} (he : 1 ≤ e ∧ e ≤ 4) :
    min n (2 ^ 63 - 1) = (if n * 1024 ^ e < 2 ^ 64 then n * 1024 ^ e else 0) ↔
      n = 0 := by
  obtain ⟨hlo, hhi⟩ := he
  interval_cases e
  all_goals
    split_ifs
    all_goals omega

theorem size_toNat : s.size.toNat = if s.value < 2 ^ 64 then s.value else 0 := by
  unfold size
  split_ifs with hfits
  · rw [UInt64.toNat_ofNat', Nat.mod_eq_of_lt hfits]
  · rfl

theorem size_eq_zero_iff : s.size = 0 ↔ s.NoSize := by
  rw [← UInt64.toNat_inj, size_toNat]
  unfold NoSize
  split_ifs with hfits
  · exact (or_iff_left (Nat.not_le.mpr hfits)).symm
  · exact iff_of_true rfl (Or.inr (Nat.not_lt.mp hfits))

theorem saturated_lt : s.saturated < 2 ^ 63 := by
  unfold saturated
  omega

theorem toNat_saturated : (UInt64.ofNat s.saturated).toNat = s.saturated := by
  have hlt := s.saturated_lt
  rw [UInt64.toNat_ofNat', Nat.mod_eq_of_lt (by omega)]

theorem exponent_le : s.exponent ≤ 4 := by
  unfold exponent
  split
  · exact Nat.zero_le 4
  · exact (SizeUnit.exponent_bounds _).2

theorem wrapped_eq_size_iff :
    UInt64.ofNat s.saturated * UInt64.ofNat (1024 ^ s.exponent) = s.size ↔
      s.number < 2 ^ 63 ∧ (s.value < 2 ^ 64 ∨ 2 ^ 64 ∣ s.value) := by
  rw [← UInt64.ofNat_mul, ← UInt64.toNat_inj, size_toNat, UInt64.toNat_ofNat']
  exact wrapped_eq_iff s.exponent_le

theorem value_of_none (hunit : s.unit = none) : s.value = s.number := by
  unfold value exponent
  rw [hunit, Nat.pow_zero, Nat.mul_one]

/-- Without a unit nothing is multiplied. -/
theorem saturated_eq_size_iff_of_none (hunit : s.unit = none) :
    UInt64.ofNat s.saturated = s.size ↔ s.number < 2 ^ 63 := by
  rw [← UInt64.toNat_inj, size_toNat, toNat_saturated, s.value_of_none hunit]
  unfold saturated
  split_ifs
  all_goals omega

theorem saturated_eq_size_iff_of_some {u : SizeUnit} {lower : Bool}
    (hunit : s.unit = some (u, lower)) :
    UInt64.ofNat s.saturated = s.size ↔ s.number = 0 := by
  rw [← UInt64.toNat_inj, size_toNat, toNat_saturated]
  exact saturated_eq_iff (by rw [s.exponent_of_some hunit]; exact u.exponent_bounds)

theorem parseSizeString_zero {copied : Bool} (hlen : s.len = 0) :
    parseSizeString copied s.text = some 0 := by
  unfold len at hlen
  unfold parseSizeString
  exact if_pos hlen

theorem parseSizeString_negative {copied : Bool} (hlen : s.len < 0) :
    parseSizeString copied s.text = none := by
  have hne : s.len ≠ 0 := by omega
  unfold len at hlen hne
  unfold parseSizeString
  dsimp only
  rw [if_neg hne, if_pos hlen]

/-- A string without a unit, whose length is an `int`. -/
theorem parseSizeString_none {copied : Bool} (hunit : s.unit = none)
    (hlen : s.len = s.text.length) :
    parseSizeString copied s.text = some (UInt64.ofNat s.saturated) := by
  have hlength : s.text.length = s.digits.length := by
    rw [length_text, unitText, hunit]
    rfl
  by_cases hempty : s.digits = []
  · have hzero : s.saturated = 0 := by
      unfold saturated number
      rw [hempty]
      rfl
    rw [s.parseSizeString_zero (by rw [hlen, hlength, hempty]; rfl), hzero]
    rfl
  · have hpos := List.length_pos_iff.mpr hempty
    exact s.parseSizeString_digit (by omega) (by omega)

end SizeString

/-- **Which sizes are read as they are written.** -/
theorem parseSizeString_eq_size_iff (copied : Bool) (s : SizeString) :
    parseSizeString copied s.text = some s.size ↔ s.Parsable copied := by
  have hlengths := s.length_text
  have hunits := s.unitText_length_le
  unfold SizeString.Parsable
  by_cases hshort : s.text.length < 2 ^ 31
  · have hlen : s.len = s.text.length := Int.bmod_eq_of_le (by omega) (by omega)
    rw [if_pos hshort]
    cases hunit : s.unit with
    | none =>
        have hvalue := s.value_of_none hunit
        rw [s.parseSizeString_none hunit hlen, Option.some_inj, if_neg (fun h => by cases h.1),
          s.saturated_eq_size_iff_of_none hunit, and_iff_left_of_imp fun h => Or.inl (by omega)]
    | some u =>
        obtain ⟨u, lower⟩ := u
        rw [s.parseSizeString_unit hunit hlen, Option.some_inj]
        cases copied with
        | true =>
            rw [if_pos rfl, if_neg (fun h => by cases h.2), s.wrapped_eq_size_iff]
        | false =>
            rw [if_neg Bool.false_ne_true, if_pos ⟨rfl, rfl⟩, eq_comm, s.size_eq_zero_iff]
  · rw [if_neg hshort]
    by_cases hzero : s.len = 0
    · rw [if_pos hzero, s.parseSizeString_zero hzero, Option.some_inj, eq_comm,
        s.size_eq_zero_iff]
    · rw [if_neg hzero]
      by_cases hpos : 0 < s.len
      · have htop : s.len ≤ (2 ^ 32 - 1) / 2 := Int.bmod_le (by decide)
        rw [s.parseSizeString_digit hpos (by omega), Option.some_inj, and_iff_right hpos]
        cases hunit : s.unit with
        | none =>
            rw [s.saturated_eq_size_iff_of_none hunit, and_iff_left (Or.inl rfl)]
        | some u =>
            rw [s.saturated_eq_size_iff_of_some hunit, or_iff_right (by rintro ⟨⟩),
              and_iff_right_of_imp fun h => by omega]
      · rw [s.parseSizeString_negative (by omega)]
        exact iff_of_false (fun h => by cases h) (fun h => hpos h.1)

/-- 16 PiB and a kilobyte are read as a kilobyte, which `CmdCreate` takes, and a number that is too
large for a signed word as the largest one. -/
theorem parseSizeString_wraps :
    parseSizeString true "18014398509481985K".toList = some 1024 ∧
    parseSizeString true "9223372036854775808".toList = some 9223372036854775807 ∧
    cmdCreate {} [{ text := "--size=18014398509481985K".toList }] =
      some (.ok { namespaceSize := 1024 }) ∧
    ¬ ∀ (copied : Bool) (s : SizeString), parseSizeString copied s.text = some s.size := by
  have hread : parseSizeString true "18014398509481985K".toList = some 1024 := by decide
  refine ⟨hread, by decide, rfl, fun hall => ?_⟩
  have hsize := hall true
    ⟨"18014398509481985".toList, List.all_eq_true.mp (by decide), some (.K, false)⟩
  exact absurd hsize (by decide)

/-! ## The options of `create` -/

/-- An argument sets the size to one that `ParseSizeString` has read and that is not zero, or it
leaves it. -/
theorem cmdCreateArgument_size {config config' : VnvmeControllerConfig} {arg : CtlArgument}
    (h : cmdCreateArgument config arg = some (.ok config')) :
    config'.namespaceSize = config.namespaceSize ∨
      config'.namespaceSize ≠ 0 ∧ ∃ str, arg.value "--size=" = some str ∧
        parseSizeString arg.copied str = some config'.namespaceSize := by
  unfold cmdCreateArgument at h
  split at h
  · rename_i str hvalue
    right
    obtain ⟨size, hsize, hconfig⟩ := Option.map_eq_some_iff.mp h
    by_cases hzero : size = 0
    · rw [if_pos hzero] at hconfig
      cases hconfig
    · rw [if_neg hzero] at hconfig
      obtain rfl := Except.ok.inj hconfig
      exact ⟨hzero, str, hvalue, hsize⟩
  · left
    split at h
    · -- `--backend=`
      split at h
      · cases h
        rfl
      · split at h
        · cases h
          rfl
        · cases h
    · split at h
      · -- `--file=`
        split at h
        · cases h
          rfl
        · cases h
      · split at h
        · cases h
          rfl
        · split at h
          · cases h
            rfl
          · cases h

/-- The size that `CmdCreate` asks for is the one it started with, or it comes from one of its
arguments. -/
theorem cmdCreate_size {config config' : VnvmeControllerConfig} {args : List CtlArgument}
    (h : cmdCreate config args = some (.ok config')) :
    config'.namespaceSize = config.namespaceSize ∨
      config'.namespaceSize ≠ 0 ∧ ∃ arg ∈ args, ∃ str, arg.value "--size=" = some str ∧
        parseSizeString arg.copied str = some config'.namespaceSize := by
  induction args generalizing config with
  | nil =>
      unfold cmdCreate at h
      split_ifs at h
      · cases h
      · cases h
        exact Or.inl rfl
  | cons arg args ih =>
      unfold cmdCreate at h
      split at h
      · rename_i config₁ hstep
        rcases ih h with hkept | ⟨hne, arg', hmem, hread⟩
        · rw [hkept]
          rcases cmdCreateArgument_size hstep with hsame | ⟨hne, hread⟩
          · exact Or.inl hsame
          · exact Or.inr ⟨hne, arg, List.mem_cons_self, hread⟩
        · exact Or.inr ⟨hne, arg', List.mem_cons_of_mem arg hmem, hread⟩
      · rename_i hstep
        exact absurd h (hstep config')

/-- It is never zero. -/
theorem cmdCreate_size_ne_zero {config' : VnvmeControllerConfig} {args : List CtlArgument}
    (h : cmdCreate {} args = some (.ok config')) : config'.namespaceSize ≠ 0 := by
  rcases cmdCreate_size h with hdefault | ⟨hne, -⟩
  · rw [hdefault]
    decide
  · exact hne

/-- If the sizes among the arguments are read as they are written, it is the default or exactly
the value of one of them. -/
theorem cmdCreate_size_exact {config' : VnvmeControllerConfig} {args : List CtlArgument}
    (hargs : ∀ arg ∈ args, ∀ str, arg.value "--size=" = some str →
      ∃ s : SizeString, s.text = str ∧ parseSizeString arg.copied s.text = some s.size)
    (h : cmdCreate {} args = some (.ok config')) :
    config'.namespaceSize = 64 * 1024 * 1024 ∨
      ∃ arg ∈ args, ∃ s : SizeString, arg.value "--size=" = some s.text ∧
        config'.namespaceSize.toNat = s.value := by
  rcases cmdCreate_size h with hdefault | ⟨hne, arg, hmem, str, hvalue, hread⟩
  · exact Or.inl hdefault
  · obtain ⟨s, rfl, hright⟩ := hargs arg hmem str hvalue
    have hsize : s.size = config'.namespaceSize := Option.some_inj.mp (hright.symm.trans hread)
    refine Or.inr ⟨arg, hmem, s, hvalue, ?_⟩
    rw [← hsize] at hne ⊢
    rw [s.size_toNat]
    refine if_pos (Nat.not_le.mp fun hlarge => hne ?_)
    exact s.size_eq_zero_iff.mpr (Or.inr hlarge)

end VirtualNvme
