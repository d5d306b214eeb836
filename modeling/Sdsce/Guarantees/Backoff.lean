import Sdsce.Source.Collector

/-!
# The backoff of a failed collection

`backoffFor` doubles a 64-bit duration and leaves the loop at one hour, but it compares with the
hour only after a doubling. So a base above one hour is returned as it is, and one whose double
does not fit in 64 bits turns negative.
-/
namespace Sdsce.Guarantees.Backoff

open Sdsce.Source.Collector Sdsce.Source.Collector.AutoCollector

/-- What the flag promises: the base doubled for every attempt after the first, at most one
hour. -/
def exactBackoff (base : Int) (attempt : Nat) : Int := min (base * 2 ^ (attempt - 1)) maxBackoff

/-- The base after `n` doublings on 64 bits. -/
def wrapped (base : Int) (n : Nat) : Int := (base * 2 ^ n).bmod 18446744073709551616

theorem doubled_eq (backoff : Int) : doubled backoff = (backoff * 2).bmod 18446744073709551616 :=
  Int64.toInt_ofInt

theorem maxBackoff_eq : maxBackoff = 3600000000000 := rfl

variable {backoff base : Int} {n : Nat}

theorem doubled_of_lt (nonneg : 0 ≤ backoff) (small : backoff < 4611686018427387904) :
    doubled backoff = backoff * 2 := by
  rw [doubled_eq, Int.bmod_eq_of_le (by omega) (by omega)]

theorem wrapped_doubled (backoff : Int) (n : Nat) :
    wrapped (doubled backoff) n = wrapped backoff (n + 1) := by
  unfold wrapped
  rw [doubled_eq, Int.bmod_mul_bmod, Int.pow_succ', Int.mul_assoc]

theorem wrapped_one (backoff : Int) : wrapped backoff 1 = doubled backoff := by
  rw [doubled_eq, wrapped, Int.pow_one]

/-- Some doubling up to the `n`-th reaches one hour. -/
def Reaches (backoff : Int) (n : Nat) : Prop := ∃ i, 0 < i ∧ i ≤ n ∧ maxBackoff ≤ wrapped backoff i

theorem Reaches.of_doubled (reaches : Reaches (doubled backoff) n) : Reaches backoff (n + 1) := by
  obtain ⟨i, positive, bounded, reached⟩ := reaches
  rw [wrapped_doubled] at reached
  exact ⟨i + 1, by omega, by omega, reached⟩

theorem Reaches.doubled_of_lt (reaches : Reaches backoff (n + 1))
    (below : doubled backoff < maxBackoff) : Reaches (doubled backoff) n := by
  obtain ⟨i, positive, bounded, reached⟩ := reaches
  obtain ⟨i, rfl⟩ := Nat.exists_eq_succ_of_ne_zero (Nat.pos_iff_ne_zero.mp positive)
  cases i with
  | zero =>
    rw [wrapped_one] at reached
    omega
  | succ i => exact ⟨i + 1, by omega, by omega, (wrapped_doubled backoff _).symm ▸ reached⟩

/-- The loop answers one hour when a doubling reaches it, and stays below otherwise. -/
theorem doubleBackoff_reaches (reaches : Reaches backoff n) :
    doubleBackoff backoff n = maxBackoff := by
  induction n generalizing backoff with
  | zero =>
    obtain ⟨i, positive, bounded, _⟩ := reaches
    omega
  | succ n ih =>
    unfold doubleBackoff
    split
    · rfl
    · next below => exact ih (reaches.doubled_of_lt (not_le.mp below))

theorem doubleBackoff_below (never : ¬ Reaches backoff (n + 1)) :
    doubleBackoff backoff (n + 1) < maxBackoff := by
  induction n generalizing backoff with
  | zero =>
    have first : doubled backoff < maxBackoff := by
      refine not_le.mp fun reached => never ⟨1, Nat.one_pos, le_rfl, ?_⟩
      rwa [wrapped_one]
    rw [doubleBackoff, if_neg (not_le.mpr first)]
    exact first
  | succ n ih =>
    have first : doubled backoff < maxBackoff := by
      refine not_le.mp fun reached => never ⟨1, Nat.one_pos, by omega, ?_⟩
      rwa [wrapped_one]
    rw [doubleBackoff, if_neg (not_le.mpr first)]
    exact ih fun reaches => never reaches.of_doubled

/-- As long as nothing overflows the loop computes the exact value. -/
theorem doubleBackoff_exact (nonneg : 0 ≤ backoff) (small : backoff < 4611686018427387904)
    (capped : backoff ≤ maxBackoff ∨ 0 < n) :
    doubleBackoff backoff n = min (backoff * 2 ^ n) maxBackoff := by
  induction n generalizing backoff with
  | zero =>
    rw [doubleBackoff, Int.pow_zero, Int.mul_one, Int.min_eq_left (capped.resolve_right nofun)]
  | succ n ih =>
    have exact : backoff * 2 ^ (n + 1) = doubled backoff * 2 ^ n := by
      rw [doubled_of_lt nonneg small, Int.pow_succ', Int.mul_assoc]
    unfold doubleBackoff
    rw [exact]
    split
    · next reached =>
        have grows : doubled backoff * 1 ≤ doubled backoff * 2 ^ n :=
          Int.mul_le_mul_of_nonneg_left (by exact_mod_cast Nat.one_le_two_pow)
            (by rw [doubled_of_lt nonneg small]; omega)
        omega
    · next below =>
        rw [maxBackoff_eq] at below
        have next := doubled_of_lt nonneg small
        exact ih (by omega) (by omega) (.inl (by rw [maxBackoff_eq]; omega))

theorem backoffFor_succ (c : AutoCollector) (n : Nat) :
    c.backoffFor (n + 1) = doubleBackoff c.backoffBase n := rfl

/-- When `backoffFor` keeps the promise: the first attempt waits for the base itself, and a later
one doubles without overflow, or meets the hour by chance after one. -/
def Promised (base : Int) (attempt : Nat) : Prop :=
  if attempt = 1 then base ≤ maxBackoff
  else base < 4611686018427387904 ∨ Reaches base (attempt - 1)

theorem backoffFor_exact {c : AutoCollector} (nonneg : 0 ≤ c.backoffBase)
    (fits : c.backoffBase < 9223372036854775808) {attempt : Nat} (counted : 1 ≤ attempt) :
    c.backoffFor attempt = exactBackoff c.backoffBase attempt ↔
      Promised c.backoffBase attempt := by
  obtain ⟨n, rfl⟩ := Nat.exists_eq_succ_of_ne_zero (Nat.one_le_iff_ne_zero.mp counted)
  rw [Nat.succ_eq_add_one, backoffFor_succ, exactBackoff, Nat.add_sub_cancel]
  unfold Promised
  rw [Nat.add_sub_cancel]
  cases n with
  | zero =>
    rw [if_pos rfl, doubleBackoff, Int.pow_zero, Int.mul_one]
    exact ⟨fun same => same ▸ Int.min_le_right _ _, fun capped => (Int.min_eq_left capped).symm⟩
  | succ n =>
    by_cases small : c.backoffBase < 4611686018427387904
    · have computed := doubleBackoff_exact (n := n + 1) nonneg small (.inr (by omega))
      exact ⟨fun _ => .inl small, fun _ => computed⟩
    -- the exact value is one hour here, whatever the doublings have become
    have capped : min (c.backoffBase * 2 ^ (n + 1)) maxBackoff = maxBackoff := by
      have grows : c.backoffBase * 1 ≤ c.backoffBase * 2 ^ (n + 1) :=
        Int.mul_le_mul_of_nonneg_left (by exact_mod_cast Nat.one_le_two_pow) nonneg
      rw [maxBackoff_eq]
      omega
    rw [capped]
    constructor
    · intro hour
      refine .inr (not_not.mp fun never => ?_)
      have below := doubleBackoff_below never
      omega
    · rintro (small' | reaches)
      · exact absurd small' small
      · exact doubleBackoff_reaches reaches

/-- A base of at most one hour is doubled exactly for ever. -/
theorem promised_of_le (capped : base ≤ maxBackoff) (attempt : Nat) : Promised base attempt := by
  unfold Promised
  split
  · exact capped
  · rw [maxBackoff_eq] at capped
    exact .inl (by omega)

/-- The second attempt never waits longer than one hour. -/
theorem backoffFor_two_le (c : AutoCollector) : c.backoffFor 2 ≤ maxBackoff := by
  by_cases reaches : Reaches c.backoffBase 1
  · exact (doubleBackoff_reaches reaches).le
  · exact (doubleBackoff_below reaches).le

theorem exactBackoff_mono (nonneg : 0 ≤ base) (attempt : Nat) :
    exactBackoff base attempt ≤ exactBackoff base (attempt + 1) := by
  have grows : base * 2 ^ (attempt - 1) ≤ base * 2 ^ (attempt + 1 - 1) :=
    Int.mul_le_mul_of_nonneg_left
      (by exact_mod_cast Nat.pow_le_pow_right Nat.two_pos (by omega)) nonneg
  unfold exactBackoff
  omega

/-- For every base that the flag can carry: `backoffFor` has its exact value at an attempt just
when the doublings up to it keep the promise; it has it at every attempt, and never decreases, just
when the base is at most one hour. -/
theorem backoffFor_exact_iff {c : AutoCollector} (nonneg : 0 ≤ c.backoffBase)
    (fits : c.backoffBase < 9223372036854775808) :
    (∀ attempt, 1 ≤ attempt →
      (c.backoffFor attempt = exactBackoff c.backoffBase attempt ↔
        Promised c.backoffBase attempt)) ∧
    ((∀ attempt, 1 ≤ attempt → c.backoffFor attempt = exactBackoff c.backoffBase attempt) ↔
      c.backoffBase ≤ maxBackoff) ∧
    ((∀ attempt, 1 ≤ attempt → c.backoffFor attempt ≤ c.backoffFor (attempt + 1)) ↔
      c.backoffBase ≤ maxBackoff) := by
  have pointwise {attempt : Nat} (counted : 1 ≤ attempt) := backoffFor_exact nonneg fits counted
  have always (capped : c.backoffBase ≤ maxBackoff) {attempt : Nat} (counted : 1 ≤ attempt) :
      c.backoffFor attempt = exactBackoff c.backoffBase attempt :=
    (pointwise counted).mpr (promised_of_le capped attempt)
  refine ⟨fun _ counted => pointwise counted, ⟨fun exact => ?_, fun capped _ => always capped⟩,
    fun grows => ?_, fun capped attempt counted => ?_⟩
  · exact (pointwise le_rfl).mp (exact 1 le_rfl)
  · exact (grows 1 le_rfl).trans (backoffFor_two_le c)
  · rw [always capped counted, always capped (by omega)]
    exact exactBackoff_mono nonneg attempt

/-- A daemon with this `--retry-backoff-base`. -/
def daemon (backoffBase : Int) : AutoCollector where
  providerAddress := []
  dataServiceAddress := []
  cutPPM := 0
  tx := ⟨false, 1, 0, none, none, none, false, false⟩
  minValue := 0
  maxAttempts := 5
  backoffBase
  reclaimAfter := 0
  once := false

/-- With a base of two hours the first retry waits for two hours, the second for one; with a base
of `2 ^ 62` nanoseconds the second wait is negative. -/
theorem backoffFor_above_cap :
    (daemon (2 * maxBackoff)).backoffFor 1 = 2 * maxBackoff ∧
    (daemon (2 * maxBackoff)).backoffFor 2 = maxBackoff ∧
    exactBackoff (2 * maxBackoff) 1 = maxBackoff ∧
    (daemon 4611686018427387904).backoffFor 2 = -9223372036854775808 ∧
    exactBackoff 4611686018427387904 2 = maxBackoff := by
  decide +kernel

/-- The default of one minute keeps its promise. -/
theorem backoffFor_exact_iff_minute :
    (daemon 60000000000).backoffBase ≤ maxBackoff ∧ ∀ attempt, 1 ≤ attempt →
      (daemon 60000000000).backoffFor attempt = exactBackoff 60000000000 attempt :=
  ⟨by decide,
    (backoffFor_exact_iff (c := daemon 60000000000) (by decide) (by decide)).2.1.mpr (by decide)⟩

end Sdsce.Guarantees.Backoff
