import Sdsce.Guarantees.Alone
import Sdsce.Source.Operator
import Sdsce.Source.Psql

/-!
# The blocks that a session can still pay for

The estimate divides what is left of the escrow balance by the session's price per block. PostgreSQL
does not keep that price, so a session that is read from it has no blocks left. The quotient is cut
to 64 bits.
-/
namespace Sdsce.Guarantees.BlocksEstimate

open Sdsce.Theory Sdsce.Source Sdsce.Source.Operator

inductive Backend where
  | inMemory | psql
deriving DecidableEq

/-- A session of this price is read back. The in-memory repository keeps the price with it. -/
inductive ReadBack (price : GRT) : Backend → Session → Prop
  | inMemory {i : ThreadId} {id : String} {w w' : World} {stored session : Session}
      (kept : w.store.sessions.lookup id = some stored)
      (priced : stored.pricingConfig.pricePerBlock = price)
      (ran : machine.Runs i (InMemory.sessionGet id) w (.ok session) w') :
      ReadBack price .inMemory session
  | psql {j : Psql.ThreadId} {id : String} {db db' : Psql.Db} {session : Session}
      (ran : Psql.machine.Runs j (Psql.sessionGet id) db (.ok session) db') :
      ReadBack price .psql session

/-- `k` is the largest 64-bit number of blocks that the balance covers, or 0 if it covers none. -/
def IsEstimate (price outstanding balance : Int) (k : UInt64) : Prop :=
  (outstanding + k.toNat * price ≤ balance ∧
      ∀ n : UInt64, outstanding + n.toNat * price ≤ balance → n ≤ k) ∨
    k = 0 ∧ ∀ n : UInt64, ¬outstanding + n.toNat * price ≤ balance

/-- How many blocks the balance covers, of any number of bits. -/
def coveredBlocks (price outstanding balance : Int) : Nat :=
  ((balance - outstanding) / price).toNat

variable {price outstanding balance : Int}

theorem isEstimate_iff (positive : 0 < price) (k : UInt64) :
    IsEstimate price outstanding balance k ↔
      k.toNat = min (coveredBlocks price outstanding balance) (2 ^ 64 - 1) := by
  have covers (n : UInt64) : outstanding + n.toNat * price ≤ balance ↔
      (n.toNat : Int) ≤ (balance - outstanding) / price := by
    rw [Int.le_ediv_iff_mul_le positive]
    omega
  simp only [IsEstimate, covers, UInt64.le_iff_toNat_le, coveredBlocks]
  generalize (balance - outstanding) / price = q
  have small := k.toNat_lt
  constructor
  · rintro (⟨fits, largest⟩ | ⟨rfl, none⟩)
    · have top : (UInt64.ofNat (min q.toNat (2 ^ 64 - 1))).toNat = min q.toNat (2 ^ 64 - 1) :=
        Nat.mod_eq_of_lt (by omega)
      have bound := largest (.ofNat (min q.toNat (2 ^ 64 - 1)))
      rw [top] at bound
      omega
    · have negative := none 0
      rw [UInt64.toNat_zero] at negative ⊢
      omega
  · intro estimate
    by_cases covered : 0 ≤ q
    · refine .inl ⟨by omega, fun n fits => ?_⟩
      have := n.toNat_lt
      omega
    · refine .inr ⟨UInt64.toNat_inj.mp (by rw [estimate]; simp; omega), fun n => by omega⟩

section ReadBack

variable {price : GRT} {session : Session} {backend : Backend}

theorem psql_unpriced {j : Psql.ThreadId} {id : String} {db db' : Psql.Db}
    (ran : Psql.machine.Runs j (Psql.sessionGet id) db (.ok session) db') :
    session.pricingConfig.pricePerBlock = .zero := by
  obtain ⟨row, _, _, rest⟩ := ran.bind_inv
  cases row with
  | error err => cases rest.ret_inv.1
  | ok row =>
    obtain ⟨rav, _, _, rest⟩ := rest.bind_inv
    rcases rav with (_ | _) | rav
    all_goals cases rest.ret_inv.1
    all_goals rfl

theorem ReadBack.price_eq (read : ReadBack price backend session) :
    session.pricingConfig.pricePerBlock = if backend = .inMemory then price else .zero := by
  cases read with
  | inMemory kept priced ran =>
    have same := (Alone.sessionGet_runs ran).2
    rw [kept] at same
    cases same
    exact priced
  | psql ran => exact psql_unpriced ran

theorem reportedBlocks_eq (known : reportedBalance session = some balance)
    (read : ReadBack price backend session) (positive : 0 < price.bigInt) :
    (reportedBlocks session).toNat =
      if backend = .inMemory then
        coveredBlocks price.bigInt (reportedOutstanding session) balance % 2 ^ 64
      else 0 := by
  rw [reportedBlocks, known, estimatedBlocksRemaining, read.price_eq, coveredBlocks]
  cases backend with
  | psql => rfl
  | inMemory =>
    simp only [if_true, if_neg (not_le.mpr positive)]
    split
    · next spent =>
      have nothing : (balance - reportedOutstanding session) / price.bigInt ≤ 0 := by
        have := Int.ediv_le_ediv positive spent
        rwa [Int.zero_ediv] at this
      rw [Int.toNat_of_nonpos nothing]
      rfl
    · rfl

/-- The estimate is exact if the balance covers no block, or if the session comes from memory and
the number of blocks that the balance covers has 64 bits, or ends in 64 ones. -/
theorem estimate_exact_iff (known : reportedBalance session = some balance)
    (read : ReadBack price backend session) (positive : 0 < price.bigInt) :
    IsEstimate price.bigInt (reportedOutstanding session) balance (reportedBlocks session) ↔
      coveredBlocks price.bigInt (reportedOutstanding session) balance = 0 ∨
        backend = .inMemory ∧
          (coveredBlocks price.bigInt (reportedOutstanding session) balance < 2 ^ 64 ∨
            coveredBlocks price.bigInt (reportedOutstanding session) balance % 2 ^ 64 =
              2 ^ 64 - 1) := by
  rw [isEstimate_iff positive, reportedBlocks_eq known read positive]
  generalize coveredBlocks _ _ _ = blocks
  cases backend with
  | inMemory =>
    simp only [if_true, true_and]
    omega
  | psql =>
    simp only [reduceCtorEq, if_false, false_and, or_false]
    omega

end ReadBack

/-- A price of 2 per block, and a balance of 10. -/
def tenLeft : Session :=
  { Session.new "s" [] [] [] ⟨.newGRTFromBigInt 2, .zero⟩ 0 with
    metadata := Finmap.insert "funds_escrow_balance_wei" "10" ∅ }

theorem estimate_exact_in_memory : (reportedBlocks tenLeft).toNat = 5 ∧
    IsEstimate 2 (reportedOutstanding tenLeft) 10 (reportedBlocks tenLeft) := by
  let w : World := { store := { sessions := AList.insert "s" tenLeft ∅ } }
  have ran : machine.Runs 0 (InMemory.sessionGet "s") w (.ok tenLeft) w := .act (e := {}) rfl .ret
  have read : ReadBack (.newGRTFromBigInt 2) .inMemory tenLeft := .inMemory (w := w) rfl rfl ran
  refine ⟨by decide +kernel, (estimate_exact_iff ?_ read ?_).mpr (.inr ⟨rfl, .inl ?_⟩)⟩
  · decide +kernel
  · decide +kernel
  · decide +kernel

/-- PostgreSQL reads the same session back, and no blocks are left. -/
theorem estimate_lost_in_psql : ∃ session, ReadBack (.newGRTFromBigInt 2) .psql session ∧
    reportedBalance session = some 10 ∧
    ¬IsEstimate 2 (reportedOutstanding session) 10 (reportedBlocks session) := by
  let row := Psql.fromSession tenLeft
  let db : Psql.Db := { tables := { sessions := AList.insert "s" row ∅ } }
  have first : Psql.machine.exec 0 (.getSession "s") {} db =
      some (db.startReading 0 "s" row, .ok row) := rfl
  have second : Psql.machine.exec 0 (.getRav "s") {} (db.startReading 0 "s" row) =
      some ((db.startReading 0 "s" row).stopReading 0, .error .notFound) := rfl
  have ran : Psql.machine.Runs 0 (Psql.sessionGet "s") db (.ok (row.toRepository none)) _ :=
    .act first (.act second .ret)
  refine ⟨_, .psql ran, by decide +kernel, ?_⟩
  rw [isEstimate_iff (by decide)]
  decide +kernel

end Sdsce.Guarantees.BlocksEstimate
