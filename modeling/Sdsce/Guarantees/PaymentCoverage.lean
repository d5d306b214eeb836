import Sdsce.Guarantees.SessionHistory

/-!
# Payment coverage

The value of a session's RAV, its baseline and its running cost stay in balance however the
handlers that read and replace them interleave. A stale commit is harmless because the value
and the baseline it writes were taken from one and the same earlier session.
-/
namespace Sdsce.Guarantees

open Sdsce.Theory Sdsce.Source

/-- No RAV of the session was accepted through `SubmitRAV`. -/
def OnStream (pool : Pool) (id : String) (h : History) : Prop :=
  ∀ j old rav blocks bytes reqs cost now,
    ⟨j, .swapped id old (.ravAndBaseline rav blocks bytes reqs cost now)⟩ ∈ h →
      ¬ CallsSubmitRAV pool j

/-- The unpaid cost of every state the session went through fits the wire format. -/
def CostsFit (h : History) (id : String) : Prop :=
  ∀ session, Stored h id session → session.usageDeltaSinceBaseline.cost < 2 ^ 256

/-- The balance of a session whose first RAV had the value `opening`. -/
structure Charged (opening : Int) (exact : Prop) (session : Session) : Prop where
  baseline : session.baselineCost ≤ session.totalCost
  value : opening + session.baselineCost ≤ session.ravValue
  exact : exact → session.ravValue = opening + session.baselineCost

variable {session : Session} {pool : Pool} {id : String} {h : History} {i : ThreadId}
  {kind : EventKind} {g : Gateway}

theorem requestedCost_eq (fits : session.usageDeltaSinceBaseline.cost < 2 ^ 256) :
    requestedCost session = session.usageDeltaSinceBaseline.cost :=
  Proto.GRT.toBigInt_fromBigInt session.usageDelta_cost_nonneg fits

namespace Charged

variable {opening : Int} {exact : Prop} {session old : Session}

theorem delta (charged : Charged opening exact session) :
    session.usageDeltaSinceBaseline.cost = session.totalCost - session.baselineCost := by
  have := charged.baseline
  exact if_neg (by omega)

theorem weaken {exact' : Prop} (stronger : exact' → exact)
    (charged : Charged opening exact session) : Charged opening exact' session :=
  ⟨charged.baseline, charged.value, fun h => charged.exact (stronger h)⟩

theorem update {u : SessionUpdate} (charged : Charged opening exact old)
    (keeps : u.setsRAV = false) (grows : 0 ≤ u.cost) : Charged opening exact (u.apply old) := by
  have same : (u.apply old).ravValue = old.ravValue := by
    rw [Session.ravValue, u.apply_currentRAV keeps, ← Session.ravValue]
  have baseline := charged.baseline
  refine ⟨?_, ?_, ?_⟩
  · rw [u.apply_baselineCost keeps, u.apply_totalCost]
    omega
  · rw [u.apply_baselineCost keeps, same]
    exact charged.value
  · rw [u.apply_baselineCost keeps, same]
    exact charged.exact

/-- A commit made from an earlier session balances: both its value and its baseline are
those of that session. -/
theorem commit {pool : Pool} {i : ThreadId} {rav : SignedRAV} {blocks bytes reqs : UInt64}
    {cost : Int} (now : Time) (charged : Charged opening exact session)
    (fits : session.usageDeltaSinceBaseline.cost < 2 ^ 256)
    (grown : session.totalCost ≤ old.totalCost)
    (covers : Covers pool i rav blocks bytes reqs cost session)
    (stream : exact → ¬ CallsSubmitRAV pool i) :
    Charged opening exact
      ((SessionUpdate.ravAndBaseline (some rav) blocks bytes reqs cost now).apply old) := by
  have paid := (requestedCost_eq fits).trans charged.delta
  have unpaid := charged.delta
  have value := charged.value
  refine ⟨?_, ?_, fun exactly => ?_⟩
  · change cost ≤ old.totalCost
    rw [covers.cost]
    exact grown
  · change opening + cost ≤ rav.message.valueAggregate
    rw [covers.cost]
    rcases covers.value with requested | ⟨_, submitted⟩
    · omega
    · omega
  · change rav.message.valueAggregate = opening + cost
    rw [covers.cost, covers.value.resolve_right fun submitted => stream exactly submitted.1]
    have := charged.exact exactly
    omega

end Charged

/-- The balance of every state the session went through; the latest has the largest cost. -/
def Balanced (pool : Pool) (id : String) (h : History) (current : Session) : Prop :=
  ∃ first, firstSession h id = some first ∧ ∀ session, Stored h id session →
    Charged first.ravValue (OnStream pool id h) session ∧ session.totalCost ≤ current.totalCost

theorem OnStream.of_append {event : Event} (stream : OnStream pool id (h ++ [event])) :
    OnStream pool id h :=
  fun j old rav blocks bytes reqs cost now member =>
    stream j old rav blocks bytes reqs cost now (List.mem_append_left _ member)

theorem CostsFit.of_append (fits : CostsFit (h ++ [⟨i, kind⟩]) id) : CostsFit h id :=
  fun session stored => fits session stored.append

/-- What the session's last state was, is still stored after its update. -/
theorem Balanced.swapped {old : Session} {u : SessionUpdate} (last : lastSession h id = some old)
    (balanced : CostsFit h id → Balanced pool id h old) (allowed : mayUpdate g pool i h id u)
    (fits : CostsFit (h ++ [⟨i, .swapped id old u⟩]) id) :
    Balanced pool id (h ++ [⟨i, .swapped id old u⟩]) (u.apply old) := by
  obtain ⟨first, opened, each⟩ := balanced fits.of_append
  have cost := mayUpdate_cost allowed
  have total := u.apply_totalCost old
  have written : Charged first.ravValue (OnStream pool id (h ++ [⟨i, .swapped id old u⟩]))
      (u.apply old) := by
    cases sets : u.setsRAV with
    | false =>
      exact ((each old (lastSession_stored last)).1.weaken OnStream.of_append).update sets cost
    | true =>
      obtain ⟨rav, blocks, bytes, reqs, baseline, now, rfl, commits⟩ :=
        mayUpdate_commits allowed sets
      obtain ⟨session, stored, covers⟩ := commits.covers
      obtain ⟨charged, grown⟩ := each session stored
      exact (charged.weaken OnStream.of_append).commit now
        (fits session stored.append) grown covers
        fun stream => stream i old (some rav) blocks bytes reqs baseline now (by simp)
  refine ⟨first, firstSession_append opened _, fun session stored => ?_⟩
  rcases stored.of_append with before | now
  · obtain ⟨charged, grown⟩ := each session before
    exact ⟨charged.weaken OnStream.of_append, by omega⟩
  · cases now
    exact ⟨written, Int.le_refl _⟩

theorem Balanced.created (absent : lastSession h session.id = none)
    (opened : Opened g pool i session) :
    Balanced pool session.id (h ++ [⟨i, .created session⟩]) session := by
  refine ⟨session, firstSession_created absent, fun other stored => ?_⟩
  rcases stored.of_append with before | now
  · obtain ⟨last, found⟩ := before.lastSession
    rw [absent] at found
    cases found
  · cases now
    obtain ⟨id, payer, dataService, initialRAV, now, rfl, _⟩ := opened
    exact ⟨⟨Int.le_refl _, Int.le_of_eq (Int.add_zero _), fun _ => (Int.add_zero _).symm⟩,
      Int.le_refl _⟩

theorem Balanced.other (other : ∀ written, kind.writes ≠ some (id, written))
    (balanced : Balanced pool id h session) : Balanced pool id (h ++ [⟨i, kind⟩]) session := by
  obtain ⟨first, opened, each⟩ := balanced
  refine ⟨first, firstSession_append opened _, fun s stored => ?_⟩
  obtain ⟨charged, grown⟩ := each s (stored.of_other other)
  exact ⟨charged.weaken OnStream.of_append, grown⟩

theorem accountable_balanced (accountable : Accountable (providerPolicy g pool) h)
    (last : lastSession h id = some session) (fits : CostsFit h id) :
    Balanced pool id h session := by
  refine accountable.session (J := fun h session => CostsFit h id → Balanced pool id h session)
    ?_ ?_ ?_ last fits
  · rintro h i session absent rfl opened _
    exact Balanced.created absent opened
  · intro h i old u last balanced allowed
    exact Balanced.swapped last balanced allowed
  · intro h i kind session other balanced fits
    exact (balanced fits.of_append).other other

/-- At every moment of every run, the RAV of a session is worth at least the value it was
opened with and the cost up to the baseline, and the baseline does not pass the running cost.
As long as `SubmitRAV` has not replaced the RAV, the value is exactly that sum. -/
theorem rav_covers_baseline (g : Gateway) (pool : Pool) {c : Config Act ThreadId World Reply}
    (run : machine.Reach (boot g pool) c) {id : String} {session : Session}
    (present : c.shared.store.sessions.lookup id = some session)
    (fits : CostsFit c.shared.history id) :
    ∃ first, firstSession c.shared.history id = some first ∧
      first.ravValue + session.baselineCost ≤ session.ravValue ∧
      session.baselineCost ≤ session.totalCost ∧
      (OnStream pool id c.shared.history →
        session.ravValue = first.ravValue + session.baselineCost) := by
  have last := ((boot_sound run).lastSessions id).symm.trans present
  obtain ⟨first, opened, each⟩ := accountable_balanced (boot_accountable run) last fits
  have charged := (each session (lastSession_stored last)).1
  exact ⟨first, opened, charged.value, charged.baseline, charged.exact⟩

theorem costsFit_of_entries (id : String) (each : ∀ event ∈ h, ∀ written ∈ event.kind.writes,
      written.2.usageDeltaSinceBaseline.cost < 2 ^ 256) : CostsFit h id := by
  rintro session ⟨event, member, writes⟩
  exact each event member (id, session) writes

def paidPool : Pool := Sample.pool [Sample.start 1, Sample.report 2, Sample.pay (Sample.rav 3) 2]

/-- A session opened at 1 that has paid for two blocks on its stream. -/
def paidSession : Config Act ThreadId World Reply :=
  machine.play [Sample.whole 0, Sample.whole 1, Sample.whole 2] (boot Sample.gateway paidPool)

theorem paidSession_reached : machine.Reach (boot Sample.gateway paidPool) paidSession :=
  Machine.play_reach _ _

theorem rav_covers_baseline_paid : ∃ session first,
    paidSession.shared.store.sessions.lookup "s" = some session ∧
    firstSession paidSession.shared.history "s" = some first ∧
    CostsFit paidSession.shared.history "s" ∧
    first.ravValue + session.baselineCost ≤ session.ravValue ∧
    session.baselineCost ≤ session.totalCost := by
  have found : (paidSession.shared.store.sessions.lookup "s").isSome := by decide +kernel
  have fits : CostsFit paidSession.shared.history "s" := costsFit_of_entries "s" (by decide +kernel)
  obtain ⟨session, present⟩ := Option.isSome_iff_exists.mp found
  obtain ⟨first, opened, value, baseline, _⟩ :=
    rav_covers_baseline Sample.gateway paidPool paidSession_reached present fits
  exact ⟨session, first, present, opened, fits, value, baseline⟩

end Sdsce.Guarantees
