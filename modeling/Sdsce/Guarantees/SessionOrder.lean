import Sdsce.Guarantees.PaymentCoverage

/-!
# Sessions are not rolled back

Any number of handlers read a session and write it back. Between two moments of a run it stays the
same session, and neither its usage cost nor its keep-alive goes back.
-/
namespace Sdsce.Guarantees.SessionOrder

open Sdsce.Theory Sdsce.Source

/-- What a session keeps from its creation on. -/
def terms (s : Session) : String × Address × Address × Address × PricingConfig × Time :=
  (s.id, s.payer, s.receiver, s.dataService, s.pricingConfig, s.createdAt)

/-- The session at a later moment. -/
structure Later (before after : Session) : Prop where
  terms : terms after = terms before
  keepAlive : before.lastKeepAlive ≤ after.lastKeepAlive
  cost : before.totalCost ≤ after.totalCost
  rav : before.currentRAV.isSome → after.currentRAV.isSome

theorem Later.refl (session : Session) : Later session session := ⟨rfl, le_rfl, le_rfl, id⟩

theorem Later.trans {first middle last : Session} (one : Later first middle)
    (two : Later middle last) : Later first last :=
  ⟨two.terms.trans one.terms, one.keepAlive.trans two.keepAlive, one.cost.trans two.cost,
    two.rav ∘ one.rav⟩

variable {g : Gateway} {pool : Pool} {h : History} {id : String} {i : ThreadId} {kind : EventKind}
  {session : Session} {c c' : Config Act ThreadId World Reply}

theorem later_of_update {u : SessionUpdate} (allowed : mayUpdate g pool i h id u) :
    Later session (u.apply session) := by
  have cost : session.totalCost ≤ (u.apply session).totalCost := by
    rw [u.apply_totalCost]
    exact Int.le_add_of_nonneg_right (mayUpdate_cost allowed)
  cases u with
  | touch => exact ⟨rfl, le_max_left .., cost, fun held => held⟩
  | applyUsage => exact ⟨rfl, le_rfl, cost, fun held => held⟩
  | runtimeState =>
    simp only [SessionUpdate.apply]
    split
    · exact ⟨rfl, le_rfl, le_rfl, fun held => held⟩
    · exact .refl session
  | ravAndBaseline rav =>
    cases rav with
    | none => cases allowed
    | some => exact ⟨rfl, le_rfl, cost, fun _ => rfl⟩

theorem later_of_entry (why : Justified (providerPolicy g pool) i h kind)
    (last : lastSession h id = some session) :
    ∃ after, lastSession (h ++ [⟨i, kind⟩]) id = some after ∧ Later session after := by
  by_cases here : ∃ written, kind.writes = some (id, written)
  · obtain ⟨written, writes⟩ := here
    refine ⟨written, lastSession_written writes, ?_⟩
    cases kind with
    | created =>
      cases writes
      cases why.1.symm.trans last
    | swapped =>
      cases writes
      cases why.1.symm.trans last
      exact later_of_update why.2
    | _ => cases writes
  · exact ⟨session, (lastSession_other (not_exists.mp here)).trans last, .refl session⟩

/-- Whatever runs from a reached state on: a stored session is still stored and is later. -/
theorem sessions_only_advance (run : machine.Reach (boot g pool) c) (rest : machine.Reach c c')
    (present : c.shared.store.sessions.lookup id = some session) :
    ∃ after, c'.shared.store.sessions.lookup id = some after ∧ Later session after := by
  induction rest with
  | refl => exact ⟨session, present, .refl session⟩
  | @tail mid last before step ih =>
    obtain ⟨current, found, advanced⟩ := ih
    have reached := run.trans before
    rw [(boot_sound reached).lastSessions] at found
    rw [(boot_sound (reached.tail step)).lastSessions]
    rcases verified_entry ((boot_verified g pool).reach reached) step with
      same | ⟨i, kind, grown, why⟩
    · exact ⟨current, same ▸ found, advanced⟩
    · obtain ⟨after, written, later⟩ := later_of_entry why found
      exact ⟨after, grown ▸ written, advanced.trans later⟩

/-- The session of `paidSession` when it has just been opened. -/
def justOpened : Config Act ThreadId World Reply :=
  machine.play [Sample.whole 0] (boot Sample.gateway paidPool)

theorem sessions_only_advance_paid : ∃ before after,
    justOpened.shared.store.sessions.lookup "s" = some before ∧
    paidSession.shared.store.sessions.lookup "s" = some after ∧ Later before after := by
  have opened : (justOpened.shared.store.sessions.lookup "s").isSome := by decide +kernel
  obtain ⟨before, present⟩ := Option.isSome_iff_exists.mp opened
  have run : machine.Reach (boot Sample.gateway paidPool) justOpened := Machine.play_reach _ _
  have rest : machine.Reach justOpened paidSession :=
    Machine.play_reach [Sample.whole 1, Sample.whole 2] _
  obtain ⟨after, found, later⟩ := sessions_only_advance run rest present
  exact ⟨before, after, present, found, later⟩

end Sdsce.Guarantees.SessionOrder
