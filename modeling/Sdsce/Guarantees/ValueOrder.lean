import Sdsce.Guarantees.SessionHistory

/-!
# The order of accepted values

Every acceptance compares the new RAV with a value that its handler has read before, and the
commit does not look at the stored value again. The stored value therefore grows as long as
no commit finds more than what its handler compared with; `SubmitRAV`, which holds no lock
between the two, can break it.
-/
namespace Sdsce.Guarantees

open Sdsce.Theory Sdsce.Source

/-- A commit that finds at most the value which its handler compared the RAV with. -/
def CommitsFresh (i : ThreadId) (h : History) : EventKind → Prop
  | .swapped id session (.ravAndBaseline ..) =>
    ∀ value ∈ comparedWith i h id, session.ravValue ≤ value
  | _ => True

instance (i : ThreadId) (h : History) (kind : EventKind) : Decidable (CommitsFresh i h kind) :=
  match kind with
  | .swapped id session u =>
    match u with
    | .ravAndBaseline .. =>
      inferInstanceAs (Decidable (∀ value ∈ comparedWith i h id, session.ravValue ≤ value))
    | .touch .. | .runtimeState .. | .applyUsage .. => isTrue trivial
  | .created _ | .recordStored .. | .note _ => isTrue trivial

/-- The later session holds a RAV of at least the same value. -/
def KeepsValue (session session' : Session) : Prop :=
  ∀ rav, session.currentRAV = some rav → ∃ rav', session'.currentRAV = some rav' ∧
    rav.message.valueAggregate ≤ rav'.message.valueAggregate

theorem KeepsValue.refl (session : Session) : KeepsValue session session :=
  fun rav held => ⟨rav, held, Int.le_refl _⟩

theorem KeepsValue.trans {a b c : Session} (first : KeepsValue a b) (second : KeepsValue b c) :
    KeepsValue a c := by
  intro rav held
  obtain ⟨rav', held', le⟩ := first rav held
  obtain ⟨rav'', held'', le'⟩ := second rav' held'
  exact ⟨rav'', held'', Int.le_trans le le'⟩

section Entry

variable {g : Gateway} {pool : Pool} {i : ThreadId} {h : History} {id : String}

/-- The commit compares with no less than what is stored, so the RAV it writes is no less. -/
theorem keepsValue_update {old : Session} {u : SessionUpdate}
    (allowed : mayUpdate g pool i h id u) (fresh : CommitsFresh i h (.swapped id old u)) :
    KeepsValue old (u.apply old) := by
  cases sets : u.setsRAV with
  | false =>
    intro rav held
    exact ⟨rav, (u.apply_currentRAV sets old).trans held, Int.le_refl _⟩
  | true =>
    obtain ⟨rav', _, _, _, _, _, rfl, commits⟩ := mayUpdate_commits allowed sets
    obtain ⟨value, compared, atLeast⟩ := commits.compared
    intro rav held
    refine ⟨rav', rfl, ?_⟩
    have stored : old.ravValue = rav.message.valueAggregate := by
      rw [Session.ravValue, held]
    calc rav.message.valueAggregate
        = old.ravValue := stored.symm
      _ ≤ value := fresh value compared
      _ ≤ rav'.message.valueAggregate := atLeast

theorem keepsValue_entry {kind : EventKind} {session : Session}
    (why : Justified (providerPolicy g pool) i h kind) (fresh : CommitsFresh i h kind)
    (last : lastSession h id = some session) :
    ∃ session', lastSession (h ++ [⟨i, kind⟩]) id = some session' ∧
      KeepsValue session session' := by
  by_cases here : ∃ written, kind.writes = some (id, written)
  · obtain ⟨written, writes⟩ := here
    refine ⟨written, lastSession_written writes, ?_⟩
    cases kind with
    | created first =>
      cases writes
      cases why.1.symm.trans last
    | swapped id' old u =>
      cases writes
      cases why.1.symm.trans last
      exact keepsValue_update why.2 fresh
    | _ => cases writes
  · exact ⟨session, (lastSession_other (not_exists.mp here)).trans last, KeepsValue.refl session⟩

end Entry

/-- In every run, the value of the stored RAV does not decrease over a stretch in which each
commit finds at most the value that its handler compared with. -/
theorem accepted_value_grows (g : Gateway) (pool : Pool)
    {c c' : Config Act ThreadId World Reply} (before : machine.Reach (boot g pool) c)
    (run : ReachMeeting CommitsFresh c c') {id : String} {session : Session} {rav : SignedRAV}
    (present : c.shared.store.sessions.lookup id = some session)
    (held : session.currentRAV = some rav) :
    ∃ session' rav', c'.shared.store.sessions.lookup id = some session' ∧
      session'.currentRAV = some rav' ∧
      rav.message.valueAggregate ≤ rav'.message.valueAggregate := by
  have kept : ∃ session', c'.shared.store.sessions.lookup id = some session' ∧
      KeepsValue session session' := by
    induction run with
    | refl => exact ⟨session, present, KeepsValue.refl session⟩
    | @tail mid next before' step ih =>
      obtain ⟨session', found, kept⟩ := ih
      have reached := before.trans (ReachMeeting.reach before')
      have verified := (boot_verified g pool).reach reached
      rw [(boot_sound reached).lastSessions] at found
      rw [(boot_sound (reached.tail step.1)).lastSessions]
      rcases verified_entry verified step.1 with same | ⟨i, kind, grown, why⟩
      · exact ⟨session', by rw [same, found], kept⟩
      · obtain ⟨session'', last, keeps⟩ := keepsValue_entry why (step.2 i kind grown) found
        exact ⟨session'', by rw [grown, last], kept.trans keeps⟩
  obtain ⟨session', found, keeps⟩ := kept
  obtain ⟨rav', held', le⟩ := keeps rav held
  exact ⟨session', rav', found, held', le⟩

/-- Two `SubmitRAV` calls for a session that was opened at 1. -/
def submitPool : Pool :=
  Sample.pool [Sample.start 1, Sample.submit (Sample.rav 5), Sample.submit (Sample.rav 7)]

def opened : Config Act ThreadId World Reply :=
  machine.play [Sample.whole 0] (boot Sample.gateway submitPool)

/-- The calls come one after the other. -/
def inTurn : Config Act ThreadId World Reply := machine.play [Sample.whole 1, Sample.whole 2] opened

theorem opened_reached : machine.Reach (boot Sample.gateway submitPool) opened :=
  Machine.play_reach _ _

theorem accepted_value_grows_in_turn : ∃ session rav session' rav',
    opened.shared.store.sessions.lookup "s" = some session ∧
    session.currentRAV = some rav ∧ ReachMeeting CommitsFresh opened inTurn ∧
    inTurn.shared.store.sessions.lookup "s" = some session' ∧ session'.currentRAV = some rav' ∧
    rav.message.valueAggregate ≤ rav'.message.valueAggregate := by
  have found : (ravOf opened.shared.store "s").isSome := by decide +kernel
  have fresh : Along CommitsFresh inTurn.shared.history := Along.of_entries (by decide +kernel)
  obtain ⟨rav, held⟩ := Option.isSome_iff_exists.mp found
  obtain ⟨session, present, current⟩ := Option.bind_eq_some_iff.mp held
  have run : ReachMeeting CommitsFresh opened inTurn :=
    verified_meeting ((boot_verified _ _).reach opened_reached) (Machine.play_reach _ _) fresh
  obtain ⟨session', rav', after⟩ :=
    accepted_value_grows Sample.gateway submitPool opened_reached run present current
  exact ⟨session, rav, session', rav', present, current, run, after⟩

/-- The first call has checked its RAV of 5 against the opening value; the second call is
accepted at 7 before the first commits. -/
def overtaken : Config Act ThreadId World Reply :=
  machine.play [Sample.steps 1 4, Sample.whole 2] opened

def overwritten : Config Act ThreadId World Reply := machine.play [Sample.whole 1] overtaken

/-- The stored value can go back: from 7 to 5. -/
theorem accepted_value_goes_back :
    ¬ ∀ (g : Gateway) (pool : Pool) (c c' : Config Act ThreadId World Reply) (id : String)
      (session : Session) (rav : SignedRAV), machine.Reach (boot g pool) c → machine.Reach c c' →
      c.shared.store.sessions.lookup id = some session → session.currentRAV = some rav →
      ∃ session' rav', c'.shared.store.sessions.lookup id = some session' ∧
        session'.currentRAV = some rav' ∧
        rav.message.valueAggregate ≤ rav'.message.valueAggregate := by
  intro grows
  have values : (ravOf overtaken.shared.store "s").map (·.message.valueAggregate) = some 7 ∧
      (ravOf overwritten.shared.store "s").map (·.message.valueAggregate) = some 5 := by
    decide +kernel
  obtain ⟨high, low⟩ := values
  obtain ⟨rav, held, seven⟩ := Option.map_eq_some_iff.mp high
  obtain ⟨session, present, current⟩ := Option.bind_eq_some_iff.mp held
  obtain ⟨session', rav', present', current', le⟩ :=
    grows Sample.gateway submitPool overtaken overwritten "s" session rav
      (opened_reached.trans (Machine.play_reach _ _)) (Machine.play_reach _ _) present current
  rw [ravOf_of_lookup present', current'] at low
  have five : rav'.message.valueAggregate = 5 := Option.some.inj low
  omega

end Sdsce.Guarantees
