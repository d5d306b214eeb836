import Sdsce.Guarantees.CollectorTasks

/-!
# The life of one session

Induction over the entries of an accountable history that write one session, and what the
provider's policy says of them.
-/
namespace Sdsce.Guarantees

open Sdsce.Theory Sdsce.Source

/-- The session as `SessionCreate` stored it. -/
def firstSession (h : History) (id : String) : Option Session :=
  h.findSome? fun event =>
    match event.kind with
    | .created session => if session.id = id then some session else none
    | _ => none

variable {h : History} {id : String} {i : ThreadId} {P : Policy} {J : History → Session → Prop}

theorem firstSession_append {first : Session} (found : firstSession h id = some first)
    (event : Event) : firstSession (h ++ [event]) id = some first := by
  rw [firstSession, List.findSome?_append, ← firstSession, found]
  rfl

theorem firstSession_created {session : Session} (absent : lastSession h session.id = none) :
    firstSession (h ++ [⟨i, .created session⟩]) session.id = some session := by
  have fresh : firstSession h session.id = none := by
    refine List.findSome?_eq_none_iff.mpr fun ⟨j, kind⟩ member => ?_
    cases kind with
    | created earlier =>
      refine if_neg fun same => ?_
      obtain ⟨last, found⟩ :=
        Stored.lastSession ⟨_, member, congrArg (fun id => some (id, earlier)) same⟩
      rw [absent] at found
      cases found
    | _ => rfl
  rw [firstSession, List.findSome?_append, ← firstSession, fresh]
  exact (Option.none_or ..).trans (by simp)

theorem Stored.of_other {kind : EventKind} {session : Session}
    (other : ∀ session, kind.writes ≠ some (id, session))
    (stored : Stored (h ++ [⟨i, kind⟩]) id session) : Stored h id session :=
  stored.of_append.resolve_right (other session)

section

variable (created : ∀ {h i session}, lastSession h id = none → session.id = id →
  P.create i h session → J (h ++ [⟨i, .created session⟩]) session)

include created

/-- A property of the stored session holds throughout when its creation establishes it,
each of its updates keeps it, and no other entry disturbs it. -/
theorem along_session {cond : ThreadId → History → EventKind → Prop}

    (swapped : ∀ {h i old update}, lastSession h id = some old → J h old →
      P.update i h id update → cond i h (.swapped id old update) →
      J (h ++ [⟨i, .swapped id old update⟩]) (update.apply old))
    (other : ∀ {h i kind session}, (∀ written, kind.writes ≠ some (id, written)) → J h session →
      J (h ++ [⟨i, kind⟩]) session)
    (along : Along (fun i h kind => Justified P i h kind ∧ cond i h kind) h) {session : Session}
    (last : lastSession h id = some session) : J h session := by
  induction along generalizing session with
  | nil => cases last
  | @append h i kind before why ih =>
    by_cases here : ∃ written, kind.writes = some (id, written)
    · obtain ⟨written, writes⟩ := here
      cases (lastSession_written writes).symm.trans last
      cases kind with
      | created first =>
        cases writes
        exact created why.1.1 rfl why.1.2
      | swapped id' old update =>
        cases writes
        exact swapped why.1.1 (ih why.1.1) why.1.2 why.2
      | _ => cases writes
    · have elsewhere := not_exists.mp here
      exact other elsewhere (ih (lastSession_other elsewhere ▸ last))

theorem Accountable.session
    (swapped : ∀ {h i old update}, lastSession h id = some old → J h old →
      P.update i h id update → J (h ++ [⟨i, .swapped id old update⟩]) (update.apply old))
    (other : ∀ {h i kind session}, (∀ written, kind.writes ≠ some (id, written)) → J h session →
      J (h ++ [⟨i, kind⟩]) session) (accountable : Accountable P h) {session : Session}
    (last : lastSession h id = some session) : J h session :=
  along_session created (fun last held allowed _ => swapped last held allowed) other
    (accountable.imp fun _ _ _ why => (⟨why, trivial⟩ : _ ∧ True)) last

end

/-- A property of stored records holds throughout when it outlives other entries, an
acceptance that starts a fresh record establishes it and the operator's transitions keep it. -/
theorem Accountable.record {J : History → CollectionRecord → Prop}
    (mono : ∀ {h event record}, J h record → J (h ++ [event]) record)
    (fresh : ∀ {h id rav now record}, newCollectionRecordFromRAV id rav now = .ok record →
      lastRAV h id = some rav → ∀ createdAt, J h { record with createdAt })
    (marked : ∀ {h current mark updatedAt record}, J h current →
      CollectionMark.apply updatedAt current mark = .ok record →
      P.mark h current.key current.valueAggregate mark → J h record) (accountable : Accountable P h)
    {key : String} {record : CollectionRecord} (last : lastRecord h key = some record) :
    J h record := by
  induction accountable generalizing record with
  | nil => cases last
  | @append h i kind before why ih =>
    rw [lastRecord_append] at last
    split at last
    · next written =>
        split at last
        · next same =>
            cases last
            cases same
            refine mono ?_
            rcases why with ⟨id, rav, now, made, new, _, held, next⟩ |
              ⟨current, mark, updatedAt, found, applied, allowed⟩
            · rcases nextCollectible_ok next with ⟨kept, _⟩ | ⟨_, createdAt, rfl⟩
              · exact ih kept
              · exact fresh new held createdAt
            · exact marked (ih found) applied allowed
        · exact mono (ih last)
    · exact mono (ih last)

/-! ## Accepted RAVs -/

/-- The RAV that an entry reports as accepted. -/
def acceptedRAV : EventKind → Option SignedRAV
  | .created session => session.currentRAV
  | .swapped _ _ (.ravAndBaseline rav ..) => rav
  | _ => none

/-- The RAV of a session that was once stored has been accepted before. -/
theorem Accountable.accepted {session : Session} {rav : SignedRAV} (accountable : Accountable P h)
    (stored : Stored h id session) (held : session.currentRAV = some rav) :
    ∃ i kind, ⟨i, kind⟩ ∈ h ∧ acceptedRAV kind = some rav := by
  induction accountable generalizing session with
  | nil =>
    obtain ⟨_, member, _⟩ := stored
    cases member
  | @append h i kind before why ih =>
    have last : (⟨i, kind⟩ : Event) ∈ h ++ [⟨i, kind⟩] := by simp
    have earlier {session : Session} (stored : Stored h id session)
        (held : session.currentRAV = some rav) :
        ∃ j kind', ⟨j, kind'⟩ ∈ h ++ [⟨i, kind⟩] ∧ acceptedRAV kind' = some rav := by
      obtain ⟨j, kind', member, accepts⟩ := ih stored held
      exact ⟨j, kind', List.mem_append_left _ member, accepts⟩
    rcases stored.of_append with old | writes
    · exact earlier old held
    cases kind with
    | created first =>
      cases writes
      exact ⟨i, _, last, held⟩
    | swapped id' old update =>
      cases writes
      cases sets : update.setsRAV with
      | false =>
        exact earlier (lastSession_stored why.1)
          ((update.apply_currentRAV sets old).symm.trans held)
      | true =>
        cases update with
        | ravAndBaseline => exact ⟨i, _, last, held⟩
        | _ => cases sets
    | _ => cases writes

section Policy

variable {g : Gateway} {pool : Pool} {i : ThreadId} {h : History} {id : String}
  {u : SessionUpdate}

variable {rav : SignedRAV}

theorem checkInitialRAV_ok {payer dataService : Address}
    (passed : g.checkInitialRAV payer dataService rav = .ok ()) :
    rav.message.payer = payer ∧ rav.message.serviceProvider = g.serviceProvider ∧
      rav.message.dataService = dataService := by
  simp only [Gateway.checkInitialRAV, addressesEqual_eq] at passed
  split at passed
  · cases passed
  rename_i payer
  split at passed
  · cases passed
  rename_i provider
  split at passed
  · cases passed
  · next dataService =>
      exact ⟨not_not.mp payer, not_not.mp provider, not_not.mp dataService⟩

theorem mayUpdate_commits (allowed : mayUpdate g pool i h id u) (sets : u.setsRAV = true) :
    ∃ rav blocks bytes reqs cost now, u = .ravAndBaseline (some rav) blocks bytes reqs cost now ∧
      Commits g pool i h id rav blocks bytes reqs cost := by
  cases u with
  | ravAndBaseline rav blocks bytes reqs cost now =>
    cases rav with
    | none => cases allowed
    | some rav => exact ⟨rav, blocks, bytes, reqs, cost, now, rfl, allowed⟩
  | _ => cases sets

theorem mayUpdate_cost (allowed : mayUpdate g pool i h id u) : 0 ≤ u.cost := by
  cases u with
  | applyUsage =>
    have priced : _ = _ := allowed
    rw [SessionUpdate.cost, priced]
    exact GRT.bigInt_nonneg _
  | _ => exact Int.le_refl 0

/-- An accepted RAV was handed to a handler on the wire and names the provider. -/
theorem Accountable.vetted {kind : EventKind} (accountable : Accountable (providerPolicy g pool) h)
    (member : ⟨i, kind⟩ ∈ h) (accepts : acceptedRAV kind = some rav) :
    Submits pool i rav ∧ rav.message.serviceProvider = g.serviceProvider := by
  obtain ⟨before, _, why⟩ := accountable.of_mem member
  cases kind with
  | created session =>
    obtain ⟨_, id, payer, dataService, initialRAV, now, rfl, vetted⟩ := why
    obtain ⟨submits, passed⟩ := vetted rav accepts
    exact ⟨submits, (checkInitialRAV_ok passed).2.1⟩
  | swapped id old update =>
    cases update with
    | ravAndBaseline current =>
      cases accepts
      have commits : Commits .. := why.2
      exact ⟨commits.submits, commits.provider⟩
    | _ => cases accepts
  | _ => cases accepts

end Policy

end Sdsce.Guarantees
