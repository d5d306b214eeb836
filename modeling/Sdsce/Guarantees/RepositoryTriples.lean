import Sdsce.Guarantees.Discipline

/-!
# The repository methods keep the discipline

Each method of the in-memory repository is verified once, for every policy, under
interference. A thread inside `collectionMu` knows the records and every session's RAV
(`Holding`); everything else it knows is about the history and only grows.
-/
namespace Sdsce.Guarantees

open Sdsce.Theory Sdsce.Source Sdsce.Source.InMemory Sdsce.Theory.Discipline Function

/-- The thread is inside `collectionMu`. -/
structure Holding (i : ThreadId) (records : Records) (rav : String → Option SignedRAV)
    (w : World) : Prop where
  locked : w.store.collectionMu = some i
  records : w.store.records = records
  rav : ∀ id, ravOf w.store id = rav id

/-- A statement about the history that entries of other threads keep. -/
def Lasting (i : ThreadId) (A : History → Prop) : Prop := ∀ h h', GrowsFor i h h' → A h → A h'

variable {P : Policy} {i : ThreadId} {α : Type}

theorem holding_stable (records : Records) (rav : String → Option SignedRAV) :
    (discipline P).Stable i (Holding i records rav) := by
  intro w w' _ _ r held
  obtain ⟨locked, sameRecords, sameRav⟩ := r.locked held.locked
  exact ⟨locked, sameRecords.trans held.records, fun id => (sameRav id).trans (held.rav id)⟩

variable {A B X : History → Prop} {sessionID : String} {update : Time → SessionUpdate}
  {records : Records} {held : String → Option SignedRAV} {rav : SignedRAV} {next : CollectionRecord}

theorem Lasting.stable (lasting : Lasting i A) : (discipline P).Stable i (fun w => A w.history) :=
  fun _ _ _ _ r => lasting _ _ r.grows

theorem Lasting.and (a : Lasting i A) (b : Lasting i B) : Lasting i (fun h => A h ∧ B h) :=
  fun h h' grows both => ⟨a h h' grows both.1, b h h' grows both.2⟩

theorem Lasting.own (entries : History) : Lasting i (fun h => own i h = entries) :=
  fun _ _ grows same => grows.same.trans same

theorem Lasting.of_grown (mono : ∀ h h', h <+: h' → A h → A h') : Lasting i A :=
  fun h h' grows => mono h h' grows.pre

/-- An action that changes nothing teaches what it returns. -/
theorem read_triple {a : Act α} {A : World → Prop} {G : α → World → Prop}
    (stable : (discipline P).Stable i A) (learned : ∀ b, (discipline P).Stable i (G b))
    (allowed : ∀ w, may P i a w)
    (read : ∀ e w w' b, machine.exec i a e w = some (w', b) → w' = w)
    (learn : ∀ e w b, Sound P w → A w → machine.exec i a e w = some (w, b) → G b w) :
    (discipline P).Triple i A (.perform a) (fun b w => A w ∧ G b w) := by
  refine .perform stable (fun b => stable.and (learned b))
    (fun w _ _ => allowed w) fun e w w' b sound here ran => ?_
  obtain rfl := read e w w' b ran
  exact ⟨here, learn e w' b sound here ran⟩

theorem now_triple {A : World → Prop} (stable : (discipline P).Stable i A) :
    (discipline P).Triple i A (outside .now) (fun _ => A) := by
  refine .perform stable (fun _ => stable) (fun _ _ _ => trivial)
    fun e w w' b _ here ran => ?_
  cases ran
  exact here

/-- The outcome of a compare-and-swap loop. -/
def SwapOutcome (sessionID : String) (absent unchanged changed : World → Prop) :
    Except RepoError Unit → World → Prop
  | .ok (), w => changed w
  | .error err, w => err = .sessionNotFound sessionID ∧ absent w ∧ unchanged w

/-- A compare-and-swap loop ends with one permitted swap, or finds no session. -/
theorem swapSession_triple {A B absent : World → Prop} (stable : (discipline P).Stable i A)
    (done : (discipline P).Stable i B) (gone : (discipline P).Stable i absent)
    (allowed : ∀ w session now, Sound P w → A w →
      mayStore P i w (.sessionsCompareAndSwap sessionID session (update now)))
    (missing : ∀ w, Sound P w → A w → w.store.sessions.lookup sessionID = none → absent w)
    (effect : ∀ w session now, Sound P w → A w → w.store.sessions.lookup sessionID = some session →
      B { w with
        store := { w.store with
          sessions := w.store.sessions.insert sessionID ((update now).apply session) }
        history := w.history ++ [⟨i, .swapped sessionID session (update now)⟩] }) :
    (discipline P).Triple i A (swapSession sessionID update)
      (SwapOutcome sessionID absent A B) := by
  have outcome (r : Except RepoError Unit) :
      (discipline P).Stable i (SwapOutcome sessionID absent A B r) := by
    cases r with
    | ok _ => exact done
    | error err => exact (Discipline.Stable.const _).and (gone.and stable)
  refine .retry stable outcome ?_
  have absence (found : Option Session) :
      (discipline P).Stable i (fun w => found = none → absent w) :=
    fun w w' sound sound' r here none => gone w w' sound sound' r (here none)
  refine .bind (R := fun found w => A w ∧ (found = none → absent w)) ?_ ?_
  · refine read_triple stable absence (fun _ => trivial) ?_ ?_
    · intro e w w' b ran
      cases ran
      rfl
    · intro e w b sound here ran none
      cases ran
      exact missing w sound here none
  · rintro (_ | session)
    · exact .ret (stable.and (absence none))
        fun w _ here => ⟨rfl, here.2 rfl, here.1⟩
    refine .bind (R := fun _ => A) ?_ fun now => ?_
    · exact (now_triple stable).conseq (fun _ _ here => here.1) fun _ _ _ here => here
    refine .bind (R := fun swapped w => if swapped then B w else A w) ?_ ?_
    · refine .perform stable ?_ (fun w sound here =>
        allowed w session now sound here) fun e w w' swapped sound here ran => ?_
      · rintro (_ | _)
        · exact stable
        · exact done
      simp only [machine, World.exec, Store.exec] at ran
      split at ran
      · cases ran
      rename_i store result kind found
      cases ran
      split at found
      · next present =>
          cases found
          exact effect w session now sound here present.1
      · cases found
        exact here
    · rintro (_ | _)
      · exact .ret stable fun _ _ here => here
      · exact .ret done fun _ _ here => here

/-! ## Inside `collectionMu` -/

theorem Holding.coupled {rav : String → Option SignedRAV} {w : World}
    (held : Holding i records rav w) (coupled : CoupledOn records rav) : Coupled w.store := by
  intro id r found
  rw [held.records]
  exact coupled id r ((held.rav id).symm.trans found)

/-- A thread that is about to release the mutex. -/
structure Releasable (i : ThreadId) (w : World) : Prop where
  locked : w.store.collectionMu = some i
  coupled : Coupled w.store

theorem releasable_stable : (discipline P).Stable i (Releasable i) := by
  intro w w' _ _ r here
  obtain ⟨locked, records, rav⟩ := r.locked here.locked
  exact ⟨locked, here.coupled.congr records rav⟩

theorem withCollectionMu_triple {C : α → History → Prop} {body : Program α}
    (before : Lasting i A) (after : ∀ r, Lasting i (C r))
    (inside : ∀ records rav, CoupledOn records rav → (discipline P).Triple i
      (fun w => Holding i records rav w ∧ A w.history) body
      (fun r w => Releasable i w ∧ C r w.history)) :
    (discipline P).Triple i (fun w => A w.history) (withCollectionMu body)
      (fun r w => C r w.history) := by
  refine .bind (R := fun _ w => ∃ records rav, CoupledOn records rav ∧
    Holding i records rav w ∧ A w.history) ?_ fun _ => ?_
  · refine .perform before.stable ?_ (fun _ _ _ => trivial) ?_
    · rintro _ w w' sound sound' r ⟨records, rav, coupled, here⟩
      exact ⟨records, rav, coupled,
        (holding_stable records rav).and before.stable w w' sound sound' r here⟩
    intro e w w' _ sound here ran
    simp only [machine, World.exec, Store.exec] at ran
    split at ran
    · cases ran
    rename_i found
    split at found
    · cases found
    rename_i free
    cases found
    cases ran
    exact ⟨w.store.records, ravOf w.store, sound.coupled free, ⟨rfl, rfl, fun _ => rfl⟩, here⟩
  · refine .exists_pre fun records => Triple.exists_pre fun rav => ?_
    refine .assume fun coupled => ?_
    refine .bind (inside records rav coupled) fun r => ?_
    refine .bind (R := fun _ w => C r w.history) ?_ fun _ => ?_
    · refine .perform (releasable_stable.and (after r).stable)
        (fun _ => (after r).stable) (fun w _ here => ⟨here.1.locked, here.1.coupled⟩) ?_
      intro e w w' _ _ here ran
      cases ran
      exact here.2
    · exact .ret (after r).stable fun _ _ here => here

/-- Accepting a RAV and storing its record keeps the stores coupled: no other session
settles under the same key. -/
theorem CoupledOn.accept (coupled : CoupledOn records held)
    (key : collectionMapKey next.key = ravKey sessionID rav)
    (value : next.valueAggregate = rav.message.valueAggregate) :
    CoupledOn (records.insert (collectionMapKey next.key) next)
      (Function.update held sessionID (some rav)) := by
  intro id r found
  by_cases same : id = sessionID
  · subst same
    rw [update_self] at found
    cases found
    exact ⟨next, by rw [key, AList.lookup_insert], value⟩
  · rw [update_of_ne same] at found
    obtain ⟨record, present, equal⟩ := coupled id r found
    refine ⟨record, ?_, equal⟩
    rw [AList.lookup_insert_ne, present]
    rw [key]
    intro clash
    exact same (congrArg CollectionKey.sessionID (collectionMapKey_injective clash))

/-- Replacing a record by one of the same value keeps the stores coupled. -/
theorem CoupledOn.mark (coupled : CoupledOn records held) {key : String}
    {current : CollectionRecord} (present : records.lookup key = some current)
    (value : next.valueAggregate = current.valueAggregate) :
    CoupledOn (records.insert key next) held := by
  intro id r found
  obtain ⟨record, recorded, equal⟩ := coupled id r found
  by_cases same : ravKey id r = key
  · rw [same] at recorded ⊢
    rw [present] at recorded
    cases recorded
    exact ⟨next, AList.lookup_insert _, value.trans equal⟩
  · exact ⟨record, by rw [AList.lookup_insert_ne same, recorded], equal⟩

/-- What `collectionNextCollectibleLocked` decides from the records. -/
def NextOutcome (sessionID : String) (rav : SignedRAV) (records : Records)
    (r : Except RepoError CollectionRecord) : Prop :=
  ∃ now, r = (newCollectionRecordFromRAV sessionID rav now).bind fun fresh =>
    nextCollectible fresh (records.lookup (collectionMapKey fresh.key))

theorem collectionNextCollectibleLocked_triple (lasting : Lasting i A) (sessionID : String)
    (rav : SignedRAV) :
    (discipline P).Triple i (fun w => Holding i records held w ∧ A w.history)
      (collectionNextCollectibleLocked sessionID rav)
      (fun r w => NextOutcome sessionID rav records r ∧ Holding i records held w ∧ A w.history)
    := by
  have stable := (holding_stable (P := P) (i := i) records held).and lasting.stable
  refine .bind (now_triple stable) fun now => ?_
  split
  · next err failed =>
      refine .ret stable fun _ _ here => ⟨⟨now, ?_⟩, here⟩
      rw [failed]
      rfl
  rename_i fresh made
  refine .bind (R := fun current w =>
    (Holding i records held w ∧ A w.history) ∧
      current = records.lookup (collectionMapKey fresh.key)) ?_ fun current => ?_
  · refine read_triple stable (fun _ => Discipline.Stable.const _) (fun _ => trivial) ?_ ?_
    · intro e w w' b ran
      cases ran
      rfl
    · intro e w b _ here ran
      cases ran
      rw [here.1.records]
  · refine .ret (stable.and (Discipline.Stable.const _))
      fun _ _ here => ⟨⟨now, ?_⟩, here.1⟩
    rw [made, here.2]
    rfl

theorem NextOutcome.ok (outcome : NextOutcome sessionID rav records (.ok next)) :
    ∃ now fresh, newCollectionRecordFromRAV sessionID rav now = .ok fresh ∧
      fresh.key = collectionKeyFromRAV sessionID rav.message ∧
      nextCollectible fresh (records.lookup (ravKey sessionID rav)) = .ok next ∧
      next.valueAggregate = rav.message.valueAggregate := by
  obtain ⟨now, decided⟩ := outcome
  cases made : newCollectionRecordFromRAV sessionID rav now with
  | error err =>
    rw [made] at decided
    cases decided
  | ok fresh =>
    rw [made] at decided
    have shape := newCollectionRecordFromRAV_ok made
    have next_eq : nextCollectible fresh (records.lookup (ravKey sessionID rav)) = .ok next := by
      rw [ravKey, ← shape.1]
      exact decided.symm
    refine ⟨now, fresh, made, shape.1, next_eq, ?_⟩
    rcases nextCollectible_ok next_eq with ⟨_, _, value⟩ | ⟨_, createdAt, rfl⟩
    · exact value.trans shape.2.1
    · exact shape.2.1

theorem NextOutcome.key (outcome : NextOutcome sessionID rav records (.ok next))
    (keyed : ∀ key record, records.lookup key = some record → collectionMapKey record.key = key) :
    collectionMapKey next.key = ravKey sessionID rav := by
  obtain ⟨_, fresh, _, shape, decided, _⟩ := outcome.ok
  rcases nextCollectible_ok decided with ⟨found, _⟩ | ⟨_, createdAt, rfl⟩
  · exact keyed _ _ found
  · rw [ravKey, ← shape]

theorem setRecord_triple {C : History → Prop} (before : Lasting i A) (after : Lasting i C)
    (coupled : CoupledOn records held) (outcome : NextOutcome sessionID rav records (.ok next))
    (noted : ∀ h, A h → C (h ++ [⟨i, .recordStored (collectionMapKey next.key) next⟩])) :
    (discipline P).Triple i
      (fun w => Holding i records (Function.update held sessionID (some rav)) w ∧ A w.history)
      (setRecord next) (fun _ w => Releasable i w ∧ C w.history) := by
  obtain ⟨now, fresh, made, shape, decided, value⟩ := outcome.ok
  have key {w : World} (sound : Sound P w)
      (here : Holding i records (Function.update held sessionID (some rav)) w) :
      collectionMapKey next.key = ravKey sessionID rav :=
    outcome.key fun k r found => sound.recordKeys k r (by rw [here.records, found])
  refine .perform ((holding_stable records _).and before.stable)
    (fun _ => releasable_stable.and after.stable) ?_ ?_
  · rintro w sound ⟨here, _⟩
    refine ⟨here.locked, .inl ⟨sessionID, rav, now, fresh, made, ?_, ?_, ?_⟩⟩
    · rw [key sound here, ravKey, shape]
    · rw [← Sound.lastRAVs sound, here.rav, update_self]
    · rw [← Sound.lastRecords sound, here.records, key sound here]
      exact decided
  · rintro e w w' _ sound ⟨here, known⟩ ran
    cases ran
    refine ⟨⟨here.locked, ?_⟩, noted _ known⟩
    have accepted := coupled.accept (key sound here) value
    intro id r found
    rw [here.records]
    exact accepted id r ((here.rav id).symm.trans found)

/-! ## The methods -/

/-- The settlement of another value is under way, or a larger one is done. -/
def Conflict (h : History) (sessionID : String) (rav : SignedRAV) : Prop :=
  ∃ record, lastRecord h (ravKey sessionID rav) = some record ∧
    ((record.state = .collectPending ∧ record.valueAggregate ≠ rav.message.valueAggregate) ∨
      (record.state = .collected ∧ rav.message.valueAggregate < record.valueAggregate))

/-- At some moment since `X` held, the commit of `rav` had to be refused. -/
def Refused (X : History → Prop) (sessionID : String) (rav : SignedRAV) (h : History) : Prop :=
  ∃ h', h' <+: h ∧ X h' ∧
    (sessionID = "" ∨ (∀ session, ¬ Stored h' sessionID session) ∨ Conflict h' sessionID rav)

theorem Refused.lasting (X : History → Prop) (sessionID : String) (rav : SignedRAV) :
    Lasting i (Refused X sessionID rav) :=
  fun _ _ grows ⟨h', before, rest⟩ => ⟨h', before.trans grows.pre, rest⟩

/-- The outcome of a method that writes one session. -/
def MethodOutcome (failed done : History → Prop) : Except RepoError Unit → History → Prop
  | .ok (), h => done h
  | .error _, h => failed h

theorem MethodOutcome.lasting {failed done : History → Prop} (f : Lasting i failed)
    (d : Lasting i done) (r : Except RepoError Unit) : Lasting i (MethodOutcome failed done r) := by
  cases r with
  | ok _ => exact d
  | error _ => exact f

theorem update_lasting (P : Policy) (i : ThreadId) (sessionID : String)
    (update : Time → SessionUpdate) :
    Lasting i (fun h => ∀ now, P.update i h sessionID (update now)) :=
  fun _ _ grows here now => P.update_mono grows (here now)

/-- The outcome of a method of which only the failures are looked at. -/
abbrev FailureOutcome (failed : History → Prop) : Except RepoError Unit → History → Prop :=
  MethodOutcome failed fun _ => True

theorem lasting_true : Lasting i (fun _ => True) := fun _ _ _ _ => trivial

theorem plainSwap_triple (lasting : Lasting i X) (plain : ∀ now, (update now).setsRAV = false) :
    (discipline P).Triple i
      (fun w => (∀ now, P.update i w.history sessionID (update now)) ∧ X w.history)
      (swapSession sessionID update) (fun r w => FailureOutcome X r w.history) := by
  have known := (update_lasting P i sessionID update).and lasting
  have always := Discipline.Stable.const (D := discipline P) (i := i) True
  refine (swapSession_triple known.stable always always ?_ (fun _ _ _ _ => trivial)
    fun _ _ _ _ _ _ => trivial).conseq (fun _ _ here => here) ?_
  · intro w session now _ here
    exact ⟨here.1 now, fun sets => by rw [plain now] at sets; cases sets⟩
  · rintro (err | _) w _ outcome
    · exact outcome.2.2.2
    · exact outcome

theorem sessionTouch_triple (lasting : Lasting i X) (sessionID : String) (lastKeepAlive : Time) :
    (discipline P).Triple i
      (fun w => (∀ _ : Time, P.update i w.history sessionID (.touch lastKeepAlive)) ∧ X w.history)
      (sessionTouch sessionID lastKeepAlive) (fun r w => FailureOutcome X r w.history) :=
  plainSwap_triple lasting fun _ => rfl

theorem sessionUpdateRuntimeState_triple (lasting : Lasting i X) (sessionID : String)
    (status : SessionStatus) (metadata : Metadata) (endedAt : Option Time) (endReason : EndReason)
    (updatedAt : Time) :
    (discipline P).Triple i
      (fun w => (∀ _ : Time, P.update i w.history sessionID
        (.runtimeState status metadata endedAt endReason updatedAt)) ∧ X w.history)
      (sessionUpdateRuntimeState sessionID status metadata endedAt endReason updatedAt)
      (fun r w => FailureOutcome X r w.history) :=
  plainSwap_triple lasting fun _ => rfl

theorem sessionApplyUsage_triple (lasting : Lasting i X) (sessionID : String) (usage : UsageEvent)
    (cost : Int) :
    (discipline P).Triple i
      (fun w => (∀ now, P.update i w.history sessionID
        (.applyUsage usage.sanitizedTotals.1 usage.sanitizedTotals.2.1 usage.sanitizedTotals.2.2
          cost now)) ∧ X w.history)
      (sessionApplyUsage sessionID usage cost) (fun r w => FailureOutcome X r w.history) := by
  have always := Discipline.Stable.const (D := discipline P) (i := i) True
  refine .bind (plainSwap_triple lasting fun _ => rfl) ?_
  rintro (err | _)
  · exact .ret lasting.stable fun _ _ here => here
  refine .bind (R := fun _ _ => True) ?_ fun _ => ?_
  · exact .perform always (fun _ => always) (fun _ _ _ => trivial)
      fun _ _ _ _ _ _ _ => trivial
  · exact .ret always fun _ _ _ => trivial

/-- The accounting commit: the RAV, its baseline and its record move together, or the
method fails without a write. `B` is what the swap is known by. -/
theorem sessionUpdateRAVAndBaseline_triple (lasting : Lasting i X) (sessionID : String)
    (rav : SignedRAV) (blocks bytes reqs : UInt64) (cost : Int)
    (grown : ∀ h h', h <+: h' → B h → B h')
    (swapped : ∀ h session now, X h → B (h ++ [⟨i, .swapped sessionID session
      (.ravAndBaseline (some rav) blocks bytes reqs cost now)⟩])) :
    (discipline P).Triple i
      (fun w => (∀ now, P.update i w.history sessionID
        (.ravAndBaseline (some rav) blocks bytes reqs cost now)) ∧ X w.history)
      (sessionUpdateRAVAndBaseline sessionID (some rav) blocks bytes reqs cost)
      (fun r w => MethodOutcome (fun h => X h ∧ Refused X sessionID rav h) B r w.history) := by
  have known := (update_lasting P i sessionID
    (.ravAndBaseline (some rav) blocks bytes reqs cost)).and lasting
  have refusal := lasting.and (Refused.lasting (i := i) X sessionID rav)
  have finished : Lasting i B := Lasting.of_grown grown
  refine withCollectionMu_triple known (MethodOutcome.lasting refusal finished)
    fun records held coupled => ?_
  have stable := (holding_stable (P := P) (i := i) records held).and known.stable
  have gone := (Refused.lasting (i := i) X sessionID rav).stable (P := P)
  have both := (holding_stable (P := P) (i := i) records
    (Function.update held sessionID (some rav))).and finished.stable
  refine .bind (collectionNextCollectibleLocked_triple known sessionID rav) ?_
  rintro (err | next)
  · refine .assume fun decided => Triple.ret stable ?_
    rintro w sound ⟨here, _, facts⟩
    refine ⟨⟨here.locked, here.coupled coupled⟩, facts, w.history, List.prefix_refl _, facts, ?_⟩
    obtain ⟨now, failed⟩ := decided
    cases made : newCollectionRecordFromRAV sessionID rav now with
    | error other => exact .inl (newCollectionRecordFromRAV_error made)
    | ok fresh =>
      rw [made] at failed
      have shape := newCollectionRecordFromRAV_ok made
      obtain ⟨record, found, conflict⟩ := nextCollectible_error failed.symm
      rw [shape.1] at found
      rw [shape.2.1] at conflict
      exact .inr (.inr ⟨record, by rw [← sound.lastRecords, here.records]; exact found, conflict⟩)
  · refine .assume fun decided => ?_
    refine .bind (swapSession_triple stable both gone ?_ ?_ ?_) ?_
    · exact fun w session now _ here => ⟨here.2.1 now, fun _ => here.1.locked⟩
    · intro w sound here missing
      refine ⟨w.history, List.prefix_refl _, here.2.2, .inr (.inl fun session once => ?_)⟩
      obtain ⟨last, found⟩ := once.lastSession
      rw [← sound.lastSessions, missing] at found
      cases found
    · intro w session now _ here present
      refine ⟨⟨here.1.locked, here.1.records, fun id => ?_⟩, swapped _ session now here.2.2⟩
      rw [ravOf_insert]
      by_cases same : id = sessionID
      · rw [if_pos same, same, update_self]
        rfl
      · rw [if_neg same, update_of_ne same, here.1.rav]
    · rintro (err | _)
      · refine Triple.ret (P := fun w => Refused X sessionID rav w.history ∧
          Holding i records held w ∧ X w.history) ?_ ?_ |>.conseq
            (fun _ _ here => ⟨here.2.1, here.2.2.1, here.2.2.2.2⟩) fun _ _ _ here => here
        · exact gone.and ((holding_stable _ _).and lasting.stable)
        · exact fun w _ here => ⟨⟨here.2.1.locked, here.2.1.coupled coupled⟩, here.2.2, here.1⟩
      · refine .bind (setRecord_triple finished finished coupled decided
          fun h here => grown _ _ (List.prefix_append _ _) here) fun _ => ?_
        exact .ret (releasable_stable.and finished.stable) fun _ _ here => here

theorem create_lasting (P : Policy) (i : ThreadId) (session : Session) :
    Lasting i (fun h => P.create i h session) :=
  fun _ _ grows here => P.create_mono grows here

/-- `sessions.GetOrSet`: a fresh ID is created, a taken one is left alone. -/
theorem getOrSet_triple {A B : World → Prop} {session : Session}
    (stable : (discipline P).Stable i A) (done : (discipline P).Stable i B)
    (allowed : ∀ w, Sound P w → A w → mayStore P i w (.sessionsGetOrSet session))
    (effect : ∀ w, Sound P w → A w → w.store.sessions.lookup session.id = none →
      B { w with
        store := { w.store with sessions := w.store.sessions.insert session.id session }
        history := w.history ++ [⟨i, .created session⟩] }) :
    (discipline P).Triple i A (store (.sessionsGetOrSet session))
      (fun loaded w => if loaded then A w else B w) := by
  refine .perform stable ?_ allowed fun e w w' loaded sound here ran => ?_
  · rintro (_ | _)
    · exact done
    · exact stable
  simp only [machine, World.exec, Store.exec] at ran
  split at ran
  · cases ran
  rename_i store result kind found
  cases ran
  split at found
  · cases found
    exact here
  · next absent =>
      cases found
      exact effect w sound here absent

theorem sessionCreate_triple (lasting : Lasting i X) (session : Session) :
    (discipline P).Triple i (fun w => P.create i w.history session ∧ X w.history)
      (sessionCreate session) (fun r w => FailureOutcome X r w.history) := by
  have known := (create_lasting P i session).and lasting
  have always := lasting_true (i := i)
  unfold sessionCreate
  split
  · exact .ret known.stable fun _ _ here => here.2
  split
  · next unsigned =>
      refine .bind (getOrSet_triple known.stable (always.stable (P := P)) ?_
        fun _ _ _ _ => trivial) ?_
      · exact fun w _ here => ⟨here.1, fun signed => absurd unsigned signed⟩
      · rintro (_ | _)
        · exact .ret always.stable fun _ _ _ => trivial
        · exact .ret known.stable fun _ _ here => here.2
  · next rav signed =>
      refine withCollectionMu_triple known (MethodOutcome.lasting lasting always)
        fun records held coupled => ?_
      have stable := (holding_stable (P := P) (i := i) records held).and known.stable
      have accepted := (holding_stable (P := P) (i := i) records
        (Function.update held session.id (some rav))).and (always.stable (P := P))
      refine .bind
        (collectionNextCollectibleLocked_triple known session.id rav) ?_
      rintro (err | next)
      · refine .assume fun _ => Triple.ret stable ?_
        exact fun w _ here => ⟨⟨here.1.locked, here.1.coupled coupled⟩, here.2.2⟩
      refine .assume fun decided => ?_
      refine .bind (getOrSet_triple stable accepted ?_ ?_) ?_
      · exact fun w _ here => ⟨here.2.1, fun _ => here.1.locked⟩
      · intro w _ here _
        refine ⟨⟨here.1.locked, here.1.records, fun id => ?_⟩, trivial⟩
        rw [ravOf_insert]
        by_cases same : id = session.id
        · rw [if_pos same, same, update_self, signed]
        · rw [if_neg same, update_of_ne same, here.1.rav]
      · rintro (_ | _)
        · refine .bind (setRecord_triple always always coupled decided
            fun _ _ => trivial) fun _ => ?_
          exact .ret (releasable_stable.and always.stable)
            fun _ _ here => here
        · exact .ret stable fun w _ here =>
            ⟨⟨here.1.locked, here.1.coupled coupled⟩, here.2.2⟩

/-- The outcome of an operator transition. -/
def MarkOutcome (X : History → Prop) : Except RepoError CollectionRecord → History → Prop
  | .ok _, _ => True
  | .error _, h => X h

theorem updateCollection_triple (lasting : Lasting i X) (key : CollectionKey) (expectedValue : Int)
    (mark : CollectionMark) (updatedAt : Time) :
    (discipline P).Triple i
      (fun w => P.mark w.history key expectedValue mark ∧ X w.history)
      (updateCollection key expectedValue mark updatedAt)
      (fun r w => MarkOutcome X r w.history) := by
  have known : Lasting i (fun h => P.mark h key expectedValue mark ∧ X h) :=
    Lasting.and (Lasting.of_grown fun _ _ grown here => P.mark_mono grown here) lasting
  have outcome (r : Except RepoError CollectionRecord) : Lasting i (MarkOutcome X r) := by
    cases r with
    | ok _ => exact lasting_true
    | error _ => exact lasting
  refine withCollectionMu_triple known outcome fun records held coupled => ?_
  have stable := (holding_stable (P := P) (i := i) records held).and known.stable
  have failed (err : RepoError) : (discipline P).Triple i
      (fun w => Holding i records held w ∧ P.mark w.history key expectedValue mark ∧ X w.history)
      (.ret (.error err)) (fun r w => Releasable i w ∧ MarkOutcome X r w.history) :=
    Triple.ret stable fun w _ here =>
      ⟨⟨here.1.locked, here.1.coupled coupled⟩, here.2.2⟩
  refine .bind (R := fun found w =>
    (Holding i records held w ∧ P.mark w.history key expectedValue mark ∧ X w.history) ∧
      found = records.lookup (collectionMapKey key)) ?_ fun found => ?_
  · refine read_triple stable (fun _ => Discipline.Stable.const _) (fun _ => trivial) ?_ ?_
    · intro e w w' b ran
      cases ran
      rfl
    · intro e w b _ here ran
      cases ran
      rw [here.1.records]
  · cases found with
    | none => exact (failed .notFound).conseq (fun _ _ here => here.1) fun _ _ _ here => here
    | some current =>
      refine .conseq (P := fun w => some current =
        records.lookup (collectionMapKey key) ∧ Holding i records held w ∧
        P.mark w.history key expectedValue mark ∧ X w.history) ?_
        (fun _ _ here => ⟨here.2, here.1⟩) fun _ _ _ here => here
      refine .assume fun present => ?_
      dsimp only
      split
      · exact failed .conflict
      rename_i expected
      refine .bind (now_triple stable) fun now => ?_
      split
      · next err _ => exact failed err
      rename_i next marked
      have shape := CollectionMark.apply_ok marked
      refine .bind (R := fun _ w => Releasable i w) ?_ fun _ => ?_
      · refine .perform stable (fun _ => releasable_stable) ?_ ?_
        · rintro w sound ⟨here, allowed, _⟩
          refine ⟨here.locked, .inr ⟨current, mark, _, ?_, marked, ?_⟩⟩
          · rw [← Sound.lastRecords sound, here.records, present]
          have named : current.key = key := collectionMapKey_injective
            (sound.recordKeys _ current (by rw [here.records, present]))
          rw [named, not_not.mp expected]
          exact allowed
        · rintro e w w' _ _ ⟨here, _⟩ ran
          cases ran
          refine ⟨here.locked, ?_⟩
          have kept := coupled.mark present.symm shape.2.1
          intro id r found
          rw [here.records]
          exact kept id r ((here.rav id).symm.trans found)
      · exact .ret releasable_stable fun _ _ here => ⟨here, trivial⟩

end Sdsce.Guarantees
