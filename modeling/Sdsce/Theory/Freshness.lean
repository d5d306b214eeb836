import Sdsce.Theory.Knowledge
import Sdsce.Theory.Trace

/-!
# Answers that are kept for a while

Threads ask the outside and keep the answers in a cache, each with a time until which it is good.
On a clock that does not go back, an answer that is taken from the cache was put there less than a
lifetime ago, by a thread that had asked the same question, however the threads overtake and
overwrite one another.
-/
namespace Sdsce.Theory

variable {Act : Type → Type} {ι ε σ Q K A E F : Type}

/-- What is seen of a lookup: a reading of the clock, an answer of the outside, a new entry. -/
inductive Lookup (Q K A : Type) where
  | clock
  | answered (question : Q) (answer : A)
  | stored (key : K) (answer : A) (expires : Int)

/-- A machine with a cache, and the time at which an action happens. -/
structure Caching (M : Machine Act ι ε σ) (Q K A : Type) where
  key : Q → K
  key_injective : Function.Injective key
  lifetime : Int
  time : ε → Int
  cache : σ → K → Option (A × Int)
  shows : {β : Type} → Act β → ε → Option (Lookup Q K A)
  exec_cache : ∀ {i β s s' e k} {entry : A × Int} {a : Act β} {b : β},
    M.exec i a e s = some (s', b) → cache s' k = some entry →
      cache s k = some entry ∨ shows a e = some (.stored k entry.1 entry.2)

/-- A state with the time of the last action and the history of the lookups. -/
structure Timed (ι σ Q K A : Type) where
  state : σ
  clock : Int
  log : List (Entry ι (Int × Lookup Q K A)) := []

namespace Caching

variable {M : Machine Act ι ε σ} (C : Caching M Q K A)

/-- The machine on a clock that does not go back. -/
def timed : Machine Act ι ε (Timed ι σ Q K A) where
  exec i _ a e s :=
    if s.clock ≤ C.time e then
      (M.exec i a e s.state).map fun (state, b) => (⟨state, C.time e,
        s.log ++ ((C.shows a e).map fun shown => ⟨i, C.time e, shown⟩).toList⟩, b)
    else none

/-- The answer was put into the cache at that time, by a thread that had received it. -/
def Recorded (question : Q) (answer : A) (time : Int)
    (log : List (Entry ι (Int × Lookup Q K A))) : Prop :=
  ∃ before j asked expires,
    before ++ [⟨j, time, .stored (C.key question) answer expires⟩] <+: log ∧
      ⟨j, asked, .answered question answer⟩ ∈ before

/-- The answer is the thread's own, or it was recorded less than a lifetime before a time that the
thread has read from the clock. -/
def Fresh (i : ι) (question : Q) (answer : A) (log : List (Entry ι (Int × Lookup Q K A))) : Prop :=
  (∃ asked, ⟨i, asked, .answered question answer⟩ ∈ log) ∨
    ∃ now time, ⟨i, now, .clock⟩ ∈ log ∧ now - time < C.lifetime ∧
      C.Recorded question answer time log

/-- A new entry is an answer of the thread, for a lifetime at most. -/
def Justified (i : ι) (before : List (Entry ι (Int × Lookup Q K A))) :
    Int × Lookup Q K A → Prop
  | (time, .stored key answer expires) => expires ≤ time + C.lifetime ∧
      ∃ question asked, C.key question = key ∧ ⟨i, asked, .answered question answer⟩ ∈ before
  | _ => True

variable {C} {i : ι} {s s' : Timed ι σ Q K A} {β : Type} {a : Act β} {e : ε} {b : β}

theorem exec_timed (ran : C.timed.exec i a e s = some (s', b)) :
    M.exec i a e s.state = some (s'.state, b) ∧ s.clock ≤ C.time e ∧ s'.clock = C.time e ∧
      s'.log = s.log ++ ((C.shows a e).map fun shown => ⟨i, C.time e, shown⟩).toList := by
  simp only [timed] at ran
  split at ran
  · next forward =>
      obtain ⟨⟨state, b'⟩, done, same⟩ := Option.map_eq_some_iff.mp ran
      cases same
      exact ⟨done, forward, rfl, rfl⟩
  · cases ran

theorem exec_shows (ran : C.timed.exec i a e s = some (s', b)) {shown : Lookup Q K A}
    (shows' : C.shows a e = some shown) : ⟨i, s'.clock, shown⟩ ∈ s'.log := by
  obtain ⟨_, _, now, log⟩ := exec_timed ran
  rw [log, shows', now]
  exact List.mem_append_right s.log (List.mem_singleton_self _)

variable (C)

/-- Threads store what they were answered, and the cache holds nothing else. -/
def discipline : Discipline C.timed where
  inv s := Along C.Justified s.log ∧ ∀ k entry, C.cache s.state k = some entry →
    ∃ j time, ⟨j, time, .stored k entry.1 entry.2⟩ ∈ s.log
  rely _ s s' := s.log <+: s'.log ∧ s.clock ≤ s'.clock
  may i _ a s := ∀ e shown, s.clock ≤ C.time e → C.shows a e = some shown →
    C.Justified i s.log (C.time e, shown)
  rely_refl _ s := ⟨List.prefix_refl _, Int.le_refl _⟩
  rely_trans first second := ⟨first.1.trans second.1, Int.le_trans first.2 second.2⟩
  preserves := by
    intro i β s s' e a b ⟨along, filed⟩ may ran
    obtain ⟨done, forward, _, log⟩ := exec_timed ran
    refine ⟨?_, fun k entry found => ?_⟩
    · rw [log]
      cases shown : C.shows a e with
      | none => exact (List.append_nil s.log).symm ▸ along
      | some shown' => exact along.append (may e shown' forward shown)
    · rcases C.exec_cache done found with old | new
      · obtain ⟨j, time, stored⟩ := filed k entry old
        exact ⟨j, time, log ▸ List.mem_append_left _ stored⟩
      · exact ⟨i, _, exec_shows ran new⟩
  respects := by
    intro i j β s s' e a b _ _ _ ran
    obtain ⟨_, forward, now, log⟩ := exec_timed ran
    exact ⟨log ▸ List.prefix_append _ _, now ▸ forward⟩

variable {C}

theorem exec_grows (ran : C.timed.exec i a e s = some (s', b)) :
    s.log <+: s'.log ∧ s.clock ≤ s'.clock := by
  obtain ⟨_, forward, now, log⟩ := exec_timed ran
  exact ⟨log ▸ List.prefix_append _ _, now ▸ forward⟩

/-- What a thread may keep in mind. -/
def fact (C : Caching M Q K A) (i : ι) (P : List (Entry ι (Int × Lookup Q K A)) → Int → Prop)
    (mono : ∀ {log log' clock clock'}, log <+: log' → clock ≤ clock' → P log clock →
      P log' clock') : C.discipline.Knowledge i where
  holds s := P s.log s.clock
  persistent := ⟨fun _ _ _ _ grows here => mono grows.1 grows.2 here,
    fun _ _ ran here => mono (exec_grows ran).1 (exec_grows ran).2 here⟩

variable {question : Q} {answer : A} {log log' : List (Entry ι (Int × Lookup Q K A))}

theorem Recorded.mono {time : Int} (grows : log <+: log')
    (recorded : C.Recorded question answer time log) : C.Recorded question answer time log' := by
  obtain ⟨before, j, asked, expires, upTo, had⟩ := recorded
  exact ⟨before, j, asked, expires, upTo.trans grows, had⟩

theorem Fresh.mono (grows : log <+: log') (fresh : C.Fresh i question answer log) :
    C.Fresh i question answer log' := by
  rcases fresh with ⟨asked, own⟩ | ⟨now, time, read, recent, recorded⟩
  · exact .inl ⟨asked, grows.subset own⟩
  · exact .inr ⟨now, time, grows.subset read, recent, recorded.mono grows⟩

/-- What the cache holds for a question was answered to it. -/
theorem recorded_of_cache (inv : C.discipline.inv s) {entry : A × Int}
    (found : C.cache s.state (C.key question) = some entry) :
    ∃ time, C.Recorded question entry.1 time s.log ∧ entry.2 ≤ time + C.lifetime := by
  obtain ⟨j, time, stored⟩ := inv.2 _ entry found
  obtain ⟨before, upTo, bounded, question', asked, same, had⟩ := inv.1.of_mem stored
  obtain rfl := C.key_injective same
  exact ⟨time, ⟨before, j, asked, entry.2, upTo, had⟩, bounded⟩

end Caching

/-! ## Lookups -/

/-- The actions of a lookup on a machine with a cache. `E` are the entries as the program sees
them, and `F` the failures of the outside. -/
structure Lookups {M : Machine Act ι ε σ} (C : Caching M Q K A) (E F : Type) where
  view : E → A × Int
  now : Act Int
  get : Q → Act (Option E)
  ask : Q → Act (Except F A)
  set : Q → A → Int → Act Unit
  now_shows : ∀ e, C.shows now e = some .clock
  exec_now : ∀ {i e s s' b}, M.exec i now e s = some (s', b) → b = C.time e
  get_shows : ∀ q e, C.shows (get q) e = none
  exec_get : ∀ {i q e s s' b}, M.exec i (get q) e s = some (s', b) →
    b.map view = C.cache s' (C.key q)
  ask_shows : ∀ q e shown, C.shows (ask q) e = some shown → ∃ a, shown = .answered q a
  exec_ask : ∀ {i q e s s' a}, M.exec i (ask q) e s = some (s', .ok a) →
    C.shows (ask q) e = some (.answered q a)
  set_shows : ∀ q a expires e, C.shows (set q a expires) e = some (.stored (C.key q) a expires)

namespace Lookups

variable {M : Machine Act ι ε σ} {C : Caching M Q K A} (L : Lookups C E F)

/-- The outside is asked when there is no good entry. `expiry` is the time until which a new entry
is good, given the time at which the lookup began. -/
def resume (question : Q) (expiry : Int → Prog Act Int) (now : Int) :
    Option E → Prog Act (Except F A)
  | some entry => .ret (.ok (L.view entry).1)
  | none => (Prog.perform (L.ask question)).bind fun
    | .error err => .ret (.error err)
    | .ok answer => (expiry now).bind fun expires =>
      (Prog.perform (L.set question answer expires)).bind fun _ => .ret (.ok answer)

def lookUp (question : Q) (expiry : Int → Prog Act Int) : Prog Act (Except F A) :=
  (Prog.perform L.now).bind fun now => (Prog.perform (L.get question)).bind fun cached =>
    L.resume question expiry now (cached.filter fun entry => now < (L.view entry).2)

variable {L} {i : ι} {question : Q}

/-- The thread has read the clock. -/
def hasRead (C : Caching M Q K A) (i : ι) (now : Int) : C.discipline.Knowledge i :=
  C.fact i (fun log clock => ⟨i, now, .clock⟩ ∈ log ∧ now ≤ clock) fun grows later here =>
    ⟨grows.subset here.1, Int.le_trans here.2 later⟩

/-- An entry that is stored from now on may be good until then. -/
def soon (C : Caching M Q K A) (i : ι) (expires : Int) : C.discipline.Knowledge i :=
  C.fact i (fun _ clock => expires ≤ clock + C.lifetime) fun _ later here => by omega

def answers (C : Caching M Q K A) (i : ι) (question : Q) (r : Except F A) :
    C.discipline.Knowledge i :=
  C.fact i (fun log _ => ∀ answer, r = .ok answer →
      ∃ asked, ⟨i, asked, .answered question answer⟩ ∈ log) fun grows _ here answer given =>
    (here answer given).elim fun asked own => ⟨asked, grows.subset own⟩

/-- The result of a lookup. -/
def fresh (C : Caching M Q K A) (i : ι) (question : Q) (r : Except F A) :
    C.discipline.Knowledge i :=
  C.fact i (fun log _ => ∀ answer, r = .ok answer → C.Fresh i question answer log)
    fun grows _ here answer given => (here answer given).mono grows

theorem now_task : C.discipline.Task (.none _ i) (.perform L.now) (hasRead C i) := by
  refine .perform (fun s _ _ e shown _ shows' => ?_) fun e s s' now _ _ ran => ?_
  · cases (L.now_shows e).symm.trans shows'
    trivial
  · obtain ⟨done, _, clock, _⟩ := Caching.exec_timed ran
    obtain rfl : now = s'.clock := (L.exec_now done).trans clock.symm
    exact ⟨Caching.exec_shows ran (L.now_shows e), Int.le_refl _⟩

theorem get_task : C.discipline.Task (.none _ i) (.perform (L.get question)) fun cached =>
    C.fact i (fun log _ => ∀ entry ∈ cached, ∃ time, C.Recorded question (L.view entry).1 time log ∧
      (L.view entry).2 ≤ time + C.lifetime) fun grows _ here entry held =>
        (here entry held).imp fun _ kept => ⟨kept.1.mono grows, kept.2⟩ := by
  have silent (s : Timed ι σ Q K A) : C.discipline.may i (L.get question) s := by
    intro e shown _ shows'
    cases (L.get_shows question e).symm.trans shows'
  refine .perform (fun s _ _ => silent s) fun e s s' cached inv _ ran entry held => ?_
  obtain ⟨done, _, _, _⟩ := Caching.exec_timed ran
  have inv' := C.discipline.preserves inv (silent s) ran
  refine Caching.recorded_of_cache inv' ((L.exec_get done).symm.trans ?_)
  rw [held, Option.map_some]

theorem ask_task : C.discipline.Task (.none _ i) (.perform (L.ask question))
    (answers C i question) := by
  refine .perform (fun s _ _ e shown _ shows' => ?_) fun e s s' r _ _ ran answer given => ?_
  · obtain ⟨answer, rfl⟩ := L.ask_shows question e shown shows'
    trivial
  · subst given
    exact ⟨_, Caching.exec_shows ran (L.exec_ask (Caching.exec_timed ran).1)⟩

theorem set_task {answer : A} {expires : Int} :
    C.discipline.Task ((answers C i question (.ok answer : Except F A)).and (soon C i expires))
      (.perform (L.set question answer expires)) fun _ => .none _ i := by
  refine .perform (fun s _ known e shown forward shows' => ?_) fun _ _ _ _ _ _ _ => trivial
  cases (L.set_shows question answer expires e).symm.trans shows'
  obtain ⟨asked, own⟩ := known.1 answer rfl
  have bound : expires ≤ s.clock + C.lifetime := known.2
  exact ⟨by omega, question, asked, rfl, own⟩

/-- What a lookup returns is fresh when it lets no entry live longer than a lifetime. -/
theorem lookUp_task {expiry : Int → Prog Act Int}
    (bounded : ∀ now, C.discipline.Task (hasRead C i now) (expiry now) (soon C i)) :
    C.discipline.Task (.none _ i) (L.lookUp question expiry) (fresh C i question) := by
  refine .bind now_task fun now => .bind (get_task.pre fun _ _ _ => trivial) fun cached => ?_
  cases good : cached.filter fun entry => decide (now < (L.view entry).2) with
  | some entry =>
    refine .ret fun s _ known answer given => ?_
    cases given
    obtain ⟨held, before⟩ := Option.filter_eq_some_iff.mp good
    obtain ⟨time, recorded, bound⟩ := known.2 entry held
    have before : now < (L.view entry).2 := of_decide_eq_true before
    exact .inr ⟨now, time, known.1.2.1, by omega, recorded⟩
  | none =>
    refine .bind (ask_task.pre fun _ _ _ => trivial) fun r => ?_
    cases r with
    | error err =>
      refine .ret fun s _ _ answer given => ?_
      cases given
    | ok answer =>
      refine .bind ((bounded now).pre fun _ _ known => known.1.1.2) fun expires => ?_
      refine .bind (set_task.pre fun _ _ known => ⟨known.1.2, known.2⟩) fun _ => ?_
      refine .ret fun s _ known answer' given => ?_
      cases given
      exact .inl (known.1.1.2 answer rfl)

end Lookups

end Sdsce.Theory
