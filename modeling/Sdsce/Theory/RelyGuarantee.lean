import Mathlib.Logic.Function.Basic
import Mathlib.Logic.Relation
import Sdsce.Theory.Program

/-!
# Rely/guarantee reasoning for interleaved programs

A discipline names a global invariant, when a thread may perform an action, and what a
thread may rely on while the others move. A program verified once against its discipline
performs only permitted actions in every interleaving, so a safety property of the whole
system becomes an induction over permitted actions.
-/
namespace Sdsce.Theory

variable {Act : Type → Type} {ι ε σ ρ : Type}

/-- What every thread promises and may count on. `may` is the guarantee, stated on the
action; `rely` is what remains known after steps of other threads. -/
structure Discipline (M : Machine Act ι ε σ) where
  inv : σ → Prop
  rely : ι → σ → σ → Prop
  may : ι → {β : Type} → Act β → σ → Prop
  rely_refl : ∀ i s, rely i s s
  rely_trans : ∀ {i s s' s''}, rely i s s' → rely i s' s'' → rely i s s''
  preserves : ∀ {i β s s' e} {a : Act β} {b : β}, inv s → may i a s →
    M.exec i a e s = some (s', b) → inv s'
  respects : ∀ {i j β s s' e} {a : Act β} {b : β}, j ≠ i → inv s → may i a s →
    M.exec i a e s = some (s', b) → rely j s s'

namespace Discipline

variable {M : Machine Act ι ε σ} (D : Discipline M) {α β S : Type} (i : ι)

/-- From `s` on, and whatever the other threads do, the program performs only permitted
actions and ends only in states that satisfy `Q`. -/
def Safe {α : Type} : Prog Act α → (α → σ → Prop) → σ → Prop
  | .ret a, Q, s => ∀ s₁, D.inv s₁ → D.rely i s s₁ → Q a s₁
  | .act a k, Q, s => ∀ s₁, D.inv s₁ → D.rely i s s₁ → D.may i a s₁ ∧
      ∀ e s' b, M.exec i a e s₁ = some (s', b) → Safe (k b) Q s'
  | .loop (β := β) (S := S) body start k, Q, s =>
    ∃ (Inv : S → σ → Prop) (Done : β → σ → Prop), (∀ s₁, D.inv s₁ → D.rely i s s₁ → Inv start s₁) ∧
      (∀ x s₁ s₂, D.inv s₁ → D.inv s₂ → D.rely i s₁ s₂ → Inv x s₁ → Inv x s₂) ∧
      (∀ x s₁, D.inv s₁ → Inv x s₁ → Safe (body x) (fun r => Sum.elim Inv Done r) s₁) ∧
      (∀ b s₁, D.inv s₁ → Done b s₁ → Safe (k b) Q s₁)

/-- An assertion that steps of other threads keep. -/
def Stable (P : σ → Prop) : Prop := ∀ s s', D.inv s → D.inv s' → D.rely i s s' → P s → P s'

/-- A stable assertion that the thread's own permitted actions keep as well. -/
structure Persistent (P : σ → Prop) : Prop where
  stable : D.Stable i P
  own : ∀ {β s s' e} {a : Act β} {b : β}, D.inv s → D.may i a s →
    M.exec i a e s = some (s', b) → P s → P s'

/-- Partial correctness under interference. -/
def Triple (P : σ → Prop) (p : Prog Act α) (Q : α → σ → Prop) : Prop :=
  ∀ s, D.inv s → P s → D.Safe i p Q s

variable {D i}

variable {p : Prog Act α} {Q Q' R Done : α → σ → Prop} {s : σ} {f : α → Prog Act β} {start : S}
  {k : β → Prog Act α} {P P' : σ → Prop}

/-- A program that is safe now is safe after steps of the others. -/
theorem Safe.later {s' : σ} (h : D.Safe i p Q s) (moved : D.rely i s s') : D.Safe i p Q s' := by
  cases p with
  | ret | act => exact fun s₁ inv₁ r => h s₁ inv₁ (D.rely_trans moved r)
  | loop body start k =>
    obtain ⟨Inv, Done, first, rest⟩ := h
    exact ⟨Inv, Done, fun s₁ inv₁ r => first s₁ inv₁ (D.rely_trans moved r), rest⟩

theorem Safe.mono (h : D.Safe i p Q s) (weaker : ∀ a s₁, D.inv s₁ → Q a s₁ → Q' a s₁) :
    D.Safe i p Q' s := by
  induction p generalizing s with
  | ret a => exact fun s₁ inv₁ r => weaker a s₁ inv₁ (h s₁ inv₁ r)
  | act a k ih =>
    intro s₁ inv₁ r
    obtain ⟨may, next⟩ := h s₁ inv₁ r
    exact ⟨may, fun e s' b ran => ih b (next e s' b ran) weaker⟩
  | loop body start k _ ihk =>
    obtain ⟨Inv, Done, first, keep, step, last⟩ := h
    exact ⟨Inv, Done, first, keep, step, fun b s₁ inv₁ done => ihk b (last b s₁ inv₁ done) weaker⟩

theorem Safe.bind {Q : β → σ → Prop} (invariant : D.inv s) (h : D.Safe i p R s)
    (next : ∀ a s₁, D.inv s₁ → R a s₁ → D.Safe i (f a) Q s₁) : D.Safe i (p.bind f) Q s := by
  induction p generalizing s with
  | ret a => exact next a s invariant (h s invariant (D.rely_refl i s))
  | act a k ih =>
    intro s₁ inv₁ r
    obtain ⟨may, rest⟩ := h s₁ inv₁ r
    exact ⟨may, fun e s' b ran =>
      ih b (D.preserves inv₁ may ran) (rest e s' b ran) next⟩
  | loop body start k _ ihk =>
    obtain ⟨Inv, Done, first, keep, step, last⟩ := h
    exact ⟨Inv, Done, first, keep, step, fun b s₁ inv₁ done =>
      ihk b inv₁ (last b s₁ inv₁ done) next⟩

/-- Persistent facts may be carried across any verified program. -/
theorem Safe.frame {F : σ → Prop} (persistent : D.Persistent i F) (invariant : D.inv s)
    (h : D.Safe i p Q s) (fact : F s) : D.Safe i p (fun a s₁ => Q a s₁ ∧ F s₁) s := by
  induction p generalizing s with
  | ret a =>
    exact fun s₁ inv₁ r => ⟨h s₁ inv₁ r, persistent.stable s s₁ invariant inv₁ r fact⟩
  | act a k ih =>
    intro s₁ inv₁ r
    obtain ⟨may, rest⟩ := h s₁ inv₁ r
    have fact₁ := persistent.stable s s₁ invariant inv₁ r fact
    exact ⟨may, fun e s' b ran => ih b (D.preserves inv₁ may ran)
      (rest e s' b ran) (persistent.own inv₁ may ran fact₁)⟩
  | loop body start k ihb ihk =>
    obtain ⟨Inv, Done, first, keep, step, last⟩ := h
    refine ⟨fun x s₁ => Inv x s₁ ∧ F s₁, fun b s₁ => Done b s₁ ∧ F s₁, ?_, ?_, ?_, ?_⟩
    · exact fun s₁ inv₁ r => ⟨first s₁ inv₁ r, persistent.stable s s₁ invariant inv₁ r fact⟩
    · exact fun x s₁ s₂ inv₁ inv₂ r here =>
        ⟨keep x s₁ s₂ inv₁ inv₂ r here.1, persistent.stable s₁ s₂ inv₁ inv₂ r here.2⟩
    · intro x s₁ inv₁ here
      refine (ihb x inv₁ (step x s₁ inv₁ here.1) here.2).mono ?_
      rintro (y | b) s₂ - post
      · exact post
      · exact post
    · exact fun b s₁ inv₁ done => ihk b inv₁ (last b s₁ inv₁ done.1) done.2

/-- Unfolding a loop keeps a verified program verified. -/
theorem Safe.unroll {body : S → Prog Act (S ⊕ β)} (invariant : D.inv s)
    (h : D.Safe i (.loop body start k) Q s) : D.Safe i (.unroll body start k) Q s := by
  obtain ⟨Inv, Done, first, keep, step, last⟩ := h
  refine (step start s invariant (first s invariant (D.rely_refl i s))).bind invariant ?_
  rintro (next | b) s₁ inv₁ here
  · exact ⟨Inv, Done, fun s₂ inv₂ r => keep next s₁ s₂ inv₁ inv₂ r here, keep, step, last⟩
  · exact last b s₁ inv₁ here

/-! ## Rules for triples -/

theorem Stable.and (h : D.Stable i P) (h' : D.Stable i P') : D.Stable i (fun s => P s ∧ P' s) :=
  fun s s' inv inv' r both => ⟨h s s' inv inv' r both.1, h' s s' inv inv' r both.2⟩

theorem Stable.const (P : Prop) : D.Stable i (fun _ => P) := fun _ _ _ _ _ h => h

theorem Triple.ret {a : α} (stable : D.Stable i P) (done : ∀ s, D.inv s → P s → Q a s) :
    D.Triple i P (.ret a) Q :=
  fun s inv here s₁ inv₁ r => done s₁ inv₁ (stable s s₁ inv inv₁ r here)

theorem Triple.act {a : Act β} {R : β → σ → Prop} (stable : D.Stable i P)
    (may : ∀ s, D.inv s → P s → D.may i a s)
    (effect : ∀ e s s' b, D.inv s → P s → M.exec i a e s = some (s', b) → R b s')
    (next : ∀ b, D.Triple i (R b) (k b) Q) : D.Triple i P (.act a k) Q := by
  intro s inv here s₁ inv₁ r
  have here₁ := stable s s₁ inv inv₁ r here
  refine ⟨may s₁ inv₁ here₁, fun e s' b ran => ?_⟩
  exact next b s' (D.preserves inv₁ (may s₁ inv₁ here₁) ran)
    (effect e s₁ s' b inv₁ here₁ ran)

theorem Triple.perform {a : Act α} (stable : D.Stable i P) (stop : ∀ b, D.Stable i (Q b))
    (may : ∀ s, D.inv s → P s → D.may i a s)
    (effect : ∀ e s s' b, D.inv s → P s → M.exec i a e s = some (s', b) → Q b s') :
    D.Triple i P (.perform a) Q :=
  .act stable may effect fun b => .ret (stop b) fun _ _ here => here

theorem Triple.bind {Q : β → σ → Prop} (first : D.Triple i P p R)
    (next : ∀ a, D.Triple i (R a) (f a) Q) : D.Triple i P (p.bind f) Q :=
  fun s inv here => (first s inv here).bind inv next

theorem Triple.conseq (h : D.Triple i P p Q) (stronger : ∀ s, D.inv s → P' s → P s)
    (weaker : ∀ a s, D.inv s → Q a s → Q' a s) : D.Triple i P' p Q' :=
  fun s inv here => (h s inv (stronger s inv here)).mono weaker

/-- A result that needs nothing of the state before. -/
theorem Triple.ret_of_post {a : α} (done : ∀ s, D.inv s → Q a s) : D.Triple i P (.ret a) Q :=
  (Triple.ret (Stable.const True) fun s inv _ => done s inv).conseq (fun _ _ _ => trivial)
    fun _ _ _ h => h

theorem Triple.exists_pre {X : Type} {P : X → σ → Prop} (h : ∀ x, D.Triple i (P x) p Q) :
    D.Triple i (fun s => ∃ x, P x s) p Q :=
  fun s inv ⟨x, here⟩ => h x s inv here

theorem Triple.assume {φ : Prop} (h : φ → D.Triple i P p Q) : D.Triple i (fun s => φ ∧ P s) p Q :=
  fun s inv here => h here.1 s inv here.2

theorem Triple.iterate {body : S → Prog Act (S ⊕ α)} {J : S → σ → Prop}
    (keep : ∀ x, D.Stable i (J x)) (stop : ∀ a, D.Stable i (Done a))
    (step : ∀ x, D.Triple i (J x) (body x) (fun r => Sum.elim J Done r)) :
    D.Triple i (J start) (.iterate body start) Done := by
  intro s inv here
  refine ⟨J, Done, fun s₁ inv₁ r => keep start s s₁ inv inv₁ r here, ?_, ?_, ?_⟩
  · exact fun x s₁ s₂ inv₁ inv₂ r now => keep x s₁ s₂ inv₁ inv₂ r now
  · exact fun x s₁ inv₁ now => step x s₁ inv₁ now
  · exact fun a s₁ inv₁ done s₂ inv₂ r => stop a s₁ s₂ inv₁ inv₂ r done

theorem Triple.retry {body : Prog Act (Option α)} (keep : D.Stable i P)
    (stop : ∀ a, D.Stable i (Done a))
    (step : D.Triple i P body (fun r s => r.elim (P s) (Done · s))) :
    D.Triple i P (.retry body) Done := by
  refine Triple.iterate (J := fun _ => P) (fun _ => keep) stop fun _ => step.bind ?_
  rintro (_ | a)
  · exact Triple.ret keep fun _ _ here => here
  · exact Triple.ret (stop a) fun _ _ here => here

/-- A program whose actions are permitted in every state. -/
theorem Triple.of_only {ok : {β : Type} → Act β → Prop}
    (may : ∀ (β : Type) (a : Act β) s, ok a → D.may i a s) (only : p.Only ok) :
    D.Triple i (fun _ => True) p (fun _ _ => True) := by
  intro s inv _
  induction p generalizing s with
  | ret a => exact fun _ _ _ => trivial
  | act a k ih =>
    exact fun s₁ inv₁ _ => ⟨may _ a s₁ only.1, fun e s' b ran =>
      ih b (only.2 b) s' (D.preserves inv₁ (may _ a s₁ only.1) ran)⟩
  | loop body start k ihb ihk =>
    refine ⟨fun _ _ => True, fun _ _ => True, fun _ _ _ => trivial, fun _ _ _ _ _ _ h => h,
      fun x s₁ inv₁ _ => (ihb x (only.1 x) s₁ inv₁).mono ?_,
      fun b s₁ inv₁ _ => ihk b (only.2 b) s₁ inv₁⟩
    rintro (_ | _) _ _ _ <;> trivial

/-- Where every action is permitted, a program need not be looked at. -/
theorem Triple.of_permissive (free : ∀ (β : Type) (a : Act β) s, D.may i a s)
    (p : Prog Act α) : D.Triple i (fun _ => True) p (fun _ _ => True) := by
  have all : p.Only fun _ => True := .of_forall (fun _ _ => trivial) p
  exact .of_only (fun β a s _ => free β a s) all

/-! ## Soundness -/

/-- A permitted step of the shared state. -/
def Allowed (D : Discipline M) (s s' : σ) : Prop :=
  ∃ (i : ι) (β : Type) (a : Act β) (e : ε) (b : β),
    D.inv s ∧ D.may i a s ∧ M.exec i a e s = some (s', b)

/-- Every thread is verified for its own postcondition. -/
structure Verified (D : Discipline M) (post : ι → ρ → σ → Prop) (c : Config Act ι σ ρ) :
    Prop where
  inv : D.inv c.shared
  threads : ∀ i, D.Safe i (c.threads i) (post i) c.shared

variable {post : ι → ρ → σ → Prop} {c c' : Config Act ι σ ρ}

/-- A thread that has returned has established its postcondition. -/
theorem Verified.returned {i : ι} {r : ρ} (h : D.Verified post c)
    (finished : c.threads i = .ret r) : post i r c.shared := by
  have safe := h.threads i
  rw [finished] at safe
  exact safe c.shared h.inv (D.rely_refl i c.shared)

variable [DecidableEq ι]

/-- A step of a verified configuration leads to one, and either leaves the shared state
alone or is a permitted action. -/
theorem Verified.step {i : ι} {e : ε} (h : D.Verified post c)
    (stepped : M.stepAt c i e = some c') :
    D.Verified post c' ∧ (c'.shared = c.shared ∨
      ∃ (β : Type) (a : Act β) (b : β), D.may i a c.shared ∧
        M.exec i a e c.shared = some (c'.shared, b)) := by
  rcases M.stepAt_cases stepped with
    ⟨β, a, k, shared, b, thread, ran, rfl⟩ | ⟨β, S, body, start, k, thread, rfl⟩
  · have safe := h.threads i
    rw [thread] at safe
    obtain ⟨may, next⟩ := safe c.shared h.inv (D.rely_refl i c.shared)
    refine ⟨⟨D.preserves h.inv may ran, fun j => ?_⟩, .inr ⟨β, a, b, may, ran⟩⟩
    by_cases same : j = i
    · subst same
      simpa only [Function.update_self] using next e shared b ran
    · simpa only [Function.update_of_ne same] using
        (h.threads j).later (D.respects same h.inv may ran)
  · refine ⟨⟨h.inv, fun j => ?_⟩, .inl rfl⟩
    by_cases same : j = i
    · subst same
      have safe := h.threads j
      rw [thread] at safe
      simpa only [Function.update_self] using safe.unroll h.inv
    · simpa only [Function.update_of_ne same] using h.threads j

theorem Verified.reach (h : D.Verified post c) (run : M.Reach c c') : D.Verified post c' := by
  induction run with
  | refl => exact h
  | tail _ last ih =>
    obtain ⟨i, e, stepped⟩ := last
    exact (ih.step stepped).1

/-- An assertion that permitted actions keep holds in every state that is reached. -/
theorem Verified.invariant (h : D.Verified post c) (run : M.Reach c c') {J : σ → Prop}
    (start : J c.shared) (keep : ∀ s s', D.Allowed s s' → J s → J s') : J c'.shared := by
  have both : D.Verified post c' ∧ J c'.shared := by
    induction run with
    | refl => exact ⟨h, start⟩
    | tail _ last ih =>
      obtain ⟨i, e, stepped⟩ := last
      obtain ⟨verified, same | ⟨β, a, b, may, ran⟩⟩ := ih.1.step stepped
      · exact ⟨verified, same ▸ ih.2⟩
      · exact ⟨verified, keep _ _ ⟨i, β, a, e, b, ih.1.inv, may, ran⟩ ih.2⟩
  exact both.2

-- programs are verified by the rules above; unfolding them makes elaboration slow
attribute [irreducible] Safe

end Discipline
end Sdsce.Theory
