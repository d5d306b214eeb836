import Sdsce.Theory.RelyGuarantee
import Sdsce.Theory.Trace

/-!
# Machines that keep a history

When every action makes at most one entry, and the entry depends on the action and on the
outside only, a machine has a discipline for free: an action is permitted when its entry is
justified by the entries before it. Programs are then verified against assertions about the
history alone.
-/
namespace Sdsce.Theory

variable {Act : Type → Type} {ι ε σ K ρ : Type}

/-- The history of a machine and the entry of each action. -/
structure Recording (M : Machine Act ι ε σ) (K : Type) where
  history : σ → List (Entry ι K)
  entry : {β : Type} → Act β → ε → Option K
  exec_history : ∀ {i β e s s'} {a : Act β} {b : β}, M.exec i a e s = some (s', b) →
    history s' = history s ++ ((entry a e).map (Entry.mk i)).toList

namespace Recording

variable {M : Machine Act ι ε σ} (R : Recording M K) (J : ι → List (Entry ι K) → K → Prop)

theorem exec_silent {i : ι} {β : Type} {a : Act β} {e : ε} {s s' : σ} {b : β}
    (ran : M.exec i a e s = some (s', b)) (silent : R.entry a e = none) :
    R.history s' = R.history s := by
  rw [R.exec_history ran, silent]
  exact List.append_nil _

theorem exec_entry {i : ι} {β : Type} {a : Act β} {e : ε} {s s' : σ} {b : β} {kind : K}
    (ran : M.exec i a e s = some (s', b)) (makes : R.entry a e = some kind) :
    R.history s' = R.history s ++ [⟨i, kind⟩] := by
  rw [R.exec_history ran, makes]
  rfl

variable [DecidableEq ι]

def discipline : Discipline M where
  inv s := Along J (R.history s)
  rely i s s' := GrowsFor i (R.history s) (R.history s')
  may i _ a s := ∀ e kind, R.entry a e = some kind → J i (R.history s) kind
  rely_refl i s := GrowsFor.refl i (R.history s)
  rely_trans := GrowsFor.trans
  preserves := by
    intro i β s s' e a b along allowed ran
    cases makes : R.entry a e with
    | none => exact R.exec_silent ran makes ▸ along
    | some kind => exact R.exec_entry ran makes ▸ along.append (allowed e kind makes)
  respects := by
    intro i j β s s' e a b different _ _ ran
    cases makes : R.entry a e with
    | none => exact R.exec_silent ran makes ▸ GrowsFor.refl j (R.history s)
    | some kind => exact R.exec_entry ran makes ▸ growsFor_append different (R.history s) kind

/-- An assertion about the history that entries of other threads keep. -/
def Lasts (i : ι) (P : List (Entry ι K) → Prop) : Prop := ∀ h h', GrowsFor i h h' → P h → P h'

variable {R J} {i : ι} {β : Type} {a : Act β} {P : List (Entry ι K) → Prop}

theorem Lasts.stable (lasts : Lasts i P) : (R.discipline J).Stable i fun s => P (R.history s) :=
  fun _ _ _ _ grows here => lasts _ _ grows here

/-- An action without an entry. -/
theorem silent (lasts : Lasts i P) (quiet : ∀ e, R.entry a e = none) :
    (R.discipline J).Triple i (fun s => P (R.history s)) (.perform a)
      fun _ s => P (R.history s) := by
  refine Discipline.Triple.perform lasts.stable (fun _ => lasts.stable) ?_ ?_
  · intro s _ _ e kind makes
    rw [quiet e] at makes
    cases makes
  · intro e s s' b _ here ran
    rw [R.exec_silent ran (quiet e)]
    exact here

/-- An action that always makes the same entry. -/
theorem records {kind : K} {Q : List (Entry ι K) → Prop} (lasts : Lasts i P)
    (lasts' : Lasts i Q) (makes : ∀ e, R.entry a e = some kind)
    (why : ∀ h, P h → J i h kind) (next : ∀ h, P h → Q (h ++ [⟨i, kind⟩])) :
    (R.discipline J).Triple i (fun s => P (R.history s)) (.perform a)
      fun _ s => Q (R.history s) := by
  refine Discipline.Triple.perform lasts.stable (fun _ => lasts'.stable) ?_ ?_
  · intro s _ here e kind' made
    cases (makes e).symm.trans made
    exact why _ here
  · intro e s s' b _ here ran
    rw [R.exec_entry ran (makes e)]
    exact next _ here

end Recording

end Sdsce.Theory
