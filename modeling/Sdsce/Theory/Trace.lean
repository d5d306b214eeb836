import Mathlib.Data.List.Induction
import Mathlib.Data.List.Infix

/-!
# Histories

A history variable records what threads have done, entry by entry.
-/
namespace Sdsce.Theory

/-- One entry of a history, with the thread that caused it. -/
structure Entry (ι K : Type) where
  thread : ι
  kind : K
deriving DecidableEq

variable {ι K : Type}

/-! ## What a thread has done itself -/

section Own

variable [DecidableEq ι]

/-- The entries of one thread. -/
def own (i : ι) (h : List (Entry ι K)) : List (Entry ι K) := h.filter (·.thread = i)

/-- The history has grown by entries of other threads. -/
structure GrowsFor (i : ι) (h h' : List (Entry ι K)) : Prop where
  pre : h <+: h'
  same : own i h' = own i h

theorem GrowsFor.refl (i : ι) (h : List (Entry ι K)) : GrowsFor i h h := ⟨List.prefix_refl h, rfl⟩

theorem GrowsFor.trans {i : ι} {h h' h'' : List (Entry ι K)} (a : GrowsFor i h h')
    (b : GrowsFor i h' h'') : GrowsFor i h h'' :=
  ⟨a.pre.trans b.pre, b.same.trans a.same⟩

theorem growsFor_append {i j : ι} (different : j ≠ i) (h : List (Entry ι K)) (kind : K) :
    GrowsFor j h (h ++ [⟨i, kind⟩]) :=
  ⟨List.prefix_append h _, by simp [own, Ne.symm different]⟩

theorem own_append_self (i : ι) (h : List (Entry ι K)) (kind : K) :
    own i (h ++ [⟨i, kind⟩]) = own i h ++ [⟨i, kind⟩] := by
  simp [own]

end Own

/-- A history of the first `n` threads, thread by thread. -/
theorem perm_own {h : List (Entry Nat K)} {n : Nat} (within : ∀ e ∈ h, e.thread < n) :
    h.Perm ((List.range n).flatMap fun i => own i h) := by
  have upTo (m : Nat) : (h.filter (·.thread < m)).Perm ((List.range m).flatMap (own · h)) := by
    induction m with
    | zero => simp
    | succ m ih =>
      have split := List.filter_append_perm (·.thread < m) (h.filter (·.thread < m + 1))
      simp only [List.filter_filter] at split
      have low : h.filter (fun e => decide (e.thread < m) && decide (e.thread < m + 1)) =
          h.filter (·.thread < m) :=
        List.filter_congr fun e _ => by
          rw [← Bool.decide_and]
          exact decide_eq_decide.mpr (by omega)
      have last : h.filter (fun e => !decide (e.thread < m) && decide (e.thread < m + 1)) =
          own m h :=
        List.filter_congr fun e _ => by
          rw [← decide_not, ← Bool.decide_and]
          exact decide_eq_decide.mpr (by omega)
      rw [low, last] at split
      rw [List.range_succ, List.flatMap_append, List.flatMap_singleton]
      exact split.symm.trans (ih.append_right _)
  have whole : h.filter (·.thread < n) = h :=
    List.filter_eq_self.mpr fun e member => decide_eq_true (within e member)
  have all := upTo n
  rw [whole] at all
  exact all

/-! ## Histories whose entries are justified -/

/-- Every entry of the history meets `J` together with what stood before it. -/
inductive Along (J : ι → List (Entry ι K) → K → Prop) : List (Entry ι K) → Prop where
  | nil : Along J []
  | append {h : List (Entry ι K)} {i : ι} {kind : K} (before : Along J h)
      (last : J i h kind) : Along J (h ++ [⟨i, kind⟩])

namespace Along

variable {J J' : ι → List (Entry ι K) → K → Prop} {h h' : List (Entry ι K)} {i : ι} {kind : K}

theorem imp (weaker : ∀ i h kind, J i h kind → J' i h kind) (along : Along J h) :
    Along J' h := by
  induction along with
  | nil => exact .nil
  | append _ last ih => exact ih.append (weaker _ _ _ last)

theorem inv (along : Along J h') (split : h' = h ++ [⟨i, kind⟩]) : Along J h ∧ J i h kind := by
  cases along with
  | nil => simp at split
  | append before last =>
    obtain ⟨rfl, same⟩ := List.append_inj' split rfl
    cases same
    exact ⟨before, last⟩

theorem init (along : Along J (h ++ [⟨i, kind⟩])) : Along J h := (along.inv rfl).1

theorem last (along : Along J (h ++ [⟨i, kind⟩])) : J i h kind := (along.inv rfl).2

theorem of_grown (grown : h <+: h') (along : Along J h') : Along J h := by
  obtain ⟨rest, rfl⟩ := grown
  induction rest using List.reverseRecOn with
  | nil => exact List.append_nil h ▸ along
  | append_singleton rest entry ih =>
    obtain ⟨i, kind⟩ := entry
    rw [← List.append_assoc] at along
    exact ih along.init

/-- An entry was justified by what stood before it. -/
theorem of_mem (along : Along J h) (member : (⟨i, kind⟩ : Entry ι K) ∈ h) :
    ∃ before, before ++ [⟨i, kind⟩] <+: h ∧ J i before kind := by
  obtain ⟨before, after, rfl⟩ := List.append_of_mem member
  have upTo : before ++ [⟨i, kind⟩] <+: before ++ ⟨i, kind⟩ :: after := ⟨after, by simp⟩
  exact ⟨before, upTo, (along.of_grown upTo).last⟩

/-- The condition entry by entry, as a finite check. -/
theorem of_entries
    (each : ∀ n, (bound : n < h.length) → J h[n].thread (h.take n) h[n].kind) : Along J h := by
  induction h using List.reverseRecOn with
  | nil => exact .nil
  | append_singleton h entry ih =>
    refine .append (ih fun n bound => ?_) ?_
    · have := each n (by rw [List.length_append]; omega)
      rwa [List.getElem_append_left bound, List.take_append_of_le_length (by omega)] at this
    · simpa using each h.length (by simp)

end Along

/-! ## Effects one after another -/

/-- The threads of the log have had their effects in order. -/
inductive Applied {T : Type} (effect : ι → T → T → Prop) (first : T) : List ι → T → Prop where
  | nil : Applied effect first [] first
  | append {log : List ι} {mid last : T} {i : ι} (before : Applied effect first log mid)
      (here : effect i mid last) : Applied effect first (log ++ [i]) last

end Sdsce.Theory
