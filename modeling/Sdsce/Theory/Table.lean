import Mathlib.Data.Finset.Card
import Mathlib.Data.List.AList

/-!
# Finite maps

The rows of a finite map that satisfy a condition, maps that are filled row by row, and the threads
that satisfy a condition.
-/
namespace Sdsce.Theory

namespace Table

variable {α β : Type} [DecidableEq α] {t : AList fun _ : α => β} {k : α} {v : β}

/-- The stored values. -/
def rows (t : AList fun _ : α => β) : List β := t.entries.map Sigma.snd

theorem lookup_insert (t : AList fun _ : α => β) (k : α) (v : β) (k' : α) :
    (t.insert k v).lookup k' = if k' = k then some v else t.lookup k' := by
  split_ifs with same
  · rw [same, AList.lookup_insert]
  · exact AList.lookup_insert_ne same

/-- What holds of a row that is written, and of the rows that were there, holds of every row. -/
theorem forall_lookup_insert {P : α → β → Prop} (new : P k v)
    (old : ∀ k' v', t.lookup k' = some v' → P k' v') (k' : α) (v' : β)
    (found : (t.insert k v).lookup k' = some v') : P k' v' := by
  rw [lookup_insert] at found
  split_ifs at found with same
  · cases found
    exact same ▸ new
  · exact old k' v' found

/-- How many rows satisfy `p`. -/
def count (p : β → Bool) (t : AList fun _ : α => β) : Nat := (rows t).countP p

theorem mem_rows : v ∈ rows t ↔ ∃ k, t.lookup k = some v := by
  unfold rows
  rw [List.mem_map]
  constructor
  · rintro ⟨⟨k, v⟩, member, rfl⟩
    exact ⟨k, AList.mem_lookup_iff.mpr member⟩
  · rintro ⟨k, found⟩
    exact ⟨⟨k, v⟩, AList.mem_lookup_iff.mp found, rfl⟩

/-- Reading every key gives every row. -/
theorem filterMap_lookup_keys : t.keys.filterMap t.lookup = rows t := by
  unfold AList.keys List.keys rows
  rw [List.filterMap_map, ← List.filterMap_eq_map]
  refine List.filterMap_congr fun row member => ?_
  exact AList.mem_lookup_iff.mpr member

theorem rows_insert (absent : t.lookup k = none) : rows (t.insert k v) = v :: rows t := by
  unfold rows
  rw [AList.entries_insert_of_notMem (AList.lookup_eq_none.mp absent)]
  rfl

theorem rows_erase (found : t.lookup k = some v) :
    List.Perm (rows t) (v :: rows (t.erase k)) := by
  have member : k ∈ t.entries.keys := AList.lookup_isSome.mp (by rw [found]; rfl)
  obtain ⟨v', before, after, _, split, erased⟩ := List.exists_of_kerase member
  have same : v' = v := by
    have row : (⟨k, v'⟩ : Sigma fun _ : α => β) ∈ t.entries := by
      rw [split]
      exact List.mem_append_right before List.mem_cons_self
    exact Option.some.inj ((AList.mem_lookup_iff.mpr row).symm.trans found)
  subst same
  unfold rows
  rw [show (t.erase k).entries = before ++ after from erased, split, List.map_append, List.map_cons,
    List.map_append]
  exact List.perm_middle

/-- Every row passed through `f`. -/
def map {γ : Type} (f : α → β → γ) (t : AList fun _ : α => β) : AList fun _ : α => γ where
  entries := t.entries.map fun row => ⟨row.1, f row.1 row.2⟩
  nodupKeys := by
    have keys : (t.entries.map fun row => (⟨row.1, f row.1 row.2⟩ : Sigma fun _ : α => γ)).keys =
        t.entries.keys := by
      simp [List.keys]
    rw [List.NodupKeys, keys]
    exact t.nodupKeys

theorem lookup_map {γ : Type} (f : α → β → γ) : (map f t).lookup k = (t.lookup k).map (f k) := by
  ext v
  rw [← Option.mem_def, AList.mem_lookup_iff, Option.map_eq_some_iff]
  simp only [map, List.mem_map, Sigma.mk.injEq]
  constructor
  · rintro ⟨⟨k', b⟩, found, rfl, same⟩
    exact ⟨b, AList.mem_lookup_iff.mpr found, eq_of_heq same⟩
  · rintro ⟨b, found, same⟩
    exact ⟨⟨k, b⟩, AList.mem_lookup_iff.mp found, rfl, heq_of_eq same⟩

theorem count_insert (p : β → Bool) (absent : t.lookup k = none) :
    count p (t.insert k v) = count p t + if p v then 1 else 0 := by
  unfold count
  rw [rows_insert absent, List.countP_cons]

theorem count_erase (p : β → Bool) (found : t.lookup k = some v) :
    count p t = count p (t.erase k) + if p v then 1 else 0 := by
  unfold count
  rw [(rows_erase found).countP_eq, List.countP_cons]

/-! ## Filling a map row by row -/

/-- Rows written one after another; a later row replaces an earlier one under the same key. -/
def insertAll (added : List (α × β)) (t : AList fun _ : α => β) : AList fun _ : α => β :=
  added.foldl (fun t row => t.insert row.1 row.2) t

/-- What is written under a key, in order. -/
def writes (k : α) (added : List (α × β)) : List β :=
  (added.filter fun row => row.1 = k).map Prod.snd

variable {added added' : List (α × β)}

theorem mem_writes : v ∈ writes k added ↔ (k, v) ∈ added := by
  unfold writes
  simp only [List.mem_map, List.mem_filter, decide_eq_true_eq]
  constructor
  · rintro ⟨⟨key, value⟩, ⟨member, rfl⟩, rfl⟩
    exact member
  · intro member
    exact ⟨(k, v), ⟨member, rfl⟩, rfl⟩

theorem writes_perm (same : added.Perm added') : (writes k added).Perm (writes k added') :=
  (same.filter _).map _

/-- The last write counts. -/
theorem lookup_insertAll (added : List (α × β)) (t : AList fun _ : α => β) (k : α) :
    (insertAll added t).lookup k = (writes k added).getLast?.or (t.lookup k) := by
  induction added generalizing t with
  | nil => rfl
  | cons row rest ih =>
    rw [insertAll, List.foldl_cons]
    refine (ih _).trans ?_
    by_cases here : row.1 = k
    · have first : writes k (row :: rest) = row.2 :: writes k rest := by
        rw [writes, List.filter_cons_of_pos (by simpa using here)]
        rfl
      rw [first, List.getLast?_cons, ← here, AList.lookup_insert]
      cases (writes row.1 rest).getLast? with
      | none | some => rfl
    · have first : writes k (row :: rest) = writes k rest := by
        rw [writes, List.filter_cons_of_neg (by simpa using here)]
        rfl
      rw [first, AList.lookup_insert_ne (Ne.symm here)]

theorem getLast?_eq_of_forall {values : List β} (all : ∀ w ∈ values, w = v)
    (nonempty : values ≠ []) : values.getLast? = some v := by
  rw [List.getLast?_eq_some_getLast nonempty, all _ (List.getLast_mem nonempty)]

/-- Where all writes under a key agree, their order does not matter. -/
theorem lookup_insertAll_perm (same : added.Perm added') (t : AList fun _ : α => β)
    (agree : ∀ v v', (k, v) ∈ added → (k, v') ∈ added → v = v') :
    (insertAll added t).lookup k = (insertAll added' t).lookup k := by
  rw [lookup_insertAll, lookup_insertAll]
  have perm := writes_perm (k := k) same
  cases first : writes k added with
  | nil =>
    rw [first] at perm
    rw [perm.nil_eq]
  | cons v rest =>
    have written : (k, v) ∈ added := mem_writes.mp (first ▸ List.mem_cons_self)
    have all : ∀ w ∈ writes k added, w = v := fun w member =>
      agree w v (mem_writes.mp member) written
    have nonempty : writes k added ≠ [] := List.ne_nil_of_mem (mem_writes.mpr written)
    have nonempty' : writes k added' ≠ [] :=
      List.ne_nil_of_mem (perm.mem_iff.mp (mem_writes.mpr written))
    rw [← first, getLast?_eq_of_forall all nonempty,
      getLast?_eq_of_forall (fun w member => all w (perm.mem_iff.mpr member)) nonempty']

theorem lookup_insertAll_concat (added : List (α × β)) (t : AList fun _ : α => β) :
    (insertAll (added ++ [(k, v)]) t).lookup k = some v := by
  rw [insertAll, List.foldl_append]
  exact AList.lookup_insert _

end Table

/-- Exactly `n` threads satisfy `p`. -/
def Tally {ι : Type} (p : ι → Prop) (n : Nat) : Prop :=
  ∃ members : Finset ι, (∀ i, i ∈ members ↔ p i) ∧ members.card = n

namespace Tally

variable {ι : Type} {p p' : ι → Prop} {n : Nat} {i : ι}

theorem zero (nobody : ∀ i, ¬ p i) : Tally p 0 :=
  ⟨∅, fun i => ⟨nofun, fun h => absurd h (nobody i)⟩, rfl⟩

theorem eq_zero (h : Tally p n) (nobody : ∀ i, ¬ p i) : n = 0 := by
  obtain ⟨members, member, rfl⟩ := h
  rw [Finset.card_eq_zero, Finset.eq_empty_iff_forall_notMem]
  exact fun i here => nobody i ((member i).mp here)

theorem same (h : Tally p n) (agree : ∀ i, p' i ↔ p i) : Tally p' n := by
  obtain ⟨members, member, card⟩ := h
  exact ⟨members, fun i => (member i).trans (agree i).symm, card⟩

theorem enter [DecidableEq ι] (h : Tally p n) (before : ¬ p i) (after : p' i)
    (others : ∀ j, j ≠ i → (p' j ↔ p j)) : Tally p' (n + 1) := by
  obtain ⟨members, member, rfl⟩ := h
  refine ⟨insert i members, fun j => ?_, ?_⟩
  · rw [Finset.mem_insert]
    by_cases same : j = i
    · subst same
      exact ⟨fun _ => after, fun _ => .inl rfl⟩
    · rw [or_iff_right same, member j, others j same]
  · exact Finset.card_insert_of_notMem fun here => before ((member i).mp here)

theorem leave [DecidableEq ι] (h : Tally p n) (before : p i) (after : ¬ p' i)
    (others : ∀ j, j ≠ i → (p' j ↔ p j)) : 0 < n ∧ Tally p' (n - 1) := by
  obtain ⟨members, member, rfl⟩ := h
  have here := (member i).mpr before
  refine ⟨Finset.card_pos.mpr ⟨i, here⟩, members.erase i, fun j => ?_, ?_⟩
  · rw [Finset.mem_erase]
    by_cases same : j = i
    · subst same
      exact ⟨fun gone => absurd rfl gone.1, fun now => absurd now after⟩
    · rw [and_iff_right same, member j, others j same]
  · exact Finset.card_erase_of_mem here

end Tally

end Sdsce.Theory
