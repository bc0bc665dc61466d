import Mathlib.Data.List.Dedup
import Mathlib.Data.Finset.Card

/-!
# The first element of every key

`firsts key l` keeps the elements of a list whose key occurs for the first time, in their order.
`firsts_append` adds one element; with it a loop that keeps what it has not seen is followed step by
step.
-/

namespace UnifiedInfraTopology.Lib

variable {α κ : Type} [DecidableEq κ] {key : α → κ} {l : List α} {a : α}

def firsts (key : α → κ) (l : List α) : List α :=
  l.foldl (fun kept a => if key a ∈ kept.map key then kept else kept ++ [a]) []

@[simp] theorem firsts_nil : firsts key [] = [] := rfl

theorem firsts_append (l : List α) (a : α) : firsts key (l ++ [a]) =
    if key a ∈ (firsts key l).map key then firsts key l else firsts key l ++ [a] := by
  unfold firsts
  rw [List.foldl_append]
  rfl

theorem mem_of_mem_firsts (kept : a ∈ firsts key l) : a ∈ l := by
  induction l using List.reverseRecOn with
  | nil => exact kept
  | append_singleton l b ih =>
      rw [firsts_append] at kept
      split at kept
      · exact List.mem_append_left _ (ih kept)
      · rcases List.mem_append.mp kept with earlier | last
        · exact List.mem_append_left _ (ih earlier)
        · exact List.mem_append_right _ last

/-- No key is lost. -/
theorem mem_keys_firsts {k : κ} : k ∈ (firsts key l).map key ↔ k ∈ l.map key := by
  induction l using List.reverseRecOn with
  | nil => exact Iff.rfl
  | append_singleton l b ih =>
      rw [firsts_append]
      split
      · rename_i seen
        rw [ih, List.map_append, List.mem_append]
        constructor
        · exact Or.inl
        · intro present
          rcases present with earlier | last
          · exact earlier
          · rw [List.map_singleton, List.mem_singleton] at last
            subst last
            exact ih.mp seen
      · rw [List.map_append, List.map_append, List.mem_append, List.mem_append, ih]

theorem nodup_keys_firsts : ((firsts key l).map key).Nodup := by
  induction l using List.reverseRecOn with
  | nil => exact List.nodup_nil
  | append_singleton l b ih =>
      rw [firsts_append]
      split
      · exact ih
      · rename_i fresh
        rw [List.map_append, List.map_singleton, List.nodup_append]
        refine ⟨ih, List.nodup_singleton _, ?_⟩
        intro k earlier k' last same
        rw [List.mem_singleton] at last
        exact fresh (by rwa [← last, ← same])

/-- As many elements are kept as there are keys. -/
theorem length_firsts : (firsts key l).length = (l.map key).dedup.length := by
  rw [← List.card_toFinset, ← List.length_map key, ← List.toFinset_card_of_nodup nodup_keys_firsts]
  congr 1
  ext k
  rw [List.mem_toFinset, List.mem_toFinset, mem_keys_firsts]

theorem firsts_of_nodup (distinct : (l.map key).Nodup) : firsts key l = l := by
  induction l using List.reverseRecOn with
  | nil => rfl
  | append_singleton l a ih =>
      rw [List.map_append, List.nodup_append'] at distinct
      have fresh : key a ∉ l.map key := fun member => distinct.2.2 member (by simp)
      rw [firsts_append, ih distinct.1, if_neg fresh]

/-- The kept elements stand in the order in which they occur first. -/
theorem pairwise_idxOf_firsts [DecidableEq α] :
    (firsts id l).Pairwise fun a b => l.idxOf a < l.idxOf b := by
  induction l using List.reverseRecOn with
  | nil => exact .nil
  | append_singleton l a ih =>
      have before {b : α} (member : b ∈ firsts id l) : (l ++ [a]).idxOf b = l.idxOf b :=
        List.idxOf_append_of_mem (mem_of_mem_firsts member)
      have earlier : (firsts id l).Pairwise fun b c => (l ++ [a]).idxOf b < (l ++ [a]).idxOf c :=
        ih.imp_of_mem fun left right less => by rwa [before left, before right]
      rw [firsts_append, List.map_id]
      split
      · exact earlier
      · rename_i fresh
        refine List.pairwise_append.mpr ⟨earlier, List.pairwise_singleton _ a, fun b member c last => ?_⟩
        obtain rfl := List.mem_singleton.mp last
        have absent : c ∉ l := fun inside => fresh (by
          have kept := mem_keys_firsts.mpr (List.mem_map_of_mem (f := id) inside)
          rwa [List.map_id] at kept)
        rw [before member, List.idxOf_append_of_notMem absent, List.idxOf_cons_self, Nat.add_zero]
        exact List.idxOf_lt_length_of_mem (mem_of_mem_firsts member)

end UnifiedInfraTopology.Lib
