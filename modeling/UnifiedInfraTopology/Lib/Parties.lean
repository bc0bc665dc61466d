import Mathlib.Data.List.Nodup
import Mathlib.Data.List.Basic
import Mathlib.Data.List.Perm.Basic

/-!
# Parties that take turns

Several parties act one after the other, in any order.  `Shuffled` says that a list of events is made
of the histories of the parties; `Occupied` that a list of tasks is what the active parties are doing,
each party once.

* `Shuffled.concat`: one more event of one party;
* `Occupied.start`, `Occupied.change`, `Occupied.finish`: a party takes up, changes or ends its task.
-/

namespace UnifiedInfraTopology.Lib

variable {ι α β : Type}

/-! ## Histories -/

/-- The events are the histories of the parties, in some order. -/
def Shuffled [DecidableEq ι] (histories : ι → List α) (events : List α) : Prop :=
  ∃ labelled : List (ι × α), labelled.map Prod.snd = events ∧
    ∀ i, (labelled.filter fun p => p.1 = i).map Prod.snd = histories i

section Shuffled

variable [DecidableEq ι] {histories histories' : ι → List α} {events : List α}

theorem shuffled_nil : Shuffled (fun _ : ι => ([] : List α)) [] := ⟨[], rfl, fun _ => rfl⟩

/-- One more event, of one party. -/
theorem Shuffled.concat (shuffled : Shuffled histories events) {i : ι} {e : α}
    (own : histories' i = histories i ++ [e]) (others : ∀ j, j ≠ i → histories' j = histories j) :
    Shuffled histories' (events ++ [e]) := by
  obtain ⟨labelled, rfl, each⟩ := shuffled
  refine ⟨labelled ++ [(i, e)], by simp, fun j => ?_⟩
  rw [List.filter_append, List.map_append, each j]
  rcases eq_or_ne j i with rfl | apart
  · simp [own]
  · simp [others j apart, apart.symm]

end Shuffled

/-! ## Tasks -/

/-- The tasks are those of the active parties, in some order. -/
def Occupied (doing : ι → Option β) (tasks : List β) : Prop :=
  ∃ parties : List ι, parties.Nodup ∧ (tasks.map some).Perm (parties.map doing) ∧
    ∀ i, (doing i).isSome = true → i ∈ parties

theorem perm_of_getElem? {l : List α} {n : Nat} {a : α} (here : l[n]? = some a) :
    l.Perm (a :: l.eraseIdx n) := by
  obtain ⟨inside, rfl⟩ := List.getElem?_eq_some_iff.mp here
  exact (List.getElem_cons_eraseIdx_perm inside).symm

theorem set_perm_of_getElem? {l : List α} {n : Nat} {a : α} (here : l[n]? = some a) (b : α) :
    (l.set n b).Perm (b :: l.eraseIdx n) := by
  obtain ⟨inside, -⟩ := List.getElem?_eq_some_iff.mp here
  exact List.set_perm_cons_eraseIdx inside b

section Occupied

variable {doing doing' : ι → Option β} {tasks : List β} {b b' : β} {i : ι}

/-- Nobody is active when there is no task. -/
theorem Occupied.idle (occupied : Occupied doing []) (i : ι) : doing i = none := by
  obtain ⟨parties, -, same, all⟩ := occupied
  have empty : parties = [] := List.map_eq_nil_iff.mp (List.nil_perm.mp same)
  rw [← Option.not_isSome_iff_eq_none]
  intro active
  rw [empty] at all
  exact List.not_mem_nil (all i active)

/-- A party takes up a task. -/
theorem Occupied.start (occupied : Occupied doing tasks) (free : doing i = none)
    (own : doing' i = some b) (others : ∀ j, j ≠ i → doing' j = doing j) :
    Occupied doing' (tasks ++ [b]) := by
  obtain ⟨parties, nodup, same, all⟩ := occupied
  have absent : i ∉ parties := by
    intro member
    have task : doing i ∈ tasks.map some := same.mem_iff.mpr (List.mem_map_of_mem member)
    rw [free] at task
    obtain ⟨_, -, none_⟩ := List.mem_map.mp task
    cases none_
  refine ⟨i :: parties, nodup.cons absent, ?_, fun j active => ?_⟩
  · have kept : parties.map doing' = parties.map doing :=
      List.map_congr_left fun j member => others j fun here => absent (here ▸ member)
    have front : (i :: parties).map doing' = some b :: parties.map doing := by
      rw [List.map_cons, own, kept]
    rw [List.map_append, front]
    exact (List.perm_append_singleton _ _).trans (same.cons _)
  · rcases eq_or_ne j i with rfl | apart
    · exact List.mem_cons_self
    · exact List.mem_cons_of_mem _ (all j (others j apart ▸ active))

/-- The party that does the task with an index may end it or take up another. -/
theorem Occupied.party (occupied : Occupied doing tasks) {n : Nat} (here : tasks[n]? = some b) :
    ∃ i, doing i = some b ∧
      (∀ doing' : ι → Option β, doing' i = none → (∀ j, j ≠ i → doing' j = doing j) →
        Occupied doing' (tasks.eraseIdx n)) ∧
      ∀ (doing' : ι → Option β) (b' : β), doing' i = some b' →
        (∀ j, j ≠ i → doing' j = doing j) → Occupied doing' (tasks.set n b') := by
  obtain ⟨parties, nodup, same, all⟩ := occupied
  have task : some b ∈ parties.map doing :=
    same.mem_iff.mp (List.mem_map_of_mem (List.mem_of_getElem? here))
  obtain ⟨i, member, doing_⟩ := List.mem_map.mp task
  obtain ⟨front, back, rfl⟩ := List.append_of_mem member
  have first : (front ++ i :: back).Perm (i :: (front ++ back)) := List.perm_middle
  obtain ⟨absent, nodup⟩ := List.nodup_cons.mp (first.nodup_iff.mp nodup)
  have apart : ∀ j ∈ front ++ back, j ≠ i := fun j inside here => absent (here ▸ inside)
  have rest : ((tasks.eraseIdx n).map some).Perm ((front ++ back).map doing) := by
    have moved := ((perm_of_getElem? here).map some).symm.trans (same.trans (first.map doing))
    rw [List.map_cons, List.map_cons, doing_] at moved
    exact moved.cons_inv
  have kept {doing' : ι → Option β} (others : ∀ j, j ≠ i → doing' j = doing j) :
      ((tasks.eraseIdx n).map some).Perm ((front ++ back).map doing') := by
    rw [List.map_congr_left fun j inside => others j (apart j inside)]
    exact rest
  refine ⟨i, doing_, fun doing' ended others => ⟨front ++ back, nodup, kept others, ?_⟩,
    fun doing' b' own others => ⟨i :: (front ++ back), nodup.cons absent, ?_, ?_⟩⟩
  · intro j active
    have other : j ≠ i := by
      rintro rfl
      rw [ended] at active
      cases active
    exact (List.mem_cons.mp (first.mem_iff.mp (all j (others j other ▸ active)))).resolve_left other
  · rw [List.map_cons, own]
    exact ((set_perm_of_getElem? here b').map some).trans ((kept others).cons _)
  · intro j active
    rcases eq_or_ne j i with rfl | other
    · exact List.mem_cons_self
    · exact first.mem_iff.mp (all j (others j other ▸ active))

end Occupied

end UnifiedInfraTopology.Lib
