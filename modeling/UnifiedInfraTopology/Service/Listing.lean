import Mathlib.Data.Int.Interval
import Mathlib.Data.Prod.Lex
import Mathlib.Data.Set.Finite.List
import UnifiedInfraTopology.Lib.Fallible
import UnifiedInfraTopology.Lib.Keyset
import UnifiedInfraTopology.Repository.RunInvariants
import UnifiedInfraTopology.Service.CursorLength

/-!
# Following the cursors of a list

A client lists a resource from the first page on and passes each cursor back, with any limit from
call to call; between the calls any operations change the control store (`InventoryListing`).

The pages are a `KeysetWalk` over the tables of the calls: `sources_page` and `runs_page` say so for
one statement, `list_page` for one call of the service, `answers_walk` for all of them.
`listing_complete` is the result.
-/

namespace UnifiedInfraTopology

open Lib

/-! ## The selections of the repository -/

/-- What `inventoryRows` makes of the first rows of a selection, one more than the limit. -/
theorem inventoryRows_take {α : Type} (all : List α) {limit : Int} (positive : 1 ≤ limit)
    (id : α → String) :
    inventoryRows (all.take (limit + 1).toNat) limit id = (all.take limit.toNat,
      decide (limit.toNat < all.length), (all.take limit.toNat).getLast?.elim "" id) := by
  have length : ((all.take (limit + 1).toNat).length : Int) = min (limit + 1) all.length := by
    rw [List.length_take]
    omega
  unfold inventoryRows
  by_cases more : limit.toNat < all.length
  · have more' : limit < (all.take (limit + 1).toNat).length := by omega
    simp only [more', more, decide_true, if_true, List.take_take]
    rw [Nat.min_eq_left (by omega)]
  · have few : ¬limit < (all.take (limit + 1).toNat).length := by omega
    have all_ : all.take limit.toNat = all := List.take_of_length_le (by omega)
    simp only [few, more, decide_false, Bool.false_eq_true, if_false, all_]
    rw [List.take_of_length_le (by omega)]

/-- The key of the order of runs. -/
def runKey (r : SyncRun) : (Time ×ₗ String)ᵒᵈ := OrderDual.toDual (toLex (r.createdAt, r.id))

theorem laterFirst_iff (a b : SyncRun) : Store.laterFirst a b ↔ runKey a ≤ runKey b := by
  unfold runKey Store.laterFirst
  rw [OrderDual.toDual_le_toDual, Prod.Lex.toLex_le_toLex]
  constructor
  · intro order
    rcases order with earlier | ⟨same, le⟩
    · exact Or.inl earlier
    · exact Or.inr ⟨same.symm, le⟩
  · intro order
    rcases order with earlier | ⟨same, le⟩
    · exact Or.inl earlier
    · exact Or.inr ⟨same.symm, le⟩

/-- Where a page starts: after a source, after a run, or at the beginning. -/
structure Position where
  lastId : String
  lastCreatedAt : Option Time

/-- How the rows of a resource are listed: their keys, the positions these stand for, and the items
of a page. -/
structure View (α κ : Type) where
  key : α → κ
  position : κ → Position
  items : List α → InventoryItems

def sourceView : View Source String := ⟨Source.id, fun id => ⟨id, none⟩, .sources⟩

def runView : View SyncRun (Time ×ₗ String)ᵒᵈ :=
  ⟨runKey, fun k => ⟨(ofLex (OrderDual.ofDual k)).2, some (ofLex (OrderDual.ofDual k)).1⟩, .runs⟩

/-- The position of a start. -/
def View.from_ {α κ : Type} (v : View α κ) (start : Option κ) : Position :=
  start.elim ⟨"", none⟩ v.position

/-- A result is a page of some rows. -/
structure PageOf {α κ : Type} [LinearOrder κ] (v : View α κ) (rows : List α) (start : Option κ)
    (result : InventoryListResult) (next : Option κ) : Prop where
  page : ∃ items, result.items = v.items items ∧ KeysetPage v.key rows start items next
  more : result.hasMore = next.isSome
  position : ∀ k ∈ next, (⟨result.lastId, result.lastCreatedAt⟩ : Position) = v.position k

/-- The result made of the first rows of a selection. -/
theorem pageOf_take {α κ : Type} [LinearOrder κ] {v : View α κ} {all rows : List α}
    {start : Option κ} (sorted : all.Pairwise fun a b => v.key a < v.key b)
    (members : ∀ r, r ∈ all ↔ r ∈ rows ∧ After start (v.key r)) {n : Nat} (positive : 0 < n)
    {id : α → String} {createdAt : α → Option Time}
    (position : ∀ r, v.position (v.key r) = ⟨id r, createdAt r⟩) :
    PageOf v rows start ⟨v.items (all.take n), decide (n < all.length),
      (all.take n).getLast?.elim "" id, (all.take n).getLast?.bind createdAt⟩
      (nextKey v.key all n) where
  page := ⟨all.take n, rfl, keysetPage_take sorted members positive⟩
  more := (isSome_nextKey v.key all positive).symm
  position := by
    intro k goes
    obtain ⟨r, last, rfl⟩ := (keysetPage_take sorted members positive).last k goes
    rw [last, position]
    rfl

theorem mem_sourcesAfter {s : Store} {start : Option String} (set_ : ∀ id ∈ start, id ≠ "")
    (r : Source) : r ∈ s.sourcesAfter (sourceView.from_ start).lastId ↔
      r ∈ s.sources.rows ∧ After start r.id := by
  unfold Store.sourcesAfter
  rw [List.mem_insertionSort, List.mem_filter]
  cases start with
  | none => simp [View.from_, After]
  | some id => simp [View.from_, sourceView, After, set_ id rfl]

/-- One statement on the sources. -/
theorem sources_page (s : Store) {start : Option String} (set_ : ∀ id ∈ start, id ≠ "") {limit : Int}
    (positive : 1 ≤ limit) (small : limit ≤ 200) : ∃ result next,
      s.list "sources" ⟨limit, (sourceView.from_ start).lastId,
        (sourceView.from_ start).lastCreatedAt, "", ""⟩ = .ok result ∧
      PageOf sourceView s.sources.rows start result next := by
  have range : ¬(limit < 1 ∨ 200 < limit) := by omega
  have timeless : (sourceView.from_ start).lastCreatedAt = none := by cases start <;> rfl
  have sorted : (s.sourcesAfter (sourceView.from_ start).lastId).Pairwise fun a b => a.id < b.id :=
    pairwise_insertionSort_key (fun _ _ => Iff.rfl)
      (s.sources.nodup.sublist (List.filter_sublist.map Source.id))
  refine ⟨_, _, ?_, pageOf_take sorted (mem_sourcesAfter set_) (n := limit.toNat) (by omega)
    fun r => rfl⟩
  unfold Store.list
  rw [if_neg range, if_pos rfl, timeless]
  simp only [ne_eq, not_true_eq_false, Option.isSome_none, Bool.false_eq_true, or_self, if_false,
    inventoryRows_take _ positive, Option.bind_fun_none]
  rfl

/-- The runs that a list without a status is about. -/
def runsOf (sourceId : String) (s : Store) : List SyncRun :=
  s.runs.rows.filter fun r => sourceId = "" || r.sourceId = sourceId

theorem mem_runsListed {s : Store} {sourceId : String} (limit : Int)
    {start : Option (Time ×ₗ String)ᵒᵈ}
    (set_ : ∀ k ∈ start, (runView.position k).lastId ≠ "") (r : SyncRun) :
    r ∈ s.runsListed ⟨limit, (runView.from_ start).lastId, (runView.from_ start).lastCreatedAt, "",
      sourceId⟩ ↔ r ∈ runsOf sourceId s ∧ After start (runKey r) := by
  unfold Store.runsListed runsOf Store.runListed
  rw [List.mem_insertionSort, List.mem_filter, List.mem_filter]
  cases start with
  | none => simp [View.from_, After]
  | some k =>
      obtain ⟨⟨t, id⟩, rfl⟩ : ∃ p : Time × String, k = OrderDual.toDual (toLex p) := ⟨_, rfl⟩
      have lastSet : id ≠ "" := set_ _ rfl
      have after : After (some (OrderDual.toDual (toLex (t, id)))) (runKey r) ↔
          r.createdAt < t ∨ r.createdAt = t ∧ r.id < id := by
        unfold After runKey
        simp only [Option.mem_def, Option.some.injEq, forall_eq', OrderDual.toDual_lt_toDual,
          Prod.Lex.toLex_lt_toLex]
      rw [after]
      simp [View.from_, runView, lastSet, and_assoc]

/-- One statement on the runs. -/
theorem runs_page (s : Store) {sourceId : String} {start : Option (Time ×ₗ String)ᵒᵈ}
    (set_ : ∀ k ∈ start, (runView.position k).lastId ≠ "") {limit : Int} (positive : 1 ≤ limit)
    (small : limit ≤ 200) : ∃ result next,
      s.list "sync-runs" ⟨limit, (runView.from_ start).lastId, (runView.from_ start).lastCreatedAt,
        "", sourceId⟩ = .ok result ∧ PageOf runView (runsOf sourceId s) start result next := by
  have range : ¬(limit < 1 ∨ 200 < limit) := by omega
  have timed : ¬((runView.from_ start).lastId ≠ "" ∧
      (runView.from_ start).lastCreatedAt.isNone = true) := by
    cases start with
    | none => exact fun both => both.1 rfl
    | some k => exact fun both => Bool.false_ne_true both.2
  have keys : (s.runs.rows.map runKey).Nodup := by
    refine List.Nodup.of_map (fun k => (ofLex (OrderDual.ofDual k)).2) ?_
    rw [List.map_map]
    exact s.runs.nodup
  have sorted (query : InventoryListQuery) :
      (s.runsListed query).Pairwise fun a b => runKey a < runKey b :=
    pairwise_insertionSort_key laterFirst_iff (keys.sublist (List.filter_sublist.map runKey))
  refine ⟨_, _, ?_, pageOf_take (sorted _) (mem_runsListed limit set_) (n := limit.toNat) (by omega)
    fun r => rfl⟩
  unfold Store.list
  have other : ¬"sync-runs" = "sources" := by decide
  rw [if_neg range, if_neg other, if_pos rfl]
  dsimp only
  rw [if_neg timed]
  simp only [inventoryRows_take _ positive, Option.map_eq_bind]
  rfl

/-! ## The calls of a client -/

/-- A list that is followed: the service, the caller, what is listed, the control store of the first
call, the operations after each call, and the limit of each call. -/
structure InventoryListing where
  svc : InventoryService
  userId : String
  resource : String
  sourceId : String
  store : Store
  between : Nat → List Op
  limits : Nat → Int

namespace InventoryListing

/-- The store of a call. -/
def storeAt (l : InventoryListing) : Nat → Store
  | 0 => l.store
  | i + 1 => (l.storeAt i).applyAll (l.between i)

/-- The answers to at most `n` calls, from call `i` with its cursor on. -/
def answers (l : InventoryListing) : Nat → Nat → String →
    List (Except InventoryListError InventoryPage)
  | 0, _, _ => []
  | n + 1, i, cursor =>
      match l.svc.list (l.storeAt i) l.userId l.resource "" ⟨l.limits i, cursor, "", l.sourceId⟩ with
      | .error e => [.error e]
      | .ok page => .ok page :: page.nextCursor.elim [] (l.answers n (i + 1))

/-- The cursor that is issued for a position. -/
def cursorAt (l : InventoryListing) (p : Position) : InventoryCursor :=
  ⟨1, l.userId, l.resource, inventoryFilterHash ⟨0, "", "", l.sourceId⟩, p.lastId, p.lastCreatedAt⟩

/-- The text of a cursor; a list begins without one. -/
def text (l : InventoryListing) (p : Position) : String :=
  if p.lastId = "" then "" else l.svc.encodeCursor (l.cursorAt p)

/-- A run as the service and the database know it: its id, and a time of the years 0 to 9999. -/
def Recorded (r : SyncRun) : Prop :=
  inventoryID r.id = true ∧ (formatRFC3339 r.createdAt).isSome = true

/-- What a list takes for granted. -/
structure Ready (l : InventoryListing) : Prop where
  keyed : 32 ≤ l.svc.cursorKey.length
  authorized : l.svc.authorize l.userId l.resource = .ok ()
  accepted : validateInventoryQuery l.resource "" ⟨0, "", "", l.sourceId⟩ = .ok ()
  limits : ∀ i, 1 ≤ l.limits i ∧ l.limits i ≤ 200
  fits : ∀ p, inventoryID p.lastId = true → (utf8 (l.text p)).length ≤ 4096
  runs : ∀ r ∈ l.store.runs.rows, Recorded r
  sources : ∀ r ∈ l.store.sources.rows, inventoryID r.id = true
  enqueued : ∀ i request now, Op.enqueue request now ∈ l.between i → Recorded request

/-- A position that a cursor can be issued for. -/
structure Issuable (l : InventoryListing) (p : Position) : Prop where
  id : inventoryID p.lastId = true
  printable : ∀ t ∈ p.lastCreatedAt, (formatRFC3339 t).isSome = true
  timed : l.resource = "sync-runs" → p.lastCreatedAt.isSome = true

theorem Issuable.set_ {l : InventoryListing} {p : Position} (issuable : l.Issuable p) :
    p.lastId ≠ "" := by
  intro empty
  have valid := issuable.id
  rw [empty] at valid
  exact absurd valid (by decide)

variable {l : InventoryListing}

theorem encodeCursor_ne_empty (svc : InventoryService) (c : InventoryCursor) :
    svc.encodeCursor c ≠ "" := by
  intro empty
  have chars := congrArg String.toList empty
  rw [InventoryService.encodeCursor, InventoryService.encodeCursorIn, String.toList_ofList] at chars
  simp at chars

/-- A query is accepted with any limit and any cursor that fits. -/
theorem validate_query {resource sourceId cursor : String} {limit : Int}
    (accepted : validateInventoryQuery resource "" ⟨0, "", "", sourceId⟩ = .ok ())
    (positive : 1 ≤ limit) (small : limit ≤ 200) (fits : (utf8 cursor).length ≤ 4096) :
    validateInventoryQuery resource "" ⟨limit, cursor, "", sourceId⟩ = .ok () := by
  unfold validateInventoryQuery at accepted ⊢
  rw [if_neg (by simp [utf8])] at accepted
  rw [if_neg (by simp; omega)]
  exact accepted

/-- The hash of the filters ignores the limit and the cursor. -/
theorem inventoryFilterHash_query (limit : Int) (cursor status sourceId : String) :
    inventoryFilterHash ⟨limit, cursor, status, sourceId⟩ =
      inventoryFilterHash ⟨0, "", status, sourceId⟩ := by
  simp only [inventoryFilterHash]

/-- What a list starts from, with the text of a position. -/
theorem bind_text {p : Position} (limit : Int)
    (from_ : p = ⟨"", none⟩ ∨ l.Issuable p) :
    l.svc.bind_ l.userId l.resource ⟨limit, l.text p, "", l.sourceId⟩ = .ok (l.cursorAt p) := by
  unfold InventoryService.bind_
  rw [inventoryFilterHash_query]
  rcases from_ with rfl | issuable
  · have empty : l.text ⟨"", none⟩ = "" := if_pos rfl
    dsimp only
    rw [if_pos empty]
    rfl
  · have text : l.text p = l.svc.encodeCursor (l.cursorAt p) := if_neg issuable.set_
    have timed : ¬(l.resource = "sync-runs" ∧ (l.cursorAt p).lastCreatedAt.isNone = true) := by
      rintro ⟨runs, none_⟩
      have some_ := issuable.timed runs
      rw [← Option.not_isNone] at some_
      simp [cursorAt] at none_
      rw [none_] at some_
      cases some_
    have same : ¬((l.cursorAt p).userId ≠ l.userId ∨ (l.cursorAt p).resource ≠ l.resource ∨
        (l.cursorAt p).filters ≠ inventoryFilterHash ⟨0, "", "", l.sourceId⟩) := by
      rintro (ne | ne | ne) <;> exact ne rfl
    have decoded : l.svc.decodeCursor (utf8 (l.svc.encodeCursor (l.cursorAt p))) =
        some (l.cursorAt p) :=
      decode_encodeCursor l.svc rfl issuable.id issuable.printable
    dsimp only
    rw [text, if_neg (encodeCursor_ne_empty _ _), decoded]
    dsimp only
    rw [if_neg timed, if_neg same]

/-! ## Call by call -/

/-- A resource is listed by a view of its rows. -/
structure Lists {α κ : Type} [LinearOrder κ] (l : InventoryListing) (v : View α κ)
    (rows : Store → List α) : Prop where
  statement : ∀ s start limit, (∀ k ∈ start, (v.position k).lastId ≠ "") → 1 ≤ limit → limit ≤ 200 →
    ∃ result next, Store.list s l.resource ⟨limit, (v.from_ start).lastId,
      (v.from_ start).lastCreatedAt, "", l.sourceId⟩ = .ok result ∧
      PageOf v (rows s) start result next
  issuable : ∀ i, ∀ r ∈ rows (l.storeAt i), l.Issuable (v.position (v.key r))
  finite : ∃ keys : Finset κ, ∀ i, ∀ r ∈ rows (l.storeAt i), v.key r ∈ keys

section Walk

variable {α κ : Type} [LinearOrder κ] {v : View α κ} {rows : Store → List α}

/-- One call. -/
theorem list_page (ready : l.Ready) (lists : Lists l v rows) (i : Nat) {start : Option κ}
    (from_ : ∀ k ∈ start, l.Issuable (v.position k)) : ∃ page items next,
      l.svc.list (l.storeAt i) l.userId l.resource ""
        ⟨l.limits i, l.text (v.from_ start), "", l.sourceId⟩ = .ok page ∧
      page.items = v.items items ∧ KeysetPage v.key (rows (l.storeAt i)) start items next ∧
      page.nextCursor = next.map fun k => l.text (v.position k) := by
  obtain ⟨positive, small⟩ := ready.limits i
  obtain ⟨result, next, selected, ⟨⟨items, shown, page⟩, more, position⟩⟩ := lists.statement
    (l.storeAt i) start (l.limits i) (fun k started => (from_ k started).set_) positive small
  have place : v.from_ start = ⟨"", none⟩ ∨ l.Issuable (v.from_ start) := by
    cases start with
    | none => exact Or.inl rfl
    | some k => exact Or.inr (from_ k rfl)
  have fits : (utf8 (l.text (v.from_ start))).length ≤ 4096 := by
    rcases place with beginning | issuable
    · rw [beginning, text, if_pos rfl]
      exact Nat.zero_le _
    · exact ready.fits _ issuable.id
  have valid := validate_query ready.accepted positive small fits
  have keyed : ¬l.svc.cursorKey.length < 32 := Nat.not_lt.mpr ready.keyed
  have nonzero : l.limits i ≠ 0 := by omega
  refine ⟨⟨result.items, next.map fun k => l.text (v.position k)⟩, items, next, ?_, shown, page, rfl⟩
  unfold InventoryService.list
  rw [valid, ready.authorized]
  change (if l.svc.cursorKey.length < 32 then _ else _) = _
  rw [if_neg keyed, bind_text _ place]
  dsimp only [bind, Except.bind]
  have selected : Store.list (l.storeAt i) l.resource ⟨l.limits i,
      (l.cursorAt (v.from_ start)).lastId, (l.cursorAt (v.from_ start)).lastCreatedAt, "",
      l.sourceId⟩ = .ok result := selected
  rw [if_neg nonzero, selected]
  dsimp only
  rw [more]
  cases goes : next with
  | none => rfl
  | some k =>
      have here := position k goes
      have issued : l.Issuable (v.position k) := by
        obtain ⟨r, inside, rfl, -⟩ := page.next_mem goes
        exact lists.issuable i r inside
      have text : l.text (v.position k) = l.svc.encodeCursor (l.cursorAt (v.position k)) :=
        if_neg issued.set_
      rw [Option.map_some, text, ← here]
      rfl

/-- All calls from one on: they end, and their pages are a walk. -/
theorem answers_walk (ready : l.Ready) (lists : Lists l v rows) {keys : Finset κ}
    (within : ∀ i, ∀ r ∈ rows (l.storeAt i), v.key r ∈ keys) {m : Nat} (i : Nat) (start : Option κ)
    (few : (keys.filter (After start)).card < m) (from_ : ∀ k ∈ start, l.Issuable (v.position k)) :
    ∃ pages : List InventoryPage, ∃ parts,
      l.answers m i (l.text (v.from_ start)) = pages.map .ok ∧
      (∃ last, pages.getLast? = some last ∧ last.nextCursor = none) ∧
      pages.map (·.items) = parts.map v.items ∧
      KeysetWalk v.key start ((List.range' i pages.length).map fun j => rows (l.storeAt j)) parts := by
  induction m generalizing i start with
  | zero => exact absurd few (Nat.not_lt_zero _)
  | succ m ih =>
      obtain ⟨page, items, next, listed, shown, keyset, cursor⟩ := list_page ready lists i from_
      rw [answers, listed]
      dsimp only
      rw [cursor]
      cases goes : next with
      | none =>
          rw [goes] at keyset cursor
          exact ⟨[page], [items], rfl, ⟨page, rfl, cursor⟩, by rw [List.map_singleton, shown]; rfl,
            .last keyset⟩
      | some k =>
          rw [goes] at keyset
          obtain ⟨r, inside, rfl, after⟩ := keyset.next_mem rfl
          have fewer := card_after_lt (within i r inside) after
          obtain ⟨pages, parts, answered, ⟨last, ended, none_⟩, items_, walk⟩ :=
            ih (i + 1) (some (v.key r)) (by omega) (fun k same => by
              cases same
              exact lists.issuable i r inside)
          refine ⟨page :: pages, items :: parts, ?_, ⟨last, ?_, none_⟩, ?_, .next keyset walk⟩
          · rw [List.map_cons, ← answered]
            rfl
          · rw [List.getLast?_cons, ended]
            rfl
          · rw [List.map_cons, List.map_cons, shown, items_]

end Walk

/-! ## The whole list -/

/-- Some rows are listed once each: in order, all that were there at the first call, and none that
does not belong. -/
structure ListedOnce {α : Type} (before : α → α → Prop) (id : α → String) (atFirst : List α)
    (belongs : α → Prop) (listed : List α) : Prop where
  ordered : listed.Pairwise before
  distinct : (listed.map id).Nodup
  once : ∀ r ∈ atFirst, (listed.map id).count (id r) = 1
  sound : ∀ r ∈ listed, belongs r

/-- What a walk lists, where rows stay in their table with their key. -/
theorem listedOnce_of_walk {α κ : Type} [LinearOrder κ] {key : α → κ} (rows : Store → List α)
    {before : α → α → Prop} {id : α → String} {length : Nat} {parts : List (List α)}
    (walk : KeysetWalk key none ((List.range' 0 length).map fun j => rows (l.storeAt j)) parts)
    (orders : ∀ a b, key a < key b → before a b) (named : ∀ r r', key r = key r' → id r = id r')
    (unique : ∀ i, ∀ r ∈ rows (l.storeAt i), ∀ r' ∈ rows (l.storeAt i), id r = id r' → key r = key r')
    (stays : ∀ i, ∀ r ∈ rows (l.storeAt i), ∀ j, i ≤ j → ∃ r' ∈ rows (l.storeAt j), key r' = key r) :
    ListedOnce before id (rows l.store) (fun r => ∃ i, r ∈ rows (l.storeAt i)) parts.flatten := by
  have origin : ∀ r ∈ parts.flatten, ∃ i, r ∈ rows (l.storeAt i) := by
    intro r member
    obtain ⟨-, table, listed, inside⟩ := walk.mem_tables member
    obtain ⟨i, -, rfl⟩ := List.mem_map.mp listed
    exact ⟨i, inside⟩
  have same_key : ∀ i j, i ≤ j → ∀ r ∈ rows (l.storeAt i), ∀ r' ∈ rows (l.storeAt j),
      id r = id r' → key r = key r' := by
    intro i j le r here r' there same
    obtain ⟨moved, inside, equal⟩ := stays i r here j le
    rw [← equal]
    exact unique j moved inside r' there ((named _ _ equal).trans same)
  have distinct : (parts.flatten.map id).Nodup := by
    refine List.pairwise_map.mpr (walk.sorted.imp_of_mem fun {a b} left right lt same => ?_)
    obtain ⟨i, here⟩ := origin a left
    obtain ⟨j, there⟩ := origin b right
    rcases Nat.le_total i j with le | le
    · exact lt.ne (same_key i j le a here b there same)
    · exact lt.ne (same_key j i le b there a here same.symm).symm
  refine ⟨walk.sorted.imp fun lt => orders _ _ lt, distinct, fun r first => ?_, origin⟩
  obtain ⟨r', listed, same⟩ := walk.complete (k := key r) (fun table member => by
    obtain ⟨j, -, rfl⟩ := List.mem_map.mp member
    exact stays 0 r first j (Nat.zero_le j)) fun a none_ => (Option.not_mem_none a none_).elim
  rw [← named _ _ same]
  exact List.count_eq_one_of_mem distinct (List.mem_map_of_mem listed)

theorem storeAt_add (l : InventoryListing) (i n : Nat) :
    ∃ ops, l.storeAt (i + n) = (l.storeAt i).applyAll ops := by
  induction n with
  | zero => exact ⟨[], rfl⟩
  | succ n ih =>
      obtain ⟨ops, same⟩ := ih
      refine ⟨ops ++ l.between (i + n), ?_⟩
      rw [Store.applyAll_append, ← same]
      rfl

theorem sources_storeAt (l : InventoryListing) (i : Nat) : (l.storeAt i).sources = l.store.sources := by
  induction i with
  | zero => rfl
  | succ i ih =>
      rw [storeAt]
      exact Store.applyAll_invariant (I := fun s => s.sources = l.store.sources) ih
        fun op _ s held => (Store.sources_apply op s).trans held

/-- The columns of a run that a list is about do not change. -/
theorem stays_run {s : Store} {r : SyncRun} (stored : r ∈ s.runs.rows) (ops : List Op) :
    ∃ r' ∈ (s.applyAll ops).runs.rows, r'.id = r.id ∧ r'.createdAt = r.createdAt ∧
      r'.sourceId = r.sourceId := by
  obtain ⟨r', found, created, source⟩ := Store.run_invariant
    (P := fun r' => r'.createdAt = r.createdAt ∧ r'.sourceId = r.sourceId)
    (Table.find?_of_mem stored) ⟨rfl, rfl⟩
    (fun op before after step held => ⟨step.createdAt_eq.trans held.1, step.sourceId_eq.trans held.2⟩)
    ops
  exact ⟨r', Table.mem_of_find? found, Table.key_of_find? found, created, source⟩

theorem recorded_storeAt (ready : l.Ready) (i : Nat) : ∀ r ∈ (l.storeAt i).runs.rows, Recorded r := by
  induction i with
  | zero => exact ready.runs
  | succ i ih =>
      exact Store.rows_invariant ih (ready.enqueued i) fun op r r' step held =>
        ⟨step.id_eq ▸ held.1, step.createdAt_eq ▸ held.2⟩

/-! ## Finitely many keys -/

theorem finite_inventoryID : {id : String | inventoryID id = true}.Finite := by
  refine ((List.finite_length_le (Fin 103) 32).image fun codes =>
    String.ofList (codes.map fun n => Char.ofNat n.val)).subset ?_
  intro id valid
  simp only [Set.mem_ofPred_eq, inventoryID, Bool.and_eq_true, decide_eq_true_eq, List.all_eq_true,
    Bool.or_eq_true] at valid
  obtain ⟨size, digits⟩ := valid
  have code : ∀ c ∈ id.toList, c.toNat < 103 := by
    intro c member
    have := digits c member
    omega
  refine ⟨id.toList.pmap (fun c small => ⟨c.toNat, small⟩) code, ?_, ?_⟩
  · have short := length_le_byteLength id.toList
    have same : byteLength id.toList = 32 := size
    rw [Set.mem_ofPred_eq, List.length_pmap]
    omega
  · dsimp only
    rw [List.map_pmap]
    simp

theorem finite_times : {t : Time | (formatRFC3339 t).isSome = true}.Finite := by
  refine (Set.finite_Icc (-366 * 86400000000000 : Int) (4000000 * 86400000000000)).subset ?_
  intro t printable
  obtain ⟨text, printed⟩ := Option.isSome_iff_exists.mp printable
  unfold formatRFC3339 at printed
  simp only at printed
  split at printed
  · rename_i range
    have day := daysBeforeYear_yearOfDays (t / 86400000000000)
    have year : (civilOfDays (t / 86400000000000)).year = yearOfDays (t / 86400000000000) := rfl
    rw [year] at range
    unfold daysBeforeYear at day
    rw [Set.mem_Icc]
    omega
  · cases printed

/-! ## Both resources -/

theorem lists_sources (ready : l.Ready) (resource : l.resource = "sources") (all : l.sourceId = "") :
    Lists l sourceView fun s => s.sources.rows where
  statement := by
    intro s start limit set_ positive small
    rw [resource, all]
    exact sources_page s set_ positive small
  issuable := by
    intro i r inside
    rw [sources_storeAt] at inside
    exact ⟨ready.sources r inside, fun t none_ => (Option.not_mem_none t none_).elim,
      fun runs => by rw [resource] at runs; exact absurd runs (by decide)⟩
  finite := by
    refine ⟨finite_inventoryID.toFinset, fun i r inside => ?_⟩
    rw [sources_storeAt] at inside
    exact finite_inventoryID.mem_toFinset.mpr (ready.sources r inside)

theorem lists_runs (ready : l.Ready) (resource : l.resource = "sync-runs") :
    Lists l runView (runsOf l.sourceId) where
  statement := by
    intro s start limit set_ positive small
    rw [resource]
    exact runs_page s set_ positive small
  issuable := by
    intro i r inside
    obtain ⟨id, printable⟩ := recorded_storeAt ready i r (List.mem_of_mem_filter inside)
    refine ⟨id, fun t here => ?_, fun _ => rfl⟩
    cases here
    exact printable
  finite := by
    have pairs := (finite_times.prod finite_inventoryID).image fun p : Time × String =>
      (OrderDual.toDual (toLex p) : (Time ×ₗ String)ᵒᵈ)
    refine ⟨pairs.toFinset, fun i r inside => ?_⟩
    obtain ⟨id, printable⟩ := recorded_storeAt ready i r (List.mem_of_mem_filter inside)
    exact pairs.mem_toFinset.mpr ⟨(r.createdAt, r.id), ⟨printable, id⟩, rfl⟩

theorem listedOnce_sources {length : Nat} {parts : List (List Source)}
    (walk : KeysetWalk Source.id none
      ((List.range' 0 length).map fun j => (l.storeAt j).sources.rows) parts) :
    ListedOnce (fun a b => a.id < b.id) Source.id l.store.sources.rows
      (fun r => ∃ i, r ∈ (l.storeAt i).sources.rows) parts.flatten :=
  listedOnce_of_walk (fun s => s.sources.rows) walk (fun _ _ lt => lt)
    (fun _ _ same => same) (fun _ _ _ _ _ same => same) fun i r inside j _ => ⟨r, by
      rw [sources_storeAt] at inside ⊢
      exact inside, rfl⟩

theorem listedOnce_runs {length : Nat} {parts : List (List SyncRun)}
    (walk : KeysetWalk runKey none
      ((List.range' 0 length).map fun j => runsOf l.sourceId (l.storeAt j)) parts) :
    ListedOnce (fun a b => b.createdAt < a.createdAt ∨ b.createdAt = a.createdAt ∧ b.id < a.id)
      SyncRun.id (runsOf l.sourceId l.store) (fun r => ∃ i, r ∈ runsOf l.sourceId (l.storeAt i))
      parts.flatten := by
  refine listedOnce_of_walk (runsOf l.sourceId) walk ?_ ?_ ?_ ?_
  · intro a b lt
    exact Prod.Lex.toLex_lt_toLex.mp (OrderDual.toDual_lt_toDual.mp lt)
  · intro r r' same
    exact congrArg (fun k => (ofLex (OrderDual.ofDual k)).2) same
  · intro i r here r' there same
    rw [Table.eq_of_mem (List.mem_of_mem_filter here) (List.mem_of_mem_filter there) same]
  · intro i r inside j le
    obtain ⟨n, rfl⟩ := Nat.exists_eq_add_of_le le
    obtain ⟨ops, after⟩ := storeAt_add l i n
    obtain ⟨stored, belongs⟩ := List.mem_filter.mp inside
    obtain ⟨r', kept, id, created, source⟩ := stays_run stored ops
    rw [after]
    refine ⟨r', List.mem_filter.mpr ⟨kept, by rwa [source]⟩, ?_⟩
    rw [runKey, runKey, id, created]

/-- **Following the cursors.**  The calls end with a page without a cursor, and none of them fails.
The pages list every run (source) that the filter selects and that was there at the first call, exactly
once, no row twice, only rows that the filter selects, and in order. -/
theorem listing_complete (l : InventoryListing) (ready : l.Ready) : ∃ n, ∃ pages : List InventoryPage,
    l.answers n 0 "" = pages.map .ok ∧
    (∃ last, pages.getLast? = some last ∧ last.nextCursor = none) ∧
    ((l.resource = "sync-runs" ∧ ∃ parts : List (List SyncRun), pages.map (·.items) = parts.map .runs ∧
        ListedOnce (fun a b => b.createdAt < a.createdAt ∨ b.createdAt = a.createdAt ∧ b.id < a.id)
          SyncRun.id (runsOf l.sourceId l.store) (fun r => ∃ i, r ∈ runsOf l.sourceId (l.storeAt i))
          parts.flatten) ∨
      (l.resource = "sources" ∧ ∃ parts : List (List Source), pages.map (·.items) = parts.map .sources ∧
        ListedOnce (fun a b => a.id < b.id) Source.id l.store.sources.rows
          (fun r => ∃ i, r ∈ (l.storeAt i).sources.rows) parts.flatten)) := by
  have accepted := ready.accepted
  unfold validateInventoryQuery at accepted
  obtain ⟨-, accepted⟩ := check_ok accepted
  obtain ⟨-, accepted⟩ := check_ok accepted
  obtain ⟨-, accepted⟩ := check_ok accepted
  by_cases sources : l.resource = "sources"
  · rw [if_pos sources] at accepted
    obtain ⟨all, -⟩ := check_ok accepted
    push Not at all
    have lists := lists_sources ready sources all.2
    obtain ⟨keys, within⟩ := lists.finite
    obtain ⟨pages, parts, answered, ended, items, walk⟩ := answers_walk ready lists within 0 none
      (Nat.lt_succ_self _) fun k none_ => (Option.not_mem_none k none_).elim
    exact ⟨_, pages, answered, ended, Or.inr ⟨sources, parts, items, listedOnce_sources walk⟩⟩
  · rw [if_neg sources] at accepted
    by_cases runs : l.resource = "sync-runs"
    · have lists := lists_runs ready runs
      obtain ⟨keys, within⟩ := lists.finite
      obtain ⟨pages, parts, answered, ended, items, walk⟩ := answers_walk ready lists within 0 none
        (Nat.lt_succ_self _) fun k none_ => (Option.not_mem_none k none_).elim
      exact ⟨_, pages, answered, ended, Or.inl ⟨runs, parts, items, listedOnce_runs walk⟩⟩
    · rw [if_neg runs] at accepted
      cases accepted

/-- The cursors of a user id of at most 300 characters fit. -/
theorem fits_of_short (user : l.userId.toList.length ≤ 300) (resource : l.resource.toList.length ≤ 9)
    {p : Position} (valid : inventoryID p.lastId = true) : (utf8 (l.text p)).length ≤ 4096 := by
  have hash : (l.cursorAt p).filters.toList.length ≤ 64 := by
    rw [cursorAt, inventoryFilterHash, String.toList_ofList, length_hexEncode, length_sha256]
  have lastId : (l.cursorAt p).lastId.toList.length ≤ 32 := by
    have short := length_le_byteLength p.lastId.toList
    simp only [inventoryID, Bool.and_eq_true, decide_eq_true_eq] at valid
    have same : byteLength p.lastId.toList = 32 := valid.1
    exact short.trans same.le
  unfold text
  split
  · exact Nat.zero_le _
  · exact length_encodeCursor_le l.svc rfl user resource hash lastId

/-- A run that has ended, of one source. -/
def endedRun (id : String) : SyncRun :=
  ⟨id, "00000000000000000000000000001030", .succeeded, "full", "hash", id, "reader", none,
    63900000000000000000, none, some 63900000000000000000, "", none⟩

/-- A run of the same source that is requested at the same time. -/
def nextRun : SyncRun :=
  ⟨"000000000000000000000000000000a0", "00000000000000000000000000001030", .queued, "full", "hash",
    "next", "reader", none, 63900000000000000000, none, none, "", none⟩

/-- Two runs of one time are listed one by one, and a third is enqueued after the first call. -/
def oneByOne : InventoryListing where
  svc := ⟨List.replicate 32 7, [⟨"reader", ["sync:read"]⟩]⟩
  userId := "reader"
  resource := "sync-runs"
  sourceId := ""
  store := {
    sources := ⟨[⟨"00000000000000000000000000001030", "lab", "cmdb", "idc1030", true⟩], by simp⟩
    runs := ⟨[endedRun "000000000000000000000000000000a1", endedRun "000000000000000000000000000000a2"],
      by decide⟩
    checkpoints := .empty }
  between := fun i => if i = 0 then [.enqueue nextRun 63900000000000000000] else []
  limits := fun _ => 1

theorem recorded_endedRun {id : String} (valid : inventoryID id = true) : Recorded (endedRun id) :=
  ⟨valid, (by decide : (formatRFC3339 63900000000000000000).isSome = true)⟩

theorem ready_oneByOne : oneByOne.Ready where
  keyed := by decide
  authorized := by decide
  accepted := by decide
  limits := fun _ => ⟨le_rfl, by norm_num [oneByOne]⟩
  fits := fun p valid => fits_of_short (by decide) (by decide) valid
  runs := by
    intro r member
    rcases List.mem_pair.mp member with rfl | rfl
    · exact recorded_endedRun (by decide)
    · exact recorded_endedRun (by decide)
  sources := by decide
  enqueued := by
    intro i request now listed
    unfold oneByOne at listed
    dsimp only at listed
    split at listed
    · cases List.mem_singleton.mp listed
      exact ⟨by decide, by decide⟩
    · cases listed

theorem listing_complete_oneByOne : ∃ n, ∃ pages : List InventoryPage,
    oneByOne.answers n 0 "" = pages.map .ok ∧
    (∃ last, pages.getLast? = some last ∧ last.nextCursor = none) ∧
    ((oneByOne.resource = "sync-runs" ∧ ∃ parts : List (List SyncRun),
        pages.map (·.items) = parts.map .runs ∧
        ListedOnce (fun a b => b.createdAt < a.createdAt ∨ b.createdAt = a.createdAt ∧ b.id < a.id)
          SyncRun.id (runsOf oneByOne.sourceId oneByOne.store)
          (fun r => ∃ i, r ∈ runsOf oneByOne.sourceId (oneByOne.storeAt i)) parts.flatten) ∨
      (oneByOne.resource = "sources" ∧ ∃ parts : List (List Source),
        pages.map (·.items) = parts.map .sources ∧
        ListedOnce (fun a b => a.id < b.id) Source.id oneByOne.store.sources.rows
          (fun r => ∃ i, r ∈ (oneByOne.storeAt i).sources.rows) parts.flatten)) :=
  listing_complete oneByOne ready_oneByOne

end InventoryListing

end UnifiedInfraTopology
