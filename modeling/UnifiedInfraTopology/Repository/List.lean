import Mathlib.Data.List.Sort
import Mathlib.Data.String.Basic
import UnifiedInfraTopology.Repository.Store

/-!
# Listing sources and runs

`List` of `inventory_list.go` in the repository: one row more than the limit is selected, to see
whether there are more.
-/

namespace UnifiedInfraTopology

open Lib

/-- The text of the status column. -/
def SyncRunStatus.text : SyncRunStatus → String
  | queued => "queued"
  | running => "running"
  | validating => "validating"
  | publishing => "publishing"
  | succeeded => "succeeded"
  | failed => "failed"
  | canceled => "canceled"
  | other text => text

structure InventoryListQuery where
  limit : Int
  lastId : String
  lastCreatedAt : Option Time
  status : String
  sourceId : String

/-- The items of a page: the type follows the resource. -/
inductive InventoryItems where
  | sources (rows : List Source)
  | runs (rows : List SyncRun)
deriving DecidableEq

structure InventoryListResult where
  items : InventoryItems
  hasMore : Bool
  lastId : String
  lastCreatedAt : Option Time
deriving DecidableEq

/-- What `inventoryRows` makes of the selected rows: those within the limit, whether there are more,
and the id of the last one. -/
def inventoryRows {α : Type} (found : List α) (limit : Int) (id : α → String) :
    List α × Bool × String :=
  let hasMore := decide (limit < found.length)
  let rows := if hasMore then found.take limit.toNat else found
  (rows, hasMore, rows.getLast?.elim "" id)

namespace Store

/-- The sources after an id, in order. -/
def sourcesAfter (s : Store) (lastId : String) : List Source :=
  (s.sources.rows.filter fun r => lastId = "" || lastId < r.id).insertionSort fun a b => a.id ≤ b.id

/-- The condition of a list of runs. -/
def runListed (query : InventoryListQuery) (r : SyncRun) : Bool :=
  (query.status = "" || r.status.text = query.status) &&
    (query.sourceId = "" || r.sourceId = query.sourceId) &&
    (query.lastId = "" || match query.lastCreatedAt with
      | none => false
      | some last => r.createdAt < last || (r.createdAt = last && r.id < query.lastId))

/-- `ORDER BY created_at DESC, id DESC`. -/
def laterFirst (a b : SyncRun) : Prop :=
  b.createdAt < a.createdAt ∨ (a.createdAt = b.createdAt ∧ b.id ≤ a.id)

instance (a b : SyncRun) : Decidable (laterFirst a b) := by
  unfold laterFirst
  infer_instance

/-- The runs of a query, in order. -/
def runsListed (s : Store) (query : InventoryListQuery) : List SyncRun :=
  (s.runs.rows.filter (runListed query)).insertionSort laterFirst

/-- `List`; the errors are the texts. -/
def list (s : Store) (resource : String) (query : InventoryListQuery) :
    Except String InventoryListResult :=
  if query.limit < 1 ∨ 200 < query.limit then .error "invalid inventory list limit"
  else if resource = "sources" then
    if query.status ≠ "" ∨ query.sourceId ≠ "" ∨ query.lastCreatedAt.isSome then
      .error "invalid source list query"
    else
      let found := (s.sourcesAfter query.lastId).take (query.limit + 1).toNat
      let (rows, hasMore, lastId) := inventoryRows found query.limit Source.id
      .ok ⟨.sources rows, hasMore, lastId, none⟩
  else if resource = "sync-runs" then
    if query.lastId ≠ "" ∧ query.lastCreatedAt.isNone then
      .error "sync run cursor time is required"
    else
      let found := (s.runsListed query).take (query.limit + 1).toNat
      let (rows, hasMore, lastId) := inventoryRows found query.limit SyncRun.id
      .ok ⟨.runs rows, hasMore, lastId, rows.getLast?.map (·.createdAt)⟩
  else .error "invalid inventory resource"

end Store

end UnifiedInfraTopology
