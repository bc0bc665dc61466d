import UnifiedInfraTopology.Lib.History
import UnifiedInfraTopology.Worker.Calls

/-!
# The owners of interfaces

An interface is written with a relation from the device that owns it.  `executeClaimed` checks the
owner of every page before it writes the page: all records name one device, the partition of the page
has not had another, and the graph has the device.

The log is read as a trace of the pages that were read, the devices that were confirmed and the writes
that were called.  `OwnedWrite` is what a write needs from the trace before it, and `OwnersKept` what
follows for a whole trace.

* `behaves_validateInterfaceOwners`: what the check of a page knows.
* `behaves_writeEntityPage`: a checked page is written as it may be.
* `executeClaimed_owners`: every execution keeps the owners.
-/

namespace UnifiedInfraTopology

open Lib

/-! ## The trace of the owners -/

inductive OwnerEvent where
  /-- A page of interfaces was read, to be collected. -/
  | page (records : List EntityRecord)
  /-- `VertexExists` has confirmed a device. -/
  | found (device : EntityIdentity)
  /-- `UpsertVertex` was called for an interface. -/
  | vertex (vertex : TopologyVertex)
  /-- `UpsertRelation` was called. -/
  | relation (relation : Relation)
deriving DecidableEq

/-- A call that writes an interface or a relation. -/
def Call.ownerWrite? : Call syncService → Option OwnerEvent
  | .service (.startVertex v) =>
      if v.identity.entityType = .interface then some (.vertex v) else none
  | .service (.startRelation r) => some (.relation r)
  | _ => none

def Event.owner? : Event syncService → Option OwnerEvent
  | .call (.service (.passPage .first _)) _ _ (some (some page)) _ _ => some (.page page.records)
  | .call (.service (.vertexExists device)) _ _ (some (some true)) _ _ => some (.found device)
  | .call c _ _ _ _ _ => c.ownerWrite?
  | _ => none

def World.ownerEvents (w : World syncService) : List OwnerEvent := w.log.filterMap Event.owner?

/-- The records of the page that was read last, and those of the pages written so far. -/
structure PageLog where
  current : List EntityRecord
  written : List EntityRecord

def OwnerEvent.track (pages : PageLog) : OwnerEvent → PageLog
  | .page records => { pages with current := records }
  | .found _ => pages
  | .vertex _ | .relation _ => { pages with written := pages.current ++ pages.written }

def pageLog (past : List OwnerEvent) : PageLog := past.foldl OwnerEvent.track ⟨[], []⟩

@[simp] theorem pageLog_concat (past : List OwnerEvent) (e : OwnerEvent) :
    pageLog (past ++ [e]) = e.track (pageLog past) := by
  simp [pageLog]

section

variable (sourceId : String)

/-- The page that was read last belongs to a device of the source that was confirmed before, and its
partitions have had no other owner. -/
structure PageOwned (past : List OwnerEvent) (owner : String) : Prop where
  filled : owner ≠ ""
  trimmed : trimSpace owner = owner
  same : ∀ r ∈ (pageLog past).current, r.ownerDeviceSN = owner
  found : .found ⟨sourceId, .device, owner⟩ ∈ past
  unchanged : ∀ r ∈ (pageLog past).current, ∀ r' ∈ (pageLog past).written,
    r'.partition = r.partition → r'.ownerDeviceSN = owner

/-- A write is one of a record of the page that was read last, whose owner is known. -/
def OwnedWrite (past : List OwnerEvent) : OwnerEvent → Prop
  | .vertex v => ∃ r ∈ (pageLog past).current, PageOwned sourceId past r.ownerDeviceSN ∧
      ∃ snapshotAt, v = recordVertex sourceId .interface snapshotAt r
  | .relation relation => ∃ r ∈ (pageLog past).current, PageOwned sourceId past r.ownerDeviceSN ∧
      ∃ snapshotAt, relation = ownerRelation sourceId .interface snapshotAt r
  | _ => True

/-- Every write was owned, and the pages written have one proper owner for each partition. -/
structure OwnersKept (trace : List OwnerEvent) : Prop where
  owned : Throughout (OwnedWrite sourceId) [] trace
  single : ∀ r ∈ (pageLog trace).written, ∀ r' ∈ (pageLog trace).written,
    r.partition = r'.partition → r.ownerDeviceSN = r'.ownerDeviceSN
  proper : ∀ r ∈ (pageLog trace).written,
    r.ownerDeviceSN ≠ "" ∧ trimSpace r.ownerDeviceSN = r.ownerDeviceSN

end

section

variable {sourceId : String} {trace : List OwnerEvent} {e : OwnerEvent}

theorem ownersKept_nil : OwnersKept sourceId [] := ⟨throughout_nil, nofun, nofun⟩

/-- A page with one owner joins the pages written. -/
theorem OwnersKept.write {r : EntityRecord} (kept : OwnersKept sourceId trace)
    (owned : PageOwned sourceId trace r.ownerDeviceSN) :
    (∀ a ∈ (pageLog trace).current ++ (pageLog trace).written,
      ∀ b ∈ (pageLog trace).current ++ (pageLog trace).written,
        a.partition = b.partition → a.ownerDeviceSN = b.ownerDeviceSN) ∧
    ∀ a ∈ (pageLog trace).current ++ (pageLog trace).written,
      a.ownerDeviceSN ≠ "" ∧ trimSpace a.ownerDeviceSN = a.ownerDeviceSN := by
  refine ⟨fun a inA b inB same => ?_, fun a inA => ?_⟩
  · rcases List.mem_append.mp inA with newA | oldA <;> rcases List.mem_append.mp inB with newB | oldB
    · exact (owned.same a newA).trans (owned.same b newB).symm
    · exact (owned.same a newA).trans (owned.unchanged a newA b oldB same.symm).symm
    · exact (owned.unchanged b newB a oldA same).trans (owned.same b newB).symm
    · exact kept.single a oldA b oldB same
  · rcases List.mem_append.mp inA with newA | oldA
    · rw [owned.same a newA]
      exact ⟨owned.filled, owned.trimmed⟩
    · exact kept.proper a oldA

theorem OwnersKept.concat (kept : OwnersKept sourceId trace) (owned : OwnedWrite sourceId trace e) :
    OwnersKept sourceId (trace ++ [e]) := by
  have throughout := throughout_concat.mpr ⟨kept.owned, owned⟩
  cases e with
  | page records =>
      refine ⟨throughout, ?_, ?_⟩ <;> rw [pageLog_concat]
      · exact kept.single
      · exact kept.proper
  | found device =>
      refine ⟨throughout, ?_, ?_⟩ <;> rw [pageLog_concat]
      · exact kept.single
      · exact kept.proper
  | vertex v =>
      obtain ⟨r, -, page, -⟩ := owned
      refine ⟨throughout, ?_, ?_⟩ <;> rw [pageLog_concat]
      · exact (kept.write page).1
      · exact (kept.write page).2
  | relation relation =>
      obtain ⟨r, -, page, -⟩ := owned
      refine ⟨throughout, ?_, ?_⟩ <;> rw [pageLog_concat]
      · exact (kept.write page).1
      · exact (kept.write page).2

end

/-! ## One call -/

section

variable (sourceId : String) (past : List OwnerEvent)

/-- The execution has made a trace with a property. -/
def After (P : List OwnerEvent → Prop) (w : World syncService) : Prop :=
  ∃ trace, w.ownerEvents = past ++ trace ∧ P trace

/-- If the call is a write, it is owned. -/
def MayWrite (c : Call syncService) (w : World syncService) : Prop :=
  ∀ trace, w.ownerEvents = past ++ trace → ∀ e, c.ownerWrite? = some e → OwnedWrite sourceId trace e

end

section

variable {sourceId : String} {past : List OwnerEvent} {P Q : List OwnerEvent → Prop}
  {c : Call syncService} {w : World syncService}

theorem After.imp (after : After past P w) (weaker : ∀ trace, P trace → Q trace) :
    After past Q w := by
  obtain ⟨trace, made, held⟩ := after
  exact ⟨trace, made, weaker trace held⟩

theorem mayWrite_of_none (free : c.ownerWrite? = none) : MayWrite sourceId past c w := by
  intro _ _ e write
  rw [free] at write
  cases write

theorem After.mayWrite (after : After past P w)
    (owned : ∀ trace e, P trace → c.ownerWrite? = some e → OwnedWrite sourceId trace e) :
    MayWrite sourceId past c w := by
  obtain ⟨trace, made, held⟩ := after
  intro trace' made' e write
  obtain rfl := List.append_cancel_left (made.symm.trans made')
  exact owned trace e held write

/-- What a call adds to the trace. -/
theorem ownerEvents_handler (c : Call syncService) (m : Move syncService) (w : World syncService) :
    (handler c m w).2.ownerEvents = w.ownerEvents ++ (Event.owner? (.call c m.now m.fault
      (handler c m w).1 (w.disturbed m.disturbances).store (handler c m w).2.store)).toList := by
  refine filterMap_handler (fun e background => ?_) c m w
  cases e with
  | call => cases background
  | _ => rfl

theorem After.call {P' : List OwnerEvent → Prop} {m : Move syncService} (after : After past P w)
    (silent : ∀ trace, P trace → P' trace)
    (seen : ∀ trace e, P trace → Event.owner? (.call c m.now m.fault (handler c m w).1
      (w.disturbed m.disturbances).store (handler c m w).2.store) = some e → P' (trace ++ [e])) :
    After past P' (handler c m w).2 := by
  obtain ⟨trace, made, held⟩ := after
  have grown := ownerEvents_handler c m w
  cases event : Event.owner? (.call c m.now m.fault (handler c m w).1
    (w.disturbed m.disturbances).store (handler c m w).2.store) with
  | none =>
      rw [event, Option.toList_none, List.append_nil] at grown
      exact ⟨trace, grown.trans made, silent trace held⟩
  | some e =>
      rw [event, Option.toList_some, made, List.append_assoc] at grown
      exact ⟨trace ++ [e], grown, seen trace e held event⟩

/-- The answer was seen. -/
theorem After.seen {m : Move syncService} {answer : c.Answer} {e : OwnerEvent}
    (after : After past P w) (answered : (handler c m w).1 = some answer)
    (event : ∀ time fault before after,
      Event.owner? (.call c time fault (some answer) before after) = some e) :
    After past (fun trace => ∃ before, trace = before ++ [e] ∧ P before) (handler c m w).2 := by
  obtain ⟨trace, made, held⟩ := after
  have grown := ownerEvents_handler c m w
  rw [answered, event, Option.toList_some, made, List.append_assoc] at grown
  exact ⟨trace ++ [e], grown, trace, rfl, held⟩

/-- The call adds nothing, whatever its answer. -/
def Unseen (c : Call syncService) : Prop :=
  ∀ time fault answer before after, Event.owner? (.call c time fault answer before after) = none

theorem After.unseen (after : After past P w) (unseen : Unseen c) (m : Move syncService) :
    After past P (handler c m w).2 := by
  refine after.call (fun _ held => held) fun trace e _ event => ?_
  rw [unseen] at event
  cases event

theorem unseen_offPage (off : c.offPage = true) : Unseen c ∧ c.ownerWrite? = none := by
  cases c with
  | service r =>
      cases r with
      | passPage pass =>
          cases pass with
          | first => cases off
          | second => exact ⟨fun _ _ _ _ _ => rfl, rfl⟩
      | vertexExists => cases off
      | startVertex => cases off
      | startRelation => cases off
      | _ => exact ⟨fun _ _ _ _ _ => rfl, rfl⟩
  | _ => exact ⟨fun _ _ _ _ _ => rfl, rfl⟩

/-- A write that is owned keeps the owners. -/
theorem OwnersKept.call {m : Move syncService} (may : MayWrite sourceId past c w)
    (kept : After past (OwnersKept sourceId) w) :
    After past (OwnersKept sourceId) (handler c m w).2 := by
  obtain ⟨trace, made, kept⟩ := kept
  have here : After past (fun trace' => trace' = trace) w := ⟨trace, made, rfl⟩
  refine here.call (fun _ same => same ▸ kept) fun trace' e same event => ?_
  subst same
  refine kept.concat ?_
  have owned := may trace' made e
  cases c with
  | service r =>
      generalize (handler (.service r) m w).1 = answer at event
      cases r with
      | passPage pass offset =>
          match pass, answer, event with
          | .first, some (some page), rfl => trivial
      | vertexExists device =>
          match answer, event with
          | some (some true), rfl => trivial
      | startVertex v => exact owned event
      | startRelation relation => exact owned event
      | _ => cases event
  | _ => cases event

end

/-! ## What the maps know -/

/-- The verified devices were confirmed, and the map of the partitions has the pages written. -/
structure OwnersTracked (owners : InterfaceOwners) (trace : List OwnerEvent) : Prop where
  verified : ∀ device ∈ owners.verified, .found device ∈ trace
  assigned : ∀ r ∈ (pageLog trace).written,
    owners.partitionOwners.lookup r.partition = some r.ownerDeviceSN

/-- The page that was read last has been checked. -/
structure PageChecked (sourceId : String) (owners : InterfaceOwners) (records : List EntityRecord)
    (trace : List OwnerEvent) : Prop where
  tracked : OwnersTracked owners trace
  current : (pageLog trace).current = records
  owned : ∀ r ∈ records, PageOwned sourceId trace r.ownerDeviceSN
  assigned : ∀ r ∈ records, owners.partitionOwners.lookup r.partition = some r.ownerDeviceSN

section

variable {sourceId : String} {past trace : List OwnerEvent} {owners : InterfaceOwners}
  {records : List EntityRecord}

theorem OwnersTracked.page (tracked : OwnersTracked owners trace) (records : List EntityRecord) :
    OwnersTracked owners (trace ++ [.page records]) where
  verified device member := List.mem_append_left _ (tracked.verified device member)
  assigned := by
    rw [pageLog_concat]
    exact tracked.assigned

/-- A device was confirmed, or was known. -/
theorem OwnersTracked.found (tracked : OwnersTracked owners trace) (device : EntityIdentity) :
    OwnersTracked { owners with verified := device :: owners.verified } (trace ++ [.found device]) where
  verified other member := by
    rcases List.mem_cons.mp member with rfl | old
    · exact List.mem_append_right _ (List.mem_singleton.mpr rfl)
    · exact List.mem_append_left _ (tracked.verified other old)
  assigned := by
    rw [pageLog_concat]
    exact tracked.assigned

/-- The owner of a partition is entered that had no other. -/
theorem OwnersTracked.assign {partition : Int64} {owner : String}
    (tracked : OwnersTracked owners trace)
    (free : (owners.partitionOwners.lookup partition).any (· ≠ owner) = false) :
    OwnersTracked { owners with
      partitionOwners := (partition, owner) :: owners.partitionOwners } trace where
  verified := tracked.verified
  assigned r member := by
    have known := tracked.assigned r member
    by_cases same : r.partition = partition
    · subst same
      rw [known] at free
      have here : r.ownerDeviceSN = owner := by simpa using free
      simp [here]
    · rw [List.lookup_cons, beq_eq_false_iff_ne.mpr same]
      exact known

/-- The check of a page has passed: its owner is known, and its partition has had no other. -/
theorem OwnersTracked.checked {first : Int64} {owner : String}
    (tracked : OwnersTracked ⟨owners.verified, (first, owner) :: owners.partitionOwners⟩ trace)
    (current : (pageLog trace).current = records) (filled : owner ≠ "")
    (trimmed : trimSpace owner = owner) (same : ∀ r ∈ records, r.ownerDeviceSN = owner)
    (placed : ∀ r ∈ records, r.partition = first)
    (found : ⟨sourceId, .device, owner⟩ ∈ owners.verified) :
    PageChecked sourceId ⟨owners.verified, (first, owner) :: owners.partitionOwners⟩ records
      trace where
  tracked := tracked
  current := current
  owned r member := by
    rw [same r member]
    refine ⟨filled, trimmed, by rwa [current], tracked.verified _ found, ?_⟩
    rw [current]
    intro r' member' other written here
    have known := tracked.assigned other written
    rw [here, placed r' member', List.lookup_cons_self] at known
    exact (Option.some.inj known).symm
  assigned r member := by
    rw [placed r member, same r member, List.lookup_cons_self]

/-- The records of a checked page are written as they may be. -/
theorem PageChecked.write {r : EntityRecord} {e : OwnerEvent} {snapshotAt : Time}
    (checked : PageChecked sourceId owners records trace) (member : r ∈ records)
    (here : e = .vertex (recordVertex sourceId .interface snapshotAt r) ∨
      e = .relation (ownerRelation sourceId .interface snapshotAt r)) :
    OwnedWrite sourceId trace e ∧ PageChecked sourceId owners records (trace ++ [e]) := by
  have inside : r ∈ (pageLog trace).current := by rwa [checked.current]
  have joined : pageLog (trace ++ [e]) = ⟨records, records ++ (pageLog trace).written⟩ := by
    rw [pageLog_concat]
    rcases here with rfl | rfl <;> simp [OwnerEvent.track, checked.current]
  refine ⟨?_, ⟨?_, ?_⟩, by rw [joined], fun other member' => ?_, checked.assigned⟩
  · rcases here with rfl | rfl
    · exact ⟨r, inside, checked.owned r member, snapshotAt, rfl⟩
    · exact ⟨r, inside, checked.owned r member, snapshotAt, rfl⟩
  · exact fun device known => List.mem_append_left _ (checked.tracked.verified device known)
  · rw [joined]
    intro other written
    rcases List.mem_append.mp written with new | old
    · exact checked.assigned other new
    · exact checked.tracked.assigned other old
  · have owned := checked.owned other member'
    have same := owned.same
    rw [checked.current] at same
    refine ⟨owned.filled, owned.trimmed, by rwa [joined], List.mem_append_left _ owned.found, ?_⟩
    rw [joined]
    intro a inA b inB equal
    rcases List.mem_append.mp inB with new | old
    · exact same b new
    · exact owned.unchanged a (by rwa [checked.current]) b old equal

end

/-! ## The parts of a page -/

section

variable {sourceId : String} {past : List OwnerEvent} {owners : InterfaceOwners}
  {records : List EntityRecord} {P : List OwnerEvent → Prop} {w : World syncService} {ε α : Type}

/-- The program writes as it may, and returns with `Q`. -/
abbrev BehavesOwned (sourceId : String) (past : List OwnerEvent) (p : SyncProg ε α)
    (Q : α → World syncService → Prop) (w : World syncService) : Prop :=
  Prog.Behaves handler (MayWrite sourceId past) p Q w

theorem behaves_aside {p : SyncProg ε α} (aside : Aside p) (after : After past P w) :
    BehavesOwned sourceId past p (fun _ w' => After past P w') w :=
  Prog.behaves_of_only (offPage_of_aside aside)
    (fun _ _ off _ => mayWrite_of_none (unseen_offPage off).2)
    (fun _ m _ off held => held.unseen (unseen_offPage off).1 m) after

theorem behaves_readPage (source : Source) (entity : EntityType) (offset : Int)
    (tracked : After past (OwnersTracked owners) w) :
    BehavesOwned sourceId past (readPage .first source entity offset : SyncProg ε (Option EntityPage))
      (fun read w' => ∀ page, read = some page → After past (fun trace =>
        OwnersTracked owners trace ∧ (entity = .interface → (pageLog trace).current = page.records)) w')
      w := by
  unfold readPage collectEntityPage
  split_ifs with ports others
  · refine Prog.behaves_send (mayWrite_of_none rfl) fun m read answered page here => ?_
    subst here
    refine (tracked.seen (e := .page page.records) answered fun _ _ _ _ => rfl).imp ?_
    rintro _ ⟨before, rfl, held⟩
    exact ⟨held.page page.records, fun _ => by rw [pageLog_concat]; rfl⟩
  · refine Prog.behaves_send (mayWrite_of_none rfl) fun m read answered page _ => ?_
    exact (tracked.unseen (fun _ _ _ _ _ => rfl) m).imp fun _ held => ⟨held, fun here => (ports here).elim⟩
  · refine Prog.behaves_perform (mayWrite_of_none rfl) fun m read answered => Prog.behaves_ret ?_
    intro page _
    exact (tracked.unseen (fun _ _ _ _ _ => rfl) m).imp fun _ held => ⟨held, fun here => (ports here).elim⟩

/-- **The check of a page.**  An error says nothing; otherwise the page may be written. -/
theorem behaves_validateInterfaceOwners {first : Int64}
    (placed : ∀ r ∈ records, r.partition = first)
    (tracked : After past (fun trace =>
      OwnersTracked owners trace ∧ (pageLog trace).current = records) w) :
    BehavesOwned sourceId past (validateInterfaceOwners sourceId owners records :
      SyncProg ε (Option InterfaceOwners)) (fun result w' => ∀ owners', result = some owners' →
        After past (PageChecked sourceId owners' records) w') w := by
  cases records with
  | nil =>
      refine Prog.behaves_ret fun owners' here => ?_
      cases here
      exact tracked.imp fun trace held => ⟨held.1, held.2, nofun, nofun⟩
  | cons r records =>
      unfold validateInterfaceOwners
      dsimp only
      split
      · exact Prog.behaves_ret nofun
      rename_i proper
      obtain ⟨filled, trimmed⟩ : r.ownerDeviceSN ≠ "" ∧ trimSpace r.ownerDeviceSN = r.ownerDeviceSN := by
        rwa [not_or, not_not] at proper
      split
      · exact Prog.behaves_ret nofun
      rename_i unmixed
      have same : ∀ r' ∈ r :: records, r'.ownerDeviceSN = r.ownerDeviceSN := by
        simpa using unmixed
      split
      · exact Prog.behaves_ret nofun
      rename_i unchanged
      have free : (owners.partitionOwners.lookup r.partition).any (· ≠ r.ownerDeviceSN) = false :=
        Bool.eq_false_iff.mpr unchanged
      obtain rfl := placed r List.mem_cons_self
      split
      · rename_i known
        refine Prog.behaves_ret fun owners' here => ?_
        cases here
        exact tracked.imp fun trace held =>
          (held.1.assign free).checked held.2 filled trimmed same placed known
      · refine Prog.behaves_perform (mayWrite_of_none rfl) fun m found answered => ?_
        by_cases confirmed : found = some true
        · rw [if_pos confirmed]
          subst confirmed
          refine Prog.behaves_ret fun owners' here => ?_
          cases here
          refine (tracked.seen (e := .found ⟨sourceId, .device, r.ownerDeviceSN⟩) answered
            fun _ _ _ _ => rfl).imp ?_
          rintro _ ⟨before, rfl, held, current⟩
          refine (((held.found _).assign free).checked ?_ filled trimmed same placed
            List.mem_cons_self)
          rw [pageLog_concat]
          exact current
        · rw [if_neg confirmed]
          exact Prog.behaves_ret nofun

/-! ## Writing a page -/

variable (sourceId owners records) in
/-- A page of interfaces has been checked; other pages have no owners. -/
def Writable (entity : EntityType) (trace : List OwnerEvent) : Prop :=
  OwnersTracked owners trace ∧ (entity = .interface → PageChecked sourceId owners records trace)

variable (sourceId records) in
/-- The call writes a record of the page, or is none of the owners' business. -/
structure PageCall (entity : EntityType) (c : Call syncService) : Prop where
  seen : ∀ time fault answer before after,
    Event.owner? (.call c time fault answer before after) = c.ownerWrite?
  write : ∀ e, c.ownerWrite? = some e → entity = .interface ∧ ∃ r ∈ records, ∃ snapshotAt,
    e = .vertex (recordVertex sourceId .interface snapshotAt r) ∨
      e = .relation (ownerRelation sourceId .interface snapshotAt r)

variable {entity : EntityType} {snapshotAt : Time} {r : EntityRecord}

theorem pageCall_startVertex (member : r ∈ records) : PageCall sourceId records entity
    (.service (.startVertex (recordVertex sourceId entity snapshotAt r))) where
  seen _ _ _ _ _ := rfl
  write e write := by
    by_cases ports : entity = .interface
    · subst ports
      cases write
      exact ⟨rfl, r, member, snapshotAt, Or.inl rfl⟩
    · have none_ : Call.ownerWrite?
          (.service (.startVertex (recordVertex sourceId entity snapshotAt r))) = none := if_neg ports
      rw [none_] at write
      cases write

theorem pageCall_startRelation (ports : entity = .interface) (member : r ∈ records) :
    PageCall sourceId records entity
      (.service (.startRelation (ownerRelation sourceId entity snapshotAt r))) where
  seen _ _ _ _ _ := rfl
  write e write := by
    subst ports
    cases write
    exact ⟨rfl, r, member, snapshotAt, Or.inr rfl⟩

theorem pageCall_other {c : Call syncService} (unseen : Unseen c) (free : c.ownerWrite? = none) :
    PageCall sourceId records entity c where
  seen _ _ _ _ _ := by rw [unseen, free]
  write e write := by
    rw [free] at write
    cases write

/-- One call while a page is written. -/
theorem behaves_pageCall {c : Call syncService} {k : c.Answer → SyncProg ε α}
    {Q : α → World syncService → Prop} (call : PageCall sourceId records entity c)
    (writable : After past (Writable sourceId owners records entity) w)
    (next : ∀ answer w', After past (Writable sourceId owners records entity) w' →
      BehavesOwned sourceId past (k answer) Q w') :
    BehavesOwned sourceId past ((Prog.perform c).bind k) Q w := by
  have owned {trace : List OwnerEvent} {e : OwnerEvent}
      (held : Writable sourceId owners records entity trace) (write : c.ownerWrite? = some e) :
      OwnedWrite sourceId trace e ∧ Writable sourceId owners records entity (trace ++ [e]) := by
    obtain ⟨ports, r, member, snapshotAt, here⟩ := call.write e write
    obtain ⟨owned, checked⟩ := (held.2 ports).write member here
    exact ⟨owned, checked.tracked, fun _ => checked⟩
  refine Prog.behaves_perform (writable.mayWrite fun trace e held write => (owned held write).1)
    fun m answer _ => next answer _ ?_
  refine writable.call (fun _ held => held) fun trace e held event => ?_
  rw [call.seen] at event
  exact (owned held event).2

variable (records) in
/-- The goroutines have records of the page. -/
def Pool.Of (pool : Pool) : Prop :=
  (∀ r ∈ pool.waiting, r ∈ records) ∧ ∀ p ∈ pool.running, p.1 ∈ records

theorem behaves_finishWrite {pool : Pool} {index : Nat} {stage : WriteStage}
    (here : pool.running[index]? = some (r, stage)) (inside : pool.Of records)
    (writable : After past (Writable sourceId owners records entity) w) :
    BehavesOwned sourceId past
      (finishWrite sourceId entity snapshotAt pool index r stage : SyncProg ε Pool)
      (fun pool' w' => pool'.Of records ∧ After past (Writable sourceId owners records entity) w')
      w := by
  have member : r ∈ records := inside.2 _ (List.mem_of_getElem? here)
  have fewer : ∀ p ∈ pool.running.eraseIdx index, p.1 ∈ records :=
    fun p left => inside.2 p (List.mem_of_mem_eraseIdx left)
  cases stage with
  | vertex =>
      refine behaves_pageCall (pageCall_other (fun _ _ _ _ _ => rfl) rfl) writable
        fun written w' writable => ?_
      split_ifs with failed ports
      · exact Prog.behaves_ret ⟨⟨inside.1, fewer⟩, writable⟩
      · refine behaves_pageCall (pageCall_startRelation ports member) writable
          fun _ w'' writable => Prog.behaves_ret ⟨⟨inside.1, fun p left => ?_⟩, writable⟩
        rcases List.mem_or_eq_of_mem_set left with old | rfl
        · exact inside.2 p old
        · exact member
      · exact Prog.behaves_ret ⟨⟨inside.1, fewer⟩, writable⟩
  | relation =>
      exact behaves_pageCall (pageCall_other (fun _ _ _ _ _ => rfl) rfl) writable
        fun written w' writable => Prog.behaves_ret ⟨⟨inside.1, fewer⟩, writable⟩

theorem behaves_takeTurn {worker : SyncWorker} {pool : Pool} (turn : PoolTurn)
    (inside : pool.Of records)
    (writable : After past (Writable sourceId owners records entity) w) :
    BehavesOwned sourceId past
      (takeTurn worker sourceId entity snapshotAt pool turn : SyncProg ε Pool)
      (fun pool' w' => pool'.Of records ∧ After past (Writable sourceId owners records entity) w')
      w := by
  cases turn with
  | launch =>
      simp only [takeTurn, launchWrite]
      split
      · exact Prog.behaves_ret ⟨inside, writable⟩
      · rename_i r waiting shape
        have inside : (∀ r' ∈ r :: waiting, r' ∈ records) ∧ ∀ p ∈ pool.running, p.1 ∈ records := by
          rw [← shape]
          exact inside
        split_ifs
        · refine behaves_pageCall (pageCall_startVertex (inside.1 r List.mem_cons_self)) writable
            fun _ w' writable => Prog.behaves_ret ⟨⟨?_, fun p member => ?_⟩, writable⟩
          · exact fun r' later => inside.1 r' (List.mem_cons_of_mem r later)
          · rcases List.mem_append.mp member with old | new
            · exact inside.2 p old
            · rw [List.mem_singleton.mp new]
              exact inside.1 r List.mem_cons_self
        · exact Prog.behaves_ret ⟨⟨by rw [shape]; exact inside.1, inside.2⟩, writable⟩
  | cut =>
      refine behaves_pageCall (pageCall_other (fun _ _ _ _ _ => rfl) rfl) writable
        fun ended w' writable => ?_
      split_ifs
      · exact Prog.behaves_ret ⟨⟨by rintro _ ⟨⟩, inside.2⟩, writable⟩
      · exact Prog.behaves_ret ⟨inside, writable⟩
  | finish index =>
      simp only [takeTurn]
      split
      · exact Prog.behaves_ret ⟨inside, writable⟩
      · rename_i here
        exact behaves_finishWrite here inside writable

/-- The goroutines write records of the page, as they may. -/
theorem behaves_poolLoop (worker : SyncWorker) (n : Nat)
    (writable : After past (Writable sourceId owners records entity) w) :
    BehavesOwned sourceId past
      (Prog.loop (poolTurn worker sourceId entity snapshotAt) n ⟨records, [], false⟩ : SyncProg ε Bool)
      (fun _ w' => After past (Writable sourceId owners records entity) w') w := by
  refine Prog.behaves_loop (fun pool w =>
    pool.Of records ∧ After past (Writable sourceId owners records entity) w) ?_ n _
      ⟨⟨fun _ member => member, nofun⟩, writable⟩
  intro pool w held
  unfold poolTurn
  split_ifs
  · exact Prog.behaves_ret held.2
  · refine behaves_pageCall (c := .service .schedule)
      (pageCall_other (fun _ _ _ _ _ => rfl) rfl) held.2 fun turn w' writable => ?_
    refine Prog.behaves_bind (Prog.behaves_mono (behaves_takeTurn turn held.1 writable) ?_)
    exact fun pool' w'' held => Prog.behaves_ret held

/-- **A page is written as it may be.** -/
theorem behaves_writeEntityPage (worker : SyncWorker)
    (writable : After past (Writable sourceId owners records entity) w) :
    BehavesOwned sourceId past (writeEntityPage worker sourceId entity snapshotAt records :
      SyncProg ε (Except WriteError Unit))
      (fun _ w' => After past (Writable sourceId owners records entity) w') w := by
  refine Prog.behaves_bind (Prog.behaves_mono (behaves_poolLoop worker _ writable)
    fun failed w' writable => ?_)
  refine Prog.behaves_bind (behaves_pageCall (c := .contextCause)
    (pageCall_other (fun _ _ _ _ _ => rfl) rfl) writable fun cause w'' writable =>
      Prog.behaves_ret ?_)
  by_cases lost : decide (cause = some Cause.leaseLost) = true
  · rw [if_pos lost]
    exact Prog.behaves_ret writable
  · rw [if_neg lost]
    refine behaves_pageCall (c := .contextErr) (pageCall_other (fun _ _ _ _ _ => rfl) rfl) writable
      fun over_ w₃ writable => ?_
    split_ifs <;> exact Prog.behaves_ret writable

end

/-! ## An execution -/

section

variable {past : List OwnerEvent} {P : List OwnerEvent → Prop} {w : World syncService} {ε α : Type}
  {worker : SyncWorker} {run : SyncRun} {source : Source} {startedAt snapshotAt : Time}
  {selection : Selection} {sourceId : String}

theorem issues_offPage {p : SyncProg ε α} (off : OffPage p) :
    p.Issues handler (MayWrite sourceId past) w :=
  Prog.issues_of_only off fun _ _ off => mayWrite_of_none (unseen_offPage off).2

theorem issues_routine {p : SyncProg ε α} (routine : Routine p) :
    p.Issues handler (MayWrite sourceId past) w :=
  issues_offPage (offPage_of_aside (aside_of_routine routine))

theorem behaves_orFail {Q : α → World syncService → Prop} {runId code : String}
    {status : SyncRunStatus} {answer : Option α} (found : ∀ a, answer = some a → Q a w) :
    BehavesOwned sourceId past (orFail runId status code answer) Q w := by
  cases answer with
  | some a => exact Prog.behaves_ret (found a rfl)
  | none => exact Prog.behaves_exitWith (issues_routine (routine_failOrCancel _ _ _))

theorem behaves_acceptPage {state : Collected} {page : EntityPage} (after : After past P w) :
    BehavesOwned sourceId past (acceptPage run selection state page) (fun _ w' =>
      (selection.entity = .interface → ∀ r ∈ page.records, r.partition = page.partition?.getD 0) ∧
        After past P w') w := by
  unfold acceptPage
  split
  · rename_i last seen accepted _
    refine Prog.behaves_ret ⟨fun ports => ?_, after⟩
    rw [ports] at accepted
    exact validateEntityPage_placed accepted
  · exact ⟨issues_routine (routine_leaveFailed _ _ _),
      Prog.contract_bind (Prog.contract_perform fun _ _ _ _ => Prog.contract_ret
        (Prog.ensures_exitWith _ _))⟩

theorem behaves_checkOwners {state : Collected} {page : EntityPage}
    (placed : selection.entity = .interface → ∀ r ∈ page.records,
      r.partition = page.partition?.getD 0)
    (tracked : After past (fun trace => OwnersTracked state.owners trace ∧
      (selection.entity = .interface → (pageLog trace).current = page.records)) w) :
    BehavesOwned source.id past (checkOwners run source selection state page) (fun owners w' =>
      After past (Writable source.id owners page.records selection.entity) w') w := by
  unfold checkOwners
  split_ifs with ports
  · refine Prog.behaves_bind (Prog.behaves_mono (behaves_validateInterfaceOwners (placed ports)
      (tracked.imp fun _ held => ⟨held.1, held.2 ports⟩)) fun owners w' checked => ?_)
    refine behaves_orFail fun owners' here => ?_
    exact (checked owners' here).imp fun _ checked => ⟨checked.tracked, fun _ => checked⟩
  · exact Prog.behaves_ret (tracked.imp fun _ held => ⟨held.1, fun here => (ports here).elim⟩)

theorem behaves_writePage {page : EntityPage} {owners : InterfaceOwners}
    (writable : After past (Writable source.id owners page.records selection.entity) w) :
    BehavesOwned source.id past (writePage worker run source selection snapshotAt page)
      (fun _ w' => After past (OwnersTracked owners) w') w := by
  refine Prog.behaves_bind (Prog.behaves_mono (behaves_writeEntityPage worker writable)
    fun written w' writable => ?_)
  match written with
  | .ok () => exact Prog.behaves_ret (writable.imp fun _ held => held.1)
  | .error .leaseLost => exact Prog.behaves_raise
  | .error .canceled =>
      exact Prog.behaves_perform (mayWrite_of_none rfl) fun _ _ _ =>
        Prog.behaves_exitWith (issues_routine (routine_cancelRun _ _ _))
  | .error .graphWrite =>
      exact Prog.behaves_perform (mayWrite_of_none rfl) fun _ _ _ =>
        Prog.behaves_exitWith (issues_routine (routine_failRun _ _ _ _))

/-- **One iteration.** -/
theorem behaves_collectPage {state : Collected} (tracked : After past (OwnersTracked state.owners) w) :
    BehavesOwned source.id past (collectPage worker run source startedAt selection snapshotAt state)
      (fun result w' => match result with
        | .inl state' => After past (OwnersTracked state'.owners) w'
        | .inr state' => After past (OwnersTracked state'.owners) w') w := by
  refine Prog.behaves_bind (Prog.behaves_mono
    (behaves_aside (aside_leaveIfCanceled _ _ _) tracked) fun _ w₁ tracked => ?_)
  refine Prog.behaves_bind (Prog.behaves_mono
    (behaves_readPage source selection.entity _ tracked) fun read w₂ tracked => ?_)
  refine Prog.behaves_bind (Prog.behaves_mono (behaves_orFail
    (Q := fun page w' => After past (fun trace => OwnersTracked state.owners trace ∧
      (selection.entity = .interface → (pageLog trace).current = page.records)) w')
    fun page here => tracked page here) fun page w₃ tracked => ?_)
  refine Prog.behaves_bind (Prog.behaves_mono (behaves_acceptPage tracked)
    fun accepted w₄ held => ?_)
  refine Prog.behaves_bind (Prog.behaves_mono (behaves_checkOwners held.1 held.2)
    fun owners w₅ writable => ?_)
  refine Prog.behaves_bind (Prog.behaves_mono (behaves_writePage writable) fun _ w₆ tracked => ?_)
  refine Prog.behaves_bind (Prog.behaves_mono
    (behaves_aside (aside_storeCursor _ _ _ _ _ _ _ _) tracked) fun cursor w₇ tracked => ?_)
  refine Prog.behaves_ret ?_
  split_ifs <;> exact tracked

theorem issues_executeClaimed (begin_ : w.ownerEvents = past) :
    (executeClaimed worker run source startedAt).Issues handler (MayWrite source.id past) w := by
  have nothing : After past (OwnersTracked ⟨[], []⟩) w :=
    ⟨[], by rw [begin_, List.append_nil], nofun, nofun⟩
  refine Prog.issues_bind_always (Prog.Behaves.issues (Q := fun _ _ => True) ?_)
    fun prepared w' => issues_offPage (offPage_of_closing (closing_publish _ _ _ _))
  refine Prog.behaves_bind (Prog.behaves_mono
    (behaves_aside (aside_selectEntity _ _ _) nothing) fun selection w₁ nothing => ?_)
  refine Prog.behaves_bind (Prog.behaves_mono
    (behaves_aside (aside_beginCollection _ _ _ _) nothing) fun cursor w₂ nothing => ?_)
  refine Prog.behaves_bind (Prog.behaves_mono (Prog.behaves_loop
    (fun state w => After past (OwnersTracked state.owners) w)
    (P := fun state w => After past (OwnersTracked state.owners) w)
    (fun state w tracked => Prog.behaves_mono (behaves_collectPage tracked)
      fun result _ held => by cases result <;> exact held) _ _ nothing) fun state w₃ tracked => ?_)
  refine Prog.behaves_bind (Prog.behaves_mono
    (behaves_aside (aside_leaveIfCanceled _ _ _) tracked) fun _ w₄ tracked => ?_)
  refine Prog.behaves_bind (Prog.behaves_mono
    (behaves_aside (aside_of_routine (routine_moveRun _ _ nofun)) tracked) fun _ w₅ tracked => ?_)
  refine Prog.behaves_bind (Prog.behaves_mono
    (behaves_aside (aside_validateCollected _ _ _ _ _) tracked) fun _ w₆ tracked => ?_)
  refine Prog.behaves_bind (Prog.behaves_mono
    (behaves_aside (aside_leaveIfCanceled _ _ _) tracked) fun _ w₇ tracked => ?_)
  refine Prog.behaves_bind (Prog.behaves_mono
    (behaves_aside (aside_of_routine (routine_moveRun _ _ nofun)) tracked) fun _ w₈ tracked => ?_)
  exact Prog.behaves_ret trivial

end

/-- **Every interface is written with its owner.**  Wherever an execution of `executeClaimed` has got,
it has kept the owners: whatever it wrote of a page, it wrote after the owner of the page was checked,
and over all pages written each partition has one owner. -/
theorem executeClaimed_owners (worker : SyncWorker) (run : SyncRun) (source : Source)
    (startedAt : Time) (script : List (Move syncService)) (start : World syncService) :
    ∃ trace, ((executeClaimed worker run source startedAt).run handler script start).2.1.ownerEvents =
        start.ownerEvents ++ trace ∧ OwnersKept source.id trace := by
  have issues : (executeClaimed worker run source startedAt).Issues handler
      (MayWrite source.id start.ownerEvents) start := issues_executeClaimed rfl
  refine Prog.issues_run (K := After start.ownerEvents (OwnersKept source.id)) ?_ issues
    ⟨[], (List.append_nil _).symm, ownersKept_nil⟩ script
  intro c m w' may kept
  exact OwnersKept.call may kept

end UnifiedInfraTopology
