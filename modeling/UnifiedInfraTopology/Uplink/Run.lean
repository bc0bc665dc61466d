import UnifiedInfraTopology.Adapter.Uplink
import UnifiedInfraTopology.Lib.Contract
import UnifiedInfraTopology.Model.Relation

/-!
# `ServerUplinkWorker.Run`

The worker of `server_uplink.go`: a first pass collects the links of all pages, the endpoints of each
link are read in the graph, the relations are written, and a second pass checks that the source has
not changed.

The collector, the graph and the context answer calls (`UplinkCall`); each answer may be an error.
-/

namespace UnifiedInfraTopology

open Lib

inductive UplinkCall where
  /-- `ctx.Err()`. -/
  | contextErr
  /-- `CollectServerUplinkPage`. -/
  | collectPage (start : Int)
  | vertexExists (identity : EntityIdentity)
  | serverUplinkEndpointsValid (server tor port : EntityIdentity)
  | upsertRelation (relation : Relation)
deriving DecidableEq

/-- Answers; `none` is an error. -/
abbrev UplinkCall.Answer : UplinkCall → Type
  | contextErr => Bool
  | collectPage _ => Except CmdbError UplinkPage
  | vertexExists _ => Option Bool
  | serverUplinkEndpointsValid _ _ _ => Option Bool
  | upsertRelation _ => Option Unit

/-- The errors of a run, with their texts. -/
inductive UplinkError where
  | context
  | collector (e : CmdbError)
  | model (e : ModelError)
  | message (text : String)
  | verification (e : UplinkError)
deriving DecidableEq

structure ServerUplinkResult where
  edges : Int
  servers : Int
  skipped : Int
  missingEndpoints : Int
deriving DecidableEq

/-- The worker: whether it has a collector and a graph, and whether the graph reads ownership. -/
structure ServerUplinkWorker where
  complete : Bool
  readsOwnership : Bool

structure ServerUplinkCandidate where
  identity : RelationIdentity
  tor : String
deriving DecidableEq

namespace ServerUplink

abbrev UplinkRun (ε α : Type) : Type := Prog UplinkCall UplinkCall.Answer ε α

/-! ## `collect` -/

/-- What a pass keeps between the pages; `total` is negative before the first one. -/
structure Pass where
  start : Int
  total : Int
  skipped : Int
  last : Int64
  identities : List String
  owners : TextMap
  serversSeen : List String
  candidates : List ServerUplinkCandidate
  /-- The bytes that the digest has been given. -/
  digested : List UInt8

/-- What a pass that fails returns. -/
structure PassFailure where
  servers : Int
  skipped : Int
  error : UplinkError
deriving DecidableEq

/-- What a pass returns. -/
structure Collection where
  digest : String
  candidates : List ServerUplinkCandidate
  servers : Int
  skipped : Int
deriving DecidableEq

def Pass.start_ : Pass := ⟨0, -1, 0, 0, [], .empty, [], [], []⟩

/-- The JSON text of the header of a page. -/
def headerText (start : Int) (page : UplinkPage) : List Char :=
  '[' :: Json.printItems ']' id [Json.printInt start, Json.printInt page.nextOffset,
    Json.printInt page.total, (if page.done then "true" else "false").toList,
    Json.printInt page.skipped, Json.printInt page.firstInstanceId.toInt,
    Json.printInt page.lastInstanceId.toInt, Json.printString page.sourceDigest]

/-- The SN of a server, among those seen. -/
def acceptServer (seen : List String) (sn : String) : Except UplinkError (List String) :=
  if sn = "" ∨ sn ∈ seen then .error (.message "server uplink duplicate server SN across pages")
  else .ok (sn :: seen)

/-- One link of a page. -/
def acceptLink (retain : Bool) (targets : TextMap) (pass : Pass) (identity : RelationIdentity) :
    Except UplinkError Pass :=
  match identity.id with
  | .error e => .error (.model e)
  | .ok id =>
      let port := identity.target.stableId
      let tor := targets.get port
      if tor = "" then .error (.message "server uplink missing ToR owner metadata")
      else if Cmdb.ownedElsewhere pass.owners port tor then
        .error (.message "server uplink interface has conflicting ToR owners")
      else
        let pass := { pass with
          owners := pass.owners.put (port, tor)
          digested := pass.digested ++ utf8 (jsonStrings [id, tor]) }
        if id ∈ pass.identities then .ok pass
        else
          .ok { pass with
            identities := id :: pass.identities
            candidates :=
              if retain then pass.candidates ++ [⟨identity, tor⟩] else pass.candidates }

/-- The page does not continue the pages before it, of which there are `total` servers. -/
def misplaced (pass : Pass) (total : Int) (page : UplinkPage) : Bool :=
  decide (total ≠ page.total) || decide (page.nextOffset < pass.start) ||
    decide (total < page.nextOffset) || (!page.done && decide (page.nextOffset = pass.start)) ||
    page.done != decide (page.nextOffset = total)

/-- The servers of the page do not follow those before it. -/
def unordered (pass : Pass) (page : UplinkPage) : Bool :=
  decide (pass.start < page.nextOffset) && (decide (page.firstInstanceId ≤ pass.last) ||
    decide (page.lastInstanceId < page.firstInstanceId))

/-- The number of servers: the first page says it. -/
def Pass.counted (pass : Pass) (page : UplinkPage) : Int :=
  if pass.total < 0 then page.total else pass.total

/-- The pass with the servers and the header of a page, before its links. -/
def Pass.withServers (pass : Pass) (page : UplinkPage) (serversSeen : List String) : Pass :=
  { pass with
    total := pass.counted page
    serversSeen
    last := if pass.start < page.nextOffset then page.lastInstanceId else pass.last
    skipped := pass.skipped + page.skipped
    digested := pass.digested ++ utf8 (String.ofList (headerText pass.start page)) }

/-- One page of a pass. -/
def acceptPage (retain : Bool) (pass : Pass) (page : UplinkPage) : Except PassFailure Pass :=
  let total := pass.counted page
  if misplaced pass total page then
    .error ⟨total, pass.skipped, .message "server uplink source pagination changed"⟩
  else if unordered pass page then
    .error ⟨total, pass.skipped,
      .message "server uplink server inst_id is not strictly increasing across pages"⟩
  else
    match page.serverSNs.foldlM acceptServer pass.serversSeen with
    | .error e => .error ⟨total, pass.skipped, e⟩
    | .ok serversSeen =>
        let pass := pass.withServers page serversSeen
        match page.links.foldlM (acceptLink retain page.targets) pass with
        | .error e => .error ⟨total, pass.skipped, e⟩
        | .ok pass => .ok { pass with start := page.nextOffset }

/-- A page that is accepted: its servers and its links are. -/
theorem acceptPage_ok_iff {retain : Bool} {pass pass' : Pass} {page : UplinkPage} :
    acceptPage retain pass page = .ok pass' ↔
      misplaced pass (pass.counted page) page = false ∧ unordered pass page = false ∧
        ∃ seen linked, page.serverSNs.foldlM acceptServer pass.serversSeen = .ok seen ∧
          page.links.foldlM (acceptLink retain page.targets) (pass.withServers page seen) =
            .ok linked ∧ pass' = { linked with start := page.nextOffset } := by
  unfold acceptPage
  dsimp only
  constructor
  · intro ok
    obtain ⟨placed, ok⟩ := check_ok ok
    obtain ⟨sorted, ok⟩ := check_ok ok
    refine ⟨Bool.eq_false_of_not_eq_true placed, Bool.eq_false_of_not_eq_true sorted, ?_⟩
    cases servers : page.serverSNs.foldlM acceptServer pass.serversSeen with
    | error e =>
        rw [servers] at ok
        cases ok
    | ok seen =>
        rw [servers] at ok
        dsimp only at ok
        cases links : page.links.foldlM (acceptLink retain page.targets)
            (pass.withServers page seen) with
        | error e =>
            rw [links] at ok
            cases ok
        | ok linked =>
            rw [links] at ok
            cases ok
            exact ⟨seen, linked, rfl, links, rfl⟩
  · rintro ⟨placed, sorted, seen, linked, servers, links, rfl⟩
    simp only [placed, sorted, servers, links, Bool.false_eq_true, ↓reduceIte]

/-- What a pass returns after its last page. -/
def Pass.collection (pass : Pass) : Collection where
  digest := String.ofList (hexEncode (sha256 pass.digested))
  candidates := pass.candidates
  servers := pass.total
  skipped := pass.skipped

/-- Read one page: the pass goes on, or ends with the last page. -/
def collectNext (retain : Bool) (pass : Pass) : UplinkRun PassFailure (Pass ⊕ Collection) := do
  let answer ← Prog.perform (.collectPage pass.start)
  match (answer : Except CmdbError UplinkPage) with
  | .error e => .raise ⟨max pass.total 0, pass.skipped, .collector e⟩
  | .ok page =>
      match acceptPage retain pass page with
      | .error failure => .raise failure
      | .ok pass => do
          let done ← Prog.perform .contextErr
          if done then .raise ⟨pass.total, pass.skipped, .context⟩
          else if page.done then return .inr pass.collection
          else return .inl pass

/-- `collect`, for at most `n` pages. -/
def collect (retain : Bool) (n : Nat) : UplinkRun PassFailure Collection :=
  Prog.loop (collectNext retain) n .start_

/-! ## `Run` -/

/-- What the reads of the graph have shown, and the relations to be written. -/
structure Checks where
  result : ServerUplinkResult
  existing : Table (EntityIdentity × Bool) Prod.fst
  checked : List EntityIdentity
  valid : List RelationIdentity

abbrev RunError : Type := ServerUplinkResult × UplinkError

/-- Read one endpoint, unless it was read before; the flag says whether one was missing. -/
def checkEndpoint (state : Checks × Bool) (endpoint : EntityIdentity) :
    UplinkRun RunError (Checks × Bool) := do
  let (checks, missing) := state
  let checks ←
    if endpoint ∈ checks.checked then pure checks
    else do
      let answer ← Prog.perform (.vertexExists endpoint)
      match (answer : Option Bool) with
      | none => .raise (checks.result, .message "server uplink endpoint read failed")
      | some exists_ => pure { checks with
          checked := endpoint :: checks.checked
          existing := checks.existing.put (endpoint, exists_) }
  return (checks, missing || !(checks.existing.find? endpoint).any (·.2))

/-- Count a candidate that cannot be written. -/
def Checks.miss (checks : Checks) : Checks :=
  { checks with result := { checks.result with
      skipped := checks.result.skipped + 1
      missingEndpoints := checks.result.missingEndpoints + 1 } }

/-- The ToR of a candidate, as a vertex. -/
def torIdentity (source : Source) (tor : String) : EntityIdentity := ⟨source.id, .device, tor⟩

/-- Check the endpoints and the ownership of one candidate. -/
def checkCandidate (source : Source) (checks : Checks) (candidate : ServerUplinkCandidate) :
    UplinkRun RunError Checks := do
  let done ← Prog.perform .contextErr
  if done then .raise (checks.result, .context)
  else do
    let identity := candidate.identity
    let tor := torIdentity source candidate.tor
    let (checks, missing) ←
      [identity.origin, identity.target, tor].foldlM checkEndpoint (checks, false)
    if missing then return checks.miss
    else do
      let answer ← Prog.perform (.serverUplinkEndpointsValid identity.origin tor identity.target)
      match (answer : Option Bool) with
      | none => .raise (checks.result, .message "server uplink ownership read failed")
      | some false => return checks.miss
      | some true => return { checks with valid := checks.valid ++ [identity] }

/-- The relation that is written for a link. -/
def relationOf (snapshot : Time) (identity : RelationIdentity) : Relation :=
  ⟨identity, .empty, snapshot, snapshot⟩

/-- Write one relation. -/
def writeRelation (snapshot : Time) (result : ServerUplinkResult) (identity : RelationIdentity) :
    UplinkRun RunError ServerUplinkResult := do
  let done ← Prog.perform .contextErr
  if done then .raise (result, .context)
  else
    let relation := relationOf snapshot identity
    match normalizeRelation relation with
    | .error e => .raise (result, .model e)
    | .ok _ => do
        let answer ← Prog.perform (.upsertRelation relation)
        match (answer : Option Unit) with
        | none => .raise (result,
            .message "server uplink edge write failed (earlier edges may persist)")
        | some () => return { result with edges := result.edges + 1 }

/-- The pass again, to see that the source is the same. -/
def verify (n : Nat) (first : Collection) (result : ServerUplinkResult) :
    UplinkRun RunError ServerUplinkResult := do
  let second ← Prog.reify (collect false n)
  match second with
  | .error failure => .raise (result, .verification failure.error)
  | .ok second =>
      if second.digest ≠ first.digest ∨ second.servers ≠ first.servers ∨
          second.skipped ≠ first.skipped then
        .raise (result, .message "server uplink source changed between passes (written edges persist)")
      else do
        let done ← Prog.perform .contextErr
        if done then .raise (result, .context) else return result

/-- `Run`; a pass reads at most `n` pages. -/
def run (worker : ServerUplinkWorker) (source : Source) (snapshot : Time) (n : Nat) :
    UplinkRun RunError ServerUplinkResult := do
  let done ← Prog.perform .contextErr
  if done then .raise (⟨0, 0, 0, 0⟩, .context)
  else if ¬worker.complete ∨ snapshot.isZero then
    .raise (⟨0, 0, 0, 0⟩,
      .message "server uplink requires collector, graph and nonzero snapshot")
  else do
    let first ← Prog.reify (collect true n)
    match first with
    | .error failure => .raise (⟨0, failure.servers, failure.skipped, 0⟩, failure.error)
    | .ok first =>
        let result : ServerUplinkResult := ⟨0, first.servers, first.skipped, 0⟩
        if ¬worker.readsOwnership then
          .raise (result, .message "server uplink graph cannot verify ToR ownership")
        else do
          let checks ← first.candidates.foldlM (checkCandidate source) ⟨result, .empty, [], []⟩
          let result ← checks.valid.foldlM (writeRelation snapshot) checks.result
          verify n first result

end ServerUplink

end UnifiedInfraTopology
