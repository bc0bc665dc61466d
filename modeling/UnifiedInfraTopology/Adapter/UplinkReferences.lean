import UnifiedInfraTopology.Adapter.Uplink
import UnifiedInfraTopology.Lib.Tracking

/-!
# What a page of servers says

The servers of a page and their references to ports, as a list of facts, without the maps and the
cache of the collector: `serverReferences`.  A server fits behind the servers before it if its instance
ID is larger and its SN is new; a link fits if no link before it gives the port to another ToR
(`Fits`).

`tracks_collectServerUplinkPage`: the collector returns a page exactly when its facts are there and
fit, and the page tells what they say (`PageTells`).
-/

namespace UnifiedInfraTopology

open Lib

/-- A link of a server to a port of a ToR. -/
structure UplinkLink where
  sn : String
  uuid : String
  tor : String
deriving DecidableEq

/-- A fact of a page: the next server, or a reference of it, which is skipped or a link. -/
inductive UplinkFact where
  | server (inst : Int64) (sn : String)
  | skip
  | link (l : UplinkLink)

namespace UplinkFact

def inst? : UplinkFact → Option Int64
  | server inst _ => some inst
  | _ => none

def sn? : UplinkFact → Option String
  | server _ sn => some sn
  | _ => none

def link? : UplinkFact → Option UplinkLink
  | link l => some l
  | _ => none

def skip? : UplinkFact → Option Unit
  | skip => some ()
  | _ => none

end UplinkFact

namespace Cmdb

section Facts

variable (facts : List UplinkFact)

def instsOf : List Int64 := facts.filterMap (·.inst?)

def snsOf : List String := facts.filterMap (·.sn?)

def linksOf : List UplinkLink := facts.filterMap (·.link?)

def skipsOf : Int := (facts.filterMap (·.skip?)).length

/-- The instance ID of the last server; zero before the first one. -/
def lastOf : Int64 := (instsOf facts).getLast?.getD 0

/-- A fact that fits those before it. -/
def Fits : UplinkFact → Prop
  | .server inst sn => lastOf facts < inst ∧ sn ∉ snsOf facts
  | .skip => True
  | .link l => ∀ l' ∈ linksOf facts, l'.uuid = l.uuid → l'.tor = l.tor

end Facts

section Concat

variable (facts : List UplinkFact) (inst : Int64) (sn : String) (l : UplinkLink)

@[simp] theorem instsOf_server : instsOf (facts ++ [.server inst sn]) = instsOf facts ++ [inst] :=
  List.filterMap_append

@[simp] theorem instsOf_skip : instsOf (facts ++ [.skip]) = instsOf facts := by
  simp [instsOf, UplinkFact.inst?]

@[simp] theorem instsOf_link : instsOf (facts ++ [.link l]) = instsOf facts := by
  simp [instsOf, UplinkFact.inst?]

@[simp] theorem snsOf_server : snsOf (facts ++ [.server inst sn]) = snsOf facts ++ [sn] :=
  List.filterMap_append

@[simp] theorem snsOf_skip : snsOf (facts ++ [.skip]) = snsOf facts := by
  simp [snsOf, UplinkFact.sn?]

@[simp] theorem snsOf_link : snsOf (facts ++ [.link l]) = snsOf facts := by
  simp [snsOf, UplinkFact.sn?]

@[simp] theorem linksOf_server : linksOf (facts ++ [.server inst sn]) = linksOf facts := by
  simp [linksOf, UplinkFact.link?]

@[simp] theorem linksOf_skip : linksOf (facts ++ [.skip]) = linksOf facts := by
  simp [linksOf, UplinkFact.link?]

@[simp] theorem linksOf_link : linksOf (facts ++ [.link l]) = linksOf facts ++ [l] :=
  List.filterMap_append

@[simp] theorem skipsOf_server : skipsOf (facts ++ [.server inst sn]) = skipsOf facts := by
  simp [skipsOf, UplinkFact.skip?]

@[simp] theorem skipsOf_skip : skipsOf (facts ++ [.skip]) = skipsOf facts + 1 := by
  simp [skipsOf, UplinkFact.skip?]

@[simp] theorem skipsOf_link : skipsOf (facts ++ [.link l]) = skipsOf facts := by
  simp [skipsOf, UplinkFact.skip?]

@[simp] theorem lastOf_server : lastOf (facts ++ [.server inst sn]) = inst := by
  simp [lastOf]

@[simp] theorem lastOf_skip : lastOf (facts ++ [.skip]) = lastOf facts := by
  simp [lastOf]

@[simp] theorem lastOf_link : lastOf (facts ++ [.link l]) = lastOf facts := by
  simp [lastOf]

end Concat

/-! ## Facts in two parts -/

section Cross

variable {before facts : List UplinkFact}

/-- The facts fit behind others, apart from what they have among themselves. -/
structure Crosses (before facts : List UplinkFact) : Prop where
  later : ∀ inst ∈ (instsOf facts).head?, lastOf before < inst
  fresh : ∀ sn ∈ snsOf facts, sn ∉ snsOf before
  owners : ∀ l ∈ linksOf facts, ∀ l' ∈ linksOf before, l'.uuid = l.uuid → l'.tor = l.tor

theorem instsOf_append : instsOf (before ++ facts) = instsOf before ++ instsOf facts :=
  List.filterMap_append

theorem snsOf_append : snsOf (before ++ facts) = snsOf before ++ snsOf facts :=
  List.filterMap_append

theorem linksOf_append : linksOf (before ++ facts) = linksOf before ++ linksOf facts :=
  List.filterMap_append

theorem skipsOf_append : skipsOf (before ++ facts) = skipsOf before + skipsOf facts := by
  simp [skipsOf]

theorem lastOf_append :
    lastOf (before ++ facts) = if instsOf facts = [] then lastOf before else lastOf facts := by
  unfold lastOf
  rw [instsOf_append]
  split
  · rename_i none_
    rw [none_, List.append_nil]
  · rename_i some_
    rw [List.getLast?_append_of_ne_nil _ some_]

theorem Crosses.of_append {t : UplinkFact} (crosses : Crosses before (facts ++ [t])) :
    Crosses before facts where
  later inst first := by
    refine crosses.later inst ?_
    rw [instsOf_append, List.head?_append, first]
    rfl
  fresh sn member := crosses.fresh sn (by
    rw [snsOf_append]
    exact List.mem_append_left _ member)
  owners l member := crosses.owners l (by
    rw [linksOf_append]
    exact List.mem_append_left _ member)

/-- A further server, behind facts that fit as a whole. -/
theorem fits_append_server (nonneg : 0 ≤ lastOf before) {inst : Int64} {sn : String}
    (crosses : Crosses before facts) :
    Fits (before ++ facts) (.server inst sn) ↔
      Fits facts (.server inst sn) ∧ Crosses before (facts ++ [.server inst sn]) := by
  simp only [Fits, lastOf_append, snsOf_append, List.mem_append, not_or]
  constructor
  · rintro ⟨later, fresh, fresh'⟩
    refine ⟨⟨?_, fresh'⟩, ?_, ?_, ?_⟩
    · split at later
      · rename_i none_
        rw [lastOf, none_]
        exact Int64.lt_of_le_of_lt nonneg later
      · exact later
    · intro first member
      rw [instsOf_server] at member
      split at later
      · rename_i none_
        rw [none_] at member
        cases member
        exact later
      · rename_i some_
        rw [List.head?_append_of_ne_nil _ some_] at member
        exact crosses.later first member
    · intro other member
      rw [snsOf_server, List.mem_append, List.mem_singleton] at member
      rcases member with old | rfl
      · exact crosses.fresh other old
      · exact fresh
    · rw [linksOf_server]
      exact crosses.owners
  · rintro ⟨⟨later, fresh'⟩, whole⟩
    refine ⟨?_, ?_, fresh'⟩
    · split
      · rename_i none_
        exact whole.later inst (by rw [instsOf_server, none_]; rfl)
      · exact later
    · exact whole.fresh sn (by rw [snsOf_server]; exact List.mem_append_right _ List.mem_cons_self)

/-- A further fact, behind facts that fit as a whole. -/
theorem fits_append (nonneg : 0 ≤ lastOf before) (crosses : Crosses before facts) (t : UplinkFact) :
    Fits (before ++ facts) t ↔ Fits facts t ∧ Crosses before (facts ++ [t]) := by
  cases t with
  | server inst sn => exact fits_append_server nonneg crosses
  | skip =>
      refine ⟨fun _ => ⟨trivial, ?_⟩, fun _ => trivial⟩
      exact ⟨by simpa using crosses.later, by simpa using crosses.fresh,
        by simpa using crosses.owners⟩
  | link l =>
      simp only [Fits, linksOf_append, List.mem_append]
      constructor
      · intro agree
        refine ⟨fun l' member => agree l' (.inr member), ?_, ?_, fun l₁ member l' old => ?_⟩
        · simpa using crosses.later
        · simpa using crosses.fresh
        · rw [linksOf_link, List.mem_append, List.mem_singleton] at member
          rcases member with here | rfl
          · exact crosses.owners l₁ here l' old
          · exact agree l' (.inl old)
      · rintro ⟨here, whole⟩ l' (old | new)
        · refine whole.owners l ?_ l' old
          rw [linksOf_link]
          exact List.mem_append_right _ List.mem_cons_self
        · exact here l' new

/-- Facts fit behind others when they fit among themselves and behind the others as a whole. -/
theorem accepted_iff_crosses (nonneg : 0 ≤ lastOf before) :
    Accepted Fits before facts ↔ Accepted Fits [] facts ∧ Crosses before facts := by
  induction facts using List.reverseRecOn with
  | nil =>
      refine ⟨fun _ => ⟨trivial, ?_⟩, fun _ => trivial⟩
      exact ⟨fun _ first => (Option.not_mem_none _ first).elim,
        fun _ member => (List.not_mem_nil member).elim,
        fun _ member => (List.not_mem_nil member).elim⟩
  | append_singleton facts t ih =>
      rw [accepted_append, accepted_append, ih, List.nil_append]
      constructor
      · rintro ⟨⟨accepted, crosses⟩, fits, -⟩
        obtain ⟨here, whole⟩ := (fits_append nonneg crosses t).mp fits
        exact ⟨⟨accepted, here, trivial⟩, whole⟩
      · rintro ⟨⟨accepted, fits, -⟩, whole⟩
        have crosses := whole.of_append
        exact ⟨⟨accepted, crosses⟩, (fits_append nonneg crosses t).mpr ⟨fits, whole⟩, trivial⟩

/-- The SNs of facts that fit are distinct. -/
theorem snsOf_nodup (accepted : Accepted Fits [] facts) : (snsOf facts).Nodup := by
  induction facts using List.reverseRecOn with
  | nil => exact List.nodup_nil
  | append_singleton facts t ih =>
      obtain ⟨sofar, fits, -⟩ := accepted_append.mp accepted
      cases t with
      | server inst sn =>
          rw [snsOf_server, List.nodup_append]
          refine ⟨ih sofar, List.nodup_singleton sn, fun a member b single => ?_⟩
          rintro rfl
          cases List.mem_singleton.mp single
          exact fits.2 member
      | skip => simpa using ih sofar
      | link l => simpa using ih sofar

/-- The last instance ID of facts that fit is the largest. -/
theorem le_lastOf (accepted : Accepted Fits [] facts) : ∀ inst ∈ instsOf facts, inst ≤ lastOf facts := by
  induction facts using List.reverseRecOn with
  | nil => exact fun _ member => (List.not_mem_nil member).elim
  | append_singleton facts t ih =>
      obtain ⟨sofar, fits, -⟩ := accepted_append.mp accepted
      cases t with
      | server inst sn =>
          intro other member
          rw [instsOf_server, List.mem_append, List.mem_singleton] at member
          rw [lastOf_server]
          rcases member with old | rfl
          · exact Int64.le_of_lt (Int64.lt_of_le_of_lt (ih sofar other old) fits.1)
          · exact Int64.le_refl _
      | skip => simpa using ih sofar
      | link l => simpa using ih sofar

end Cross

/-! ## The facts of the items -/

/-- What a name of an entry refers to. -/
def nameFact (sn tor : String) (ports : TextMap) (name : Option String) : UplinkFact :=
  let uuid := ports.get (trimmedName name)
  if trimmedName name = "" ∨ uuid = "" then .skip else .link ⟨sn, uuid, tor⟩

section Items

variable (client : UplinkClient) (cfg : CmdbConfig)

/-- The references of an entry. -/
def entryFacts (sn : String) (entry : Json.Value) : Except CmdbError (List UplinkFact) := do
  let entry ← uplinkEntry "" "" entry
  if entry.tor = "" ∨ entry.names = [] then .ok [.skip]
  else do
    let ports ← collectUplinkToRPorts client cfg entry.tor
    .ok (entry.names.map (nameFact sn entry.tor ports))

/-- A server and its references. -/
def serverFacts (item : RawItem) : Except CmdbError (List UplinkFact) := do
  let row ← serverRow item
  if row.category ≠ 52 ∨ row.sn = "" then .error (.record "")
  else do
    let entries ← rawItems item "server_tor_ports" ""
    let facts ← collectAll (entryFacts client cfg row.sn) entries
    return .server row.instId row.sn :: facts

/-- The servers of a page and their references. -/
def pageFacts (raw : UplinkData) : Except CmdbError (List UplinkFact) :=
  collectAll (serverFacts client cfg) raw.info

end Items

/-! ## Owners and caches -/

/-- The map gives the port of every link its ToR. -/
def Owns (owners : TextMap) (links : List UplinkLink) : Prop :=
  ∀ uuid tor, owners.find? uuid = some (uuid, tor) ↔ ∃ l ∈ links, l.uuid = uuid ∧ l.tor = tor

theorem owns_nil : Owns .empty [] := fun uuid tor => by simp

section Owns

variable {owners : TextMap} {links : List UplinkLink}

theorem Owns.elsewhere (owns : Owns owners links) (l : UplinkLink) :
    ownedElsewhere owners l.uuid l.tor = true ↔ ¬∀ l' ∈ links, l'.uuid = l.uuid → l'.tor = l.tor := by
  constructor
  · intro elsewhere agree
    obtain ⟨⟨uuid, tor⟩, found, other⟩ := (Option.any_eq_true _ _).mp elsewhere
    cases Table.key_of_find? found
    obtain ⟨l', member, same, rfl⟩ := (owns _ _).mp found
    exact bne_iff_ne.mp other (agree l' member same)
  · intro disagree
    push Not at disagree
    obtain ⟨l', member, same, other⟩ := disagree
    have found := (owns l.uuid l'.tor).mpr ⟨l', member, same, rfl⟩
    exact (Option.any_eq_true _ _).mpr ⟨_, found, bne_iff_ne.mpr other⟩

theorem Owns.put (owns : Owns owners links) {l : UplinkLink}
    (fits : ∀ l' ∈ links, l'.uuid = l.uuid → l'.tor = l.tor) :
    Owns (owners.put (l.uuid, l.tor)) (links ++ [l]) := by
  intro uuid tor
  rw [Table.find?_put]
  constructor
  · intro found
    split at found
    · cases found
      exact ⟨l, List.mem_append_right _ List.mem_cons_self, rfl, rfl⟩
    · obtain ⟨l', member, same⟩ := (owns uuid tor).mp found
      exact ⟨l', List.mem_append_left _ member, same⟩
  · rintro ⟨l', member, rfl, rfl⟩
    rcases List.mem_append.mp member with old | new
    · split
      · rename_i same
        rw [fits l' old same.symm]
        exact congrArg (fun uuid => some (uuid, l.tor)) same
      · exact (owns _ _).mpr ⟨l', old, rfl, rfl⟩
    · cases List.mem_singleton.mp new
      exact if_pos rfl

theorem Owns.get (owns : Owns owners links) {l : UplinkLink} (member : l ∈ links) :
    owners.get l.uuid = l.tor := by
  rw [TextMap.get, (owns l.uuid l.tor).mpr ⟨l, member, rfl, rfl⟩]
  rfl

end Owns

/-- A cache that holds what the function returns. -/
def Memoized {α : Type} (compute : String → Except CmdbError α) (cache : Cache α) : Prop :=
  ∀ k p, cache.find? k = some p → compute k = .ok p.2

theorem memoized_empty {α : Type} (compute : String → Except CmdbError α) :
    Memoized compute .empty := fun _ _ found => by cases found

/-- A cache does not change what is computed. -/
theorem agrees_cached {α : Type} {compute : String → Except CmdbError α} {cache : Cache α}
    (memoized : Memoized compute cache) (k : String) :
    Agrees (fun value p => p.1 = value ∧ Memoized compute p.2) (compute k)
      (cached compute cache k) := by
  unfold cached
  cases found : cache.find? k with
  | some p =>
      rw [memoized k p found]
      exact .ok ⟨rfl, memoized⟩
  | none =>
      cases computed : compute k with
      | error e => exact .error e e
      | ok value =>
          refine .ok ⟨rfl, fun k' p found' => ?_⟩
          rw [Table.find?_put] at found'
          split at found'
          · rename_i same
            cases found'
            exact same ▸ computed
          · exact memoized k' p found'

/-! ## Reading the entries -/

section Texts

variable (badEntry badPorts badEntry' badPorts' : String)

/-- The texts of the errors make no difference to what is read. -/
theorem agrees_rawItems (item : RawItem) (field : String) :
    Agrees (· = ·) (rawItems item field badPorts) (rawItems item field badPorts') := by
  unfold rawItems
  split
  · exact .ok rfl
  · exact .ok rfl
  · exact .ok rfl
  · exact .error _ _

theorem agrees_uplinkEntry (entry : Json.Value) :
    Agrees (· = ·) (uplinkEntry badEntry badPorts entry)
      (uplinkEntry badEntry' badPorts' entry) := by
  have members : Agrees (· = ·) (rawMembers badEntry entry) (rawMembers badEntry' entry) := by
    unfold rawMembers
    split
    · exact .ok rfl
    · exact .ok rfl
    · exact .error _ _
  have text : ∀ value, Agrees (· = ·) (rawText badPorts value) (rawText badPorts' value) := by
    intro value
    unfold rawText
    split
    · exact .ok rfl
    · exact .ok rfl
    · exact .error _ _
  unfold uplinkEntry
  refine members.bind fun target target' same => ?_
  subst same
  refine (Agrees.refl (uplinkText target "sn")).bind fun tor tor' same => ?_
  refine (agrees_rawItems badPorts badPorts' target "ports").bind fun items items' listed => ?_
  subst same listed
  refine (Agrees.mapM items text).bind fun names names' read => ?_
  subst read
  exact .ok rfl

end Texts

/-! ## What the page tells -/

/-- What the page says, while it is being filled and at the end. -/
structure PageTells (source : Source) (start : Int) (raw : UplinkData) (facts : List UplinkFact)
    (page : UplinkPage) : Prop where
  links : page.links = (linksOf facts).map fun l => uplinkIdentity source l.sn l.uuid
  owners : Owns page.targets (linksOf facts)
  skipped : page.skipped = skipsOf facts
  first : page.firstInstanceId = (instsOf facts).head?.getD 0
  last : page.lastInstanceId = lastOf facts
  servers : page.serverSNs = snsOf facts
  positive : ∀ inst ∈ instsOf facts, 0 < inst
  identified : ∀ sn ∈ snsOf facts, sn ≠ ""
  named : ∀ l ∈ linksOf facts, l.sn ≠ "" ∧ l.uuid ≠ "" ∧ l.tor ≠ ""
  nextOffset : page.nextOffset = start + raw.size
  total : page.total = raw.count
  done : page.done = (start + raw.size == raw.count)

/-- What the page and the local maps say. -/
structure ScanTells (client : UplinkClient) (cfg : CmdbConfig) (source : Source) (start : Int)
    (raw : UplinkData) (facts : List UplinkFact) (scan : UplinkScan) : Prop where
  page : PageTells source start raw facts scan.page
  seen : ∀ sn, sn ∈ scan.seenServers ↔ sn ∈ snsOf facts
  cache : Memoized (collectUplinkToRPorts client cfg) scan.cache

theorem scanTells_empty {client : UplinkClient} {cfg : CmdbConfig} {source : Source} {start : Int}
    {raw : UplinkData} : ScanTells client cfg source start raw [] ⟨emptyPage start raw, .empty, []⟩ where
  page := {
    links := rfl
    owners := owns_nil
    skipped := rfl
    first := rfl
    last := rfl
    servers := rfl
    positive := fun _ member => (List.not_mem_nil member).elim
    identified := fun _ member => (List.not_mem_nil member).elim
    named := fun _ member => (List.not_mem_nil member).elim
    nextOffset := rfl
    total := rfl
    done := rfl }
  seen _ := Iff.rfl
  cache := memoized_empty _

section Page

variable {client : UplinkClient} {cfg : CmdbConfig} {source : Source} {start : Int}
  {raw : UplinkData} {facts : List UplinkFact} {page : UplinkPage} {scan : UplinkScan}

theorem PageTells.skip (tells : PageTells source start raw facts page) :
    PageTells source start raw (facts ++ [.skip]) { page with skipped := page.skipped + 1 } where
  links := by simpa using tells.links
  owners := by simpa using tells.owners
  skipped := by simp [tells.skipped]
  first := by simpa using tells.first
  last := by simpa using tells.last
  servers := by simpa using tells.servers
  positive := by simpa using tells.positive
  identified := by simpa using tells.identified
  named := by simpa using tells.named
  nextOffset := tells.nextOffset
  total := tells.total
  done := tells.done

theorem PageTells.link (tells : PageTells source start raw facts page) {l : UplinkLink}
    (fits : ∀ l' ∈ linksOf facts, l'.uuid = l.uuid → l'.tor = l.tor)
    (named : l.sn ≠ "" ∧ l.uuid ≠ "" ∧ l.tor ≠ "") :
    PageTells source start raw (facts ++ [.link l]) { page with
      targets := page.targets.put (l.uuid, l.tor)
      links := page.links ++ [uplinkIdentity source l.sn l.uuid] } where
  links := by simp [tells.links]
  owners := by simpa using tells.owners.put fits
  skipped := by simpa using tells.skipped
  first := by simpa using tells.first
  last := by simpa using tells.last
  servers := by simpa using tells.servers
  positive := by simpa using tells.positive
  identified := by simpa using tells.identified
  named l' member := by
    rw [linksOf_link, List.mem_append, List.mem_singleton] at member
    rcases member with old | rfl
    · exact tells.named l' old
    · exact named
  nextOffset := tells.nextOffset
  total := tells.total
  done := tells.done

/-- The last instance ID is not negative. -/
theorem lastOf_nonneg (positive : ∀ inst ∈ instsOf facts, 0 < inst) : 0 ≤ lastOf facts := by
  unfold lastOf
  cases last : (instsOf facts).getLast? with
  | none => exact Int64.le_refl 0
  | some inst => exact Int64.le_of_lt (positive inst (List.mem_of_getLast? last))

theorem PageTells.server (tells : PageTells source start raw facts page) {inst : Int64} {sn : String}
    (fits : Fits facts (.server inst sn)) (identified : sn ≠ "") :
    PageTells source start raw (facts ++ [.server inst sn]) { page with
      firstInstanceId := if page.firstInstanceId = 0 then inst else page.firstInstanceId
      lastInstanceId := inst
      serverSNs := page.serverSNs ++ [sn] } where
  links := by simpa using tells.links
  owners := by simpa using tells.owners
  skipped := by simpa using tells.skipped
  first := by
    rw [instsOf_server, tells.first]
    cases insts : instsOf facts with
    | nil => rfl
    | cons head rest =>
        have positive := tells.positive head (insts ▸ List.mem_cons_self)
        rw [List.head?_cons, Option.getD_some, if_neg (Int64.ne_of_lt positive).symm]
        rfl
  last := (lastOf_server facts inst sn).symm
  servers := by simp [tells.servers]
  positive other member := by
    rw [instsOf_server, List.mem_append, List.mem_singleton] at member
    rcases member with old | rfl
    · exact tells.positive other old
    · exact Int64.lt_of_le_of_lt (lastOf_nonneg tells.positive) fits.1
  identified other member := by
    rw [snsOf_server, List.mem_append, List.mem_singleton] at member
    rcases member with old | rfl
    · exact tells.identified other old
    · exact identified
  named := by simpa using tells.named
  nextOffset := tells.nextOffset
  total := tells.total
  done := tells.done

/-- One name of an entry. -/
theorem tracks_linkName {sn tor : String} {ports : TextMap} {name : Option String}
    {cache : Cache TextMap} {seen : List String} (identified : sn ≠ "") (known : tor ≠ "")
    (tells : ScanTells client cfg source start raw facts ⟨page, cache, seen⟩) :
    Tracks Fits (fun facts page => ScanTells client cfg source start raw facts ⟨page, cache, seen⟩)
      facts (.ok [nameFact sn tor ports name] : Except CmdbError _)
      (linkName source sn tor ports page name) := by
  unfold nameFact linkName
  dsimp only
  split
  · refine .one trivial ⟨tells.page.skip, ?_, tells.cache⟩
    rw [snsOf_skip]
    exact tells.seen
  · rename_i resolved
    obtain ⟨-, port⟩ := not_or.mp resolved
    have elsewhere := tells.page.owners.elsewhere ⟨sn, ports.get (trimmedName name), tor⟩
    split
    · rename_i conflict
      refine .refused fun new ok accepted => ?_
      cases ok
      exact elsewhere.mp conflict accepted.1
    · rename_i free
      have fits := not_not.mp (mt elsewhere.mpr free)
      refine .one fits ⟨tells.page.link fits ⟨identified, port, known⟩, ?_, tells.cache⟩
      rw [snsOf_link]
      exact tells.seen

/-- One entry of a server. -/
theorem tracks_linkEntry {sn : String} (identified : sn ≠ "") (entry : Json.Value)
    (tells : ScanTells client cfg source start raw facts scan) :
    Tracks Fits (ScanTells client cfg source start raw) facts (entryFacts client cfg sn entry)
      (linkEntry client cfg source sn scan entry) := by
  unfold entryFacts linkEntry
  refine .read (agrees_uplinkEntry _ _ _ _ entry) fun entry entry' same => ?_
  subst same
  by_cases unusable : entry.tor = "" ∨ entry.names = []
  · rw [if_pos unusable, if_pos unusable]
    refine .one trivial ⟨tells.page.skip, ?_, tells.cache⟩
    rw [snsOf_skip]
    exact tells.seen
  · rw [if_neg unusable, if_neg unusable]
    refine .read (agrees_cached tells.cache entry.tor) fun ports p both => ?_
    obtain ⟨ports', cache⟩ := p
    obtain ⟨rfl, memoized⟩ := both
    rw [← collectAll_single]
    have known := (not_or.mp unusable).1
    have here : ScanTells client cfg source start raw facts ⟨scan.page, cache, scan.seenServers⟩ :=
      ⟨tells.page, tells.seen, memoized⟩
    refine Tracks.map (Tracks.foldlM here fun name _ before page here =>
      tracks_linkName identified known here) fun new page told => told

/-- One server. -/
theorem tracks_linkServer (item : RawItem)
    (tells : ScanTells client cfg source start raw facts scan) :
    Tracks Fits (ScanTells client cfg source start raw) facts (serverFacts client cfg item)
      (linkServer client cfg source scan item) := by
  unfold serverFacts linkServer
  refine .read (.refl (serverRow item)) fun row row' same => ?_
  subst same
  by_cases refused : row.instId ≤ 0 ∨ row.instId ≤ scan.page.lastInstanceId ∨ row.category ≠ 52 ∨
      row.sn = "" ∨ row.sn ∈ scan.seenServers
  · rw [if_pos refused]
    refine .refused fun new ok accepted => ?_
    obtain ⟨proper, ok⟩ := check_ok ok
    obtain ⟨entries, -, ok⟩ := bind_ok ok
    obtain ⟨more, -, ok⟩ := bind_ok ok
    cases ok
    obtain ⟨⟨later, fresh⟩, -⟩ := accepted
    rw [tells.page.last, tells.seen] at refused
    have positive := Int64.lt_of_le_of_lt (lastOf_nonneg tells.page.positive) later
    rcases refused with nonpositive | earlier | category | blank | seen
    · exact Int64.not_le.mpr positive nonpositive
    · exact Int64.not_le.mpr later earlier
    · exact proper (.inl category)
    · exact proper (.inr blank)
    · exact fresh seen
  · rw [if_neg refused]
    rw [tells.page.last, tells.seen] at refused
    obtain ⟨-, later, category, identified, fresh⟩ :
        ¬row.instId ≤ 0 ∧ ¬row.instId ≤ lastOf facts ∧ ¬row.category ≠ 52 ∧ ¬row.sn = "" ∧
          row.sn ∉ snsOf facts := by simpa only [not_or] using refused
    have fits : Fits facts (.server row.instId row.sn) := ⟨Int64.not_le.mp later, fresh⟩
    rw [if_neg (not_or.mpr ⟨category, identified⟩)]
    refine .read (agrees_rawItems _ _ item _) fun entries entries' same => ?_
    subst same
    refine .cons fits (.foldlM ⟨tells.page.server fits identified, fun sn => ?_, tells.cache⟩
      fun entry _ before scan told => tracks_linkEntry identified entry told)
    rw [snsOf_server, List.mem_cons, List.mem_append, List.mem_singleton, tells.seen]
    exact Or.comm

/-- The text of the error makes no difference to the configuration. -/
theorem serverConfig_text {refusal refusal' : String} :
    Agrees (· = ·) (serverConfig client refusal source) (serverConfig client refusal' source) := by
  refine (Agrees.refl (client.configFor source)).bind fun cfg cfg' same => ?_
  subst same
  split
  · exact .error _ _
  · exact .check Iff.rfl fun _ _ => .ok rfl

/-- The collector returns a page when its facts are there and fit, and the page tells what they
say. -/
theorem tracks_collectServerUplinkPage {refusal : String} (running : client.contextDone = false)
    (configured : trimSpace source.id ≠ "") (forward : 0 ≤ start)
    (config : serverConfig client refusal source = .ok cfg)
    (answered : serverPage client cfg start = .ok raw) :
    Tracks Fits (PageTells source start raw) [] (pageFacts client cfg raw)
      (collectServerUplinkPage client source start) := by
  have accepted : ¬(start < 0 ∨ trimSpace source.id = "") :=
    not_or.mpr ⟨Int.not_lt.mpr forward, configured⟩
  obtain ⟨cfg', config', rfl⟩ := serverConfig_text.ok_left config
  unfold collectServerUplinkPage
  rw [if_neg (Bool.eq_false_iff.mp running), if_neg accepted, config']
  change Tracks Fits _ [] _ (serverPage client cfg start >>= _)
  rw [answered]
  exact Tracks.map (Tracks.foldlM scanTells_empty fun item _ before scan told =>
    tracks_linkServer item told) fun new scan told => told.page

end Page

end Cmdb

end UnifiedInfraTopology
