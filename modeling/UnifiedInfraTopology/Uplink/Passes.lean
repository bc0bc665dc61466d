import UnifiedInfraTopology.Lib.Firsts
import UnifiedInfraTopology.Uplink.Run

/-!
# What a pass over the source knows

`linksOf pages` are the links of some pages, each with the ToR that its page names for its interface,
and `distinctLinks` the first of every relation ID.  `passHolds` says what a pass that accepts the
pages has kept: the distinct links as its candidates, and a single ToR for every interface.
-/

namespace UnifiedInfraTopology

open Lib

namespace ServerUplink

/-- The relation ID of a link, where it has one. -/
def relationId (c : ServerUplinkCandidate) : String :=
  match c.identity.id with
  | .ok id => id
  | .error _ => ""

/-- The interface of a link. -/
def portOf (c : ServerUplinkCandidate) : String := c.identity.target.stableId

/-- A link, with the ToR of its interface. -/
def linkWith (targets : TextMap) (identity : RelationIdentity) : ServerUplinkCandidate :=
  ⟨identity, targets.get identity.target.stableId⟩

def linksOf (pages : List UplinkPage) : List ServerUplinkCandidate :=
  pages.flatMap fun page => page.links.map (linkWith page.targets)

/-- The first link of every relation ID. -/
def distinctLinks (pages : List UplinkPage) : List ServerUplinkCandidate :=
  firsts relationId (linksOf pages)

/-- Where the page after some pages starts. -/
def nextStart (pages : List UplinkPage) : Int := pages.foldl (fun _ page => page.nextOffset) 0

/-- What a pass that has accepted some links has kept. -/
structure LinksKept (retain : Bool) (links : List ServerUplinkCandidate) (pass : Pass) : Prop where
  identified : ∀ c ∈ links, c.identity.id = .ok (relationId c)
  named : ∀ c ∈ links, c.tor ≠ ""
  attributed : ∀ c ∈ links, pass.owners.find? (portOf c) = some (portOf c, c.tor)
  seen : ∀ id, id ∈ pass.identities ↔ id ∈ links.map relationId
  candidates : retain = true → pass.candidates = firsts relationId links

theorem linksKept_nil (retain : Bool) : LinksKept retain [] .start_ where
  identified := fun _ member => (List.not_mem_nil member).elim
  named := fun _ member => (List.not_mem_nil member).elim
  attributed := fun _ member => (List.not_mem_nil member).elim
  seen := fun _ => Iff.rfl
  candidates := fun _ => rfl

/-- An accepted link: what the checks say, and the pass after it. -/
theorem acceptLink_ok {retain : Bool} {targets : TextMap} {pass pass' : Pass}
    {identity : RelationIdentity} (ok : acceptLink retain targets pass identity = .ok pass') :
    let c := linkWith targets identity
    c.identity.id = .ok (relationId c) ∧ c.tor ≠ "" ∧
      Cmdb.ownedElsewhere pass.owners (portOf c) c.tor = false ∧
      pass'.owners = pass.owners.put (portOf c, c.tor) ∧
      pass'.identities = (if relationId c ∈ pass.identities then pass.identities
        else relationId c :: pass.identities) ∧
      pass'.candidates = (if relationId c ∈ pass.identities then pass.candidates
        else if retain then pass.candidates ++ [c] else pass.candidates) ∧
      pass'.start = pass.start ∧ pass'.skipped = pass.skipped := by
  unfold acceptLink at ok
  cases identified : identity.id with
  | error e =>
      rw [identified] at ok
      cases ok
  | ok id =>
      have same : relationId (linkWith targets identity) = id := by
        unfold relationId linkWith
        rw [identified]
      rw [identified] at ok
      dsimp only at ok
      obtain ⟨named, ok⟩ := check_ok ok
      obtain ⟨free, ok⟩ := check_ok ok
      simp only [same]
      refine ⟨identified, named, Bool.eq_false_of_not_eq_true free, ?_⟩
      split at ok
      · rename_i old
        cases ok
        exact ⟨rfl, (if_pos old).symm, (if_pos old).symm, rfl, rfl⟩
      · rename_i new
        cases ok
        exact ⟨rfl, (if_neg new).symm, (if_neg new).symm, rfl, rfl⟩

/-- The owner of an interface does not change. -/
theorem not_ownedElsewhere {owners : TextMap} {port tor port' tor' : String}
    (free : Cmdb.ownedElsewhere owners port tor = false)
    (owned : owners.find? port' = some (port', tor')) :
    (owners.put (port, tor)).find? port' = some (port', tor') := by
  rw [Table.find?_put]
  split
  · rename_i same
    simp only at same
    subst same
    unfold Cmdb.ownedElsewhere at free
    rw [owned] at free
    have equal : tor' = tor := by simpa using free
    rw [equal]
  · exact owned

/-- One more link. -/
theorem LinksKept.link {retain : Bool} {links : List ServerUplinkCandidate} {targets : TextMap}
    {pass pass' : Pass} {identity : RelationIdentity} (kept : LinksKept retain links pass)
    (ok : acceptLink retain targets pass identity = .ok pass') :
    LinksKept retain (links ++ [linkWith targets identity]) pass' := by
  obtain ⟨identified, named, free, owners, identities, candidates, -⟩ := acceptLink_ok ok
  have seen : relationId (linkWith targets identity) ∈ pass.identities ↔
      relationId (linkWith targets identity) ∈ (firsts relationId links).map relationId := by
    rw [kept.seen, mem_keys_firsts]
  constructor
  · intro c member
    rcases List.mem_append.mp member with earlier | last
    · exact kept.identified c earlier
    · rw [List.mem_singleton.mp last]
      exact identified
  · intro c member
    rcases List.mem_append.mp member with earlier | last
    · exact kept.named c earlier
    · rw [List.mem_singleton.mp last]
      exact named
  · intro c member
    rw [owners]
    rcases List.mem_append.mp member with earlier | last
    · exact not_ownedElsewhere free (kept.attributed c earlier)
    · rw [List.mem_singleton.mp last, Table.find?_put, if_pos rfl]
  · intro id
    rw [identities, List.map_append, List.map_singleton, List.mem_append, List.mem_singleton,
      ← kept.seen]
    split
    · rename_i old
      constructor
      · exact Or.inl
      · intro either
        rcases either with earlier | rfl
        · exact earlier
        · exact old
    · rw [List.mem_cons, or_comm]
  · intro retained
    rw [candidates, firsts_append, kept.candidates retained, if_pos retained]
    by_cases old : relationId (linkWith targets identity) ∈ pass.identities
    · rw [if_pos old, if_pos (seen.mp old)]
    · rw [if_neg old, if_neg fun present => old (seen.mpr present)]

theorem linksOf_append (pages : List UplinkPage) (page : UplinkPage) :
    linksOf (pages ++ [page]) = linksOf pages ++ page.links.map (linkWith page.targets) := by
  unfold linksOf
  rw [List.flatMap_append, List.flatMap_singleton]

/-- What a pass that has accepted some pages has kept. -/
structure PassHolds (retain : Bool) (pages : List UplinkPage) (pass : Pass) : Prop where
  links : LinksKept retain (linksOf pages) pass
  start_ : pass.start = nextStart pages
  skipped : pass.skipped = (pages.map (·.skipped)).sum

/-- One more page. -/
theorem PassHolds.page {retain : Bool} {pages : List UplinkPage} {page : UplinkPage}
    {pass pass' : Pass} (holds : PassHolds retain pages pass)
    (ok : acceptPage retain pass page = .ok pass') : PassHolds retain (pages ++ [page]) pass' := by
  obtain ⟨-, -, servers, linked, -, links, rfl⟩ := acceptPage_ok_iff.mp ok
  have base : LinksKept retain (linksOf pages) (pass.withServers page servers) :=
    ⟨holds.links.identified, holds.links.named, holds.links.attributed, holds.links.seen,
      holds.links.candidates⟩
  have whole := foldlM_invariant
    (fun done (linked : Pass) =>
      LinksKept retain (linksOf pages ++ done.map (linkWith page.targets)) linked ∧
        linked.skipped = (pass.withServers page servers).skipped)
    (fun done identity linked linked' held ok => by
      obtain ⟨kept, skipped⟩ := held
      have next := kept.link ok
      rw [List.append_assoc, ← List.map_singleton, ← List.map_append] at next
      exact ⟨next, (acceptLink_ok ok).2.2.2.2.2.2.2.trans skipped⟩)
    ⟨by rwa [List.map_nil, List.append_nil], rfl⟩ links
  rw [List.nil_append] at whole
  obtain ⟨kept, skipped⟩ := whole
  constructor
  · rw [linksOf_append]
    exact ⟨kept.identified, kept.named, kept.attributed, kept.seen, kept.candidates⟩
  · unfold nextStart
    rw [List.foldl_append]
    rfl
  · rw [List.map_append, List.sum_append, List.map_singleton, List.sum_singleton, ← holds.skipped]
    exact skipped

theorem passHolds_nil (retain : Bool) : PassHolds retain [] .start_ := ⟨linksKept_nil retain, rfl, rfl⟩

/-- What a pass that accepts some pages has kept of them. -/
theorem passHolds {retain : Bool} {pages : List UplinkPage} {pass : Pass}
    (accepted : pages.foldlM (acceptPage retain) Pass.start_ = .ok pass) :
    PassHolds retain pages pass :=
  foldlM_invariant (PassHolds retain) (fun _ _ _ _ holds ok => holds.page ok) (passHolds_nil retain)
    accepted

/-- Over a whole pass an interface has a single ToR. -/
theorem LinksKept.single {retain : Bool} {links : List ServerUplinkCandidate} {pass : Pass}
    (kept : LinksKept retain links pass) {a b : ServerUplinkCandidate} (here : a ∈ links)
    (there : b ∈ links) (same : portOf a = portOf b) : a.tor = b.tor := by
  have one := kept.attributed a here
  rw [same, kept.attributed b there] at one
  exact (congrArg Prod.snd (Option.some.inj one)).symm

end ServerUplink

end UnifiedInfraTopology
