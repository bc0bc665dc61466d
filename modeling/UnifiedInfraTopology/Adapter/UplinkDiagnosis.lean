import UnifiedInfraTopology.Adapter.UplinkDiagnostics
import UnifiedInfraTopology.Adapter.UplinkReferences

/-!
# What the diagnostics say

The diagnostics read the same facts as the collector of pages: a name that has no reason is a link,
every other name and every unusable entry is skipped.

* `agrees_collectDiagnosticToR`: the ports of a ToR and the reasons;
* `tracks_diagnosePage`: the references stand for the facts of the pages (`Diagnosed`).
-/

namespace UnifiedInfraTopology

open Lib

namespace Cmdb

/-! ## The ports of a ToR -/

/-- The maps of the diagnostics are those of the collector, and a name with a reason has been seen and
has no port. -/
structure SameMaps (m : PortMaps) (d : DiagnosticMaps) : Prop where
  ports : d.ports = m.ports
  seenNames : d.seenNames = m.seenNames
  seenUUID : d.seenUUID = m.seenUUID
  ambiguousUUID : d.ambiguousUUID = m.ambiguousUUID
  reasons : ∀ name, d.reasons.get name ≠ "" → name ∈ m.seenNames ∧ m.ports.get name = ""

theorem sameMaps_empty : SameMaps .empty .empty :=
  ⟨rfl, rfl, rfl, rfl, fun _ reason => (reason rfl).elim⟩

section Maps

variable {m : PortMaps} {d : DiagnosticMaps}

theorem SameMaps.add (same : SameMaps m d) (row : PortRow) : SameMaps (m.add row) (d.add row) where
  ports := by simp only [DiagnosticMaps.add, PortMaps.add, same.ports, same.seenNames]
  seenNames := by simp only [DiagnosticMaps.add, PortMaps.add, same.seenNames]
  seenUUID := by simp only [DiagnosticMaps.add, PortMaps.add, same.seenUUID]
  ambiguousUUID := by
    have collides : d.collides row = m.collides row := by
      simp only [DiagnosticMaps.collides, PortMaps.collides, same.seenUUID]
    simp only [DiagnosticMaps.add, PortMaps.add, collides, same.ambiguousUUID]
  reasons name reason := by
    simp only [DiagnosticMaps.add, same.seenNames] at reason
    simp only [PortMaps.add, TextMap.get_put, List.mem_cons]
    by_cases here : row.name = name
    · refine ⟨.inl here.symm, ?_⟩
      rw [if_pos here]
      split
      · rfl
      · rename_i fresh
        rw [if_neg fresh] at reason
        split at reason
        · rename_i blank
          exact blank
        · exact (fresh (here ▸ (same.reasons name reason).1)).elim
    · rw [if_neg here]
      have before : d.reasons.get name ≠ "" := by
        split at reason
        · rwa [TextMap.get_put, if_neg here] at reason
        · split at reason
          · rwa [TextMap.get_put, if_neg here] at reason
          · exact reason
      exact ⟨.inr (same.reasons name before).1, (same.reasons name before).2⟩

/-- A reason after the pass at the end was there before, or its name has an ambiguous UUID. -/
theorem reason_foldl {ambiguous : List String} {name : String} {rows : List (String × String)}
    {reasons : TextMap}
    (reason : (rows.foldl (fun (reasons : TextMap) p =>
      if p.2 ∈ ambiguous then reasons.put (p.1, "cmdb_ambiguous_port_uuid") else reasons)
      reasons).get name ≠ "") :
    reasons.get name ≠ "" ∨ ∃ p ∈ rows, p.1 = name ∧ p.2 ∈ ambiguous := by
  induction rows generalizing reasons with
  | nil => exact .inl reason
  | cons p rows ih =>
      rcases ih reason with before | ⟨p', member, same⟩
      · by_cases inside : p.2 ∈ ambiguous
        · by_cases here : p.1 = name
          · exact .inr ⟨p, List.mem_cons_self, here, inside⟩
          · simp only [inside, ↓reduceIte, TextMap.get_put, here] at before
            exact .inl before
        · simp only [inside, ↓reduceIte] at before
          exact .inl before
      · exact .inr ⟨p', List.mem_cons_of_mem _ member, same⟩

theorem SameMaps.resolved (same : SameMaps m d) : d.resolvedPorts = m.resolved := by
  simp only [DiagnosticMaps.resolvedPorts, PortMaps.resolved, same.ports, same.ambiguousUUID,
    Bool.decide_or]

/-- A name with a reason has no port after the pass at the end. -/
theorem SameMaps.resolvedReasons (same : SameMaps m d) {name : String}
    (reason : d.resolvedReasons.get name ≠ "") : m.resolved.get name = "" := by
  have erased : ∀ p, m.ports.find? name = some p → p.1 = "" ∨ p.2 ∈ m.ambiguousUUID ∨ p.2 = "" →
      m.resolved.get name = "" := by
    intro p found cause
    rw [TextMap.get, PortMaps.resolved, Table.find?_update, found, Option.map_some, Option.elim_some]
    split
    · rfl
    · rename_i kept
      have kept := not_or.mp (of_decide_eq_false (Bool.eq_false_of_not_eq_true kept))
      rcases cause with empty | ambiguous | blank
      · exact (kept.1 empty).elim
      · exact (kept.2 ambiguous).elim
      · exact blank
  rcases reason_foldl reason with before | ⟨p, member, rfl, ambiguous⟩
  · have blank := (same.reasons name before).2
    cases found : m.ports.find? name with
    | none => simp [TextMap.get, PortMaps.resolved, Table.find?_update, found]
    | some p =>
        rw [TextMap.get, found] at blank
        exact erased p found (.inr (.inr blank))
  · rw [same.ports] at member
    rw [same.ambiguousUUID] at ambiguous
    exact erased p (Table.find?_of_mem member) (.inr (.inl ambiguous))

end Maps

/-- The diagnostics of a ToR give the same ports, and a reason only where there is no port. -/
structure SameToR (ports : TextMap) (resolved : DiagnosticToR) : Prop where
  same : resolved.ports = ports
  reason : resolved.reason ≠ "" → ∀ name, ports.get name = ""
  reasons : ∀ name, resolved.reasons.get name ≠ "" → ports.get name = ""

theorem sameToR_unresolved (reason : String) : SameToR .empty (unresolvedToR reason) :=
  ⟨rfl, fun _ _ => rfl, fun _ reason => (reason rfl).elim⟩

section ToR

variable {client : UplinkClient} {cfg : CmdbConfig} {tor : String}

theorem agrees_readPort {unordered unordered' : String} {last : Int64} {item : RawItem} :
    Agrees (· = ·) (readPort unordered tor last item) (readPort unordered' tor last item) := by
  refine (Agrees.refl (uplinkInteger item "inst_id")).bind fun inst inst' same => ?_
  subst same
  exact .check Iff.rfl fun _ _ => .refl _

/-- The diagnostics of a ToR and its ports. -/
theorem agrees_collectDiagnosticToR :
    Agrees SameToR (collectUplinkToRPorts client cfg tor) (collectDiagnosticToR client cfg tor) := by
  refine (Agrees.refl (torDevices client cfg tor)).bind fun devices devices' same => ?_
  subst same
  by_cases single : devices.count = 1
  · have some_ : devices.count ≠ 0 := by rw [single]; decide
    rw [if_neg (not_not.mpr single), if_neg some_, if_neg (not_not.mpr single)]
    cases devices.info.head? with
    | none => exact .error _ _
    | some device =>
        refine (Agrees.refl (uplinkText device "device_sn")).bind fun sn sn' same => ?_
        refine (Agrees.refl (uplinkInteger device "parent_type_id")).bind fun category _ same' => ?_
        refine (Agrees.refl (uplinkInteger device "inst_id")).bind fun inst _ same'' => ?_
        subst same same' same''
        by_cases mismatch : sn ≠ tor ∨ category ≠ 54 ∨ inst ≤ 0
        · rw [if_pos mismatch, if_pos mismatch]
          exact .ok (sameToR_unresolved _)
        · rw [if_neg mismatch, if_neg mismatch]
          have step : ∀ raw (scan : Int64 × PortMaps) (scan' : Int64 × DiagnosticMaps),
              scan'.1 = scan.1 ∧ SameMaps scan.2 scan'.2 →
              Agrees (fun scan scan' => scan'.1 = scan.1 ∧ SameMaps scan.2 scan'.2)
                ((UplinkData.info raw).foldlM (scanPort tor) scan)
                (raw.info.foldlM (scanDiagnosticPort tor) scan') := by
            intro raw scan scan' here
            refine Agrees.foldlM here fun item _ scan scan' both => ?_
            obtain ⟨last, same⟩ := both
            unfold scanPort scanDiagnosticPort
            rw [last]
            refine agrees_readPort.bind fun read read' here => ?_
            subst here
            exact .ok ⟨rfl, same.add _⟩
          refine (agrees_readPages step ⟨rfl, sameMaps_empty⟩).bind fun scan scan' both => ?_
          obtain ⟨-, same⟩ := both
          exact .ok ⟨same.resolved, fun reason => (reason rfl).elim,
            fun name reason => same.resolvedReasons reason⟩
  · rw [if_pos single]
    split
    · exact .ok (sameToR_unresolved _)
    · exact .ok (sameToR_unresolved _)

end ToR

/-! ## The references -/

/-- A reference without reason, as a link. -/
def referenceLink (r : UplinkDiagnosticReference) : UplinkLink := ⟨r.serverSN, r.portUUID, r.torSN⟩

/-- The references that are resolved. -/
def resolvedReferences (references : List UplinkDiagnosticReference) :
    List UplinkDiagnosticReference := references.filter fun r => decide (r.reason = "")

/-- The references that are not. -/
def unresolvedReferences (references : List UplinkDiagnosticReference) :
    List UplinkDiagnosticReference := references.filter fun r => decide (r.reason ≠ "")

/-- What the diagnostics say about the servers read so far. -/
structure Diagnosed (client : UplinkClient) (cfg : CmdbConfig) (facts : List UplinkFact)
    (scan : DiagnosticScan) : Prop where
  links : (resolvedReferences scan.result.references).map referenceLink = linksOf facts
  skipped : ((unresolvedReferences scan.result.references).length : Int) = skipsOf facts
  owners : Owns scan.owners (linksOf facts)
  last : scan.last = lastOf facts
  seen : ∀ sn, sn ∈ scan.seen ↔ sn ∈ snsOf facts
  cache : Memoized (collectDiagnosticToR client cfg) scan.cache

theorem diagnosed_empty {client : UplinkClient} {cfg : CmdbConfig} :
    Diagnosed client cfg [] ⟨⟨0, "", []⟩, .empty, [], .empty, 0, []⟩ :=
  ⟨rfl, rfl, owns_nil, rfl, fun _ => Iff.rfl, memoized_empty _⟩

section References

variable {client : UplinkClient} {cfg : CmdbConfig} {facts : List UplinkFact} {scan : DiagnosticScan}
  {row : UplinkDiagnosticReference}

theorem Diagnosed.skip (diagnosed : Diagnosed client cfg facts scan) (reason : row.reason ≠ "") :
    Diagnosed client cfg (facts ++ [.skip]) (scan.append row) where
  links := by
    rw [linksOf_skip, ← diagnosed.links]
    simp [resolvedReferences, reason]
  skipped := by
    rw [skipsOf_skip, ← diagnosed.skipped]
    simp [unresolvedReferences, reason]
  owners := by simpa using diagnosed.owners
  last := by simpa using diagnosed.last
  seen := by simpa using diagnosed.seen
  cache := diagnosed.cache

theorem Diagnosed.link (diagnosed : Diagnosed client cfg facts scan)
    (row : UplinkDiagnosticReference) (resolved : row.reason = "")
    (fits : ∀ l' ∈ linksOf facts, l'.uuid = row.portUUID → l'.tor = row.torSN) :
    Diagnosed client cfg (facts ++ [.link (referenceLink row)])
      ({ scan with owners := scan.owners.put (row.portUUID, row.torSN) }.append row) where
  links := by
    rw [linksOf_link, ← diagnosed.links]
    simp [resolvedReferences, resolved]
  skipped := by
    rw [skipsOf_link, ← diagnosed.skipped]
    simp [unresolvedReferences, resolved]
  owners := by
    rw [linksOf_link]
    exact diagnosed.owners.put (l := referenceLink row) fits
  last := by simpa using diagnosed.last
  seen := by simpa using diagnosed.seen
  cache := diagnosed.cache

/-- A name has no reason where it has a port. -/
theorem unresolvedReason_eq_empty {ports : TextMap} {resolved : DiagnosticToR}
    (same : SameToR ports resolved) (name : String) :
    unresolvedReason resolved name (resolved.ports.get name) = "" ↔
      ¬(name = "" ∨ ports.get name = "") := by
  rw [same.same]
  unfold unresolvedReason
  split
  · rename_i blank
    simp [blank]
  · rename_i named
    split
    · rename_i reason
      simp [reason, same.reason reason name]
    · split
      · rename_i reason
        simp [reason, same.reasons name reason]
      · split
        · rename_i missing
          simp [missing]
        · rename_i port
          simp [named, port]

/-- One name of an entry. -/
theorem tracks_diagnoseName (ref : UplinkDiagnosticReference) {ports : TextMap}
    {resolved : DiagnosticToR} (name : Option String) (same : SameToR ports resolved)
    (diagnosed : Diagnosed client cfg facts scan) :
    Tracks Fits (Diagnosed client cfg) facts
      (.ok [nameFact ref.serverSN ref.torSN ports name] : Except CmdbError _)
      (diagnoseName ref resolved scan name) := by
  have known := unresolvedReason_eq_empty same (trimmedName name)
  unfold nameFact diagnoseName
  dsimp only
  by_cases unknown : trimmedName name = "" ∨ ports.get (trimmedName name) = ""
  · rw [if_pos unknown, if_neg (mt known.mp (not_not.mpr unknown))]
    exact .one trivial (diagnosed.skip (mt known.mp (not_not.mpr unknown)))
  · rw [if_neg unknown, if_pos (known.mpr unknown), ← same.same]
    have elsewhere := diagnosed.owners.elsewhere
      ⟨ref.serverSN, resolved.ports.get (trimmedName name), ref.torSN⟩
    split
    · rename_i conflict
      refine .refused fun new ok accepted => ?_
      cases ok
      exact elsewhere.mp conflict accepted.1
    · rename_i free
      have fits := not_not.mp (mt elsewhere.mpr free)
      exact .one fits (diagnosed.link { ref with
        portName := trimmedName name
        portUUID := resolved.ports.get (trimmedName name)
        torInstanceId := resolved.instanceId
        reason := unresolvedReason resolved (trimmedName name)
          (resolved.ports.get (trimmedName name)) } (known.mpr unknown) fits)

/-- One entry of a server. -/
theorem tracks_diagnoseEntry {sn : String} {inst : Int64} (entry : Json.Value)
    (diagnosed : Diagnosed client cfg facts scan) :
    Tracks Fits (Diagnosed client cfg) facts (entryFacts client cfg sn entry)
      (diagnoseEntry client cfg sn inst scan entry) := by
  unfold entryFacts diagnoseEntry
  refine .read (agrees_uplinkEntry _ _ _ _ entry) fun entry entry' same => ?_
  subst same
  dsimp only
  by_cases unusable : entry.tor = "" ∨ entry.names = []
  · rw [if_pos unusable, if_pos unusable]
    refine .one trivial (diagnosed.skip ?_)
    unfold unusableEntry
    dsimp only
    split
    · decide
    · decide
  · rw [if_neg unusable, if_neg unusable]
    have agrees : Agrees (fun ports (p : DiagnosticToR × Cache DiagnosticToR) =>
        SameToR ports p.1 ∧ Memoized (collectDiagnosticToR client cfg) p.2)
        (collectUplinkToRPorts client cfg entry.tor)
        (cached (collectDiagnosticToR client cfg) scan.cache entry.tor) := by
      refine (agrees_collectDiagnosticToR.trans (agrees_cached diagnosed.cache entry.tor)).mono ?_
      rintro ports p ⟨resolved, same, rfl, memoized⟩
      exact ⟨same, memoized⟩
    refine .read agrees fun ports p both => ?_
    obtain ⟨resolved, cache⟩ := p
    obtain ⟨same, memoized⟩ := both
    rw [← collectAll_single]
    refine .foldlM { diagnosed with cache := memoized } fun name _ before scan told => ?_
    exact tracks_diagnoseName ⟨sn, inst, entry.tor, 0, "", [], "", ""⟩ name same told

/-- One server. -/
theorem tracks_diagnoseServer (item : RawItem) (diagnosed : Diagnosed client cfg facts scan) :
    Tracks Fits (Diagnosed client cfg) facts (serverFacts client cfg item)
      (diagnoseServer client cfg scan item) := by
  unfold serverFacts diagnoseServer
  refine .read (.refl (serverRow item)) fun row row' same => ?_
  subst same
  by_cases refused : row.instId ≤ scan.last ∨ row.sn = "" ∨ row.category ≠ 52 ∨ row.sn ∈ scan.seen
  · rw [if_pos refused]
    refine .refused fun new ok accepted => ?_
    obtain ⟨proper, ok⟩ := check_ok ok
    obtain ⟨entries, -, ok⟩ := bind_ok ok
    obtain ⟨more, -, ok⟩ := bind_ok ok
    cases ok
    obtain ⟨⟨later, fresh⟩, -⟩ := accepted
    rw [diagnosed.last, diagnosed.seen] at refused
    rcases refused with earlier | blank | category | seen
    · exact Int64.not_le.mpr later earlier
    · exact proper (.inr blank)
    · exact proper (.inl category)
    · exact fresh seen
  · rw [if_neg refused]
    rw [diagnosed.last, diagnosed.seen] at refused
    obtain ⟨later, identified, category, fresh⟩ :
        ¬row.instId ≤ lastOf facts ∧ ¬row.sn = "" ∧ ¬row.category ≠ 52 ∧ row.sn ∉ snsOf facts := by
      simpa only [not_or] using refused
    have fits : Fits facts (.server row.instId row.sn) := ⟨Int64.not_le.mp later, fresh⟩
    rw [if_neg (not_or.mpr ⟨category, identified⟩)]
    refine .read (agrees_rawItems _ _ item _) fun entries entries' same => ?_
    subst same
    refine .cons fits (.foldlM ?_ fun entry _ before scan told => tracks_diagnoseEntry entry told)
    exact {
      links := by simpa using diagnosed.links
      skipped := by simpa using diagnosed.skipped
      owners := by simpa using diagnosed.owners
      last := (lastOf_server facts row.instId row.sn).symm
      seen := fun sn => by
        rw [snsOf_server, List.mem_cons, List.mem_append, List.mem_singleton, diagnosed.seen]
        exact Or.comm
      cache := diagnosed.cache }

/-- One page of servers. -/
theorem tracks_diagnosePage (raw : UplinkData) (diagnosed : Diagnosed client cfg facts scan) :
    Tracks Fits (Diagnosed client cfg) facts (pageFacts client cfg raw)
      (diagnosePage client cfg scan raw) :=
  .foldlM { diagnosed with } fun item _ _ _ told => tracks_diagnoseServer item told

end References

end Cmdb

end UnifiedInfraTopology
