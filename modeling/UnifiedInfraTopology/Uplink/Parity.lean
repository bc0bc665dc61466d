import UnifiedInfraTopology.Adapter.UplinkDiagnosis
import UnifiedInfraTopology.Uplink.Run

/-!
# The diagnostics agree with the collection

A pass of the worker accepts the pages of the collector exactly when their facts fit behind those of
the pages before, so it succeeds when the diagnostics do, with the same links and as many skipped
references.

* `acceptPage_iff`: when a page is accepted, and what the pass knows then (`PassTells`);
* `diagnostics_agree`: the agreement, for any contents of the CMDB.
-/

namespace UnifiedInfraTopology

open Lib
open Cmdb

namespace ServerUplink

/-! ## One page -/

/-- What a pass knows of the pages so far. -/
structure PassTells (facts : List UplinkFact) (pass : Pass) : Prop where
  skipped : pass.skipped = skipsOf facts
  last : pass.last = lastOf facts
  owners : Owns pass.owners (linksOf facts)
  seen : ∀ sn, sn ∈ pass.serversSeen ↔ sn ∈ snsOf facts
  positive : ∀ inst ∈ instsOf facts, 0 < inst

theorem passTells_start : PassTells [] .start_ :=
  ⟨rfl, rfl, owns_nil, fun _ => Iff.rfl, fun _ member => (List.not_mem_nil member).elim⟩

/-- The SNs of a page are accepted when they are new. -/
theorem acceptServers_ok {sns seen : List String} (identified : ∀ sn ∈ sns, sn ≠ "")
    (nodup : sns.Nodup) :
    (∃ seen', sns.foldlM acceptServer seen = .ok seen') ↔ ∀ sn ∈ sns, sn ∉ seen := by
  induction sns generalizing seen with
  | nil => exact ⟨fun _ _ member => (List.not_mem_nil member).elim, fun _ => ⟨seen, rfl⟩⟩
  | cons sn sns ih =>
      obtain ⟨fresh, nodup⟩ := List.nodup_cons.mp nodup
      have named := identified sn List.mem_cons_self
      have ih := @ih (sn :: seen) (fun sn member => identified sn (List.mem_cons_of_mem _ member)) nodup
      rw [List.foldlM_cons, acceptServer]
      by_cases known : sn ∈ seen
      · rw [if_pos (.inr known)]
        refine ⟨?_, fun all => (all sn List.mem_cons_self known).elim⟩
        rintro ⟨seen', ok⟩
        cases ok
      · rw [if_neg (not_or.mpr ⟨named, known⟩)]
        refine ih.trans ⟨fun all other member => ?_, fun all other member => ?_⟩
        · rcases List.mem_cons.mp member with rfl | later
          · exact known
          · exact fun inside => all other later (List.mem_cons_of_mem _ inside)
        · intro inside
          rcases List.mem_cons.mp inside with rfl | old
          · exact fresh member
          · exact all other (List.mem_cons_of_mem _ member) old

theorem mem_acceptServers {sns seen seen' : List String}
    (ok : sns.foldlM acceptServer seen = .ok seen') (sn : String) :
    sn ∈ seen' ↔ sn ∈ seen ∨ sn ∈ sns := by
  have nothing : ∀ sn, sn ∈ seen ↔ sn ∈ seen ∨ sn ∈ ([] : List String) := fun sn => by simp
  have grows := foldlM_invariant (fun done now => ∀ sn, sn ∈ now ↔ sn ∈ seen ∨ sn ∈ done)
    (fun done x now next held step sn => ?_) nothing ok
  · exact grows sn
  · obtain ⟨-, step⟩ := check_ok step
    cases step
    rw [List.mem_cons, held, List.mem_append, List.mem_singleton, or_comm, or_assoc]

/-- The relation of a link has an ID. -/
theorem id_uplinkIdentity {source : Source} {l : UplinkLink} (known : source.id ≠ "")
    (named : l.sn ≠ "" ∧ l.uuid ≠ "" ∧ l.tor ≠ "") :
    ∃ id, (uplinkIdentity source l.sn l.uuid).id = .ok id := by
  obtain ⟨sn, uuid, -⟩ := named
  have origin : (⟨source.id, .device, l.sn⟩ : EntityIdentity).validate = .ok () := by
    simp [EntityIdentity.validate, known, sn, EntityType.valid]
  have target : (⟨source.id, .interface, l.uuid⟩ : EntityIdentity).validate = .ok () := by
    simp [EntityIdentity.validate, known, uuid, EntityType.valid]
  have valid : (uplinkIdentity source l.sn l.uuid).validate = .ok () := by
    simp [RelationIdentity.validate, uplinkIdentity, known, origin, target, EdgeType.valid,
      RelationKind.valid]
  unfold RelationIdentity.id
  rw [valid]
  simp [uplinkIdentity, EntityIdentity.canonicalJSON, origin, target]

/-- No link gives the port to another ToR. -/
def LinkFits (known : List UplinkLink) (l : UplinkLink) : Prop :=
  ∀ l' ∈ known, l'.uuid = l.uuid → l'.tor = l.tor

/-- Links that agree among themselves. -/
theorem accepted_links {known links : List UplinkLink}
    (agree : ∀ l ∈ links, LinkFits links l) :
    Accepted LinkFits known links ↔ ∀ l ∈ links, LinkFits known l := by
  have grows : ∀ rest known, (∀ l ∈ rest, l ∈ links) →
      (Accepted LinkFits known rest ↔ ∀ l ∈ rest, LinkFits known l) := by
    intro rest
    induction rest with
    | nil => exact fun known _ => ⟨fun _ _ member => (List.not_mem_nil member).elim, fun _ => trivial⟩
    | cons l rest ih =>
        intro known inside
        have here := inside l List.mem_cons_self
        have later := ih (known ++ [l]) fun l' member => inside l' (List.mem_cons_of_mem l member)
        rw [Accepted, later, List.forall_mem_cons]
        refine and_congr_right fun _ => ⟨fun all l' member l₁ old => ?_, fun all l' member l₁ old => ?_⟩
        · exact all l' member l₁ (List.mem_append_left _ old)
        · rcases List.mem_append.mp old with known_ | new
          · exact all l' member l₁ known_
          · cases List.mem_singleton.mp new
            exact agree l' (inside l' (List.mem_cons_of_mem l member)) l here
  exact grows links known fun _ member => member

/-- What a pass keeps while it accepts the links of a page. -/
structure LinksTell (pass : Pass) (known : List UplinkLink) (pass' : Pass) : Prop where
  owners : Owns pass'.owners known
  skipped : pass'.skipped = pass.skipped
  last : pass'.last = pass.last
  serversSeen : pass'.serversSeen = pass.serversSeen
  total : pass'.total = pass.total

/-- A link is accepted when no link before gives its port to another ToR. -/
theorem tracks_acceptLink {source : Source} {targets : TextMap} {known : List UplinkLink}
    {retain : Bool} {pass pass' : Pass} {l : UplinkLink} (set_ : source.id ≠ "")
    (named : l.sn ≠ "" ∧ l.uuid ≠ "" ∧ l.tor ≠ "") (owned : targets.get l.uuid = l.tor)
    (told : LinksTell pass known pass') :
    Tracks LinkFits (LinksTell pass) known (.ok [l] : Except CmdbError _)
      (acceptLink retain targets pass' (uplinkIdentity source l.sn l.uuid)) := by
  obtain ⟨id, hashed⟩ := id_uplinkIdentity set_ named
  have elsewhere := told.owners.elsewhere l
  unfold acceptLink
  rw [hashed]
  dsimp only [uplinkIdentity]
  rw [owned, if_neg named.2.2]
  split
  · rename_i conflict
    refine .refused fun new ok accepted => ?_
    cases ok
    exact elsewhere.mp conflict accepted.1
  · rename_i free
    have fits := not_not.mp (mt elsewhere.mpr free)
    split
    · exact .one fits ⟨told.owners.put fits, told.skipped, told.last, told.serversSeen, told.total⟩
    · exact .one fits ⟨told.owners.put fits, told.skipped, told.last, told.serversSeen, told.total⟩

/-- The links of a page. -/
theorem tracks_acceptLinks {source : Source} {targets : TextMap} {known links : List UplinkLink}
    {retain : Bool} {pass : Pass} (set_ : source.id ≠ "")
    (named : ∀ l ∈ links, l.sn ≠ "" ∧ l.uuid ≠ "" ∧ l.tor ≠ "")
    (owned : ∀ l ∈ links, targets.get l.uuid = l.tor) (owns : Owns pass.owners known) :
    Tracks LinkFits (LinksTell pass) known (.ok links : Except CmdbError _)
      ((links.map fun l => uplinkIdentity source l.sn l.uuid).foldlM (acceptLink retain targets)
        pass) := by
  have each := collectAll_single (ε := CmdbError) id links
  rw [List.map_id] at each
  rw [← each, List.foldlM_map]
  exact .foldlM ⟨owns, rfl, rfl, rfl, rfl⟩ fun l member known pass' told =>
    tracks_acceptLink set_ (named l member) (owned l member) told

section Accept

variable {client : UplinkClient} {cfg : CmdbConfig} {source : Source} {raw : UplinkData}
  {before facts : List UplinkFact} {page : UplinkPage} {pass pass' : Pass} {retain : Bool}

/-- The servers of a page follow those before it. -/
theorem unordered_iff (tells : PageTells source pass.start raw facts page)
    (told : PassTells before pass) (accepted : Accepted Fits [] facts)
    (first : raw.size = 0 ∧ facts = [] ∨ 0 < raw.size ∧ ∃ i, (instsOf facts).head? = some i) :
    unordered pass page = false ↔ ∀ inst ∈ (instsOf facts).head?, lastOf before < inst := by
  have first_ := tells.first
  unfold unordered
  rw [tells.nextOffset, tells.last, told.last]
  rcases first with ⟨nothing, rfl⟩ | ⟨some_, inst, head⟩
  · rw [nothing]
    simp [instsOf]
  · rw [head, Option.getD_some] at first_
    have sorted := le_lastOf accepted inst (List.mem_of_mem_head? head)
    have ahead : pass.start < pass.start + raw.size := by omega
    rw [first_, head]
    simp [ahead, Int64.not_lt.mpr sorted, Int64.not_le]

/-- What the servers of a page add to a pass. -/
theorem last_withServers (tells : PageTells source pass.start raw facts page)
    (told : PassTells before pass)
    (first : raw.size = 0 ∧ facts = [] ∨ 0 < raw.size ∧ ∃ i, (instsOf facts).head? = some i)
    {seen : List String} : (pass.withServers page seen).last = lastOf (before ++ facts) := by
  unfold Pass.withServers
  dsimp only
  rw [tells.nextOffset, lastOf_append, tells.last, told.last]
  rcases first with ⟨nothing, rfl⟩ | ⟨some_, inst, head⟩
  · rw [nothing, if_neg (by omega)]
    rfl
  · rw [if_pos (by omega), if_neg]
    intro none_
    rw [none_] at head
    cases head

/-- A page that is accepted fits behind the pages before, and the pass knows it. -/
theorem acceptPage_sound (set_ : source.id ≠ "") (tells : PageTells source pass.start raw facts page)
    (told : PassTells before pass) (accepted : Accepted Fits [] facts)
    (first : raw.size = 0 ∧ facts = [] ∨ 0 < raw.size ∧ ∃ i, (instsOf facts).head? = some i)
    (ok : acceptPage retain pass page = .ok pass') :
    Crosses before facts ∧ PassTells (before ++ facts) pass' ∧ pass'.start = page.nextOffset ∧
      pass'.total = pass.counted page := by
  obtain ⟨placed, sorted, seen, linked, servers, links, rfl⟩ := acceptPage_ok_iff.mp ok
  have later := (unordered_iff tells told accepted first).mp sorted
  have nodup := snsOf_nodup accepted
  rw [tells.servers] at servers
  have fresh := (acceptServers_ok tells.identified nodup).mp ⟨seen, servers⟩
  have agree : ∀ l ∈ linksOf facts, LinkFits (linksOf facts) l := fun l member l' member' same => by
    rw [← tells.owners.get member, ← tells.owners.get member', same]
  rw [tells.links] at links
  have owns : Owns (pass.withServers page seen).owners (linksOf before) := told.owners
  obtain ⟨new, same, fits, linksTell⟩ := (tracks_acceptLinks set_ tells.named
    (fun l member => tells.owners.get member) owns).sound linked links
  cases same
  have owners := (accepted_links agree).mp fits
  refine ⟨⟨later, fun sn member inside => fresh sn member ((told.seen sn).mpr inside), owners⟩, ?_, rfl,
    linksTell.total⟩
  refine ⟨?_, ?_, ?_, fun sn => ?_, fun inst member => ?_⟩
  · rw [skipsOf_append, ← told.skipped, ← tells.skipped]
    exact linksTell.skipped
  · exact linksTell.last.trans (last_withServers tells told first)
  · rw [linksOf_append]
    exact linksTell.owners
  · rw [snsOf_append, List.mem_append, ← told.seen, ← mem_acceptServers servers]
    exact iff_of_eq (congrArg (sn ∈ ·) linksTell.serversSeen)
  · rw [instsOf_append, List.mem_append] at member
    rcases member with old | new
    · exact told.positive inst old
    · exact tells.positive inst new

/-- A page that fits behind the pages before is accepted. -/
theorem acceptPage_complete (set_ : source.id ≠ "")
    (tells : PageTells source pass.start raw facts page) (told : PassTells before pass)
    (accepted : Accepted Fits [] facts)
    (first : raw.size = 0 ∧ facts = [] ∨ 0 < raw.size ∧ ∃ i, (instsOf facts).head? = some i)
    (placed : misplaced pass (pass.counted page) page = false)
    (crosses : Crosses before facts) : ∃ pass', acceptPage retain pass page = .ok pass' := by
  have sorted := (unordered_iff tells told accepted first).mpr crosses.later
  obtain ⟨seen, servers⟩ := (acceptServers_ok tells.identified (snsOf_nodup accepted)).mpr
    fun sn member inside => crosses.fresh sn member ((told.seen sn).mp inside)
  have agree : ∀ l ∈ linksOf facts, LinkFits (linksOf facts) l := fun l member l' member' same => by
    rw [← tells.owners.get member, ← tells.owners.get member', same]
  have owns : Owns (pass.withServers page seen).owners (linksOf before) := told.owners
  obtain ⟨linked, links⟩ : ∃ linked, page.links.foldlM (acceptLink retain page.targets)
      (pass.withServers page seen) = .ok linked := by
    rw [tells.links]
    exact (tracks_acceptLinks set_ tells.named (fun l member => tells.owners.get member)
      owns).complete _ rfl ((accepted_links agree).mpr crosses.owners)
  rw [← tells.servers] at servers
  exact ⟨_, acceptPage_ok_iff.mpr ⟨placed, sorted, seen, linked, servers, links, rfl⟩⟩

end Accept

/-! ## The pages -/

/-- A page with items begins with a server. -/
theorem head_pageFacts {client : UplinkClient} {cfg : CmdbConfig} {raw : UplinkData}
    {facts : List UplinkFact} (ok : pageFacts client cfg raw = .ok facts) :
    raw.size = 0 ∧ facts = [] ∨ 0 < raw.size ∧ ∃ i, (instsOf facts).head? = some i := by
  unfold pageFacts at ok
  unfold UplinkData.size
  cases items : raw.info with
  | nil =>
      rw [items] at ok
      cases ok
      exact .inl ⟨rfl, rfl⟩
  | cons item rest =>
      rw [items] at ok
      obtain ⟨here, server, ok⟩ := bind_ok ok
      obtain ⟨later, -, ok⟩ := bind_ok ok
      cases ok
      obtain ⟨row, -, server⟩ := bind_ok server
      obtain ⟨-, server⟩ := check_ok server
      obtain ⟨entries, -, server⟩ := bind_ok server
      obtain ⟨references, -, server⟩ := bind_ok server
      cases server
      refine .inr ⟨?_, row.instId, rfl⟩
      rw [List.length_cons]
      omega

/-- The pages that a pass reads: each starts where the one before has ended. -/
inductive PagesOf (client : UplinkClient) (source : Source) : Int → List UplinkPage → Prop where
  | last {start : Int} {page : UplinkPage}
      (collected : collectServerUplinkPage client source start = .ok page)
      (done : page.done = true) : PagesOf client source start [page]
  | more {start : Int} {page : UplinkPage} {pages : List UplinkPage}
      (collected : collectServerUplinkPage client source start = .ok page)
      (goes : page.done = false) (rest : PagesOf client source page.nextOffset pages) :
      PagesOf client source start (page :: pages)

/-- The links of a page with their ToRs, which the page keeps beside the links. -/
def pageLinks (page : UplinkPage) : List UplinkLink :=
  page.links.map fun i =>
    ⟨i.origin.stableId, i.target.stableId, page.targets.get i.target.stableId⟩

theorem pageLinks_eq {source : Source} {start : Int} {raw : UplinkData} {facts : List UplinkFact}
    {page : UplinkPage} (tells : PageTells source start raw facts page) :
    pageLinks page = linksOf facts := by
  rw [pageLinks, tells.links, List.map_map]
  refine (List.map_congr_left fun l member => ?_).trans (List.map_id _)
  simp only [Function.comp_apply, uplinkIdentity, tells.owners.get member, id_eq]

/-- The answers of the collector, in a context that does not change. -/
def uplinkAnswers (client : UplinkClient) (source : Source) : (c : UplinkCall) → c.Answer
  | .contextErr => client.contextDone
  | .collectPage start => collectServerUplinkPage client source start
  | .vertexExists _ => none
  | .serverUplinkEndpointsValid _ _ _ => none
  | .upsertRelation _ => none

section Pages

variable {client : UplinkClient} {cfg : CmdbConfig} {source : Source} {refusal : String}
  {before facts : List UplinkFact} {retain : Bool} {pass pass' : Pass} {c : Collection}
  {total start : Int} {raws : List UplinkData} {n : Nat}

/-- The facts of all pages, which fit behind others. -/
structure FactsOf (client : UplinkClient) (cfg : CmdbConfig) (start total : Int)
    (raws : List UplinkData) (before facts : List UplinkFact) : Prop where
  paged : Paged UplinkData.count UplinkData.size (serverPage client cfg) total start raws
  collected : collectAll (pageFacts client cfg) raws = .ok facts
  accepted : Accepted Fits before facts

theorem under_collectNext {result : Pass ⊕ Collection}
    (running : client.contextDone = false) :
    (collectNext retain pass).under (uplinkAnswers client source) = .ok result ↔
      ∃ page pass', collectServerUplinkPage client source pass.start = .ok page ∧
        acceptPage retain pass page = .ok pass' ∧
        result = if page.done then .inr pass'.collection else .inl pass' := by
  unfold collectNext
  cases collected : collectServerUplinkPage client source pass.start with
  | error e => simp [Prog.perform, Prog.bind, Prog.under, uplinkAnswers, collected]
  | ok page =>
      cases accepted : acceptPage retain pass page with
      | error failure =>
          simp [Prog.perform, Prog.bind, Prog.under, uplinkAnswers, collected, accepted]
      | ok pass' =>
          cases done : page.done with
          | true =>
              simpa [Prog.perform, Prog.bind, Prog.under, uplinkAnswers, collected, accepted, running,
                done] using eq_comm
          | false =>
              simpa [Prog.perform, Prog.bind, Prog.under, uplinkAnswers, collected, accepted, running,
                done] using eq_comm

theorem misplaced_eq_false {pass : Pass} {page : UplinkPage} :
    misplaced pass total page = false ↔ total = page.total ∧ pass.start ≤ page.nextOffset ∧
      page.nextOffset ≤ total ∧ (page.done = true ∨ page.nextOffset ≠ pass.start) ∧
      page.done = decide (page.nextOffset = total) := by
  simp only [misplaced, Bool.or_eq_false_iff, decide_eq_false_iff_not, Bool.and_eq_false_imp,
    bne_eq_false_iff_eq, Int.not_lt, not_not, and_assoc]
  cases page.done <;> simp

/-- What a page of a running source must be for the pass to take it. -/
theorem misplaced_iff {raw : UplinkData} {page : UplinkPage}
    (answered : serverPage client cfg pass.start = .ok raw)
    (tells : PageTells source pass.start raw facts page) :
    misplaced pass (pass.counted page) page = false ↔
      pass.counted page = raw.count ∧ (pass.start + raw.size = raw.count ∨ raw.size ≠ 0) := by
  obtain ⟨-, -, size⟩ := collectUplinkMapPage_ok answered
  have nonneg : 0 ≤ raw.size := Int.natCast_nonneg _
  have short : raw.size ≤ raw.count - pass.start := by
    rw [size]
    exact Int.min_le_right _ _
  rw [misplaced_eq_false, tells.nextOffset, tells.total, tells.done, beq_iff_eq]
  constructor
  · rintro ⟨whole, -, -, goes, -⟩
    exact ⟨whole, by omega⟩
  · rintro ⟨whole, goes⟩
    exact ⟨whole, by omega, by omega, by omega, by rw [whole]; rfl⟩

theorem uplinkData_size_nonneg (raw : UplinkData) : 0 ≤ raw.size := Int.natCast_nonneg _

theorem serverPage_count_nonneg (start : Int) (raw : UplinkData)
    (answered : serverPage client cfg start = .ok raw) : 0 ≤ raw.count :=
  (collectUplinkMapPage_ok answered).1

theorem source_set (configured : trimSpace source.id ≠ "") : source.id ≠ "" := by
  intro blank
  rw [blank] at configured
  exact configured rfl

/-- A page that is collected has been read, and its facts fit among themselves. -/
theorem collected_sound (running : client.contextDone = false) (configured : trimSpace source.id ≠ "")
    (config : serverConfig client refusal source = .ok cfg) (forward : 0 ≤ start) {page : UplinkPage}
    (ok : collectServerUplinkPage client source start = .ok page) :
    ∃ raw facts, serverPage client cfg start = .ok raw ∧ pageFacts client cfg raw = .ok facts ∧
      Accepted Fits [] facts ∧ PageTells source start raw facts page := by
  obtain ⟨raw, answered⟩ : ∃ raw, serverPage client cfg start = .ok raw := by
    obtain ⟨-, read⟩ := check_ok ok
    obtain ⟨-, read⟩ := check_ok read
    obtain ⟨cfg', config', read⟩ := bind_ok read
    obtain ⟨raw, answered, -⟩ := bind_ok read
    obtain ⟨cfg'', config'', same⟩ := serverConfig_text.ok_left config
    rw [config'] at config''
    cases config''
    exact ⟨raw, same ▸ answered⟩
  obtain ⟨facts, here, accepted, tells⟩ := (tracks_collectServerUplinkPage running configured forward
    config answered).sound page ok
  exact ⟨raw, facts, answered, here, accepted, tells⟩

/-- A pass that succeeds has read pages whose facts fit. -/
theorem collect_sound (running : client.contextDone = false) (configured : trimSpace source.id ≠ "")
    (config : serverConfig client refusal source = .ok cfg) (told : PassTells before pass)
    (forward : 0 ≤ pass.start)
    (ok : (Prog.loop (collectNext retain) n pass).under (uplinkAnswers client source) = .ok c) :
    ∃ total raws facts, FactsOf client cfg pass.start total raws before facts ∧
      (0 ≤ pass.total → total = pass.total) ∧ c.skipped = skipsOf (before ++ facts) := by
  induction n generalizing before pass with
  | zero => cases ok
  | succ n ih =>
      obtain ⟨result, next, ok⟩ := Prog.under_bind_ok.mp ok
      obtain ⟨page, pass', collected, taken, rfl⟩ := (under_collectNext running).mp next
      obtain ⟨raw, facts, answered, here, accepted, tells⟩ :=
        collected_sound running configured config forward collected
      obtain ⟨crosses, told', starts, counted⟩ :=
        acceptPage_sound (source_set configured) tells told accepted (head_pageFacts here) taken
      obtain ⟨placed, -⟩ := acceptPage_ok_iff.mp taken
      obtain ⟨whole, -⟩ := (misplaced_iff answered tells).mp placed
      have fits := (accepted_iff_crosses (lastOf_nonneg told.positive)).mpr ⟨accepted, crosses⟩
      have known : 0 ≤ pass.total → raw.count = pass.total := fun positive => by
        rw [← whole, Pass.counted, if_neg (Int.not_lt.mpr positive)]
      rw [tells.nextOffset] at starts
      rw [whole] at counted
      cases ends : page.done with
      | true =>
          rw [ends] at ok
          cases ok
          rw [tells.done, beq_iff_eq] at ends
          refine ⟨raw.count, [raw], facts, ⟨.last answered rfl ends, ?_, fits⟩, known, told'.skipped⟩
          rw [collectAll, here]
          exact congrArg Except.ok (List.append_nil facts)
      | false =>
          rw [ends] at ok
          rw [tells.done, beq_eq_false_iff_ne] at ends
          have onward : 0 ≤ pass'.start := by
            have := uplinkData_size_nonneg raw
            omega
          obtain ⟨total, raws, facts', later, same, skipped⟩ := ih told' onward ok
          have same := same (counted ▸ serverPage_count_nonneg _ raw answered)
          rw [counted] at same
          subst same
          rw [starts] at later
          refine ⟨raw.count, raw :: raws, facts ++ facts', ⟨.more answered rfl ends later.paged, ?_, ?_⟩,
            known, by rwa [← List.append_assoc]⟩
          · rw [collectAll, here, later.collected]
            rfl
          · exact accepted_append.mpr ⟨fits, later.accepted⟩

/-- The collector returns the pages whose facts fit. -/
theorem collected_complete (running : client.contextDone = false)
    (configured : trimSpace source.id ≠ "") (config : serverConfig client refusal source = .ok cfg)
    (forward : 0 ≤ start) {raw : UplinkData} (answered : serverPage client cfg start = .ok raw)
    (here : pageFacts client cfg raw = .ok facts) (accepted : Accepted Fits [] facts) :
    ∃ page, collectServerUplinkPage client source start = .ok page ∧
      PageTells source start raw facts page := by
  have tracks := tracks_collectServerUplinkPage running configured forward config answered
  obtain ⟨page, collected⟩ := tracks.complete facts here accepted
  obtain ⟨facts', here', -, tells⟩ := tracks.sound page collected
  rw [here] at here'
  cases here'
  exact ⟨page, collected, tells⟩

/-- The facts of the first page, and those of the others. -/
theorem FactsOf.split {raw : UplinkData} (facts_ : FactsOf client cfg start total (raw :: raws) before facts)
    (positive : 0 ≤ lastOf before) :
    ∃ here later, facts = here ++ later ∧ pageFacts client cfg raw = .ok here ∧
      Accepted Fits [] here ∧ Crosses before here ∧ collectAll (pageFacts client cfg) raws = .ok later ∧
      Accepted Fits (before ++ here) later := by
  obtain ⟨here, read, rest⟩ := bind_ok facts_.collected
  obtain ⟨later, read', rest⟩ := bind_ok rest
  cases rest
  obtain ⟨first, second⟩ := accepted_append.mp facts_.accepted
  obtain ⟨accepted, crosses⟩ := (accepted_iff_crosses positive).mp first
  exact ⟨here, later, rfl, read, accepted, crosses, read', second⟩

/-- A pass over pages whose facts fit succeeds. -/
theorem collect_complete (running : client.contextDone = false)
    (configured : trimSpace source.id ≠ "") (config : serverConfig client refusal source = .ok cfg)
    (facts_ : FactsOf client cfg pass.start total raws before facts) (told : PassTells before pass)
    (forward : 0 ≤ pass.start) (known : pass.total < 0 ∨ pass.total = total)
    (enough : raws.length ≤ n) :
    ∃ c, (Prog.loop (collectNext retain) n pass).under (uplinkAnswers client source) = .ok c := by
  have positive := lastOf_nonneg told.positive
  have set_ := source_set configured
  induction raws generalizing before facts pass n with
  | nil => cases facts_.paged
  | cons raw raws ih =>
      obtain ⟨n, rfl⟩ := Nat.exists_eq_add_of_le' enough
      obtain ⟨here, later, rfl, read, accepted, crosses, read', second⟩ := facts_.split positive
      have answered : serverPage client cfg pass.start = .ok raw ∧ raw.count = total := by
        cases facts_.paged with
        | last answered counted _ => exact ⟨answered, counted⟩
        | more answered counted _ _ => exact ⟨answered, counted⟩
      obtain ⟨answered, counted⟩ := answered
      obtain ⟨page, collected, tells⟩ :=
        collected_complete running configured config forward answered read accepted
      have whole : pass.counted page = raw.count := by
        rw [Pass.counted, tells.total]
        rcases known with fresh | same
        · rw [if_pos fresh]
        · rw [same, counted, ite_self]
      have goes : pass.start + raw.size = raw.count ∨ raw.size ≠ 0 := by
        by_cases ends : pass.start + raw.size = raw.count
        · exact .inl ends
        · exact .inr (facts_.paged.size_ne_zero (counted ▸ ends))
      obtain ⟨pass', taken⟩ : ∃ pass', acceptPage retain pass page = .ok pass' :=
        acceptPage_complete set_ tells told accepted (head_pageFacts read)
          ((misplaced_iff answered tells).mpr ⟨whole, goes⟩) crosses
      obtain ⟨-, told', starts, total'⟩ :=
        acceptPage_sound set_ tells told accepted (head_pageFacts read) taken
      have next := (under_collectNext running).mpr ⟨page, pass', collected, taken, rfl⟩
      cases ends : page.done with
      | true =>
          rw [ends] at next
          exact ⟨_, Prog.under_bind_ok.mpr ⟨_, next, rfl⟩⟩
      | false =>
          rw [ends] at next
          rw [tells.done, beq_eq_false_iff_ne, counted] at ends
          have onward : pass'.start = pass.start + raw.size := starts.trans tells.nextOffset
          have following : FactsOf client cfg pass'.start total raws (before ++ here) later := by
            refine ⟨?_, read', second⟩
            cases facts_.paged with
            | last _ _ ends' => exact (ends ends').elim
            | more _ _ _ rest => exact onward ▸ rest
          have nonneg := uplinkData_size_nonneg raw
          obtain ⟨c, ok⟩ := ih following told' (by omega)
            (.inr (total'.trans (whole.trans counted))) (Nat.le_add_left _ n) (lastOf_nonneg told'.positive)
          exact ⟨c, Prog.under_bind_ok.mpr ⟨_, next, ok⟩⟩

/-- The pages that the collector returns, where the facts fit: their links and their skips. -/
theorem pagesOf_facts (running : client.contextDone = false) (configured : trimSpace source.id ≠ "")
    (config : serverConfig client refusal source = .ok cfg) (forward : 0 ≤ start)
    (facts_ : FactsOf client cfg start total raws before facts)
    (positive : ∀ inst ∈ instsOf before, 0 < inst) :
    ∃ pages, PagesOf client source start pages ∧ pages.flatMap pageLinks = linksOf facts ∧
      (pages.map (·.skipped)).sum = skipsOf facts := by
  induction raws generalizing before facts start with
  | nil => cases facts_.paged
  | cons raw raws ih =>
      obtain ⟨here, later, rfl, read, accepted, -, read', second⟩ :=
        facts_.split (lastOf_nonneg positive)
      have answered : serverPage client cfg start = .ok raw ∧ raw.count = total := by
        cases facts_.paged with
        | last answered counted _ => exact ⟨answered, counted⟩
        | more answered counted _ _ => exact ⟨answered, counted⟩
      obtain ⟨answered, counted⟩ := answered
      obtain ⟨page, collected, tells⟩ :=
        collected_complete running configured config forward answered read accepted
      by_cases ends : start + raw.size = total
      · have alone : raws = [] := by
          cases facts_.paged with
          | last _ _ _ => rfl
          | more _ _ goes _ => exact (goes ends).elim
        subst alone
        cases read'
        refine ⟨[page], .last collected ?_, ?_, ?_⟩
        · rw [tells.done, counted, ends, beq_self_eq_true]
        · rw [List.flatMap_singleton, pageLinks_eq tells, List.append_nil]
        · rw [List.map_singleton, List.sum_singleton, tells.skipped, List.append_nil]
      · have following : FactsOf client cfg page.nextOffset total raws (before ++ here) later := by
          refine ⟨?_, read', second⟩
          cases facts_.paged with
          | last _ _ ends' => exact (ends ends').elim
          | more _ _ _ rest => exact tells.nextOffset ▸ rest
        have nonneg := uplinkData_size_nonneg raw
        obtain ⟨pages, read_, links, skips⟩ := ih
          (by rw [tells.nextOffset]; omega) following fun inst member => by
            rw [instsOf_append, List.mem_append] at member
            rcases member with old | new
            · exact positive inst old
            · exact tells.positive inst new
        refine ⟨page :: pages, .more collected ?_ read_, ?_, ?_⟩
        · rw [tells.done, counted, beq_eq_false_iff_ne]
          exact ends
        · rw [List.flatMap_cons, pageLinks_eq tells, links, linksOf_append]
        · rw [List.map_cons, List.sum_cons, tells.skipped, skips, skipsOf_append]

/-- The diagnostics succeed exactly when there are pages whose facts fit, and say what they say. -/
theorem diagnostics_iff (configured : trimSpace source.id ≠ "")
    (config : serverConfig client refusal source = .ok cfg) :
    ((∃ d, collectServerUplinkDiagnostics client source = .ok d) ↔
      ∃ total raws facts, FactsOf client cfg 0 total raws [] facts) ∧
    ∀ d total raws facts, collectServerUplinkDiagnostics client source = .ok d →
      FactsOf client cfg 0 total raws [] facts →
      (resolvedReferences d.references).map referenceLink = linksOf facts ∧
        ((unresolvedReferences d.references).length : Int) = skipsOf facts := by
  obtain ⟨cfg', config', rfl⟩ := serverConfig_text.ok_left config
  have reads : ∀ d, collectServerUplinkDiagnostics client source = .ok d ↔ ∃ total raws scan,
      Paged UplinkData.count UplinkData.size (serverPage client cfg) total 0 raws ∧
      raws.foldlM (diagnosePage client cfg) ⟨⟨0, "", []⟩, .empty, [], .empty, 0, []⟩ = .ok scan ∧
      d = { scan.result with sourceDigest := String.ofList (hexEncode (sha256 scan.digested)) } := by
    intro d
    unfold collectServerUplinkDiagnostics
    rw [if_neg configured, config']
    change (readPages _ _ (serverPage client cfg) _ _ _ _ >>= _) = _ ↔ _
    constructor
    · intro ok
      obtain ⟨scan, read, ok⟩ := bind_ok ok
      cases ok
      obtain ⟨total, raws, paged, folded⟩ :=
        (readPages_ok serverPage_count_nonneg uplinkData_size_nonneg).mp read
      exact ⟨total, raws, scan, paged, folded, rfl⟩
    · rintro ⟨total, raws, scan, paged, folded, rfl⟩
      rw [(readPages_ok serverPage_count_nonneg uplinkData_size_nonneg).mpr
        ⟨total, raws, paged, folded⟩]
      rfl
  have tracks : ∀ raws : List UplinkData, Tracks Fits (Diagnosed client cfg) []
      (collectAll (pageFacts client cfg) raws) (raws.foldlM (diagnosePage client cfg)
        ⟨⟨0, "", []⟩, .empty, [], .empty, 0, []⟩) :=
    fun raws => .foldlM diagnosed_empty fun raw _ before scan told => tracks_diagnosePage raw told
  refine ⟨⟨?_, ?_⟩, ?_⟩
  · rintro ⟨d, ok⟩
    obtain ⟨total, raws, scan, paged, folded, -⟩ := (reads d).mp ok
    obtain ⟨facts, collected, accepted, -⟩ := (tracks raws).sound scan folded
    exact ⟨total, raws, facts, paged, collected, accepted⟩
  · rintro ⟨total, raws, facts, paged, collected, accepted⟩
    obtain ⟨scan, folded⟩ := (tracks raws).complete facts collected accepted
    exact ⟨_, (reads _).mpr ⟨total, raws, scan, paged, folded, rfl⟩⟩
  · intro d total raws facts ok facts_
    obtain ⟨total', raws', scan, paged, folded, rfl⟩ := (reads d).mp ok
    obtain ⟨rfl, -⟩ := paged.unique facts_.paged
    obtain ⟨facts', collected, -, diagnosed⟩ := (tracks _).sound scan folded
    rw [facts_.collected] at collected
    cases collected
    exact ⟨diagnosed.links, diagnosed.skipped⟩

end Pages

/-- The source can be read: a live context, an ID and a configuration. -/
def Readable (client : UplinkClient) (source : Source) : Prop :=
  client.contextDone = false ∧ trimSpace source.id ≠ "" ∧
    ∃ cfg, serverConfig client "" source = .ok cfg

section Readable

variable {client : UplinkClient} {source : Source} {retain : Bool}

theorem readable_of_collected {start : Int} {page : UplinkPage}
    (collected : collectServerUplinkPage client source start = .ok page) : Readable client source := by
  obtain ⟨running, collected⟩ := check_ok collected
  obtain ⟨accepted, collected⟩ := check_ok collected
  obtain ⟨cfg, config, -⟩ := bind_ok collected
  obtain ⟨cfg', config', -⟩ := serverConfig_text.ok_left config
  exact ⟨Bool.eq_false_of_not_eq_true running, (not_or.mp accepted).2, cfg', config'⟩

theorem readable_of_collect {n : Nat} {pass : Pass} {c : Collection}
    (ok : (Prog.loop (collectNext retain) n pass).under (uplinkAnswers client source) = .ok c) :
    Readable client source := by
  cases n with
  | zero => cases ok
  | succ n =>
      obtain ⟨result, next, -⟩ := Prog.under_bind_ok.mp ok
      cases collected : collectServerUplinkPage client source pass.start with
      | error e =>
          simp [collectNext, Prog.perform, Prog.bind, Prog.under, uplinkAnswers, collected] at next
      | ok page => exact readable_of_collected collected

theorem readable_of_diagnostics {d : UplinkDiagnostics}
    (ok : collectServerUplinkDiagnostics client source = .ok d) : Readable client source := by
  obtain ⟨configured, ok⟩ := check_ok ok
  obtain ⟨cfg, config, ok⟩ := bind_ok ok
  obtain ⟨cfg', config', -⟩ := serverConfig_text.ok_left config
  obtain ⟨scan, read, -⟩ := bind_ok ok
  obtain ⟨raw, first, -⟩ := bind_ok read
  obtain ⟨running, -⟩ := check_ok first
  exact ⟨Bool.eq_false_of_not_eq_true running, configured, cfg', config'⟩

/-- **The diagnostics agree with the collection.**  For any contents of the CMDB there is a number of
pages such that a pass that may read so many succeeds exactly when the diagnostics do.  The references
without reason are then the links of the pages of the pass with their ToRs, in order and with
repetitions, and the other references are as many as the pages skip. -/
theorem diagnostics_agree (client : UplinkClient) (source : Source) :
    ∃ bound, ∀ n, bound ≤ n → ∀ retain,
      ((∃ d, collectServerUplinkDiagnostics client source = .ok d) ↔
        ∃ c, (collect retain n).under (uplinkAnswers client source) = .ok c) ∧
      ∀ d c, collectServerUplinkDiagnostics client source = .ok d →
        (collect retain n).under (uplinkAnswers client source) = .ok c →
        ∃ pages, PagesOf client source 0 pages ∧
          (resolvedReferences d.references).map referenceLink = pages.flatMap pageLinks ∧
          ((unresolvedReferences d.references).length : Int) = (pages.map (·.skipped)).sum ∧
          c.skipped = (pages.map (·.skipped)).sum := by
  by_cases readable : Readable client source
  · obtain ⟨running, configured, cfg, config⟩ := readable
    obtain ⟨succeeds, tells⟩ := diagnostics_iff configured config
    obtain ⟨bound, enough⟩ : ∃ bound, ∀ n, bound ≤ n → ∀ retain,
        (∃ total raws facts, FactsOf client cfg 0 total raws [] facts) →
        ∃ c, (collect retain n).under (uplinkAnswers client source) = .ok c := by
      by_cases some_ : ∃ total raws facts, FactsOf client cfg 0 total raws [] facts
      · obtain ⟨total, raws, facts, facts_⟩ := some_
        exact ⟨raws.length, fun n enough retain _ => collect_complete running configured config facts_
          passTells_start (Int.le_refl 0) (.inl (by decide)) enough⟩
      · exact ⟨0, fun _ _ _ here => (some_ here).elim⟩
    refine ⟨bound, fun n below retain => ⟨⟨fun ok => enough n below retain (succeeds.mp ok), ?_⟩, ?_⟩⟩
    · rintro ⟨c, ok⟩
      obtain ⟨total, raws, facts, facts_, -, -⟩ :=
        collect_sound running configured config passTells_start (Int.le_refl 0) ok
      exact succeeds.mpr ⟨total, raws, facts, facts_⟩
    · intro d c diagnosed ok
      obtain ⟨total, raws, facts, facts_, -, skipped⟩ :=
        collect_sound running configured config passTells_start (Int.le_refl 0) ok
      obtain ⟨links, skips⟩ := tells d total raws facts diagnosed facts_
      obtain ⟨pages, read, links', skips'⟩ := pagesOf_facts running configured config (Int.le_refl 0)
        facts_ fun _ member => (List.not_mem_nil member).elim
      exact ⟨pages, read, links.trans links'.symm, skips.trans skips'.symm, skipped.trans skips'.symm⟩
  · refine ⟨0, fun n _ retain => ⟨⟨?_, ?_⟩, fun d c diagnosed _ => ?_⟩⟩
    · rintro ⟨d, ok⟩
      exact (readable (readable_of_diagnostics ok)).elim
    · rintro ⟨c, ok⟩
      exact (readable (readable_of_collect ok)).elim
    · exact (readable (readable_of_diagnostics diagnosed)).elim

end Readable

end ServerUplink

end UnifiedInfraTopology
