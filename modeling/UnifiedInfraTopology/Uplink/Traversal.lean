import UnifiedInfraTopology.Uplink.Digest
import UnifiedInfraTopology.Uplink.Parity
import UnifiedInfraTopology.Uplink.Writes

/-!
# The pages of a traversal

`ServerUplinkWorker.collect` reads pages until one is done.  Whatever the pages are, each one that is
accepted and not done moves the offset forward, below the total that the first page has named; so there
are at most as many, and one more is read.  The pages of a pass that succeeds lie one behind the other
from 0 to the total (`Tiles`), and where the collector has returned them, so do their servers
(`Serves`).

* `collect_traversal` puts this together with what the digest determines.
-/

namespace UnifiedInfraTopology

open Lib
open Cmdb

namespace ServerUplink

/-! ## Progress -/

/-- A link changes neither the total nor the offset. -/
theorem total_acceptLink {retain : Bool} {targets : TextMap} {pass pass' : Pass}
    {identity : RelationIdentity} (ok : acceptLink retain targets pass identity = .ok pass') :
    pass'.total = pass.total := by
  obtain ⟨identified, -⟩ := acceptLink_ok ok
  have identified : identity.id = .ok (relationId (linkWith targets identity)) := identified
  unfold acceptLink at ok
  rw [identified] at ok
  dsimp only at ok
  obtain ⟨-, ok⟩ := check_ok ok
  obtain ⟨-, ok⟩ := check_ok ok
  split at ok <;> cases ok <;> rfl

/-- What an accepted page does to the offset and to the total. -/
structure Advances (pass : Pass) (page : UplinkPage) (pass' : Pass) : Prop where
  start_ : pass'.start = page.nextOffset
  total : pass'.total = page.total
  counted : 0 ≤ pass.total → pass.total = page.total
  forward : pass.start ≤ page.nextOffset
  inside : page.nextOffset ≤ page.total
  done : page.done = decide (page.nextOffset = page.total)
  goes : page.done = false → pass.start < page.nextOffset ∧ page.nextOffset < page.total

theorem advances_acceptPage {retain : Bool} {pass pass' : Pass} {page : UplinkPage}
    (ok : acceptPage retain pass page = .ok pass') : Advances pass page pass' := by
  obtain ⟨placed, -, servers, linked, -, links, rfl⟩ := acceptPage_ok_iff.mp ok
  obtain ⟨same, forward, inside, moves, done⟩ := misplaced_eq_false.mp placed
  have total : linked.total = pass.counted page :=
    @foldlM_invariant _ _ _ (fun _ linked => linked.total = (pass.withServers page servers).total)
      _ _ _ _ [] (fun _ _ _ _ held ok => (total_acceptLink ok).trans held) rfl links
  rw [same] at inside done
  refine ⟨rfl, total.trans same, fun known => ?_, forward, inside, done, fun goes => ?_⟩
  · rw [← same, Pass.counted, if_neg (Int.not_lt.mpr known)]
  · rw [goes] at moves done
    have apart := of_decide_eq_false done.symm
    have moves := moves.resolve_left Bool.false_ne_true
    omega

/-- Pages that are accepted and not done: at most as many as the offset, which is below the total. -/
theorem going_pages {retain : Bool} {pages : List UplinkPage} {pass pass' : Pass}
    (accepted : pages.foldlM (acceptPage retain) pass = .ok pass')
    (going : ∀ page ∈ pages, page.done = false) (nonneg : 0 ≤ pass.start) :
    pass.start + pages.length ≤ pass'.start ∧
      ∀ first ∈ pages.head?, pass'.start < first.total ∧ pass'.total = first.total := by
  induction pages generalizing pass with
  | nil =>
      cases accepted
      exact ⟨by simp, nofun⟩
  | cons page pages ih =>
      rw [List.foldlM_cons] at accepted
      obtain ⟨pass₁, taken, accepted⟩ := bind_ok accepted
      have step := advances_acceptPage taken
      obtain ⟨forward, inside⟩ := step.goes (going page List.mem_cons_self)
      obtain ⟨further, rest⟩ := ih accepted (fun later member => going later (by simp [member]))
        (by rw [step.start_]; omega)
      rw [step.start_] at further
      refine ⟨by push_cast [List.length_cons]; omega, ?_⟩
      rintro first head
      cases head
      cases pages with
      | nil =>
          cases accepted
          rw [step.start_]
          exact ⟨inside, step.total⟩
      | cons second pages =>
          obtain ⟨below, total⟩ := rest second rfl
          rw [List.foldlM_cons] at accepted
          obtain ⟨pass₂, taken', -⟩ := bind_ok accepted
          have same := (advances_acceptPage taken').counted (by rw [step.total]; omega)
          rw [step.total] at same
          exact ⟨same ▸ below, same ▸ total⟩

/-! ## Tiles -/

/-- Pages that lie one behind the other from an offset to the total. -/
inductive Tiles (total : Int) : Int → List UplinkPage → Prop where
  | last {start : Int} {page : UplinkPage} (ends : page.nextOffset = total)
      (forward : start < total ∨ total = 0) : Tiles total start [page]
  | more {start : Int} {page : UplinkPage} {pages : List UplinkPage}
      (forward : start < page.nextOffset) (inside : page.nextOffset < total)
      (rest : Tiles total page.nextOffset pages) : Tiles total start (page :: pages)

theorem tiles_of_accepted {retain : Bool} {earlier : List UplinkPage} {last : UplinkPage}
    {pass pass' : Pass} (accepted : (earlier ++ [last]).foldlM (acceptPage retain) pass = .ok pass')
    (going : ∀ page ∈ earlier, page.done = false) (done : last.done = true)
    (placed : (pass.start = 0 ∧ pass.total < 0) ∨ (0 ≤ pass.start ∧ pass.start < pass.total)) :
    Tiles pass'.total pass.start (earlier ++ [last]) ∧ pass'.start = pass'.total ∧
      (0 ≤ pass.total → pass'.total = pass.total) := by
  induction earlier generalizing pass with
  | nil =>
      rw [List.nil_append, List.foldlM_cons] at accepted
      obtain ⟨pass₁, taken, accepted⟩ := bind_ok accepted
      cases accepted
      have step := advances_acceptPage taken
      have ends : last.nextOffset = last.total := by
        rw [step.done] at done
        exact of_decide_eq_true done
      have forward := step.forward
      have counted := step.counted
      rw [step.total, step.start_]
      exact ⟨.last ends (by omega), ends, fun known => (counted known).symm⟩
  | cons page earlier ih =>
      rw [List.cons_append, List.foldlM_cons] at accepted
      obtain ⟨pass₁, taken, accepted⟩ := bind_ok accepted
      have step := advances_acceptPage taken
      have counted := step.counted
      obtain ⟨forward, inside⟩ := step.goes (going page List.mem_cons_self)
      obtain ⟨rest, reached, same⟩ := ih accepted (fun later member => going later (by simp [member]))
        (Or.inr (by rw [step.start_, step.total]; omega))
      rw [step.start_] at rest
      rw [step.total] at same
      have same := same (by omega)
      exact ⟨.more forward (same ▸ inside) rest, reached, fun known => same.trans (counted known).symm⟩

/-! ## Servers -/

/-- A server: its instance ID and its SN. -/
def server? : UplinkFact → Option (Int64 × String)
  | .server inst sn => some (inst, sn)
  | _ => none

def serversOf (facts : List UplinkFact) : List (Int64 × String) := facts.filterMap server?

/-- A page that the collector may return for a start, whatever the CMDB answers. -/
def MayReturn (source : Source) (start : Int) (page : UplinkPage) : Prop :=
  ∃ client, collectServerUplinkPage client source start = .ok page

/-- The servers of a page. -/
structure Served (start : Int) (page : UplinkPage) (servers : List (Int64 × String)) : Prop where
  covers : page.nextOffset = start + servers.length
  sns : page.serverSNs = servers.map (·.2)
  first : page.firstInstanceId = (servers.map (·.1)).head?.getD 0
  last : page.lastInstanceId = (servers.map (·.1)).getLast?.getD 0

/-- The servers of some pages, page by page. -/
inductive Serves : Int → List UplinkPage → List (Int64 × String) → Prop where
  | nil (start : Int) : Serves start [] []
  | cons {start : Int} {page : UplinkPage} {pages : List UplinkPage}
      {servers later : List (Int64 × String)} (here : Served start page servers)
      (rest : Serves page.nextOffset pages later) : Serves start (page :: pages) (servers ++ later)

theorem serversOf_append (facts facts' : List UplinkFact) :
    serversOf (facts ++ facts') = serversOf facts ++ serversOf facts' := List.filterMap_append

theorem map_fst_serversOf (facts : List UplinkFact) : (serversOf facts).map (·.1) = instsOf facts := by
  unfold serversOf instsOf
  rw [List.map_filterMap]
  refine List.filterMap_congr fun fact _ => ?_
  cases fact <;> rfl

theorem map_snd_serversOf (facts : List UplinkFact) : (serversOf facts).map (·.2) = snsOf facts := by
  unfold serversOf snsOf
  rw [List.map_filterMap]
  refine List.filterMap_congr fun fact _ => ?_
  cases fact <;> rfl

section Items

variable {client : UplinkClient} {cfg : CmdbConfig} {facts : List UplinkFact}

theorem serversOf_entryFacts {sn : String} {entry : Json.Value}
    (ok : entryFacts client cfg sn entry = .ok facts) : serversOf facts = [] := by
  obtain ⟨entry, -, ok⟩ := bind_ok ok
  split at ok
  · cases ok
    rfl
  · obtain ⟨ports, -, ok⟩ := bind_ok ok
    cases ok
    refine List.filterMap_eq_nil_iff.mpr fun fact member => ?_
    obtain ⟨name, -, rfl⟩ := List.mem_map.mp member
    unfold nameFact
    dsimp only
    split <;> rfl

theorem serversOf_entries {sn : String} {entries : List Json.Value}
    (ok : collectAll (entryFacts client cfg sn) entries = .ok facts) : serversOf facts = [] := by
  induction entries generalizing facts with
  | nil =>
      cases ok
      rfl
  | cons entry entries ih =>
      obtain ⟨here, read, ok⟩ := bind_ok ok
      obtain ⟨later, rest, ok⟩ := bind_ok ok
      cases ok
      rw [serversOf_append, serversOf_entryFacts read, ih rest]
      rfl

/-- Every item is one server. -/
theorem length_serversOf {raw : UplinkData} (ok : pageFacts client cfg raw = .ok facts) :
    ((serversOf facts).length : Int) = raw.size := by
  unfold pageFacts at ok
  unfold UplinkData.size
  generalize raw.info = items at ok ⊢
  induction items generalizing facts with
  | nil =>
      cases ok
      rfl
  | cons item items ih =>
      obtain ⟨here, read, ok⟩ := bind_ok ok
      obtain ⟨later, rest, ok⟩ := bind_ok ok
      cases ok
      obtain ⟨row, -, read⟩ := bind_ok read
      obtain ⟨-, read⟩ := check_ok read
      obtain ⟨entries, -, read⟩ := bind_ok read
      obtain ⟨references, referred, read⟩ := bind_ok read
      cases read
      have rest := ih rest
      have one : serversOf (.server row.instId row.sn :: references) = [(row.instId, row.sn)] := by
        have none_ := serversOf_entries referred
        unfold serversOf at none_ ⊢
        rw [List.filterMap_cons, none_]
        rfl
      rw [serversOf_append, one, List.length_append, List.length_singleton, List.length_cons]
      omega

end Items

/-- A page that the collector returns has as many servers as it moves forward. -/
theorem served_of_mayReturn {source : Source} {start : Int} {page : UplinkPage}
    (returned : MayReturn source start page) :
    trimSpace source.id ≠ "" ∧ ∃ raw facts, PageTells source start raw facts page ∧
      Accepted Fits [] facts ∧ Served start page (serversOf facts) ∧
      (raw.size = 0 ∧ facts = [] ∨ 0 < raw.size ∧ ∃ i, (instsOf facts).head? = some i) := by
  obtain ⟨client, ok⟩ := returned
  have whole := ok
  obtain ⟨running, ok⟩ := check_ok ok
  obtain ⟨proper, ok⟩ := check_ok ok
  obtain ⟨forward, configured⟩ := not_or.mp proper
  obtain ⟨cfg, config, -⟩ := bind_ok ok
  obtain ⟨raw, facts, -, here, accepted, tells⟩ := collected_sound
    (Bool.eq_false_of_not_eq_true running) configured config (Int.not_lt.mp forward) whole
  refine ⟨configured, raw, facts, tells, accepted, ⟨?_, ?_, ?_, ?_⟩, head_pageFacts here⟩
  · rw [tells.nextOffset, length_serversOf here]
  · rw [tells.servers, map_snd_serversOf]
  · rw [tells.first, map_fst_serversOf]
  · rw [tells.last, map_fst_serversOf]
    rfl

/-- The instance IDs of facts that fit climb. -/
theorem climbs_of_accepted {before facts : List UplinkFact} (accepted : Accepted Fits before facts) :
    ∃ last, Ascending (lastOf before) (instsOf facts) last := by
  induction facts generalizing before with
  | nil => exact ⟨_, .nil _⟩
  | cons fact facts ih =>
      obtain ⟨fits, accepted⟩ := accepted
      obtain ⟨last, rest⟩ := ih accepted
      cases fact with
      | server inst sn =>
          rw [lastOf_server] at rest
          exact ⟨last, .cons fits.1 rest⟩
      | skip =>
          rw [lastOf_skip] at rest
          exact ⟨last, rest⟩
      | link l =>
          rw [lastOf_link] at rest
          exact ⟨last, rest⟩

/-- Pages of the collector that a pass accepts: their servers fit as a whole. -/
theorem serves_of_accepted {source : Source} {retain : Bool} {pages : List UplinkPage}
    {pass pass' : Pass} {before : List UplinkFact}
    (accepted : pages.foldlM (acceptPage retain) pass = .ok pass') (told : PassTells before pass)
    (fits : Accepted Fits [] before)
    (returned : ∀ start page, ⟨.collectPage start, some (.ok page)⟩ ∈ passEvents pass.start pages →
      MayReturn source start page) :
    ∃ facts, Accepted Fits [] (before ++ facts) ∧ Serves pass.start pages (serversOf facts) ∧
      pass'.start = pass.start + (serversOf facts).length := by
  induction pages generalizing pass before with
  | nil =>
      cases accepted
      exact ⟨[], by rwa [List.append_nil], .nil _, (Int.add_zero _).symm⟩
  | cons page pages ih =>
      rw [List.foldlM_cons] at accepted
      obtain ⟨pass₁, taken, accepted⟩ := bind_ok accepted
      obtain ⟨configured, raw, facts, tells, fine, served, first⟩ :=
        served_of_mayReturn (returned pass.start page List.mem_cons_self)
      obtain ⟨crosses, told', starts, -⟩ :=
        acceptPage_sound (source_set configured) tells told fine first taken
      have both : Accepted Fits [] (before ++ facts) := accepted_append.mpr
        ⟨fits, (accepted_iff_crosses (lastOf_nonneg told.positive)).mpr ⟨fine, crosses⟩⟩
      obtain ⟨later, whole, serves, reached⟩ := ih accepted told' both fun start other member =>
        returned start other (by
          rw [passEvents, List.mem_cons, List.mem_cons]
          exact Or.inr (Or.inr (starts ▸ member)))
      rw [starts] at serves
      refine ⟨facts ++ later, by rwa [← List.append_assoc], ?_, ?_⟩
      · rw [serversOf_append]
        exact .cons served serves
      · rw [reached, starts, served.covers, serversOf_append, List.length_append]
        push_cast
        ring

/-! ## Reads -/

def pageReads (log : List UplinkEvent) : List UplinkEvent :=
  log.filter fun e => match e.call with
    | .collectPage _ => true
    | _ => false

/-- The total that the first page names, if it was read. -/
def firstTotal : List UplinkEvent → Nat
  | ⟨.collectPage _, some (.ok page)⟩ :: _ => page.total.toNat
  | _ => 0

theorem pageReads_passEvents (start : Int) (pages : List UplinkPage) :
    (pageReads (passEvents start pages)).length = pages.length := by
  induction pages generalizing start with
  | nil => rfl
  | cons page pages ih => exact congrArg (· + 1) (ih page.nextOffset)

theorem firstTotal_append {log : List UplinkEvent} (some_ : log ≠ []) (more : List UplinkEvent) :
    firstTotal (log ++ more) = firstTotal log := by
  obtain ⟨first, rest, rfl⟩ := List.exists_cons_of_ne_nil some_
  rcases first with ⟨c, answer⟩
  cases c with
  | collectPage start => rcases answer with _ | _ | page <;> rfl
  | _ => rfl

/-- Where a page is asked for, as many pages have been read as the first one allows. -/
def ReadAllowed (c : UplinkCall) (log : List UplinkEvent) : Prop :=
  ∀ start, c = .collectPage start → (pageReads log).length ≤ firstTotal log

/-- What the loop has done when it goes on. -/
def Going (retain : Bool) (k : Nat) (pass : Pass) (log : List UplinkEvent) : Prop :=
  ∃ pages, log = passEvents 0 pages ∧ pages.length = k ∧
    pages.foldlM (acceptPage retain) Pass.start_ = .ok pass ∧ ∀ page ∈ pages, page.done = false

section Going

variable {graph : UplinkGraph} {retain : Bool} {k : Nat} {pass : Pass} {log : List UplinkEvent}

theorem Going.le_firstTotal (going : Going retain k pass log) : k ≤ firstTotal log := by
  obtain ⟨pages, rfl, rfl, accepted, unfinished⟩ := going
  obtain ⟨forward, below⟩ := going_pages accepted unfinished (Int.le_refl 0)
  cases pages with
  | nil => exact Nat.zero_le _
  | cons first pages =>
      obtain ⟨below, -⟩ := below first rfl
      have starts : (Pass.start_).start = 0 := rfl
      change (first :: pages).length ≤ first.total.toNat
      omega

theorem Going.next (going : Going retain k pass log) :
    Prog.Ensures (uplinkWorld graph) (collectNext retain pass) (fun result log =>
      ∀ pass', result = .inl pass' → Going retain (k + 1) pass' log) log := by
  obtain ⟨pages, rfl, rfl, accepted, unfinished⟩ := going
  refine Prog.contract_mono (@ensures_collectNext graph retain [] pages pass accepted) ?_
  rintro result log ⟨page, pass', rfl, whole, ending⟩ next rfl
  obtain ⟨rfl, more⟩ := ending
  refine ⟨pages ++ [page], rfl, List.length_append, whole, fun p member => ?_⟩
  rcases List.mem_append.mp member with earlier | last
  · exact unfinished p earlier
  · rw [List.mem_singleton.mp last]
    exact more

theorem issues_collectNext (going : Going retain k pass log) :
    (collectNext retain pass).Issues (uplinkWorld graph) ReadAllowed log := by
  have allowed := going.le_firstTotal
  obtain ⟨pages, rfl, rfl, -⟩ := going
  unfold collectNext
  refine issues_ask (fun _ _ => by rwa [pageReads_passEvents]) fun move => ?_
  unfold UplinkGraph.reply
  cases move.page with
  | error e => trivial
  | ok page =>
      cases taken : acceptPage retain pass page with
      | error failure =>
          simp only [taken]
          trivial
      | ok pass' =>
          simp only [taken]
          refine issues_ask (fun _ same => by cases same) fun move => ?_
          split
          · trivial
          · split <;> trivial

/-- No iteration of the loop uses up a number of iterations. -/
theorem straight_collectNext (pass : Pass) : (collectNext retain pass).Straight := by
  unfold collectNext
  refine Prog.straight_perform fun answer => ?_
  cases answer with
  | error e => trivial
  | ok page =>
      cases taken : acceptPage retain pass page with
      | error failure =>
          simp only [taken]
          trivial
      | ok pass' =>
          simp only [taken]
          refine Prog.straight_perform fun done => ?_
          split
          · trivial
          · split <;> trivial

end Going

theorem going_start (retain : Bool) : Going retain 0 .start_ [] :=
  ⟨[], rfl, rfl, rfl, fun _ member => (List.not_mem_nil member).elim⟩

theorem pageReads_append (log more : List UplinkEvent) :
    pageReads (log ++ more) = pageReads log ++ pageReads more := List.filter_append _ _

/-- A call that is allowed leaves at most one read more than the first page allows. -/
theorem reads_call {log : List UplinkEvent} {c : UplinkCall} (answer : Option c.Answer)
    (allowed : ReadAllowed c log) (held : (pageReads log).length ≤ firstTotal log + 1) :
    (pageReads (log ++ [⟨c, answer⟩])).length ≤ firstTotal (log ++ [⟨c, answer⟩]) + 1 := by
  rw [pageReads_append, List.length_append]
  have one : (pageReads [⟨c, answer⟩]).length ≤ 1 := List.length_filter_le _ _
  by_cases empty : log = []
  · subst empty
    have none_ : (pageReads []).length = 0 := rfl
    omega
  · rw [firstTotal_append empty]
    by_cases page : ∃ start, c = .collectPage start
    · obtain ⟨start, same⟩ := page
      have before := allowed start same
      omega
    · have none_ : pageReads [⟨c, answer⟩] = [] := by
        refine List.filter_eq_nil_iff.mpr fun e member => ?_
        rw [List.mem_singleton.mp member]
        dsimp only
        split
        · rename_i start
          exact (page ⟨start, rfl⟩).elim
        · exact Bool.false_ne_true
      rw [none_]
      exact held

section Collect

variable (graph : UplinkGraph) (retain : Bool) (n : Nat) (script : List UplinkMove)

/-- At most one page more is read than the first one allows. -/
theorem reads_collect :
    let log := ((collect retain n).run (uplinkWorld graph) script []).2.1
    (pageReads log).length ≤ firstTotal log + 1 := by
  have issues : (collect retain n).Issues (uplinkWorld graph) ReadAllowed [] :=
    Prog.issues_loop (fun pass log => ∃ k, Going retain k pass log)
      (fun _ _ ⟨_, going⟩ => issues_collectNext going)
      (fun _ _ ⟨k, going⟩ => Prog.contract_mono going.next fun _ _ next pass' same =>
        ⟨k + 1, next pass' same⟩) n .start_ ⟨0, going_start retain⟩
  exact Prog.issues_run (K := fun log => (pageReads log).length ≤ firstTotal log + 1)
    (fun c move log issued held => reads_call (uplinkWorld graph c move log).1 issued held) issues
    (Nat.zero_le _) script

/-- With more iterations than the first page names servers, only a missing answer keeps the loop from
returning. -/
theorem waits_collect :
    let ran := (collect retain n).run (uplinkWorld graph) script []
    firstTotal ran.2.1 < n → ran.1 = .pending → Prog.Waits (uplinkWorld graph) ran.2.1 ran.2.2 := by
  intro ran enough pending
  have ran_ : (collect retain n).run (uplinkWorld graph) script [] = (.pending, ran.2.1, ran.2.2) :=
    Prod.ext pending rfl
  cases reached : Prog.iterate (uplinkWorld graph) (collectNext retain) n .start_ script [] with
  | none => exact Prog.waits_of_loop straight_collectNext reached ran_
  | some after =>
      obtain ⟨pass, log, script'⟩ := after
      have going : Going retain (0 + n) pass log := Prog.iterate_invariant (Going retain)
        (fun k pass log going => going.next) (going_start retain) reached
      have stopped : ran = (.pending, log, script') :=
        Prog.run_loop_of_iterate (k := 0) reached
      have most := going.le_firstTotal
      rw [stopped] at enough
      dsimp only at enough
      omega

/-- A pass that returns has read pages that lie one behind the other, and servers that climb. -/
theorem tiles_collect (source : Source) {collection : Collection} {log : List UplinkEvent}
    {rest : List UplinkMove}
    (ran : (collect retain n).run (uplinkWorld graph) script [] = (.ok collection, log, rest))
    (returned : ∀ start page, ⟨.collectPage start, some (.ok page)⟩ ∈ log →
      MayReturn source start page) :
    ∃ pages pass servers, log = passEvents 0 pages ∧ WholePass retain pages pass ∧
      collection = pass.collection ∧ Tiles collection.servers 0 pages ∧ Serves 0 pages servers ∧
      (servers.length : Int) = collection.servers ∧ (servers.map (·.1)).Pairwise (· < ·) ∧
      (servers.map (·.2)).Nodup := by
  have ensured := (Prog.contract_run (Prog.shrinking_true _) (@ensures_collect graph retain [] n)
    script trivial).1
  rw [ran] at ensured
  obtain ⟨pages, pass, same, whole, rfl⟩ := ensured collection rfl
  have same : log = passEvents 0 pages := same
  subst same
  obtain ⟨⟨earlier, last, rfl, done, going⟩, accepted⟩ := whole
  obtain ⟨tiles, ends, -⟩ := tiles_of_accepted accepted going done (Or.inl ⟨rfl, by decide⟩)
  obtain ⟨facts, fits, serves, reached⟩ := serves_of_accepted accepted passTells_start trivial returned
  obtain ⟨last', climbs⟩ := climbs_of_accepted fits
  refine ⟨_, pass, serversOf facts, rfl, ⟨⟨earlier, last, rfl, done, going⟩, accepted⟩, rfl, tiles,
    serves, ?_, ?_, ?_⟩
  · rw [ends] at reached
    exact (reached.trans (Int.zero_add _)).symm
  · rw [map_fst_serversOf]
    exact climbs.pairwise.2
  · rw [map_snd_serversOf]
    exact snsOf_nodup fits

end Collect

/-- **The traversal of the server uplinks.**  Whatever pages are returned, a pass reads at most one more
than the first page names servers, and with that many iterations only a missing answer keeps it from
returning.  A pass that returns has read pages of the collector that lie one behind the other from 0 to
the total, with instance IDs that climb and SNs that are distinct.  Two passes with one stream have read
the same boundaries, skips, source digests, relation IDs and ToRs. -/
theorem collect_traversal (graph : UplinkGraph) (source : Source) :
    (∀ retain n script,
      let ran := (collect retain n).run (uplinkWorld graph) script []
      (pageReads ran.2.1).length ≤ firstTotal ran.2.1 + 1 ∧
      (firstTotal ran.2.1 < n → ran.1 = .pending → Prog.Waits (uplinkWorld graph) ran.2.1 ran.2.2)) ∧
    (∀ retain n script collection log rest,
      (collect retain n).run (uplinkWorld graph) script [] = (.ok collection, log, rest) →
      (∀ start page, ⟨.collectPage start, some (.ok page)⟩ ∈ log → MayReturn source start page) →
      ∃ pages pass servers, log = passEvents 0 pages ∧ WholePass retain pages pass ∧
        collection = pass.collection ∧ Tiles collection.servers 0 pages ∧ Serves 0 pages servers ∧
        (servers.length : Int) = collection.servers ∧ (servers.map (·.1)).Pairwise (· < ·) ∧
        (servers.map (·.2)).Nodup) ∧
    ∀ retain retain' pages pages' pass pass', WholePass retain pages pass →
      WholePass retain' pages' pass' → pass.digested = pass'.digested →
        summaries 0 pages = summaries 0 pages' := by
  refine ⟨fun retain n script => ⟨reads_collect graph retain n script, waits_collect graph retain n script⟩,
    fun retain n script collection log rest ran returned => ?_,
    fun retain retain' pages pages' pass pass' whole whole' same => ?_⟩
  · exact tiles_collect graph retain n script source ran returned
  · exact summaries_of_stream whole.accepted whole'.accepted same

end ServerUplink

end UnifiedInfraTopology
