import UnifiedInfraTopology.Migration.Sqlite

/-!
# Failing steps of a SQLite migration

`Upto` is where a run stands before a step: nothing was refused, the schema is that of the earlier steps
and the ledger records them.  `Marked` is what the savepoint of a step keeps, and `Left` how a failing
run leaves the steps.

* `applySQLite_atomic`: a failing step leaves the schema of the steps before it and the record of its
  failure, or, where recovery or the commit fails, everything as it was.
-/

namespace UnifiedInfraTopology.Migration.Sqlite

open Lib

variable {σ : Type}

/-- The statements with which a step fails. -/
def Command.Fails (version : Nat) : Command → Prop
  | .execute v _ | .recordApplied v | .release v => v = version
  | _ => False

section Schema

variable (ddl : String → σ → Option σ)

def runQueries (queries : List String) (schema : σ) : Option σ :=
  queries.foldlM (fun schema query => ddl query schema) schema

/-- The schema after the scripts of some steps, less those of which the ledger has a row. -/
def migrated (ledger : Option Ledger) (steps : List MigrationStep) (schema : σ) : Option σ :=
  (steps.filter fun step => (row? ledger step.version).isNone).foldlM
    (fun schema step => runQueries ddl (statements step.sql) schema) schema

/-- The schema after the steps below a version, on top of what the ledger has. -/
def schemaAt (steps : List MigrationStep) (start : Content σ) (version : Nat) : Option σ :=
  migrated ddl start.ledger ((steps.take version).drop 1) start.schema

/-- A failed step: the schema of the steps before it, which are recorded, and the record of the
failure. -/
structure FailedAt (steps : List MigrationStep) (start : Content σ) (version : Nat)
    (content : Content σ) : Prop where
  schema : schemaAt ddl steps start version = some content.schema
  below : Ready steps version content.ledger
  failed : ∃ step detail, steps[version]? = some step ∧ row? content.ledger version =
    some { ledgerRow step .failed with errorDetail := some detail }

end Schema

/-! ## Statements -/

section Rules

variable {ddl : String → σ → Option σ} {α β : Type}

abbrev Wp (ddl : String → σ → Option σ) (p : Script α) (Q : Outcome Failure α → Connection σ → Prop)
    (db : Connection σ) : Prop := Prog.wp (handler ddl) (fun _ => True) p Q db

/-- One statement: refused, or done. -/
theorem wp_ask {c : Command} {k : Option c.Value → Script α}
    {Q : Outcome Failure α → Connection σ → Prop} {db : Connection σ}
    (waiting : ∀ db', Q .pending db')
    (refused : c ≠ .discard → Wp ddl (k none) Q { db with refused := db.refused ++ [c] })
    (done : ∀ session, effect ddl db.session c = some session →
      Wp ddl (k (some (value session c))) Q { db with session }) :
    Wp ddl ((ask c).bind k) Q db := by
  refine Prog.wp_call (waiting _) (fun m _ => waiting _) fun m r _ answered => ?_
  change Wp ddl (k r) Q (handler ddl c m db).2
  unfold handler at answered ⊢
  split at answered
  · rename_i session taken
    obtain rfl := Option.some.inj answered
    split at taken
    · cases taken
    · exact done session taken
  · rename_i failed
    obtain rfl := Option.some.inj answered
    refine refused ?_
    rintro rfl
    simp [effect] at failed

/-- What a statement of the first group does to the content. -/
theorem within_change {c : Command} {s s' : Session (Content σ)} {start : Content σ}
    {savepoints : List (Content σ)} (within : s.Within start savepoints)
    (taken : s.update? (fun content => change ddl content c) = some s') :
    s'.Within start savepoints ∧ change ddl s.content c = some s'.content := within.update taken

theorem change_bootstrap {content content' : Content σ}
    (taken : change ddl content .bootstrap = some content') :
    content'.schema = content.schema ∧
      ∀ version, row? content'.ledger version = row? content.ledger version := by
  cases taken
  exact ⟨rfl, fun version => row?_getD _ version⟩

theorem change_insertLedger {content content' : Content σ} {row : LedgerRow}
    (taken : change ddl content (.insertLedger row) = some content') :
    content'.schema = content.schema ∧ row? content.ledger row.version = none ∧
      ∀ version, row? content'.ledger version =
        if row.version = version then some row else row? content.ledger version := by
  obtain ⟨schema, _ | ledger⟩ := content
  · cases taken
  · obtain ⟨ledger', inserted, rfl⟩ := Option.map_eq_some_iff.mp taken
    exact ⟨rfl, Table.fresh_of_insert inserted, Table.find?_of_insert inserted⟩

/-- Both updates of a row. -/
theorem change_update {content content' : Content σ} {version : Nat} {state : MigrationState}
    {errorDetail : Option String}
    (taken : content.ledger.map (fun ledger =>
      { content with ledger := some (Db.updateRow ledger version state errorDetail) }) =
        some content') :
    content'.schema = content.schema ∧
      (∀ v, v ≠ version → row? content'.ledger v = row? content.ledger v) ∧
      ∀ row, row? content.ledger version = some row →
        row? content'.ledger version = some { row with state, errorDetail } := by
  obtain ⟨schema, _ | ledger⟩ := content
  · cases taken
  · cases taken
    refine ⟨rfl, fun v other => ?_, fun row found => ?_⟩
    · exact (updated_updateRow 0 [] version state errorDetail).others v other
    · have key : row.version = version := Table.key_of_find? found
      simp only [row?, Option.bind_some] at found
      simp [row?, Db.updateRow, Table.find?_update, found, key]

end Rules

/-! ## Where a run stands -/

section Run

variable {ddl : String → σ → Option σ} {steps : List MigrationStep} {start : Content σ}
  {step : MigrationStep} {saved : Content σ} {db : Connection σ} {α β : Type}

/-- Before the step of a version. -/
structure Upto (ddl : String → σ → Option σ) (steps : List MigrationStep) (start : Content σ)
    (version : Nat) (db : Connection σ) : Prop where
  within : db.session.Within start []
  clean : db.refused = []
  schema : schemaAt ddl steps start version = some db.session.content.schema
  ready : Ready steps version db.session.content.ledger
  later : ∀ v, version ≤ v → row? db.session.content.ledger v = row? start.ledger v

/-- What the savepoint of a step keeps. -/
structure Marked (ddl : String → σ → Option σ) (steps : List MigrationStep) (start : Content σ)
    (step : MigrationStep) (saved : Content σ) : Prop where
  listed : steps[step.version]? = some step
  positive : 0 < step.version
  schema : schemaAt ddl steps start step.version = some saved.schema
  ready : Ready steps step.version saved.ledger
  fresh : row? start.ledger step.version = none
  row : row? saved.ledger step.version = some (ledgerRow step .dirty)
  later : ∀ v, step.version < v → row? saved.ledger v = row? start.ledger v

/-- Behind the savepoint of a step: the statements so far made `schema`. -/
structure Behind (start saved : Content σ) (schema : σ) (db : Connection σ) : Prop where
  within : db.session.Within start [saved]
  clean : db.refused = []
  schema : db.session.content.schema = schema
  ledger : db.session.content.ledger = saved.ledger

/-- How a failing run leaves the steps.  A step that failed was rolled back, or its recovery failed. -/
structure Left (ddl : String → σ → Option σ) (steps : List MigrationStep) (start : Content σ)
    (e : Failure) (db : Connection σ) : Prop where
  within : ∃ savepoints, db.session.Within start savepoints
  undecided : .commit ∉ db.refused
  failed : ∀ c ∈ db.refused, ∀ version, c.Fails version →
    (e = .rollbackFailure ∧ ∃ c' ∈ db.refused, c' ≠ c) ∨
      (e ≠ .rollbackFailure ∧ .rollbackTo version ∉ db.refused ∧
        .releaseUndone version ∉ db.refused ∧
        ((∀ c' ∈ db.refused, c' = c) → FailedAt ddl steps start version db.session.content))

/-- `Q` where a program returns, and `Left` where it fails. -/
def Runs (ddl : String → σ → Option σ) (steps : List MigrationStep) (start : Content σ)
    (p : Script α) (Q : α → Connection σ → Prop) (db : Connection σ) : Prop :=
  Wp ddl p (fun o db' => match o with
    | .ok a => Q a db'
    | .error e => Left ddl steps start e db'
    | .pending => True) db

theorem runs_bind {p : Script α} {f : α → Script β} {Q : α → Connection σ → Prop}
    {P : β → Connection σ → Prop} (first : Runs ddl steps start p Q db)
    (second : ∀ a db', Q a db' → Runs ddl steps start (f a) P db') :
    Runs ddl steps start (p.bind f) P db := by
  refine Prog.wp_bind (Prog.wp_mono first fun o db' post => ?_)
  cases o with
  | ok a => exact second a db' post
  | error e => exact post
  | pending => trivial

theorem runs_ask {c : Command} {k : Option c.Value → Script α} {Q : α → Connection σ → Prop}
    (refused : Runs ddl steps start (k none) Q { db with refused := db.refused ++ [c] })
    (done : ∀ session, effect ddl db.session c = some session →
      Runs ddl steps start (k (some (value session c))) Q { db with session }) :
    Runs ddl steps start ((ask c).bind k) Q db :=
  wp_ask (fun _ => trivial) (fun _ => refused) done

/-- A refusal that fails no step. -/
theorem left_early {session : Session (Content σ)} {savepoints : List (Content σ)} {e : Failure}
    {c : Command} (within : session.Within start savepoints) (early : ∀ version, ¬c.Fails version)
    (uncommitted : c ≠ .commit) : Left ddl steps start e ⟨session, [c]⟩ where
  within := ⟨savepoints, within⟩
  undecided := by simpa using uncommitted.symm
  failed := by
    intro c' member version fails
    rw [List.mem_singleton] at member
    exact (early version (member ▸ fails)).elim

/-! ### A failing step -/

/-- The content of a savepoint, with the failure recorded. -/
theorem Marked.failedAt (marked : Marked ddl steps start step saved) {content : Content σ}
    {detail : String}
    (taken : change ddl saved (.recordFailed step.version detail) = some content) :
    FailedAt ddl steps start step.version content := by
  obtain ⟨schema, others, row⟩ := change_update taken
  refine ⟨schema ▸ marked.schema, fun v below => ?_, step, detail, marked.listed,
    (row (ledgerRow step .dirty) marked.row :)⟩
  obtain ⟨earlier, stored, listed, found, recorded⟩ := marked.ready v below
  exact ⟨earlier, stored, listed, by rw [others v (by omega), found], recorded⟩

/-- The statements of the recovery fail no step. -/
theorem Command.Fails.unique {c : Command} {version version' : Nat} (fails : c.Fails version)
    (fails' : c.Fails version') : version = version' := by
  cases c <;> first | exact fails.symm.trans fails' | cases fails

/-- The recovery of a failed step fails. -/
theorem left_unrecovered {session : Session (Content σ)} {savepoints : List (Content σ)}
    {c c' : Command} (within : session.Within start savepoints) (later : ∀ version, ¬c'.Fails version)
    (uncommitted : c ≠ .commit ∧ c' ≠ .commit) :
    Left ddl steps start .rollbackFailure ⟨session, [c, c']⟩ where
  within := ⟨savepoints, within⟩
  undecided := by simp [uncommitted.1.symm, uncommitted.2.symm]
  failed := by
    intro c'' member version fails
    refine Or.inl ⟨rfl, c', by simp, ?_⟩
    rintro rfl
    exact later version fails

/-- The step was rolled back, and the attempt to record its failure is over. -/
theorem left_undone {session : Session (Content σ)} {savepoints : List (Content σ)} {c : Command}
    (within : session.Within start savepoints) (fails : c.Fails step.version) (text : String)
    (refused : List Command) (later : ∀ c' ∈ refused, c' = .recordFailed step.version text)
    (recorded : refused = [] → FailedAt ddl steps start step.version session.content) (e : String) :
    Left ddl steps start (.other e) ⟨session, c :: refused⟩ := by
  have cases {c' : Command} (member : c' ∈ c :: refused) :
      c' = c ∨ c' = .recordFailed step.version text :=
    (List.mem_cons.mp member).imp id (later c')
  refine ⟨⟨savepoints, within⟩, fun member => ?_, fun c' member version fails' => ?_⟩
  · rcases cases member with rfl | same
    · exact fails
    · cases same
  · obtain rfl : c' = c := (cases member).resolve_right fun same => by
      rw [same] at fails'
      exact fails'
    obtain rfl := fails'.unique fails
    refine Or.inr ⟨nofun, fun member => ?_, fun member => ?_, fun all => recorded ?_⟩
    · rcases cases member with rfl | same
      · exact fails
      · cases same
    · rcases cases member with rfl | same
      · exact fails
      · cases same
    · -- Nothing but the step's own statement was refused.
      refine List.eq_nil_iff_forall_not_mem.mpr fun c'' inside => ?_
      have same := all c'' (List.mem_cons_of_mem _ inside)
      rw [later c'' inside] at same
      rw [← same] at fails
      exact fails

theorem runs_failStep {session : Session (Content σ)} (marked : Marked ddl steps start step saved)
    (within : session.Within start [saved]) {c : Command} (fails : c.Fails step.version)
    (detail : String) (Q : α → Connection σ → Prop) :
    Runs ddl steps start (failStep step.version detail) Q ⟨session, [c]⟩ := by
  have uncommitted : c ≠ .commit := by
    rintro rfl
    exact fails
  refine runs_ask ?_ fun session undone => ?_
  · exact left_unrecovered within (fun _ => id) ⟨uncommitted, nofun⟩
  obtain ⟨within, content⟩ := within.rollbackTo undone
  refine runs_ask ?_ fun session' released => ?_
  · exact left_unrecovered within (fun _ => id) ⟨uncommitted, nofun⟩
  obtain ⟨within, kept⟩ := within.release released
  rw [content] at kept
  refine runs_ask ?_ fun session'' recorded => ?_
  · exact left_undone within fails detail [_] (by simp) nofun _
  · obtain ⟨within, changed⟩ := within_change within recorded
    rw [kept] at changed
    exact left_undone within fails detail [] nofun (fun _ => marked.failedAt changed) _

/-! ### A step -/

theorem runs_executeStatements (marked : Marked ddl steps start step saved) (sent : Nat)
    (queries : List String) {schema : σ} (behind : Behind start saved schema db) :
    Runs ddl steps start (executeStatements step.version sent queries)
      (fun _ db' => ∃ schema', runQueries ddl queries schema = some schema' ∧
        Behind start saved schema' db') db := by
  induction queries generalizing db sent schema with
  | nil => exact ⟨schema, rfl, behind⟩
  | cons query queries ih =>
      obtain ⟨session, refused⟩ := db
      obtain rfl : refused = [] := behind.clean
      refine runs_ask ?_ fun session' done => ?_
      · exact runs_failStep marked behind.within (c := .execute step.version query) rfl _ _
      · obtain ⟨within, changed⟩ := within_change behind.within done
        obtain ⟨next, taken, content⟩ := Option.map_eq_some_iff.mp changed
        have behind' : Behind start saved next ⟨session', []⟩ :=
          ⟨within, rfl, by rw [← content], by rw [← content]; exact behind.ledger⟩
        refine Prog.wp_mono (ih (sent + 1) behind') fun o db' post => ?_
        cases o with
        | ok a =>
            obtain ⟨schema', ran, behind''⟩ := post
            refine ⟨schema', ?_, behind''⟩
            rw [behind.schema] at taken
            rw [runQueries, List.foldlM_cons, taken]
            exact ran
        | error e => exact post
        | pending => trivial

/-- The schema after one more step. -/
theorem schemaAt_succ {version : Nat} (listed : steps[version]? = some step) (positive : 0 < version) :
    schemaAt ddl steps start (version + 1) =
      (schemaAt ddl steps start version).bind fun schema =>
        if (row? start.ledger step.version).isNone then runQueries ddl (statements step.sql) schema
        else some schema := by
  obtain ⟨below, here⟩ := List.getElem?_eq_some_iff.mp listed
  have long : 1 ≤ (steps.take version).length := by
    rw [List.length_take]
    omega
  have taken : (steps.take (version + 1)).drop 1 = (steps.take version).drop 1 ++ [step] := by
    rw [List.take_add_one, listed, Option.toList_some, List.drop_append_of_le_length long]
  rw [schemaAt, taken, migrated, List.filter_append, List.foldlM_append]
  refine Option.bind_congr fun schema _ => ?_
  cases absent : (row? start.ledger step.version).isNone with
  | true => simp [absent]
  | false => simp [absent]

/-- The end of a step that ran. -/
theorem runs_finishStep (marked : Marked ddl steps start step saved) {schema : σ}
    (ran : runQueries ddl (statements step.sql) saved.schema = some schema)
    (behind : Behind start saved schema db) :
    Runs ddl steps start (finishStep step.version)
      (fun _ db' => Upto ddl steps start (step.version + 1) db') db := by
  obtain ⟨session, refused⟩ := db
  obtain rfl : refused = [] := behind.clean
  refine runs_ask ?_ fun session recorded => ?_
  · exact runs_failStep marked behind.within (c := .recordApplied step.version) rfl _ _
  obtain ⟨within, changed⟩ := within_change behind.within recorded
  obtain ⟨same, others, row⟩ := change_update changed
  rw [behind.ledger] at others row
  refine runs_ask ?_ fun session' released => ?_
  · exact runs_failStep marked within (c := .release step.version) rfl _ _
  obtain ⟨within, kept⟩ := within.release released
  refine ⟨within, rfl, ?_, ?_, fun v above => ?_⟩
  · have next := @schemaAt_succ σ ddl steps start step _ marked.listed marked.positive
    rw [marked.schema, Option.bind_some, marked.fresh, Option.isNone_none, if_pos rfl, ran] at next
    rw [next, kept, same, behind.schema]
  · dsimp only
    rw [kept]
    refine Ready.succ (fun v below => ?_) (row _ marked.row) marked.listed ⟨rfl, rfl, rfl⟩
    obtain ⟨earlier, stored, listed, found, recorded⟩ := marked.ready v below
    exact ⟨earlier, stored, listed, by rw [others v (by omega), found], recorded⟩
  · dsimp only
    rw [kept, others v (by omega), marked.later v (by omega)]

theorem runs_applyStep (listed : steps[step.version]? = some step) (positive : 0 < step.version)
    (upto : Upto ddl steps start step.version db) :
    Runs ddl steps start (applyStep step)
      (fun _ db' => Upto ddl steps start (step.version + 1) db') db := by
  obtain ⟨session, refused⟩ := db
  obtain rfl : refused = [] := upto.clean
  refine runs_ask ?_ fun session inserted => ?_
  · exact left_early upto.within (fun _ => id) nofun
  obtain ⟨within, changed⟩ := within_change upto.within inserted
  obtain ⟨schema, fresh, rows⟩ := change_insertLedger changed
  rw [version_ledgerRow] at fresh rows
  refine runs_ask ?_ fun session' set_ => ?_
  · exact left_early within (fun _ => id) nofun
  obtain ⟨within, kept⟩ := within.savepoint set_
  have marked : Marked ddl steps start step session.content := by
    refine ⟨listed, positive, by rw [schema, upto.schema], fun v below => ?_, ?_, ?_, fun v above => ?_⟩
    · obtain ⟨earlier, stored, listed, found, recorded⟩ := upto.ready v below
      exact ⟨earlier, stored, listed, by rw [rows, if_neg (by omega), found], recorded⟩
    · rw [← upto.later _ le_rfl, fresh]
    · rw [rows, if_pos rfl]
    · rw [rows, if_neg (by omega), upto.later v (by omega)]
  have behind : Behind start session.content session.content.schema ⟨session', []⟩ :=
    ⟨within, rfl, by rw [kept], by rw [kept]⟩
  refine runs_bind (runs_executeStatements marked 0 _ behind) fun _ db' ran => ?_
  obtain ⟨schema', ran, behind⟩ := ran
  exact runs_finishStep marked ran behind

/-! ### All steps -/

/-- The versions are recorded in the ledger of the start. -/
theorem runs_applySteps {applied : List Nat} {rest : List MigrationStep} {version : Nat}
    (numbered : Numbered steps) (remaining : rest = steps.drop version) (positive : 0 < version)
    (verified : Verified steps applied start.ledger) (upto : Upto ddl steps start version db) :
    Runs ddl steps start (applySteps applied rest)
      (fun _ db' => db'.session.Within start [] ∧ db'.refused = []) db := by
  induction rest generalizing db version with
  | nil => exact ⟨upto.within, upto.clean⟩
  | cons step rest ih =>
      have listed : steps[version]? = some step := by
        have head := congrArg List.head? remaining
        rw [List.head?_drop] at head
        exact head.symm
      have later : rest = steps.drop (version + 1) := by
        rw [← List.tail_drop, ← remaining]
        rfl
      have here : step.version = version := numbered version step listed
      subst here
      unfold applySteps
      split
      · rename_i member
        obtain ⟨step', row, listed', found, recorded⟩ := verified _ member
        refine ih later (Nat.succ_pos _) ⟨upto.within, upto.clean, ?_, ?_, fun v above => ?_⟩
        · rw [schemaAt_succ listed positive, found, upto.schema]
          rfl
        · exact upto.ready.succ ((upto.later _ le_rfl).trans found) listed' recorded
        · exact upto.later v (by omega)
      · exact runs_bind (runs_applyStep listed positive upto) fun _ db' upto' =>
          ih later (Nat.succ_pos _) upto'

theorem mem_value_readLedger (s : Session (Content σ)) (row : LedgerRow) :
    row ∈ (value s .readLedger : List LedgerRow) ↔
      row? s.content.ledger row.version = some row := by
  simp only [value, List.mem_mergeSort]
  cases s.content.ledger with
  | none => simp [row?]
  | some ledger => simp [row?, Table.find?_eq_some_iff]

/-- After the script of the first step. -/
structure Opened (start : Content σ) (db : Connection σ) : Prop where
  within : db.session.Within start []
  clean : db.refused = []
  schema : db.session.content.schema = start.schema
  rows : ∀ version, row? db.session.content.ledger version = row? start.ledger version

theorem runs_verifyLedger (opened : Opened start db) :
    Runs ddl steps start (verifyLedger steps)
      (fun applied db' => Verified steps applied start.ledger ∧ Opened start db') db := by
  obtain ⟨session, refused⟩ := db
  obtain rfl : refused = [] := opened.clean
  refine runs_ask ?_ fun session' read => ?_
  · exact left_early opened.within (fun _ => id) nofun
  obtain ⟨within, changed⟩ := within_change opened.within read
  obtain ⟨ledger, -, same⟩ := Option.map_eq_some_iff.mp changed
  have opened' : Opened start ⟨session', []⟩ :=
    ⟨within, rfl, by rw [← same]; exact opened.schema, by rw [← same]; exact opened.rows⟩
  dsimp only
  split
  · exact ⟨⟨[], within⟩, List.not_mem_nil, nofun⟩
  · rename_i applied ok
    obtain ⟨recorded, versions⟩ := verifyRows_ok ok
    refine ⟨fun v member => ?_, opened'⟩
    rcases versions v member with none_ | ⟨row, inside, rfl⟩
    · cases none_
    · obtain ⟨step, listed, recorded⟩ := recorded row inside
      refine ⟨step, row, listed, ?_, recorded⟩
      rw [← opened'.rows]
      exact (mem_value_readLedger session' row).mp inside

theorem runs_recordBootstrap {first : MigrationStep} {applied : List Nat}
    (listed : steps[0]? = some first) (zero : first.version = 0)
    (verified : Verified steps applied start.ledger) (opened : Opened start db) :
    Runs ddl steps start (recordBootstrap applied first)
      (fun _ db' => Upto ddl steps start 1 db') db := by
  have ready : ∀ {ledger : Option Ledger} {row : LedgerRow}, row? ledger 0 = some row →
      Recorded first row → Ready steps 1 ledger := fun found recorded =>
    Ready.succ (fun v below => (Nat.not_lt_zero v below).elim) found listed recorded
  have schema : schemaAt ddl steps start 1 = some start.schema := by
    cases steps with
    | nil => cases listed
    | cons step rest => rfl
  obtain ⟨session, refused⟩ := db
  obtain rfl : refused = [] := opened.clean
  unfold recordBootstrap
  split
  · rename_i member
    obtain ⟨step, row, listed', found, recorded⟩ := verified 0 member
    rw [listed] at listed'
    cases listed'
    exact ⟨opened.within, rfl, by rw [schema, opened.schema],
      ready ((opened.rows 0).trans found) recorded, fun v _ => opened.rows v⟩
  · refine runs_ask ?_ fun session' inserted => ?_
    · exact left_early opened.within (fun _ => id) nofun
    obtain ⟨within, changed⟩ := within_change opened.within inserted
    obtain ⟨same, -, rows⟩ := change_insertLedger changed
    rw [version_ledgerRow, zero] at rows
    refine ⟨within, rfl, by rw [schema, same, opened.schema], ?_, fun v above => ?_⟩
    · exact ready (by rw [rows, if_pos rfl]) ⟨rfl, rfl, rfl⟩
    · rw [rows, if_neg (by omega)]
      exact opened.rows v

theorem runs_applyLocked (numbered : Numbered steps) (within : db.session.Within start [])
    (clean : db.refused = []) (untouched : db.session.content = start) :
    Runs ddl steps start (applyLocked steps)
      (fun _ db' => db'.session.Within start [] ∧ db'.refused = []) db := by
  obtain ⟨session, refused⟩ := db
  obtain rfl : refused = [] := clean
  cases steps with
  | nil => exact ⟨⟨[], within⟩, List.not_mem_nil, nofun⟩
  | cons first rest =>
      refine runs_ask ?_ fun session' created => ?_
      · exact left_early within (fun _ => id) nofun
      obtain ⟨within', changed⟩ := within_change within created
      obtain ⟨schema, rows⟩ := change_bootstrap changed
      dsimp only at untouched
      rw [untouched] at schema rows
      have opened : Opened start ⟨session', []⟩ := ⟨within', rfl, schema, rows⟩
      refine runs_bind (runs_verifyLedger opened) fun applied db₁ verifying => ?_
      obtain ⟨verified, opened⟩ := verifying
      refine runs_bind (runs_recordBootstrap rfl (numbered 0 first rfl) verified opened)
        fun _ db₂ upto => ?_
      exact runs_applySteps numbered rfl Nat.one_pos verified upto

/-! ### The transaction -/

/-- What a run comes to that refused a statement of a step. -/
structure Concluded (ddl : String → σ → Option σ) (steps : List MigrationStep) (start : Content σ)
    (version : Nat) (c : Command) (o : Outcome Failure Unit) (db : Connection σ) : Prop where
  reported : ∃ e, o = .error e
  over_ : db.session.start = none
  failed : (∀ c' ∈ db.refused, c' = c) → FailedAt ddl steps start version db.session.content
  restored : .rollbackTo version ∈ db.refused ∨ .releaseUndone version ∈ db.refused ∨
    .commit ∈ db.refused → db.session.content = start

/-- Every way in which a run ends. -/
def Ends (ddl : String → σ → Option σ) (steps : List MigrationStep) (start : Content σ)
    (o : Outcome Failure Unit) (db : Connection σ) : Prop :=
  o = .pending ∨ ∀ c ∈ db.refused, ∀ version, c.Fails version →
    Concluded ddl steps start version c o db

/-- Giving the transaction up, where not only a statement of a step was refused. -/
theorem ends_abandon {session : Session (Content σ)} {savepoints : List (Content σ)}
    {refused : List Command} (within : session.Within start savepoints)
    (more : ∀ c ∈ refused, ∀ version, c.Fails version → ∃ c' ∈ refused, c' ≠ c) (text : String) :
    Wp ddl (abandon text) (Ends ddl steps start) ⟨session, refused⟩ := by
  have idle {refused' : List Command} (kept : ∀ c ∈ refused, c ∈ refused')
      (added : ∀ c ∈ refused', c ∈ refused ∨ c = .rollback) :
      Ends ddl steps start (.error (.other text)) ⟨.idle start, refused'⟩ := by
    refine Or.inr fun c member version fails => ⟨⟨_, rfl⟩, rfl, fun all => ?_, fun _ => rfl⟩
    rcases added c member with earlier | rfl
    · obtain ⟨c', inside, other⟩ := more c earlier version fails
      exact (other (all c' (kept c' inside))).elim
    · cases fails
  refine wp_ask (fun _ => Or.inl rfl) (fun _ => ?_) fun session' undone => ?_
  · refine wp_ask (fun _ => Or.inl rfl) (fun other => (other rfl).elim) fun session' closed => ?_
    obtain rfl : session' = .idle start := by
      rw [← within.close]
      exact (Option.some.inj closed).symm
    exact idle (fun _ => List.mem_append_left _) fun c member => by simpa using member
  · obtain rfl := within.rollback undone
    exact idle (fun _ => id) fun _ => Or.inl

theorem ends_conclude {session : Session (Content σ)} {savepoints : List (Content σ)}
    {refused : List Command} (result : Except String Unit) (within : session.Within start savepoints)
    (undecided : .commit ∉ refused)
    (settled : ∀ c ∈ refused, ∀ version, c.Fails version → (∃ e, result = .error e) ∧
      .rollbackTo version ∉ refused ∧ .releaseUndone version ∉ refused ∧
      ((∀ c' ∈ refused, c' = c) → FailedAt ddl steps start version session.content)) :
    Wp ddl (conclude result) (Ends ddl steps start) ⟨session, refused⟩ := by
  refine wp_ask (fun _ => Or.inl rfl) (fun _ => ?_) fun session' committed => ?_
  · have more : ∀ c ∈ refused ++ [.commit], ∀ version, c.Fails version →
        ∃ c' ∈ refused ++ [.commit], c' ≠ c := by
      intro c member version fails
      refine ⟨.commit, by simp, ?_⟩
      rintro rfl
      exact fails
    cases result with
    | ok a => exact ends_abandon within more _
    | error e => exact ends_abandon within more _
  · obtain rfl := within.commit committed
    have ends {o : Outcome Failure Unit} (same : ∀ e, result = .error e → ∃ e', o = .error e') :
        Ends ddl steps start o ⟨.idle session.content, refused⟩ := by
      refine Or.inr fun c member version fails => ?_
      obtain ⟨⟨e, failed⟩, kept, released, only⟩ := settled c member version fails
      exact ⟨same e failed, rfl, only,
        fun recovery => (recovery.elim kept (Or.elim · released undecided)).elim⟩
    cases result with
    | ok a => exact ends nofun
    | error e => exact ends fun _ _ => ⟨_, rfl⟩

theorem ends_applySQLite (numbered : Numbered steps) (start : Content σ) :
    Wp ddl (applySQLite steps) (Ends ddl steps start) (.fresh start) := by
  have early {o : Outcome Failure Unit} {session : Session (Content σ)} {c : Command}
      (quiet : ∀ version, ¬c.Fails version) : Ends ddl steps start o ⟨session, [c]⟩ := by
    refine Or.inr fun c' member version fails => ?_
    rw [List.mem_singleton.mp member] at fails
    exact (quiet version fails).elim
  refine wp_ask (fun _ => Or.inl rfl) (fun _ => early fun _ => id) fun session enabled => ?_
  obtain rfl : session = .idle start := (Option.some.inj enabled).symm
  refine wp_ask (fun _ => Or.inl rfl) (fun _ => early fun _ => id) fun session begun => ?_
  have begun : (Session.idle start).begin? = some session := begun
  obtain ⟨within, content⟩ := Session.within_begin begun
  have locked : Runs ddl steps start (applyLocked steps)
      (fun _ db' => db'.session.Within start [] ∧ db'.refused = []) ⟨session, []⟩ :=
    runs_applyLocked numbered within rfl content
  refine Prog.wp_bind (Prog.wp_reify (Prog.wp_mono locked fun o db post => ?_))
  cases o with
  | pending => exact Or.inl rfl
  | ok a =>
      obtain ⟨session, refused⟩ := db
      obtain ⟨within, clean⟩ := post
      obtain rfl : refused = [] := clean
      exact ends_conclude (.ok ()) within List.not_mem_nil nofun
  | error e =>
      obtain ⟨session, refused⟩ := db
      obtain ⟨⟨savepoints, within⟩, undecided, failed⟩ := post
      cases e with
      | rollbackFailure =>
          refine ends_abandon within (fun c member version fails => ?_) _
          exact ((failed c member version fails).resolve_right fun other => other.1 rfl).2
      | other text =>
          refine ends_conclude (.error text) within undecided fun c member version fails => ?_
          exact ⟨⟨text, rfl⟩,
            ((failed c member version fails).resolve_left fun other => nomatch other.1).2⟩

end Run

/-- **A failing step is rolled back alone, or with everything.**  A run that returns and on which a
statement of the step of a version was refused has failed and is no longer in a transaction.  If no other
statement was refused, the schema is that of the steps before it, which are recorded as applied, and the
step is recorded as failed; if the rollback to its savepoint, the release after it or the commit was
refused, schema and ledger are those the run began with. -/
theorem applySQLite_atomic (ddl : String → σ → Option σ) (scripts : List (String × String))
    (start : Content σ) (moves : List Bool) {c : Command} {version : Nat}
    (returned : ((applySQLite (loadSteps scripts)).run (handler ddl) moves (.fresh start)).1 ≠ .pending)
    (refused : c ∈ ((applySQLite (loadSteps scripts)).run (handler ddl) moves (.fresh start)).2.1.refused)
    (fails : c.Fails version) :
    Concluded ddl (loadSteps scripts) start version c
      ((applySQLite (loadSteps scripts)).run (handler ddl) moves (.fresh start)).1
      ((applySQLite (loadSteps scripts)).run (handler ddl) moves (.fresh start)).2.1 := by
  have all : Wp ddl (applySQLite (loadSteps scripts)) (Ends ddl (loadSteps scripts) start)
      (.fresh start) := ends_applySQLite numbered_loadSteps start
  have ends := Prog.wp_run (Prog.shrinking_true _) all moves trivial
  exact (ends.resolve_left returned) c refused version fails

/-- Two tables, the second of which is refused. -/
def twoTables : List (String × String) :=
  [("0000_ledger.sql", ""), ("0001_inventory.sql", "CREATE TABLE a; CREATE TABLE b;")]

theorem applySQLite_atomic_second :
    let run := (applySQLite (loadSteps twoTables)).run (handler fun query tables => some (query :: tables))
      (List.replicate 8 false ++ true :: List.replicate 4 false) (.fresh ⟨[], none⟩)
    Concluded (fun query tables => some (query :: tables)) (loadSteps twoTables) ⟨[], none⟩ 1
      (.execute 1 "CREATE TABLE b") run.1 run.2.1 :=
  applySQLite_atomic _ _ _ _ (by decide +kernel) (by decide +kernel) rfl

end UnifiedInfraTopology.Migration.Sqlite
