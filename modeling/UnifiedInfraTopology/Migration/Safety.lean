import UnifiedInfraTopology.Migration.Apply

/-!
# Safe migrations

`Sound` is what holds of the ledger and of the statements sent so far, at every point of every
history: the applied versions have no gap, only the last row can be dirty or failed, and the
statements of a version were sent in one run, when all earlier versions were recorded.

Within a step the same holds together with what the run knows about its own row (`Stepping`).  A
ledger with a dirty or failed row stops `verifyLedger`, and with it every later run.
-/

namespace UnifiedInfraTopology.Migration

open Lib

/-! ## Statements -/

@[simp] theorem version_ledgerRow (step : MigrationStep) (state : MigrationState) :
    (ledgerRow step state).version = step.version := rfl

@[simp] theorem row?_getD (ledger : Option Ledger) (version : Nat) :
    row? (some (ledger.getD .empty)) version = row? ledger version := by
  cases ledger <;> rfl

theorem effect_insertLedger {db db' : Db} {row : LedgerRow}
    (taken : db.effect (.insertLedger row) = some db') :
    row? db.ledger row.version = none ∧ db'.run = db.run ∧ db'.executed = db.executed ∧
      ∀ version, row? db'.ledger version =
        if row.version = version then some row else row? db.ledger version := by
  obtain ⟨_ | ledger, run, executed⟩ := db
  · cases taken
  · obtain ⟨ledger', inserted, rfl⟩ := Option.map_eq_some_iff.mp taken
    exact ⟨Table.fresh_of_insert inserted, rfl, rfl, Table.find?_of_insert inserted⟩

/-- Both updates of a row. -/
structure Updated (db db' : Db) (version : Nat) (state : MigrationState) : Prop where
  run : db'.run = db.run
  executed : db'.executed = db.executed
  others : ∀ v, v ≠ version → row? db'.ledger v = row? db.ledger v
  row : ∀ row, row? db.ledger version = some row →
    ∃ errorDetail, row? db'.ledger version = some { row with state, errorDetail }

theorem updated_updateRow {ledger : Ledger} (run : Nat) (executed : List Executed) (version : Nat)
    (state : MigrationState) (errorDetail : Option String) :
    Updated ⟨some ledger, run, executed⟩
      ⟨some (Db.updateRow ledger version state errorDetail), run, executed⟩ version state where
  run := rfl
  executed := rfl
  others := by
    intro v other
    simp only [row?, Option.bind_some, Db.updateRow, Table.find?_update]
    cases found : ledger.find? v with
    | none => rfl
    | some row =>
        have key : row.version = v := Table.key_of_find? found
        simp [key, other]
  row := by
    intro row found
    have key : row.version = version := Table.key_of_find? found
    refine ⟨errorDetail, ?_⟩
    simp only [row?, Option.bind_some] at found
    simp [row?, Db.updateRow, Table.find?_update, found, key]

theorem effect_recordApplied {db db' : Db} {version : Nat}
    (taken : db.effect (.recordApplied version) = some db') : Updated db db' version .applied := by
  obtain ⟨_ | ledger, run, executed⟩ := db
  · cases taken
  · cases taken
    exact updated_updateRow run executed version .applied none

theorem effect_recordFailed {db db' : Db} {version : Nat} {detail : String}
    (taken : db.effect (.recordFailed version detail) = some db') :
    Updated db db' version .failed := by
  obtain ⟨_ | ledger, run, executed⟩ := db
  · cases taken
  · cases taken
    exact updated_updateRow run executed version .failed (some detail)

section Wp

variable {α : Type} {Q : Outcome String α → Db → Prop} {db : Db}

/-- One statement.  `I` holds of the database wherever the statement leaves it without an answer or
with an error; with a value the statement took effect. -/
theorem wp_ask {c : Sql} {k : Option c.Value → SqlProg α} (I : Db → Prop) (here : I db)
    (sent : I (db.log c)) (taken : ∀ db', (db.log c).effect c = some db' → I db')
    (waiting : ∀ db', I db' → Q .pending db')
    (failed : ∀ db', I db' → Prog.wp sqlHandler (fun _ => True) (k none) Q db')
    (done : ∀ (m : SqlMove) db', (db.log c).effect c = some db' →
      Prog.wp sqlHandler (fun _ => True) (k (some (m.value (db.log c) c))) Q db') :
    Prog.wp sqlHandler (fun _ => True) ((ask c).bind k) Q db := by
  refine Prog.wp_call (waiting db here) (fun m _ => waiting _ ?_) fun m r _ answered => ?_
  · unfold sqlHandler
    dsimp only
    split
    · exact taken _ ‹_›
    · exact taken _ ‹_›
    · exact taken _ ‹_›
    · exact sent
    · exact sent
  · change Prog.wp sqlHandler (fun _ => True) (k r) Q _
    unfold sqlHandler at answered ⊢
    dsimp only at answered ⊢
    split at answered
    · rename_i effect
      cases answered
      simp only [*]
      exact done m _ effect
    · rename_i effect
      cases answered
      simp only [*]
      exact failed _ (taken _ effect)
    · cases answered
    · cases answered
    · cases answered
      exact failed _ sent

end Wp

/-- The statements of the session: they touch no table. -/
def Sql.Session : Sql → Prop
  | .selectDatabase | .getLock _ _ | .autocommit | .releaseLock _ => True
  | _ => False

/-! ## The invariant -/

/-- The row records the step as applied. -/
structure Recorded (step : MigrationStep) (row : LedgerRow) : Prop where
  name : row.name = step.name
  checksum : row.checksum = step.checksum
  state : row.state = .applied

/-- The versions below `version` are recorded. -/
def Ready (steps : List MigrationStep) (version : Nat) (ledger : Option Ledger) : Prop :=
  ∀ v < version, ∃ step row, steps[v]? = some step ∧ row? ledger v = some row ∧ Recorded step row

theorem Ready.succ {steps : List MigrationStep} {step : MigrationStep} {row : LedgerRow}
    {ledger : Option Ledger} {version : Nat} (ready : Ready steps version ledger)
    (found : row? ledger version = some row) (listed : steps[version]? = some step)
    (recorded : Recorded step row) : Ready steps (version + 1) ledger := by
  intro v below
  rcases Nat.lt_succ_iff_lt_or_eq.mp below with earlier | rfl
  · exact ready v earlier
  · exact ⟨step, row, listed, found, recorded⟩

/-- The version of a step is its position. -/
def Numbered (steps : List MigrationStep) : Prop :=
  ∀ (v : Nat) (step : MigrationStep), steps[v]? = some step → step.version = v

structure Sound (steps : List MigrationStep) (db : Db) : Prop where
  first : ∀ row, row? db.ledger 0 = some row → row.state = .applied
  chain : ∀ v row, row? db.ledger (v + 1) = some row →
    ∃ prior, row? db.ledger v = some prior ∧ prior.state = .applied
  known : ∀ e ∈ db.executed, ∃ row, row? db.ledger e.version = some row
  single : ∀ e ∈ db.executed, ∀ e' ∈ db.executed, e.version = e'.version → e.run = e'.run
  guarded : ∀ e ∈ db.executed, Ready steps e.version e.ledger
  past : ∀ e ∈ db.executed, e.run ≤ db.run

section Step

variable {steps : List MigrationStep} {db db' : Db}

theorem sound_empty : Sound steps .empty where
  first := by intro row found; cases found
  chain := by intro v row found; cases found
  known := by intro e member; cases member
  single := by intro e member; cases member
  guarded := by intro e member; cases member
  past := by intro e member; cases member

/-- Rows are added and changed; nothing is sent. -/
theorem Sound.ledger (sound : Sound steps db) (run : db'.run = db.run)
    (executed : db'.executed = db.executed)
    (grows : ∀ v row, row? db.ledger v = some row → ∃ row', row? db'.ledger v = some row')
    (first : ∀ row, row? db'.ledger 0 = some row → row.state = .applied)
    (chain : ∀ v row, row? db'.ledger (v + 1) = some row →
      ∃ prior, row? db'.ledger v = some prior ∧ prior.state = .applied) : Sound steps db' where
  first := first
  chain := chain
  known := by
    intro e member
    obtain ⟨row, found⟩ := sound.known e (executed ▸ member)
    exact grows _ row found
  single := executed ▸ sound.single
  guarded := executed ▸ sound.guarded
  past := by
    intro e member
    exact run ▸ sound.past e (executed ▸ member)

/-- Without the row of a version there is no later one. -/
theorem Sound.absent_succ (sound : Sound steps db) {v : Nat} (absent : row? db.ledger v = none) :
    row? db.ledger (v + 1) = none := by
  cases found : row? db.ledger (v + 1) with
  | none => rfl
  | some row =>
      obtain ⟨prior, present, -⟩ := sound.chain v row found
      rw [absent] at present
      cases present

/-- The first row, which is recorded as applied at once. -/
theorem Sound.insertFirst (sound : Sound steps db) {row : LedgerRow} (version : row.version = 0)
    (state : row.state = .applied) (taken : db.effect (.insertLedger row) = some db') :
    Sound steps db' := by
  obtain ⟨fresh, run, executed, rows⟩ := effect_insertLedger taken
  rw [version] at fresh rows
  refine sound.ledger run executed (fun v stored found => ?_) (fun stored found => ?_)
    fun v stored found => ?_
  · rw [rows v]
    split
    · exact ⟨row, rfl⟩
    · exact ⟨stored, found⟩
  · rw [rows 0, if_pos rfl] at found
    exact Option.some.inj found ▸ state
  · rw [rows (v + 1), if_neg (by omega)] at found
    obtain ⟨prior, present, applied⟩ := sound.chain v stored found
    have later : v ≠ 0 := by
      rintro rfl
      rw [fresh] at present
      cases present
    exact ⟨prior, by rw [rows v, if_neg (by omega), present], applied⟩

/-! ### Inside a step -/

/-- The step has its row, the other rows are as at its start, and its statements were sent in this
run. -/
structure Stepping (steps : List MigrationStep) (step : MigrationStep) (start : Option Ledger)
    (db : Db) : Prop where
  sound : Sound steps db
  others : ∀ v, v ≠ step.version → row? db.ledger v = row? start v
  marked : ∃ row, row? db.ledger step.version = some row ∧ row.name = step.name ∧
    row.checksum = step.checksum
  own : ∀ e ∈ db.executed, e.version = step.version → e.run = db.run

/-- What the start of a step offers: it is the next one. -/
structure Next (steps : List MigrationStep) (step : MigrationStep) (start : Option Ledger) :
    Prop where
  listed : steps[step.version]? = some step
  positive : 0 < step.version
  ready : Ready steps step.version start
  last : row? start (step.version + 1) = none

variable {step : MigrationStep} {start : Option Ledger}

theorem Next.readyAt (next : Next steps step start)
    (others : ∀ v, v ≠ step.version → row? db.ledger v = row? start v) :
    Ready steps step.version db.ledger := by
  intro v below
  obtain ⟨earlier, row, listed, found, recorded⟩ := next.ready v below
  exact ⟨earlier, row, listed, by rw [others v (by omega), found], recorded⟩

/-- The chain below and above the row of the step, whatever the state of that row. -/
theorem Next.chain (next : Next steps step start) (sound : Sound steps db)
    (before : ∀ v, v ≠ step.version → row? db.ledger v = row? start v)
    (after : ∀ v, v ≠ step.version → row? db'.ledger v = row? start v) (v : Nat) (row : LedgerRow)
    (found : row? db'.ledger (v + 1) = some row) :
    ∃ prior, row? db'.ledger v = some prior ∧ prior.state = .applied := by
  rcases Nat.lt_trichotomy (v + 1) step.version with below | here | above
  · have found : row? db.ledger (v + 1) = some row := by
      rw [before _ (by omega), ← after _ (by omega), found]
    obtain ⟨prior, present, applied⟩ := sound.chain v row found
    exact ⟨prior, by rw [after _ (by omega), ← before _ (by omega), present], applied⟩
  · obtain ⟨earlier, prior, -, present, recorded⟩ := next.ready v (by omega)
    exact ⟨prior, by rw [after _ (by omega), present], recorded.state⟩
  · have other : v ≠ step.version := by
      rintro rfl
      rw [after _ (by omega), next.last] at found
      cases found
    have found : row? db.ledger (v + 1) = some row := by
      rw [before _ (by omega), ← after _ (by omega), found]
    obtain ⟨prior, present, applied⟩ := sound.chain v row found
    exact ⟨prior, by rw [after _ other, ← before _ other, present], applied⟩

/-- Marking the step dirty. -/
theorem stepping_insert (sound : Sound steps db) (listed : steps[step.version]? = some step)
    (positive : 0 < step.version) (ready : Ready steps step.version db.ledger)
    (taken : db.effect (.insertLedger (ledgerRow step .dirty)) = some db') :
    Next steps step db.ledger ∧ Stepping steps step db.ledger db' := by
  obtain ⟨fresh, run, executed, rows⟩ := effect_insertLedger taken
  rw [version_ledgerRow] at fresh rows
  have others : ∀ v, v ≠ step.version → row? db'.ledger v = row? db.ledger v := by
    intro v other
    rw [rows v, if_neg other.symm]
  have next : Next steps step db.ledger := ⟨listed, positive, ready, sound.absent_succ fresh⟩
  refine ⟨next, ?_, others, ⟨ledgerRow step .dirty, by rw [rows, if_pos rfl], rfl, rfl⟩, ?_⟩
  · refine sound.ledger run executed (fun v row found => ?_) (fun row found => ?_)
      (next.chain sound (fun _ _ => rfl) others)
    · rw [rows v]
      split
      · exact ⟨_, rfl⟩
      · exact ⟨row, found⟩
    · rw [others 0 (by omega)] at found
      exact sound.first row found
  · -- No statement of this version was sent before: its row would be known.
    intro e member version
    obtain ⟨row, found⟩ := sound.known e (executed ▸ member)
    rw [version, fresh] at found
    cases found

/-- Sending a statement of the step. -/
theorem Stepping.log (next : Next steps step start) (stepping : Stepping steps step start db)
    (query : String) : Stepping steps step start (db.log (.execute step.version query)) := by
  obtain ⟨sound, others, marked, own⟩ := stepping
  have cases : ∀ {e : Executed}, e ∈ (db.log (.execute step.version query)).executed →
      e ∈ db.executed ∨ e = ⟨db.run, step.version, query, db.ledger⟩ := by
    intro e member
    rcases List.mem_append.mp member with earlier | here
    · exact .inl earlier
    · exact .inr (List.mem_singleton.mp here)
  refine ⟨⟨sound.first, sound.chain, ?_, ?_, ?_, ?_⟩, others, marked, ?_⟩
  · intro e member
    rcases cases member with earlier | rfl
    · exact sound.known e earlier
    · obtain ⟨row, found, -⟩ := marked
      exact ⟨row, found⟩
  · intro e member e' member' same
    rcases cases member with earlier | rfl <;> rcases cases member' with earlier' | rfl
    · exact sound.single e earlier e' earlier' same
    · exact own e earlier same
    · exact (own e' earlier' same.symm).symm
    · rfl
  · intro e member
    rcases cases member with earlier | rfl
    · exact sound.guarded e earlier
    · exact next.readyAt others
  · intro e member
    rcases cases member with earlier | rfl
    · exact sound.past e earlier
    · exact Nat.le_refl _
  · intro e member version
    rcases cases member with earlier | rfl
    · exact own e earlier version
    · rfl

/-- Recording how the step ended. -/
theorem Stepping.update (next : Next steps step start) (stepping : Stepping steps step start db)
    {state : MigrationState} (updated : Updated db db' step.version state) :
    Stepping steps step start db' := by
  obtain ⟨sound, others, ⟨row, found, name, checksum⟩, own⟩ := stepping
  obtain ⟨errorDetail, changed⟩ := updated.row row found
  have others' : ∀ v, v ≠ step.version → row? db'.ledger v = row? start v := by
    intro v other
    rw [updated.others v other, others v other]
  refine ⟨?_, others', ⟨_, changed, name, checksum⟩, ?_⟩
  · refine sound.ledger updated.run updated.executed (fun v stored present => ?_)
      (fun stored present => ?_) (next.chain sound others others')
    · by_cases here : v = step.version
      · exact ⟨_, here ▸ changed⟩
      · exact ⟨stored, by rw [updated.others v here, present]⟩
    · have positive := next.positive
      rw [updated.others 0 (by omega)] at present
      exact sound.first stored present
  · intro e member version
    rw [updated.run]
    exact own e (updated.executed ▸ member) version

end Step

/-! ## Runs -/

/-- The invariant wherever a program gets, and `Q` where it returns. -/
def Keeps {α : Type} (steps : List MigrationStep) (p : SqlProg α) (Q : α → Db → Prop) (db : Db) :
    Prop :=
  Prog.wp sqlHandler (fun _ => True) p
    (fun o db' => Sound steps db' ∧ ∀ a, o = .ok a → Q a db') db

section Run

variable {steps : List MigrationStep} {α β : Type} {db : Db} {Q Q' : α → Db → Prop}

theorem keeps_ret {a : α} (sound : Sound steps db) (here : Q a db) : Keeps steps (.ret a) Q db := by
  refine ⟨sound, fun a' same => ?_⟩
  cases same
  exact here

theorem keeps_raise {e : String} (sound : Sound steps db) :
    Keeps steps (.raise e : SqlProg α) Q db := by
  refine ⟨sound, fun a same => ?_⟩
  cases same

theorem keeps_bind {p : SqlProg α} {f : α → SqlProg β} {P : β → Db → Prop}
    (first : Keeps steps p Q db)
    (second : ∀ a db', Sound steps db' → Q a db' → Keeps steps (f a) P db') :
    Keeps steps (p.bind f) P db := by
  refine Prog.wp_bind (Prog.wp_mono first fun o db' post => ?_)
  obtain ⟨sound, returned⟩ := post
  cases o with
  | ok a => exact second a db' sound (returned a rfl)
  | error e => exact ⟨sound, by simp⟩
  | pending => exact ⟨sound, by simp⟩

/-- One statement, under an invariant that implies soundness. -/
theorem keeps_ask {c : Sql} {k : Option c.Value → SqlProg α} (I : Db → Prop)
    (sound : ∀ db', I db' → Sound steps db') (here : I db) (sent : I (db.log c))
    (taken : ∀ db', (db.log c).effect c = some db' → I db')
    (failed : ∀ db', I db' → Keeps steps (k none) Q db')
    (done : ∀ (m : SqlMove) db', (db.log c).effect c = some db' →
      Keeps steps (k (some (m.value (db.log c) c))) Q db') :
    Keeps steps ((ask c).bind k) Q db := by
  refine wp_ask I here sent taken (fun db' held => ?_) failed done
  exact ⟨sound db' held, fun a returned => by cases returned⟩

/-- A statement that changes neither the ledger nor the log. -/
theorem keeps_query {c : Sql} {k : Option c.Value → SqlProg α} (sound : Sound steps db)
    (quiet : ∀ db' : Db, db'.log c = db' ∧ ∀ db'', db'.effect c = some db'' → db'' = db')
    (failed : Keeps steps (k none) Q db)
    (done : ∀ m : SqlMove, (db.effect c).isSome →
      Keeps steps (k (some (m.value db c))) Q db) :
    Keeps steps ((ask c).bind k) Q db := by
  obtain ⟨unlogged, unchanged⟩ := quiet db
  refine keeps_ask (fun db' => db' = db) ?_ rfl unlogged ?_ ?_ ?_
  · rintro db' rfl
    exact sound
  · rw [unlogged]
    exact unchanged
  · rintro db' rfl
    exact failed
  · rw [unlogged]
    intro m db' effect
    rw [unchanged db' effect]
    exact done m (by rw [effect]; rfl)

/-! ### A step -/

variable {step : MigrationStep} {start : Option Ledger}

theorem keeps_failStep (next : Next steps step start) (stepping : Stepping steps step start db)
    (detail : String) : Keeps steps (failStep step.version detail) Q db := by
  refine keeps_ask (Stepping steps step start) (fun _ held => held.sound) stepping stepping
    (fun db' effect => stepping.update next (effect_recordFailed effect))
    (fun db' held => keeps_raise held.sound) fun m db' effect => ?_
  exact keeps_raise (stepping.update next (effect_recordFailed effect)).sound

theorem keeps_executeStatements (next : Next steps step start)
    (stepping : Stepping steps step start db) (sent : Nat) (queries : List String) :
    Keeps steps (executeStatements step.version sent queries)
      (fun _ db' => Stepping steps step start db') db := by
  induction queries generalizing db sent with
  | nil => exact keeps_ret stepping.sound stepping
  | cons query queries ih =>
      have logged := stepping.log next query
      have same : ∀ db', (db.log (.execute step.version query)).effect
          (.execute step.version query) = some db' → Stepping steps step start db' := by
        intro db' effect
        cases effect
        exact logged
      refine keeps_ask (Stepping steps step start) (fun _ held => held.sound) stepping logged same
        (fun db' held => keeps_failStep next held _) fun m db' effect => ?_
      exact ih (same db' effect) (sent + 1)

/-- A step that returns is recorded, and no other row has changed. -/
theorem keeps_applyStep (sound : Sound steps db) (listed : steps[step.version]? = some step)
    (positive : 0 < step.version) (ready : Ready steps step.version db.ledger) :
    Keeps steps (applyStep step) (fun _ db' => Ready steps (step.version + 1) db'.ledger ∧
      ∀ v, v ≠ step.version → row? db'.ledger v = row? db.ledger v) db := by
  have marking (db' : Db) (effect : db.effect (.insertLedger (ledgerRow step .dirty)) = some db') :=
    stepping_insert sound listed positive ready effect
  refine keeps_ask (Sound steps) (fun _ held => held) sound sound
    (fun db' effect => (marking db' effect).2.sound) (fun db' held => keeps_raise held)
    fun m db' effect => ?_
  obtain ⟨next, stepping⟩ := marking db' effect
  refine keeps_bind (keeps_executeStatements next stepping 0 _) fun _ db₁ _ stepping => ?_
  refine keeps_ask (Stepping steps step db.ledger) (fun _ held => held.sound) stepping stepping
    (fun db₂ effect => stepping.update next (effect_recordApplied effect))
    (fun db₂ held => keeps_failStep next held _) fun m db₂ effect => ?_
  have updated := effect_recordApplied effect
  have recorded := stepping.update next updated
  obtain ⟨row, found, name, checksum⟩ := stepping.marked
  obtain ⟨errorDetail, changed⟩ := updated.row row found
  exact keeps_ret recorded.sound ⟨(next.readyAt recorded.others).succ changed listed
    ⟨name, checksum, rfl⟩, recorded.others⟩

/-! ### The ledger -/

/-- The versions are recorded. -/
def Verified (steps : List MigrationStep) (applied : List Nat) (ledger : Option Ledger) : Prop :=
  ∀ v ∈ applied, ∃ step row, steps[v]? = some step ∧ row? ledger v = some row ∧ Recorded step row

/-- `verifyRows` accepts rows that record their steps, and returns their versions. -/
theorem verifyRows_ok {rows : List LedgerRow} {before applied : List Nat}
    (ok : verifyRows steps before rows = .ok applied) :
    (∀ row ∈ rows, ∃ step, steps[row.version]? = some step ∧ Recorded step row) ∧
      ∀ v ∈ applied, v ∈ before ∨ ∃ row ∈ rows, row.version = v := by
  induction rows generalizing before with
  | nil =>
      cases ok
      exact ⟨fun row member => (List.not_mem_nil member).elim, fun v member => .inl member⟩
  | cons row rows ih =>
      unfold verifyRows at ok
      split at ok
      · cases ok
      rename_i step listed
      split at ok
      · cases ok
      rename_i same
      split at ok
      · cases ok
      rename_i state
      split at ok
      · cases ok
      rw [not_or, not_not, not_not] at same
      rw [not_not] at state
      obtain ⟨rest, versions⟩ := ih ok
      constructor
      · intro row' member
        rcases List.mem_cons.mp member with rfl | later
        · exact ⟨step, listed, same.2, same.1, state⟩
        · exact rest row' later
      · intro v member
        rcases versions v member with earlier | ⟨row', later, version⟩
        · rcases List.mem_cons.mp earlier with rfl | earlier
          · exact .inr ⟨row, List.mem_cons_self, rfl⟩
          · exact .inl earlier
        · exact .inr ⟨row', List.mem_cons_of_mem _ later, version⟩

/-- The rows that `verifyLedger` reads are those of the ledger. -/
theorem mem_readLedger (m : SqlMove) (db : Db) (row : LedgerRow) :
    row ∈ (m.value db .readLedger : List LedgerRow) ↔ row? db.ledger row.version = some row := by
  obtain ⟨ledger, run, executed⟩ := db
  simp only [SqlMove.value, List.mem_mergeSort]
  cases ledger with
  | none => simp [row?]
  | some ledger => simp [row?, Table.find?_eq_some_iff]

theorem quiet_readLedger (db : Db) : db.log .readLedger = db ∧
    ∀ db', db.effect .readLedger = some db' → db' = db := by
  refine ⟨rfl, fun db' effect => ?_⟩
  obtain ⟨ledger, -, same⟩ := Option.map_eq_some_iff.mp effect
  exact same.symm

theorem keeps_verifyLedger (sound : Sound steps db) :
    Keeps steps (verifyLedger steps)
      (fun applied db' => db' = db ∧ Verified steps applied db.ledger) db := by
  refine keeps_query sound quiet_readLedger (keeps_raise sound) fun m _ => ?_
  dsimp only
  split
  · exact keeps_raise sound
  · rename_i applied ok
    obtain ⟨recorded, versions⟩ := verifyRows_ok ok
    refine keeps_ret sound ⟨rfl, fun v member => ?_⟩
    rcases versions v member with none_ | ⟨row, inside, rfl⟩
    · cases none_
    · obtain ⟨step, listed, recorded⟩ := recorded row inside
      exact ⟨step, row, listed, (mem_readLedger m db row).mp inside, recorded⟩

/-! ### A run -/

theorem keeps_recordBootstrap {first : MigrationStep} {applied : List Nat} (sound : Sound steps db)
    (listed : steps[0]? = some first) (zero : first.version = 0)
    (verified : Verified steps applied db.ledger) :
    Keeps steps (recordBootstrap applied first)
      (fun _ db' => Ready steps 1 db'.ledger ∧ Verified steps applied db'.ledger) db := by
  have ready : ∀ {ledger : Option Ledger} {row : LedgerRow}, row? ledger 0 = some row →
      Recorded first row → Ready steps 1 ledger := fun found recorded =>
    Ready.succ (fun v below => (Nat.not_lt_zero v below).elim) found listed recorded
  unfold recordBootstrap
  split
  · rename_i member
    obtain ⟨step, row, listed', found, recorded⟩ := verified 0 member
    rw [listed] at listed'
    cases listed'
    exact keeps_ret sound ⟨ready found recorded, verified⟩
  · rename_i fresh
    have inserted : ∀ db', db.effect (.insertLedger (ledgerRow first .applied)) = some db' →
        Sound steps db' := fun db' => sound.insertFirst zero rfl
    refine keeps_ask (Sound steps) (fun _ held => held) sound sound inserted
      (fun db' held => keeps_raise held) fun m db' effect => ?_
    obtain ⟨-, -, -, rows⟩ := effect_insertLedger effect
    rw [version_ledgerRow, zero] at rows
    refine keeps_ret (inserted db' effect) ⟨?_, fun v member => ?_⟩
    · exact ready (by rw [rows, if_pos rfl]) ⟨rfl, rfl, rfl⟩
    · obtain ⟨step, row, listed, found, recorded⟩ := verified v member
      have other : 0 ≠ v := by
        rintro rfl
        exact fresh member
      exact ⟨step, row, listed, by rw [rows, if_neg other]; exact found, recorded⟩

/-- The steps that follow the recorded ones. -/
theorem keeps_applySteps {applied : List Nat} {rest : List MigrationStep} {version : Nat}
    (numbered : Numbered steps)
    (remaining : rest = steps.drop version) (positive : 0 < version) (sound : Sound steps db)
    (ready : Ready steps version db.ledger) (verified : Verified steps applied db.ledger) :
    Keeps steps (applySteps applied rest) (fun _ _ => True) db := by
  induction rest generalizing db version with
  | nil => exact keeps_ret sound trivial
  | cons step rest ih =>
      have listed : steps[version]? = some step := by
        have head := congrArg List.head? remaining
        rw [List.head?_drop] at head
        exact head.symm
      have later : rest = steps.drop (version + 1) := by
        rw [← List.tail_drop, ← remaining]
        rfl
      have here : step.version = version := numbered version step listed
      subst here
      unfold applySteps
      split
      · rename_i member
        obtain ⟨step', row, listed', found, recorded⟩ := verified _ member
        exact ih later (Nat.succ_pos _) sound (ready.succ found listed' recorded) verified
      · rename_i fresh
        refine keeps_bind (keeps_applyStep sound listed positive ready)
          fun _ db' sound' applied' => ?_
        obtain ⟨ready', others⟩ := applied'
        refine ih later (Nat.succ_pos _) sound' ready' fun v member => ?_
        obtain ⟨step', row, listed', found, recorded⟩ := verified v member
        have other : v ≠ step.version := by
          rintro rfl
          exact fresh member
        exact ⟨step', row, listed', by rw [others v other, found], recorded⟩

theorem keeps_applyLocked (numbered : Numbered steps)
    (sound : Sound steps db) : Keeps steps (applyLocked steps) (fun _ _ => True) db := by
  cases steps with
  | nil => exact keeps_raise sound
  | cons first rest =>
      have created : ∀ db', db.effect .bootstrap = some db' → Sound (first :: rest) db' := by
        intro db' effect
        cases effect
        refine sound.ledger rfl rfl (fun v row found => ⟨row, ?_⟩) ?_ ?_
        · rw [row?_getD, found]
        · simpa only [row?_getD] using sound.first
        · simpa only [row?_getD] using sound.chain
      refine keeps_ask (Sound (first :: rest)) (fun _ held => held) sound sound created
        (fun db' held => keeps_raise held) fun m db' effect => ?_
      have sound' := created db' effect
      refine keeps_bind (keeps_verifyLedger sound') fun applied db₁ _ verifying => ?_
      obtain ⟨rfl, verified⟩ := verifying
      refine keeps_bind (keeps_recordBootstrap sound' rfl (numbered 0 first rfl) verified)
        fun _ db₂ sound₂ recorded => ?_
      exact keeps_applySteps numbered rfl Nat.one_pos sound₂ recorded.1 recorded.2

end Run

/-! ## The lock -/

section Lock

variable {steps : List MigrationStep} {α : Type} {db : Db} {J : Db → Prop}

/-- A statement of the session. -/
theorem wp_session {c : Sql} {k : Option c.Value → SqlProg α} (session : c.Session) (here : J db)
    (failed : Prog.wp sqlHandler (fun _ => True) (k none) (fun _ db' => J db') db)
    (done : ∀ m : SqlMove,
      Prog.wp sqlHandler (fun _ => True) (k (some (m.value db c))) (fun _ db' => J db') db) :
    Prog.wp sqlHandler (fun _ => True) ((ask c).bind k) (fun _ db' => J db') db := by
  have quiet : db.log c = db ∧ ∀ db', db.effect c = some db' → db' = db := by
    cases c <;> first
      | exact session.elim
      | exact ⟨rfl, fun db' effect => (Option.some.inj effect).symm⟩
  obtain ⟨unlogged, unchanged⟩ := quiet
  refine wp_ask (fun db' => db' = db) rfl unlogged ?_ ?_ ?_ ?_
  · rwa [unlogged]
  · rintro db' rfl
    exact here
  · rintro db' rfl
    exact failed
  · rw [unlogged]
    intro m db' effect
    rw [unchanged db' effect]
    exact done m

theorem wp_releaseAfter (lockName : String) (result : Except String Unit) (here : J db) :
    Prog.wp sqlHandler (fun _ => True) (releaseAfter lockName result) (fun _ db' => J db') db := by
  refine wp_session trivial here ?_ fun m => ?_
  · cases result <;> exact here
  · split <;> exact here

/-- Around the steps a run only talks to its session. -/
theorem wp_applyMySQL (here : J db)
    (locked : Prog.wp sqlHandler (fun _ => True) (applyLocked steps) (fun _ db' => J db') db) :
    Prog.wp sqlHandler (fun _ => True) (applyMySQL steps) (fun _ db' => J db') db := by
  have under : Prog.wp sqlHandler (fun _ => True) (underLock steps) (fun _ db' => J db') db := by
    refine wp_session trivial here here fun m => ?_
    dsimp only
    split
    · exact here
    · exact locked
  have held : ∀ lockName, Prog.wp sqlHandler (fun _ => True) (withLock lockName steps)
      (fun _ db' => J db') db := by
    intro lockName
    refine wp_session trivial here here fun m => ?_
    split
    · exact here
    · refine Prog.wp_bind (Prog.wp_reify (Prog.wp_mono under fun o db' kept => ?_))
      cases o with
      | ok a => exact wp_releaseAfter lockName _ kept
      | error e => exact wp_releaseAfter lockName _ kept
      | pending => exact kept
    · exact here
  refine wp_session trivial here here fun m => ?_
  split
  · exact here
  · exact here
  · exact here
  · exact held _

end Lock

/-! ## Blocked ledgers -/

/-- A row is dirty or failed. -/
def Blocked (ledger : Option Ledger) : Prop :=
  ∃ v row, row? ledger v = some row ∧ row.state ≠ .applied

/-- The rows and the statements are those of `db`. -/
structure Unchanged (db db' : Db) : Prop where
  rows : ∀ v, row? db'.ledger v = row? db.ledger v
  executed : db'.executed = db.executed
  run : db'.run = db.run

section Blocked

variable {steps : List MigrationStep} {α : Type} {db : Db}

theorem verifyRows_blocked {rows : List LedgerRow} {row : LedgerRow} (member : row ∈ rows)
    (unapplied : row.state ≠ .applied) (before : List Nat) :
    ∃ e, verifyRows steps before rows = .error e := by
  cases result : verifyRows steps before rows with
  | error e => exact ⟨e, rfl⟩
  | ok applied =>
      obtain ⟨step, -, recorded⟩ := (verifyRows_ok result).1 row member
      exact (unapplied recorded.state).elim

/-- `verifyLedger` does not return on a blocked ledger. -/
theorem blocked_verifyLedger (blocked : Blocked db.ledger) :
    Prog.wp sqlHandler (fun _ => True) (verifyLedger steps)
      (fun o db' => db' = db ∧ ∀ applied, o ≠ .ok applied) db := by
  refine wp_ask (fun db' => db' = db) rfl rfl (quiet_readLedger db).2 (fun db' same => ?_)
    (fun db' same => ?_) fun m db' effect => ?_
  · exact ⟨same, by simp⟩
  · exact ⟨same, by simp⟩
  · obtain ⟨v, row, found, unapplied⟩ := blocked
    have version : row.version = v := by
      obtain ⟨ledger, -, stored⟩ := Option.bind_eq_some_iff.mp found
      exact Table.key_of_find? stored
    have read := (mem_readLedger m db row).mpr (version.symm ▸ found)
    obtain ⟨e, refused⟩ : ∃ e,
        verifyRows steps [] (m.value (db.log .readLedger) .readLedger) = .error e :=
      verifyRows_blocked read unapplied []
    rw [(quiet_readLedger db).2 db' effect]
    dsimp only
    rw [refused]
    exact ⟨rfl, by simp⟩

/-- A blocked ledger stops a run before it sends a statement of a step. -/
theorem unchanged_applyMySQL (blocked : Blocked db.ledger) :
    Prog.wp sqlHandler (fun _ => True) (applyMySQL steps) (fun _ db' => Unchanged db db') db := by
  have here : Unchanged db db := ⟨fun _ => rfl, rfl, rfl⟩
  refine wp_applyMySQL here ?_
  cases steps with
  | nil => exact here
  | cons first rest =>
      have created : ∀ db', db.effect .bootstrap = some db' → Unchanged db db' := by
        intro db' effect
        cases effect
        exact ⟨fun v => row?_getD db.ledger v, rfl, rfl⟩
      refine wp_ask (Unchanged db) here here created (fun _ held => held) (fun _ held => held)
        fun m db' effect => ?_
      have still : Blocked db'.ledger := by
        obtain ⟨v, row, found, unapplied⟩ := blocked
        exact ⟨v, row, by rw [(created db' effect).rows, found], unapplied⟩
      refine Prog.wp_bind (Prog.wp_mono (blocked_verifyLedger still) fun o db'' post => ?_)
      obtain ⟨rfl, stops⟩ := post
      cases o with
      | ok applied => exact (stops applied rfl).elim
      | error e => exact created _ effect
      | pending => exact created _ effect

end Blocked

/-! ## Histories -/

section Histories

variable {scripts : List (String × String)}

theorem numbered_loadSteps : Numbered (loadSteps scripts) := by
  intro v step found
  rw [loadSteps, List.getElem?_map, Option.map_eq_some_iff] at found
  obtain ⟨⟨entry, version⟩, listed, rfl⟩ := found
  rw [List.getElem?_zipIdx, Option.map_eq_some_iff] at listed
  obtain ⟨_, -, same⟩ := listed
  have versions := congrArg Prod.snd same
  simp only [Nat.zero_add] at versions
  exact versions.symm

/-- The number of the run does not change during it. -/
theorem run_applyMySQL (steps : List MigrationStep) (moves : List SqlMove) (db : Db) :
    ((applyMySQL steps).run sqlHandler moves db).2.1.run = db.run := by
  have keeps : ∀ c (m : SqlMove) (db' : Db), db'.run = db.run → (sqlHandler c m db').2.run = db.run := by
    intro c m db' same
    have sent : (db'.log c).run = db.run := by
      cases c <;> exact same
    have taken : ∀ db'', (db'.log c).effect c = some db'' → db''.run = db.run := by
      intro db'' effect
      cases c with
      | insertLedger row => exact (effect_insertLedger effect).2.1.trans sent
      | recordApplied version => exact (effect_recordApplied effect).run.trans sent
      | recordFailed version detail => exact (effect_recordFailed effect).run.trans sent
      | readLedger => exact (quiet_readLedger _).2 db'' effect ▸ sent
      | _ =>
          cases effect
          exact sent
    unfold sqlHandler
    dsimp only
    split
    · exact taken _ ‹_›
    · exact taken _ ‹_›
    · exact taken _ ‹_›
    · exact sent
    · exact sent
  exact Prog.wp_run (Prog.shrinking_true sqlHandler)
    (Prog.wp_invariant keeps (applyMySQL steps) rfl) moves trivial

theorem sound_applyRun {db : Db} (sound : Sound (loadSteps scripts) db) (moves : List SqlMove) :
    Sound (loadSteps scripts) (applyRun scripts db moves) := by
  have locked := keeps_applyLocked numbered_loadSteps sound
  have run := Prog.wp_run (Prog.shrinking_true sqlHandler)
    (wp_applyMySQL sound (Prog.wp_mono locked fun _ _ post => post.1)) moves trivial
  exact ⟨run.first, run.chain, run.known, run.single, run.guarded,
    fun e member => Nat.le_succ_of_le (run.past e member)⟩

theorem sound_applyRuns (history : List (List SqlMove)) :
    Sound (loadSteps scripts) (applyRuns scripts history) := by
  induction history using List.reverseRecOn with
  | nil => exact sound_empty
  | append_singleton history moves ih =>
      rw [applyRuns, List.foldl_concat]
      exact sound_applyRun ih moves

theorem run_applyRuns (history : List (List SqlMove)) :
    (applyRuns scripts history).run = history.length := by
  induction history using List.reverseRecOn with
  | nil => rfl
  | append_singleton history moves ih =>
      rw [applyRuns, List.foldl_concat, List.length_append]
      exact congrArg Nat.succ ((run_applyMySQL _ moves _).trans ih)

/-- The statements so far were sent in the runs so far. -/
theorem past_applyRuns (history : List (List SqlMove)) :
    ∀ e ∈ (applyRuns scripts history).executed, e.run < history.length := by
  induction history using List.reverseRecOn with
  | nil =>
      intro e member
      cases member
  | append_singleton history moves ih =>
      intro e member
      have sound : Sound (loadSteps scripts) (applyRuns scripts history) := sound_applyRuns history
      have locked := keeps_applyLocked numbered_loadSteps sound
      have run := Prog.wp_run (Prog.shrinking_true sqlHandler)
        (wp_applyMySQL sound (Prog.wp_mono locked fun _ _ post => post.1)) moves trivial
      have within := run.past e (by rwa [applyRuns, List.foldl_concat] at member)
      rw [run_applyMySQL, run_applyRuns] at within
      rw [List.length_append]
      exact Nat.lt_succ_of_le within

/-- A blocked ledger stays blocked, and no run sends a statement any more. -/
theorem blocked_applyRuns (later : List (List SqlMove)) {db : Db} (blocked : Blocked db.ledger) :
    (later.foldl (applyRun scripts) db).executed = db.executed := by
  induction later generalizing db with
  | nil => rfl
  | cons moves later ih =>
      have unchanged := Prog.wp_run (Prog.shrinking_true sqlHandler)
        (@unchanged_applyMySQL (loadSteps scripts) db blocked) moves trivial
      have still : Blocked (applyRun scripts db moves).ledger := by
        obtain ⟨v, row, found, unapplied⟩ := blocked
        exact ⟨v, row, (unchanged.rows v).trans found, unapplied⟩
      exact (ih still).trans unchanged.executed

/-- The version is recorded as applied. -/
def Applied (db : Db) (version : Nat) : Prop :=
  ∃ row, row? db.ledger version = some row ∧ row.state = .applied

/-- Migrations are safe over any history of runs, each of which may stop anywhere and have any of its
statements refused or lost: the statements of a step are sent in one run at most; they are sent only
when all earlier versions are recorded as applied, under the names and checksums of their steps; after
a run that has left a row dirty or failed no statement of a step is sent; and the applied versions
have no gap. -/
theorem migrations_safe (scripts : List (String × String)) (history : List (List SqlMove)) :
    (∀ e ∈ (applyRuns scripts history).executed, ∀ e' ∈ (applyRuns scripts history).executed,
      e.version = e'.version → e.run = e'.run) ∧
    (∀ e ∈ (applyRuns scripts history).executed, ∀ v < e.version, ∃ step row,
      (loadSteps scripts)[v]? = some step ∧ row? e.ledger v = some row ∧ row.state = .applied ∧
      row.name = step.name ∧ row.checksum = step.checksum) ∧
    (∀ earlier later, history = earlier ++ later → Blocked (applyRuns scripts earlier).ledger →
      ∀ e ∈ (applyRuns scripts history).executed, e.run < earlier.length) ∧
    ∀ v w, Applied (applyRuns scripts history) v → w ≤ v → Applied (applyRuns scripts history) w := by
  have sound : Sound (loadSteps scripts) (applyRuns scripts history) := sound_applyRuns history
  refine ⟨sound.single, ?_, ?_, ?_⟩
  · intro e member v below
    obtain ⟨step, row, listed, found, recorded⟩ := sound.guarded e member v below
    exact ⟨step, row, listed, found, recorded.state, recorded.name, recorded.checksum⟩
  · intro earlier later split blocked e member
    have quiet := @blocked_applyRuns scripts later _ blocked
    rw [split, applyRuns, List.foldl_append] at member
    exact past_applyRuns earlier e (quiet ▸ member)
  · intro v w applied below
    induction v with
    | zero => exact Nat.le_zero.mp below ▸ applied
    | succ v ih =>
        rcases Nat.lt_or_eq_of_le below with earlier | rfl
        · obtain ⟨row, found, -⟩ := applied
          exact ih (sound.chain v row found) (Nat.lt_succ_iff.mp earlier)
        · exact applied

end Histories

end UnifiedInfraTopology.Migration
