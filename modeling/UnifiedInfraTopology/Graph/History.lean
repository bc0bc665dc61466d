import UnifiedInfraTopology.Graph.InFlight

/-!
# What calls and cleanups do to a graph

Whatever the order of their statements: rows come from the first graph and the calls, edges stay, and
a vertex is gone only with an orphan of a cleanup.  Until then it keeps its birth
(`Graph.KeepsBirths`).  Rows with identities that no call has are left alone.
-/

namespace UnifiedInfraTopology

open Lib

section

variable {upserted : TopologyVertex → Prop} {related : Relation → Prop}
  {cleaned : CleanupScope → Prop} {first g : Graph}

/-! ## Origins -/

theorem History.vertices (history : History upserted related cleaned first g) :
    vertexUpserts.Traced first.vertices.find? (CalledVertex upserted) g.vertices.find? := by
  induction history with
  | refl => exact .start (fun _ _ found => Table.key_of_find? found) _
  | tail _ changed traced =>
      cases changed with
      | written here =>
          cases here with
          | vertex here step _ => exact traced.step here step
          | edge _ _ vertices =>
              rw [vertices]
              exact traced
      | orphans _ left => exact traced.delete fun _ _ found => left.find? found

theorem History.edges (history : History upserted related cleaned first g) :
    edgeUpserts.Traced first.edges.find? (CalledEdge related) g.edges.find? := by
  induction history with
  | refl => exact .start (fun _ _ found => Table.key_of_find? found) _
  | tail _ changed traced =>
      cases changed with
      | written here =>
          cases here with
          | vertex _ _ edges =>
              rw [edges]
              exact traced
          | edge here step _ => exact traced.step here step
      | orphans _ left =>
          rw [left.edges]
          exact traced

/-! ## Rows that stay -/

/-- An edge stays, with its identity and birth, and does not get older. -/
theorem History.edge_later (history : History upserted related cleaned first g) {e : EdgeRow}
    (found : first.edges.find? e.key = some e) : edgeUpserts.Later e g.edges.find? := by
  induction history with
  | refl => exact .refl found
  | tail _ changed later =>
      cases changed with
      | written here =>
          cases here with
          | vertex _ _ edges =>
              rw [edges]
              exact later
          | edge _ step _ => exact later.step step
      | orphans _ left =>
          rw [left.edges]
          exact later

variable (first upserted cleaned) in
/-- A cleanup has taken away the ID: a row with it is in its scope, older than its cutoff. -/
def CleanedAway (vid : String) : Prop :=
  ∃ scope, cleaned scope ∧ ∃ w : VertexRow,
    (first.vertices.find? w.key = some w ∨ CalledVertex upserted w) ∧ w.vid = vid ∧
      w.tag = scope.tag ∧ w.sourceId = scope.sourceId ∧ w.syncedAt < scope.before

theorem History.kept_or_cleaned {g' : Graph} {scope : CleanupScope}
    (history : History upserted related cleaned first g) (here : cleaned scope)
    (left : OrphansLeft g scope.tag scope.sourceId scope.before g') {v : VertexRow}
    (found : g.vertices.find? v.key = some v) :
    g'.vertices.find? v.key = some v ∨ CleanedAway upserted cleaned first v.vid := by
  by_cases orphan : ∃ w ∈ g.vertices.rows, w.vid = v.vid ∧
      g.orphan scope.tag scope.sourceId scope.before w = true
  · obtain ⟨w, inside, same, orphan⟩ := orphan
    simp only [Graph.orphan, Bool.and_eq_true, decide_eq_true_eq, beq_iff_eq] at orphan
    obtain ⟨⟨⟨tagged, own⟩, older⟩, -⟩ := orphan
    obtain ⟨w', known, key, named, -, before⟩ :=
      (history.vertices.origin w.key w (Table.find?_of_mem inside)).born
    exact Or.inr ⟨scope, here, w', known, (congrArg Prod.snd key).trans same,
      (congrArg Prod.fst key).trans tagged, (congrArg Prod.fst named).trans own,
      lt_of_le_of_lt before older⟩
  · refine Or.inl (Table.find?_of_mem (left.kept v (Table.mem_of_find? found) fun w inside same => ?_))
    rw [← Bool.not_eq_true]
    exact fun here => orphan ⟨w, inside, same, here⟩

/-- A vertex stays, with its identity and birth, and does not get older, or is cleaned away. -/
theorem History.vertex_later (history : History upserted related cleaned first g) {v : VertexRow}
    (found : first.vertices.find? v.key = some v) :
    vertexUpserts.Later v g.vertices.find? ∨ CleanedAway upserted cleaned first v.vid := by
  induction history with
  | refl => exact Or.inl (.refl found)
  | tail earlier changed later =>
      rcases later with later | gone
      · cases changed with
        | written here =>
            cases here with
            | vertex _ step _ => exact Or.inl (later.step step)
            | edge _ _ vertices =>
                rw [vertices]
                exact Or.inl later
        | orphans here left =>
            obtain ⟨v', stored, named, born, newer⟩ := later
            have key : v'.key = v.key := Table.key_of_find? stored
            have stored' := Table.find?_of_mem (Table.mem_of_find? stored)
            rcases History.kept_or_cleaned earlier here left stored' with kept | gone
            · rw [key] at kept
              exact Or.inl ⟨v', kept, named, born, newer⟩
            · have vid : v'.vid = v.vid := congrArg Prod.snd key
              rw [vid] at gone
              exact Or.inr gone
      · exact Or.inr gone

variable (first g) in
/-- A row under a key of the first graph has the identity and the birth of the row that was there. -/
def Graph.KeepsBirths : Prop :=
  ∀ v ∈ g.vertices.rows, ∀ v₀, first.vertices.find? v.key = some v₀ →
    v₀.sourceId = v.sourceId ∧ v₀.stableId = v.stableId ∧ v.createdAt = v₀.createdAt

/-- Before the first cleanup. -/
theorem History.keepsBirths (history : History upserted related cleaned first g)
    (uncleaned : ∀ scope, ¬cleaned scope) : first.KeepsBirths g := by
  intro v stored v₀ found
  have key : v₀.key = v.key := Table.key_of_find? found
  rcases history.vertex_later (key.symm ▸ found) with ⟨v', found', named, born, -⟩ | ⟨scope, here, -⟩
  · have same : v' = v := by
      have there : g.vertices.find? v.key = some v := Table.find?_of_mem stored
      rw [← key] at there
      exact Option.some.inj (found'.symm.trans there)
    subst same
    exact ⟨(congrArg Prod.fst named).symm, (congrArg Prod.snd named).symm, born⟩
  · exact (uncleaned scope here).elim

/-- A cleanup only takes rows away. -/
theorem Graph.KeepsBirths.cleanedUp {tag : EntityType} {sourceId : String} {before : Time}
    {g' : Graph} (births : first.KeepsBirths g) (left : OrphansLeft g tag sourceId before g') :
    first.KeepsBirths g' := fun v member => births v (left.stored v member)

/-! ## Bystanders -/

/-- An edge whose identity no call has is left alone, and was there. -/
theorem History.edge_bystander (history : History upserted related cleaned first g) {e : EdgeRow}
    (other : ∀ w, CalledEdge related w → edgeUpserts.identity e ≠ edgeUpserts.identity w)
    (k : EdgeKey) : g.edges.find? k = some e ↔ first.edges.find? k = some e := by
  induction history with
  | refl => exact Iff.rfl
  | tail _ changed same =>
      cases changed with
      | written here =>
          cases here with
          | vertex _ _ edges => rw [edges, same]
          | edge here step _ => exact (step.bystander (other _ here) k).trans same
      | orphans _ left => rw [left.edges, same]

/-- A vertex whose identity no call has was there. -/
theorem History.vertex_unmade (history : History upserted related cleaned first g) {v : VertexRow}
    (other : ∀ w, CalledVertex upserted w → vertexUpserts.identity v ≠ vertexUpserts.identity w)
    {k : VertexKey} (found : g.vertices.find? k = some v) : first.vertices.find? k = some v := by
  induction history with
  | refl => exact found
  | tail _ changed before =>
      cases changed with
      | written here =>
          cases here with
          | vertex here step _ => exact before ((step.bystander (other _ here) k).mp found)
          | edge _ _ vertices => exact before (vertices ▸ found)
      | orphans _ left => exact before (left.find? found)

/-- It is left alone, or is cleaned away with a row that has its ID. -/
theorem History.vertex_bystander (history : History upserted related cleaned first g) {v : VertexRow}
    (other : ∀ w, CalledVertex upserted w → vertexUpserts.identity v ≠ vertexUpserts.identity w)
    (found : first.vertices.find? v.key = some v) :
    g.vertices.find? v.key = some v ∨ CleanedAway upserted cleaned first v.vid := by
  induction history with
  | refl => exact Or.inl found
  | tail earlier changed before =>
      rcases before with before | gone
      · cases changed with
        | written here =>
            cases here with
            | vertex here step _ => exact Or.inl ((step.bystander (other _ here) _).mpr before)
            | edge _ _ vertices => exact Or.inl (vertices ▸ before)
        | orphans here left => exact History.kept_or_cleaned earlier here left before
      · exact Or.inr gone

end

end UnifiedInfraTopology
