import UnifiedInfraTopology.Lib.PrefixCode
import UnifiedInfraTopology.Uplink.Passes

/-!
# What the digest of a pass determines

A pass gives its digest a header for every page and a pair of texts for every link.  `summaries` are the
headers and the pairs by page; the stream of a pass is their text (`digested_of_accepted`), and two
passes with one stream have the same summaries (`summaries_of_stream`).
-/

namespace UnifiedInfraTopology

open Lib

namespace ServerUplink

/-- What the digest is told of a page, apart from its links. -/
structure PageHeader where
  start : Int
  nextOffset : Int
  total : Int
  done : Bool
  skipped : Int
  firstInstanceId : Int64
  lastInstanceId : Int64
  sourceDigest : String
deriving DecidableEq

def headerOf (start : Int) (page : UplinkPage) : PageHeader where
  start
  nextOffset := page.nextOffset
  total := page.total
  done := page.done
  skipped := page.skipped
  firstInstanceId := page.firstInstanceId
  lastInstanceId := page.lastInstanceId
  sourceDigest := page.sourceDigest

/-- The relation ID and the ToR of a link. -/
def linkPair (targets : TextMap) (identity : RelationIdentity) : String × String :=
  (relationId (linkWith targets identity), (linkWith targets identity).tor)

def linkPairs (page : UplinkPage) : List (String × String) := page.links.map (linkPair page.targets)

/-- The pages of a pass, from a start on. -/
def summaries : Int → List UplinkPage → List (PageHeader × List (String × String))
  | _, [] => []
  | start, page :: pages => (headerOf start page, linkPairs page) :: summaries page.nextOffset pages

/-! ## The stream -/

def PageHeader.text (h : PageHeader) : List Char :=
  '[' :: Json.printItems ']' id [Json.printInt h.start, Json.printInt h.nextOffset,
    Json.printInt h.total, Json.printBool h.done, Json.printInt h.skipped,
    Json.printInt h.firstInstanceId.toInt, Json.printInt h.lastInstanceId.toInt,
    Json.printString h.sourceDigest]

def linkText (pair : String × String) : List Char := (jsonStrings [pair.1, pair.2]).toList

def summaryText (summary : PageHeader × List (String × String)) : List Char :=
  summary.1.text ++ summary.2.flatMap linkText

theorem prefixCode_header : PrefixCode PageHeader.text := by
  have number := Json.prefixCode_printInt (Or.inl (rfl : ',' = ','))
  have flag := Json.prefixCode_printBool.concat ','
  have text := Json.prefixCode_printString.concat ']'
  have code := ((((((number.append number).append number).append flag).append number).append
    number).append number).append text
  have parts := (code.comp (h := fun h : PageHeader => (((((((h.start, h.nextOffset), h.total), h.done),
    h.skipped), h.firstInstanceId.toInt), h.lastInstanceId.toInt), h.sourceDigest)) ?_).cons '['
  · intro a b rest rest' same
    refine parts a b rest rest' ?_
    simpa [PageHeader.text, Json.printItems, Json.printTail] using same
  · rintro ⟨⟩ ⟨⟩ same
    simp only [Prod.mk.injEq, Int64.toInt_inj] at same
    obtain ⟨⟨⟨⟨⟨⟨⟨rfl, rfl⟩, rfl⟩, rfl⟩, rfl⟩, rfl⟩, rfl⟩, rfl⟩ := same
    rfl

theorem prefixCode_link : PrefixCode linkText := by
  have code := ((Json.prefixCode_printString.concat ',').append
    (Json.prefixCode_printString.concat ']')).cons '['
  intro a b rest rest' same
  refine code a b rest rest' ?_
  simpa [linkText, jsonStrings, Json.printArray, Json.printItems, Json.printTail, Json.Scalar.print]
    using same

/-- After its bracket a header goes on with an integer, a pair with a quotation mark. -/
theorem text_apart (h : PageHeader) (pair : String × String) (rest rest' : List Char) :
    h.text ++ rest ≠ linkText pair ++ rest' := by
  intro same
  obtain ⟨c, cs, shape, leading⟩ := Json.head_printInt h.start
  have quoted : c = Json.quote := by
    simp only [PageHeader.text, Json.printItems, id, shape, linkText, jsonStrings, Json.printArray,
      String.toList_ofList, List.map_cons, Json.Scalar.print, Json.printString, List.cons_append,
      List.cons.injEq] at same
    exact same.2.1
  rw [quoted] at leading
  exact absurd leading (by decide)

/-- What the digest is given, text by text. -/
def pieceText : PageHeader ⊕ (String × String) → List Char := Sum.elim PageHeader.text linkText

theorem pieceText_ne_nil (piece : PageHeader ⊕ (String × String)) : pieceText piece ≠ [] := by
  rcases piece with h | pair
  · exact List.cons_ne_nil _ _
  · simp [pieceText, linkText, jsonStrings, Json.printArray]

theorem flatMap_pieceText (all : List (PageHeader × List (String × String))) :
    (all.flatMap fun p => Sum.inl p.1 :: p.2.map Sum.inr).flatMap pieceText =
      all.flatMap summaryText := by
  rw [List.flatMap_assoc]
  refine List.flatMap_congr fun summary _ => ?_
  rw [List.flatMap_cons, List.flatMap_map]
  rfl

/-- The text of the summaries determines them. -/
theorem summaryText_injective : Function.Injective (List.flatMap summaryText) := by
  intro all all' same
  rw [← flatMap_pieceText, ← flatMap_pieceText] at same
  exact blocks_injective
    ((prefixCode_header.sum prefixCode_link text_apart).flatMap_injective pieceText_ne_nil same)

/-! ## The stream of a pass -/

theorem utf8_append (cs cs' : List Char) :
    utf8 (String.ofList (cs ++ cs')) = utf8 (String.ofList cs) ++ utf8 (String.ofList cs') := by
  simp [utf8]

theorem summaries_append (start : Int) (pages : List UplinkPage) (page : UplinkPage) :
    summaries start (pages ++ [page]) = summaries start pages ++
      [(headerOf (pages.foldl (fun _ page => page.nextOffset) start) page, linkPairs page)] := by
  induction pages generalizing start with
  | nil => rfl
  | cons first pages ih =>
      rw [List.cons_append, summaries, ih first.nextOffset]
      rfl

/-- One link: its pair. -/
theorem digested_acceptLink {retain : Bool} {targets : TextMap} {pass pass' : Pass}
    {identity : RelationIdentity} (ok : acceptLink retain targets pass identity = .ok pass') :
    pass'.digested =
      pass.digested ++ utf8 (String.ofList (linkText (linkPair targets identity))) := by
  obtain ⟨identified, -⟩ := acceptLink_ok ok
  have identified : identity.id = .ok (relationId (linkWith targets identity)) := identified
  unfold acceptLink at ok
  rw [identified] at ok
  dsimp only at ok
  obtain ⟨-, ok⟩ := check_ok ok
  obtain ⟨-, ok⟩ := check_ok ok
  have text : String.ofList (linkText (linkPair targets identity)) = jsonStrings
      [relationId (linkWith targets identity), targets.get identity.target.stableId] := by
    rw [linkText, String.ofList_toList]
    rfl
  rw [text]
  split at ok <;> cases ok <;> rfl

/-- One page: its header, and the pairs of its links. -/
theorem digested_acceptPage {retain : Bool} {pass pass' : Pass} {page : UplinkPage}
    (ok : acceptPage retain pass page = .ok pass') :
    pass'.digested = pass.digested ++
      utf8 (String.ofList (summaryText (headerOf pass.start page, linkPairs page))) := by
  obtain ⟨-, -, servers, linked, -, links, rfl⟩ := acceptPage_ok_iff.mp ok
  have start_ : (pass.withServers page servers).digested = (pass.withServers page servers).digested ++
      utf8 (String.ofList ((([] : List RelationIdentity).map (linkPair page.targets)).flatMap linkText)) :=
    (List.append_nil _).symm
  have folded := foldlM_invariant
    (fun done (linked : Pass) => linked.digested = (pass.withServers page servers).digested ++
      utf8 (String.ofList ((done.map (linkPair page.targets)).flatMap linkText)))
    (fun done identity linked linked' held ok => by
      rw [digested_acceptLink ok, held, List.map_append, List.flatMap_append, utf8_append,
        List.append_assoc]
      simp) start_ links
  rw [List.nil_append] at folded
  change linked.digested = _
  rw [folded, summaryText, utf8_append, ← List.append_assoc]
  rfl

/-- The stream of the pages that a pass has accepted. -/
theorem digested_of_accepted {retain : Bool} {pages : List UplinkPage} {pass : Pass}
    (accepted : pages.foldlM (acceptPage retain) Pass.start_ = .ok pass) :
    pass.digested = utf8 (String.ofList ((summaries 0 pages).flatMap summaryText)) := by
  have whole := foldlM_invariant
    (fun done (pass : Pass) => PassHolds retain done pass ∧
      pass.digested = utf8 (String.ofList ((summaries 0 done).flatMap summaryText)))
    (fun done page pass pass' held ok => by
      obtain ⟨holds, told⟩ := held
      refine ⟨holds.page ok, ?_⟩
      rw [digested_acceptPage ok, told, summaries_append, List.flatMap_append, utf8_append,
        holds.start_]
      simp [nextStart])
    ⟨passHolds_nil retain, rfl⟩ accepted
  exact whole.2

/-- Two passes with one stream have read the same: where each page begins and ends, what it has
skipped, its source digest and the relation IDs and ToRs of its links. -/
theorem summaries_of_stream {retain retain' : Bool} {pages pages' : List UplinkPage}
    {pass pass' : Pass} (accepted : pages.foldlM (acceptPage retain) Pass.start_ = .ok pass)
    (accepted' : pages'.foldlM (acceptPage retain') Pass.start_ = .ok pass')
    (same : pass.digested = pass'.digested) : summaries 0 pages = summaries 0 pages' := by
  rw [digested_of_accepted accepted, digested_of_accepted accepted'] at same
  exact summaryText_injective (String.ofList_inj.mp (utf8_injective same))

end ServerUplink

end UnifiedInfraTopology
