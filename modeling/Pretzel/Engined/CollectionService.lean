import Pretzel.Engined.ApiCredentialService

/-!
engined's store of what the connectors collect
(`engined/service/collection/CollectionService.cpp`).

* `CollectionSample`, `CollectionStore`: a row of `api_collection`, and the table
  with the time of the last sweep.
* `storeSample`, `prune`, `pruneIfDue`, `CollectionService.handleEvent`: the handler.
  A JSON type error leaves it, before anything is written.
* `SampleReads`, `returns_storeSample`: the members a sample is read for. The
  numbers are looked at first and do not throw.
-/

namespace Pretzel.Engined

open Nlohmann Ipc Config

/-! ### The table -/

/-- A row of `api_collection`. -/
structure CollectionSample where
  connectorOid : String
  endpointOid : String
  collectedAt : ℤ
  ok : Bool
  httpStatus : Option ℤ
  latencyMs : Option ℤ
  bytes : Option ℤ
  truncated : Bool
  body : Option String
  error : Option String
  bodyAged : Bool := false
deriving DecidableEq

/-- The rows, in the order of their oids, and the time of the last sweep, at first
the start of the process. -/
structure CollectionStore where
  rows : List CollectionSample
  lastPrune : ℤ

/-- What one sample meets: whether the database carries out the insert and the two
statements of a sweep; its clock, and the steady clock. -/
structure CollectionIO where
  wrote : Bool
  deleted : Bool
  aged : Bool
  now : ℤ
  steady : ℤ

/-- `kRetentionDays`, in seconds. -/
def kSampleRetention : ℤ := 14 * 24 * 3600

/-- `kBodiesPerStream`. -/
def kBodiesPerStream : ℕ := 50

/-- `kPruneInterval`, in seconds. -/
def kSamplePruneInterval : ℤ := 3600

/-! ### The sweep -/

/-- Two samples of one stream. -/
def CollectionSample.sameStream (a b : CollectionSample) : Bool :=
  a.connectorOid = b.connectorOid && a.endpointOid = b.endpointOid

/-- The samples of its stream that still have a body and come before a sample in the
order of the sweep, the newest first. Of two samples of one moment the one stored
later is taken as the newer. -/
def bodiesBefore (rows : List CollectionSample) (r : CollectionSample × ℕ) : ℕ :=
  rows.zipIdx.countP fun q => q.1.body.isSome && q.1.sameStream r.1 &&
    (r.1.collectedAt < q.1.collectedAt || (q.1.collectedAt = r.1.collectedAt && r.2 < q.2))

/-- `UPDATE api_collection SET body = NULL, body_aged = true`, past the newest
bodies of each stream. -/
def releaseBodies (rows : List CollectionSample) : List CollectionSample :=
  rows.zipIdx.map fun r =>
    if r.1.body.isSome && kBodiesPerStream ≤ bodiesBefore rows r then
      { r.1 with body := none, bodyAged := true }
    else r.1

namespace CollectionStore

variable (s : CollectionStore)

/-- `CollectionService::prune`. -/
def prune (io : CollectionIO) : CollectionStore :=
  let kept := if io.deleted then s.rows.filter fun r => ¬r.collectedAt < io.now - kSampleRetention
    else s.rows
  { s with rows := if io.aged then releaseBodies kept else kept }

/-- `CollectionService::pruneIfDue`. -/
def pruneIfDue (io : CollectionIO) : CollectionStore :=
  if io.steady - s.lastPrune < kSamplePruneInterval then s
  else prune { s with lastPrune := io.steady } io

/-! ### The handler -/

/-- `intField`: a number, as text that is cast back, none where there is none. -/
def intField (root : Json) (key : String) : Option ℤ :=
  match root.find? key with
  | some v => if v.isNumber then v.getInt64.toOption else none
  | none => none

/-- `::int` takes the number. -/
def fitsInt (n : Option ℤ) : Bool := n.all fun n => -2 ^ 31 ≤ n && n < 2 ^ 31

/-- `CollectionService::storeSample`. -/
def storeSample (io : CollectionIO) (root : Json) : Except JsonError CollectionStore := do
  let connectorOid ← root.valueString "connector_oid" ""
  let endpointOid ← root.valueString "endpoint_oid" ""
  if connectorOid = "" || endpointOid = "" then return s
  else
    let ok ← root.valueBool "ok" false
    let truncated ← root.valueBool "truncated" false
    let httpStatus := intField root "http_status"
    let latencyMs := intField root "latency_ms"
    let bytes := intField root "bytes"
    let respBody ← root.valueString "body" ""
    let error ← root.valueString "error" ""
    let row : CollectionSample :=
      { connectorOid := cStr connectorOid, endpointOid := cStr endpointOid, collectedAt := io.now,
        ok, httpStatus, latencyMs, bytes, truncated, body := nullIf respBody,
        error := nullIf error }
    let wrote := io.wrote && fitsInt httpStatus && fitsInt latencyMs && fitsInt bytes
    return pruneIfDue (if wrote then { s with rows := s.rows ++ [row] } else s) io

end CollectionStore

/-- `CollectionService::handleEvent`, of an `ApiCollectionSample`. -/
def CollectionService.handleEvent (io : CollectionIO) (payload : Payload) (s : CollectionStore) :
    Except JsonError CollectionStore :=
  match payload with
  | .empty | .malformed => .ok s
  | .json root => s.storeSample io root

/-! ### Its reads -/

/-- The members a sample is read for: the oids, and behind them the rest. -/
def SampleReads (root : Json) : Prop :=
  root.isObject = true ∧ root.stringOrAbsent "connector_oid" = true ∧
    root.stringOrAbsent "endpoint_oid" = true ∧
    (root.textOr "connector_oid" "" ≠ "" → root.textOr "endpoint_oid" "" ≠ "" →
      root.boolOrAbsent "ok" = true ∧ root.boolOrAbsent "truncated" = true ∧
        root.stringOrAbsent "body" = true ∧ root.stringOrAbsent "error" = true)

lemma returns_storeSample (io : CollectionIO) (root : Json) (s : CollectionStore) :
    Returns (s.storeSample io root) ↔ SampleReads root := by
  rw [CollectionStore.storeSample, SampleReads, Json.returns_string]
  refine and_congr_right fun hobj => and_congr_right fun _ => ?_
  rw [Json.returns_text hobj]
  refine and_congr_right fun _ => ?_
  split
  · next hnamed =>
      rw [Bool.or_eq_true, decide_eq_true_eq, decide_eq_true_eq] at hnamed
      refine iff_of_true (returns_pure _) fun hc he => ?_
      exact absurd hnamed (not_or.mpr ⟨hc, he⟩)
  · next hnamed =>
      rw [Bool.or_eq_true, decide_eq_true_eq, decide_eq_true_eq, not_or] at hnamed
      rw [Json.returns_bool, Json.returns_bool, Json.returns_text hobj, Json.returns_text hobj]
      simp [hobj, hnamed.1, hnamed.2]

end Pretzel.Engined
