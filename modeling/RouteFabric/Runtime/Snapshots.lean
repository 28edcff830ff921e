import RouteFabric.Runtime.State

/-!
# Snapshots and digests of the runtime

A snapshot is a copy of a record with its currentness, addressed by a digest of its content.
The digest of a set of snapshots visits them in the order of their identities; the state
digest of the statistics visits record digests in their own order.
-/

namespace RouteFabric

open ByteReader OrderedMap

namespace RouteCurrentness

instance : Enumerated RouteCurrentness where
  values := [current, notInstalled, revalidationRequired, staleEpoch, stalePublisher,
    staleWorkerBoot, stalePathAuthority, staleBackendObservation, fencedPublisher,
    pathAuthorityRejected, withdrawn, retired, superseded, failed, revoked, desiredAppliedMismatch]
  code
    | current => 1
    | notInstalled => 2
    | revalidationRequired => 3
    | staleEpoch => 4
    | stalePublisher => 5
    | staleWorkerBoot => 6
    | stalePathAuthority => 7
    | staleBackendObservation => 8
    | fencedPublisher => 9
    | pathAuthorityRejected => 10
    | withdrawn => 11
    | retired => 12
    | superseded => 13
    | failed => 14
    | revoked => 15
    | desiredAppliedMismatch => 16
  decodes value := by cases value <;> decide

end RouteCurrentness

abbrev RouteSnapshotId := FixedId .snapshot

/-- A content-addressed copy of one record. -/
structure RouteSnapshot where
  id : RouteSnapshotId
  digest : Digest128
  currentness : RouteCurrentness
  record : RouteRecord
deriving DecidableEq

def makeSnapshot (record : RouteRecord) (currentness : RouteCurrentness) : RouteSnapshot :=
  let image := [asciiBytes "routefabric.snapshot.v1", bytes128 record.semanticDigest,
    [Enumerated.code currentness], record.id.write, record.generation.write,
    record.authorityGeneration.write].flatten
  { id := .fromDigest (digest128 "routefabric.snapshot-id" image)
    digest := record.semanticDigest
    currentness
    record }

/-- A content-addressed copy of the whole runtime, in the order of the identities. -/
structure RouteSnapshotSet where
  id : RouteSnapshotId
  digest : Digest128
  epoch : CoordinatorEpoch
  routes : List RouteSnapshot
deriving DecidableEq

/-- Snapshots in the order of the identities of their records. -/
def sortSnapshots (snapshots : List RouteSnapshot) : List RouteSnapshot :=
  snapshots.mergeSort fun left right => decide (left.record.id.bits.toNat ≤ right.record.id.bits.toNat)

def digestSnapshotSet (routes : List RouteSnapshot) : Digest128 :=
  let domain := asciiBytes "routefabric.snapshot-set.v1"
  let image := (sortSnapshots routes).flatMap fun snapshot =>
    bytes128 snapshot.record.semanticDigest ++ [Enumerated.code snapshot.currentness]
  digestOfPair (mix64 (fnvUpdate (fnvUpdate fnvBasis domain) image))
    (mix64 (fnvUpdate (fnvUpdate fnvBasisAlt domain) image))

def makeSnapshotSet (records : List RouteRecord) (currentness : List RouteCurrentness)
    (epoch : CoordinatorEpoch) : RouteSnapshotSet :=
  let routes := sortSnapshots (List.zipWith makeSnapshot records currentness)
  let digest := digestSnapshotSet routes
  let image := [asciiBytes "routefabric.snapshot-set.v1", bytes128 digest, epoch.write,
    leBytes 8 routes.length].flatten
  { id := .fromDigest (digest128 "routefabric.snapshot-set-id" image), digest, epoch, routes }

/-- The state digest of the statistics, over the records and the epoch. -/
def stateDigest (records : List RouteRecord) (epoch : CoordinatorEpoch) : Digest128 :=
  let domain := asciiBytes "routefabric.state-digest.v1"
  let image := (sortDigests (records.map RouteRecord.semanticDigest)).flatMap bytes128 ++ epoch.write
  digestOfPair (mix64 (fnvUpdate (fnvUpdate fnvBasis domain) image))
    (mix64 (fnvUpdate (fnvUpdate fnvBasisAlt domain) image))

namespace Impl

def queryRouteById (env : Env) (state : Impl) (route : RouteId) : Expected RouteSnapshot :=
  match state.routes[route]? with
  | none => makeError .notFound "no route with that identity"
  | some record => .ok (makeSnapshot record (state.currentnessOf env record))

def queryRoute (env : Env) (state : Impl) (key : RouteKey) : Expected RouteSnapshot :=
  match state.keyIndex[key]? with
  | none => makeError .notFound "no route for that key"
  | some route =>
      match state.routes[route]? with
      | none => makeError .notFound "no route for that key"
      | some record => .ok (makeSnapshot record (state.currentnessOf env record))

/-- The state digest that the statistics report. -/
def reportedDigest (state : Impl) : Digest128 := stateDigest (values state.routes) state.epoch

def snapshot (limits : Limits) (env : Env) (state : Impl) : Expected RouteSnapshotSet :=
  if limits.maxSnapshotRoutes < state.routes.size then
    makeError .limitExceeded "the snapshot exceeds the configured route bound"
  else
    .ok (makeSnapshotSet (values state.routes)
      ((values state.routes).map (state.currentnessOf env)) state.epoch)

end Impl

end RouteFabric
