import RouteFabric.Runtime.Snapshots
import RouteFabric.Std.Sorting

/-!
# Snapshot sets

A snapshot set does not remember the order its records were given in, and its order lets a
snapshot be found by halving. `makeSnapshotSet_canonical` is the result for any records with
pairwise different identities.
-/

namespace RouteFabric

open Sorting

/-- The position of a snapshot in the order of a set. -/
def RouteSnapshot.position (snapshot : RouteSnapshot) : Nat := snapshot.record.id.bits.toNat

theorem FixedId.toNat_inj {tag : FixedTag} {left right : FixedId tag} :
    left.bits.toNat = right.bits.toNat ↔ left = right := by
  constructor
  · intro same
    cases left
    cases right
    congr
    exact BitVec.eq_of_toNat_eq same
  · rintro rfl
    rfl

/-- The set made of records that are each given with their currentness. -/
def snapshotSetOf (pairs : List (RouteRecord × RouteCurrentness)) (epoch : CoordinatorEpoch) :
    RouteSnapshotSet :=
  makeSnapshotSet (pairs.map Prod.fst) (pairs.map Prod.snd) epoch

/-- The snapshots of a set before they are sorted. -/
def snapshotsOf (pairs : List (RouteRecord × RouteCurrentness)) : List RouteSnapshot :=
  pairs.map fun pair => makeSnapshot pair.1 pair.2

theorem zipWith_makeSnapshot (pairs : List (RouteRecord × RouteCurrentness)) :
    List.zipWith makeSnapshot (pairs.map Prod.fst) (pairs.map Prod.snd) = snapshotsOf pairs := by
  rw [List.zipWith_map, List.zipWith_self, snapshotsOf]

theorem snapshotSetOf_routes (pairs : List (RouteRecord × RouteCurrentness)) (epoch : CoordinatorEpoch) :
    (snapshotSetOf pairs epoch).routes = sortSnapshots (snapshotsOf pairs) := by
  rw [snapshotSetOf, makeSnapshotSet, zipWith_makeSnapshot]

theorem positions_snapshotsOf (pairs : List (RouteRecord × RouteCurrentness)) :
    (snapshotsOf pairs).map RouteSnapshot.position = pairs.map (·.1.id.bits.toNat) := by
  rw [snapshotsOf, List.map_map]
  rfl

theorem nodup_positions {pairs : List (RouteRecord × RouteCurrentness)}
    (distinct : (pairs.map (·.1.id)).Nodup) :
    ((snapshotsOf pairs).map RouteSnapshot.position).Nodup := by
  have positions : pairs.map (·.1.id.bits.toNat) =
      (pairs.map (·.1.id)).map fun id : RouteId => id.bits.toNat := by
    rw [List.map_map]
    rfl
  rw [positions_snapshotsOf, positions]
  exact distinct.map fun left right => FixedId.toNat_inj.mp

/-- Sorted snapshots do not depend on the order of the records. -/
theorem sortSnapshots_perm {pairs permuted : List (RouteRecord × RouteCurrentness)}
    (distinct : (pairs.map (·.1.id)).Nodup) (same : pairs.Perm permuted) :
    sortSnapshots (snapshotsOf permuted) = sortSnapshots (snapshotsOf pairs) := by
  refine (sortBy_congr (same.map _) ?_).symm
  intro left inLeft right inRight position
  exact List.inj_on_of_nodup_map (nodup_positions distinct) inLeft inRight position

/-- The whole set is determined by its sorted snapshots and the epoch. -/
theorem snapshotSetOf_congr {pairs others : List (RouteRecord × RouteCurrentness)}
    (sorted : sortSnapshots (snapshotsOf others) = sortSnapshots (snapshotsOf pairs))
    (epoch : CoordinatorEpoch) : snapshotSetOf others epoch = snapshotSetOf pairs epoch := by
  simp only [snapshotSetOf, makeSnapshotSet, zipWith_makeSnapshot, sorted]

namespace RouteSnapshotSet

/-- Looks a route up by halving the ordered snapshots. -/
def find (set : RouteSnapshotSet) (route : RouteId) : Option RouteSnapshot :=
  match set.routes[lowerBound (fun snapshot => decide (snapshot.position < route.bits.toNat)) set.routes]? with
  | none => none
  | some snapshot => if snapshot.record.id = route then some snapshot else none

/-- In a set ordered by identity the search finds what any search finds. -/
theorem find_eq {set : RouteSnapshotSet} (ordered : set.routes.Pairwise (·.position < ·.position))
    (route : RouteId) :
    set.find route = set.routes.find? fun snapshot => decide (snapshot.record.id = route) := by
  have partitioned :
      Partitioned (fun snapshot => decide (snapshot.position < route.bits.toNat)) set.routes :=
    ordered.imp fun below => by simpa using Nat.lt_trans below
  rw [find, getElem?_lowerBound partitioned]
  clear partitioned
  generalize set.routes = routes at ordered
  induction routes with
  | nil => rfl
  | cons head rest ih =>
      obtain ⟨first, others⟩ := List.pairwise_cons.mp ordered
      rcases Nat.lt_trichotomy head.position route.bits.toNat with below | here | above
      · have differs : head.record.id ≠ route := fun same =>
          Nat.lt_irrefl _ (same ▸ below : route.bits.toNat < route.bits.toNat)
        rw [List.find?_cons_of_neg (by simp [below]), List.find?_cons_of_neg (by simp [differs])]
        exact ih others
      · have same : head.record.id = route := FixedId.toNat_inj.mp here
        rw [List.find?_cons_of_pos (by simp [here]), List.find?_cons_of_pos (by simp [same])]
        simp [same]
      · -- Everything from here on lies beyond the route.
        have beyond : ∀ snapshot ∈ head :: rest, snapshot.record.id ≠ route := by
          rintro snapshot member rfl
          rcases List.mem_cons.mp member with rfl | inRest
          · exact Nat.lt_irrefl _ above
          · exact Nat.lt_irrefl _ (Nat.lt_trans above (first snapshot inRest))
        rw [List.find?_cons_of_pos (by simp [Nat.le_of_lt above])]
        simp only [beyond head List.mem_cons_self, if_false]
        symm
        rw [List.find?_eq_none]
        intro snapshot member
        simpa using beyond snapshot member

end RouteSnapshotSet

/-- The snapshot of a record in a list is found in any arrangement of the list. -/
theorem find?_sortSnapshots {pairs : List (RouteRecord × RouteCurrentness)}
    (distinct : (pairs.map (·.1.id)).Nodup) (route : RouteId) :
    (sortSnapshots (snapshotsOf pairs)).find? (fun snapshot => decide (snapshot.record.id = route)) =
      (pairs.find? fun pair => decide (pair.1.id = route)).map fun pair =>
        makeSnapshot pair.1 pair.2 := by
  have apart : ((snapshotsOf pairs).map (·.record.id)).Nodup := by
    rw [snapshotsOf, List.map_map]
    exact distinct
  calc (sortSnapshots (snapshotsOf pairs)).find? (fun snapshot => decide (snapshot.record.id = route))
      = (snapshotsOf pairs).find? fun snapshot => decide (snapshot.record.id = route) :=
        (find?_key_perm (sortBy_perm RouteSnapshot.position _).symm apart route).symm
    _ = (pairs.find? fun pair => decide (pair.1.id = route)).map fun pair =>
        makeSnapshot pair.1 pair.2 := by
        rw [snapshotsOf, List.find?_map]
        rfl

/-- A set made of records with pairwise different identities is the same for every order of
the records, strictly increasing by identity, and finds exactly the records given. -/
theorem makeSnapshotSet_canonical (pairs permuted : List (RouteRecord × RouteCurrentness))
    (epoch : CoordinatorEpoch) (distinct : (pairs.map (·.1.id)).Nodup) (same : pairs.Perm permuted) :
    snapshotSetOf permuted epoch = snapshotSetOf pairs epoch ∧
      (snapshotSetOf pairs epoch).routes.Pairwise (·.position < ·.position) ∧
      ∀ route, (snapshotSetOf pairs epoch).find route =
        (pairs.find? fun pair => decide (pair.1.id = route)).map fun pair =>
          makeSnapshot pair.1 pair.2 := by
  have ordered : (snapshotSetOf pairs epoch).routes.Pairwise (·.position < ·.position) := by
    rw [snapshotSetOf_routes]
    exact pairwise_sortBy_lt (nodup_positions distinct)
  refine ⟨snapshotSetOf_congr (sortSnapshots_perm distinct same) epoch, ordered, ?_⟩
  intro route
  rw [RouteSnapshotSet.find_eq ordered, snapshotSetOf_routes, find?_sortSnapshots distinct]

/-- Two records given in the other order. -/
theorem makeSnapshotSet_canonical_two :
    snapshotSetOf [({ id := ⟨2⟩ }, .current), ({ id := ⟨1⟩ }, .withdrawn)] .one =
      snapshotSetOf [({ id := ⟨1⟩ }, .withdrawn), ({ id := ⟨2⟩ }, .current)] .one :=
  (makeSnapshotSet_canonical [({ id := ⟨1⟩ }, .withdrawn), ({ id := ⟨2⟩ }, .current)]
    [({ id := ⟨2⟩ }, .current), ({ id := ⟨1⟩ }, .withdrawn)] .one (by decide)
    (List.Perm.swap _ _ [])).1

end RouteFabric
