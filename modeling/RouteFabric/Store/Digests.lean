import RouteFabric.Std.Sorting
import RouteFabric.Store.State

/-!
# The digest of durable state and the order of its lists

The digest sorts the records and counts the attempts, but it takes the revocations in the order
of their list. `digest_rearranged_iff` says what remains of its independence of order: two
arrangements hash the same bytes exactly when their revocations stand in the same sequence up to
identity and generation, and then the digests are the same.
-/

namespace RouteFabric

open ByteReader Sorting

namespace PersistedState

/-- The same items in other orders. -/
structure Rearranged (state other : PersistedState) : Prop where
  epoch : other.epoch = state.epoch
  policyGeneration : other.policyGeneration = state.policyGeneration
  routes : state.routes.Perm other.routes
  revocations : state.revocations.Perm other.revocations
  attempts : state.attempts.Perm other.attempts

/-- What the digest takes from one revocation. -/
def revocationImage (revocation : RevocationRecord) : Bytes :=
  revocation.route.write ++ revocation.generation.write

/-- What the digest takes from the records. -/
def routesImage (state : PersistedState) : Bytes :=
  (sortDigests (state.routes.map RouteRecord.semanticDigest)).flatMap bytes128

/-- The bytes that the digest takes in, one after the other. -/
def hashedImage (state : PersistedState) : Bytes :=
  asciiBytes "routefabric.persisted-state.v1" ++ state.routesImage ++
    state.revocations.flatMap revocationImage ++ [UInt8.ofNat (min state.attempts.length 255)]

/-- The revocations as the digest sees them. -/
def revocationPairs (state : PersistedState) : List (RouteId × RouteGeneration) :=
  state.revocations.map fun revocation => (revocation.route, revocation.generation)

/-- The digest is made of two hashes of one image. -/
theorem digest_eq (state : PersistedState) :
    state.digest =
      digestOfPair (mix64 (fnvUpdate fnvBasis state.hashedImage))
        (mix64 (fnvUpdate fnvBasisAlt state.hashedImage)) := by
  have images : state.revocations.flatMap revocationImage =
      state.revocations.flatMap fun revocation => revocation.route.write ++ revocation.generation.write := rfl
  simp only [digest, hashedImage, routesImage, images, fnvUpdate_append]

theorem digest_of_image {state other : PersistedState} (same : other.hashedImage = state.hashedImage) :
    other.digest = state.digest := by
  rw [digest_eq, digest_eq, same]

theorem image_of_digest {state other : PersistedState} (same : other.digest = state.digest) :
    fnvUpdate fnvBasis other.hashedImage = fnvUpdate fnvBasis state.hashedImage := by
  rw [digest_eq, digest_eq] at same
  exact mix64_injective (digestOfPair_injective same).1

/-! ## Rearranged state -/

theorem revocationImage_inj {revocation other : RevocationRecord} :
    revocationImage other = revocationImage revocation ↔
      other.route = revocation.route ∧ other.generation = revocation.generation := by
  constructor
  · intro same
    have lengths : other.route.write.length = revocation.route.write.length := by simp
    obtain ⟨routes, generations⟩ := List.append_inj same lengths
    refine ⟨?_, CounterId.ext ?_⟩
    · have bits := congrArg value128 routes
      simp only [FixedId.write, value128_bytes128] at bits
      cases route : other.route
      cases route' : revocation.route
      rw [route, route'] at bits
      exact congrArg FixedId.mk bits
    · have values := congrArg leValue generations
      have fits : ∀ generation : RouteGeneration, generation.value < 256 ^ 8 := by
        intro generation
        have bound := generation.inWord
        norm_num
        exact bound
      simpa only [CounterId.write, leValue_leBytes_of_lt (fits _)] using values
  · rintro ⟨route, generation⟩
    rw [revocationImage, revocationImage, route, generation]

theorem length_revocationImage (revocation : RevocationRecord) : (revocationImage revocation).length = 24 := by
  simp [revocationImage]

/-- What is hashed of a list of revocations is their sequence of identities and generations. -/
theorem flatMap_revocationImage_inj {revocations others : List RevocationRecord} :
    others.flatMap revocationImage = revocations.flatMap revocationImage ↔
      others.map (fun revocation => (revocation.route, revocation.generation)) =
        revocations.map fun revocation => (revocation.route, revocation.generation) := by
  induction revocations generalizing others with
  | nil =>
      cases others with
      | nil => simp
      | cons other rest =>
          have length := length_revocationImage other
          constructor
          · intro same
            have none := congrArg List.length same
            simp only [List.flatMap_cons, List.length_append, List.flatMap_nil, List.length_nil] at none
            omega
          · simp
  | cons revocation rest ih =>
      cases others with
      | nil =>
          have length := length_revocationImage revocation
          constructor
          · intro same
            have none := congrArg List.length same
            simp only [List.flatMap_cons, List.length_append, List.flatMap_nil, List.length_nil] at none
            omega
          · simp
      | cons other others =>
          have lengths : (revocationImage other).length = (revocationImage revocation).length := by
            rw [length_revocationImage, length_revocationImage]
          rw [List.flatMap_cons, List.flatMap_cons, List.map_cons, List.map_cons, List.cons.injEq,
            Prod.mk.injEq, ← ih, ← revocationImage_inj]
          exact ⟨fun same => List.append_inj same lengths, fun same => by rw [same.1, same.2]⟩

/-- Sorting hides the order of the records. -/
theorem Rearranged.routesImage {state other : PersistedState} (rearranged : Rearranged state other) :
    other.routesImage = state.routesImage := by
  have sorted : sortDigests (state.routes.map RouteRecord.semanticDigest) =
      sortDigests (other.routes.map RouteRecord.semanticDigest) :=
    @sortBy_congr _ BitVec.toNat _ _ (rearranged.routes.map _)
      fun _ _ _ _ same => BitVec.eq_of_toNat_eq same
  rw [PersistedState.routesImage, PersistedState.routesImage, sorted]

/-- Of rearranged state, only the sequence of the revocations tells the images apart. -/
theorem Rearranged.hashedImage_iff {state other : PersistedState} (rearranged : Rearranged state other) :
    other.hashedImage = state.hashedImage ↔ other.revocationPairs = state.revocationPairs := by
  rw [hashedImage, hashedImage, rearranged.routesImage, rearranged.attempts.length_eq,
    List.append_left_inj, List.append_right_inj]
  exact flatMap_revocationImage_inj

/-- Rearranged state whose revocations stand in the same sequence, up to identity and generation,
has the same digest; and that sequence is what decides whether the same bytes are hashed. -/
theorem digest_rearranged_iff (state other : PersistedState) (rearranged : Rearranged state other) :
    (other.revocationPairs = state.revocationPairs → other.digest = state.digest) ∧
      (other.hashedImage = state.hashedImage ↔ other.revocationPairs = state.revocationPairs) :=
  ⟨fun same => digest_of_image (rearranged.hashedImage_iff.mpr same), rearranged.hashedImage_iff⟩

/-- A state with two records and two revocations, in either order. -/
def pairedState (first second : RouteRecord) (revocation revocation' : RevocationRecord) : PersistedState where
  routes := [first, second]
  revocations := [revocation, revocation']

theorem rearranged_pairedState (first second : RouteRecord) (revocation revocation' : RevocationRecord) :
    Rearranged (pairedState first second revocation revocation')
      (pairedState second first revocation' revocation) where
  epoch := rfl
  policyGeneration := rfl
  routes := List.Perm.swap _ _ []
  revocations := List.Perm.swap _ _ []
  attempts := .refl _

/-- Two records trade places, and two revocations of one route that differ in their reason. -/
theorem digest_rearranged_paired :
    (pairedState { id := ⟨1⟩ } { id := ⟨2⟩ } ⟨⟨3⟩, {}, .one, .one, {}, []⟩ ⟨⟨3⟩, {}, .one, .one, {}, [1]⟩).digest =
      (pairedState { id := ⟨2⟩ } { id := ⟨1⟩ } ⟨⟨3⟩, {}, .one, .one, {}, [1]⟩
        ⟨⟨3⟩, {}, .one, .one, {}, []⟩).digest :=
  (digest_rearranged_iff _ _ (rearranged_pairedState { id := ⟨2⟩ } { id := ⟨1⟩ }
    ⟨⟨3⟩, {}, .one, .one, {}, [1]⟩ ⟨⟨3⟩, {}, .one, .one, {}, []⟩)).1 rfl

/-- A state with two revocations, in either order. -/
def twoRevoked (first second : RouteId) : PersistedState where
  revocations := [⟨first, {}, .one, .one, {}, []⟩, ⟨second, {}, .one, .one, {}, []⟩]

theorem rearranged_twoRevoked (first second : RouteId) :
    Rearranged (twoRevoked first second) (twoRevoked second first) where
  epoch := rfl
  policyGeneration := rfl
  routes := .refl _
  revocations := List.Perm.swap _ _ []
  attempts := .refl _

/-- The digest follows the order of two revocations. -/
theorem digest_rearranged_differs :
    ¬ ∀ state other : PersistedState, Rearranged state other → other.digest = state.digest := by
  intro independent
  have same := image_of_digest
    (independent (twoRevoked ⟨1⟩ ⟨2⟩) (twoRevoked ⟨2⟩ ⟨1⟩) (rearranged_twoRevoked ⟨1⟩ ⟨2⟩))
  revert same
  have empty : ∀ first second, routesImage (twoRevoked first second) = [] := by
    intro first second
    simp [routesImage, twoRevoked, sortDigests]
  rw [hashedImage, hashedImage, empty, empty]
  decide +kernel

end PersistedState

end RouteFabric
