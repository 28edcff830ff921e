import RouteFabric.Runtime.Calls
import RouteFabric.Safety.Storage

/-!
# Isolation and authority of mutations

A publication touches records of its own key only, and every mutation touches only
records that its publisher may touch. Two operations break this. A creation takes the
identity from the request, or from a digest of the key, without asking whether it names a
record already. A revocation does not ask whether the scope of the publisher covers the
key of the route.
-/

namespace RouteFabric

open OrderedMap Run

/-- The calls of a publisher that change routes. -/
inductive Mutation where
  | publish (request : PublishRequest)
  | withdraw (request : WithdrawRequest)
  | revalidate (request : MutationRequest)
  | retire (request : MutationRequest)
  | revoke (request : MutationRequest)

namespace Mutation

def action : Mutation → Action
  | publish request => .publish request
  | withdraw request => .withdraw request
  | revalidate request => .revalidate request
  | retire request => .retire request
  | revoke request => .revoke request

def publisher : Mutation → PublisherId
  | publish request => request.publisher
  | withdraw request => request.publisher
  | revalidate request => request.publisher
  | retire request => request.publisher
  | revoke request => request.publisher

def workerBoot : Mutation → WorkerBootId
  | publish request => request.workerBoot
  | withdraw request => request.workerBoot
  | revalidate request => request.workerBoot
  | retire request => request.workerBoot
  | revoke request => request.workerBoot

end Mutation

/-- Whether a registration lets its publisher change a record. -/
def PublisherRegistration.permits (registration : PublisherRegistration) (publisher : PublisherId)
    (record : RouteRecord) : Bool :=
  registration.scope.covers record.key &&
    (decide (record.provenance.publisher = publisher) || registration.scope.administrativeOverride)

theorem PublisherRegistration.permits_iff {registration : PublisherRegistration} {publisher : PublisherId}
    {record : RouteRecord} : registration.permits publisher record = true ↔
      registration.scope.covers record.key = true ∧
      (record.provenance.publisher = publisher ∨ registration.scope.administrativeOverride = true) := by
  simp [permits]

namespace Scenario

/-- One published route, and an operator whose scope does not cover its key. -/
def intruded : List Call := published ++ [⟨env, .register outsider ⟨2⟩ unscoped⟩]

def intrusion : MutationRequest := { mutation 1 with publisher := outsider, workerBoot := ⟨2⟩ }

end Scenario

namespace Impl

/-- The state after a whole call. -/
def mutate (config : RuntimeConfig) (env : Env) (state : Impl) : Mutation → Impl
  | .publish request => (state.publishRoute config env request).1
  | .withdraw request => (state.withdrawRoute config env request).1
  | .revalidate request => (state.revalidateRoute config env request).1
  | .retire request => (state.retireRoute config env request).1
  | .revoke request => (state.revokeRoute config env request).1

variable {config : RuntimeConfig} {env : Env} {seed : Word} {origin state after : Impl}
  {action : Action} {edit : Edit}

/-! ## Keys -/

/-- The records of a publication have its key, and so have the records they replace. -/
theorem Legal.publishes {request : PublishRequest} (indexed : Indexed origin)
    (unused : origin.createsUnused config ⟨env, .publish request⟩ = true)
    (legal : Legal config env origin (.publish request) state edit) (updated : RouteRecord)
    (member : updated ∈ edit.upserts) (record : RouteRecord)
    (found : origin.routes[updated.id]? = some record) : record.key = request.key := by
  cases legal with
  | takeover taken =>
      obtain rfl := List.mem_singleton.mp member
      obtain ⟨-, present, sameKey, -, -⟩ := indexed.lookupKey taken.found
      rw [taken.reissued.id] at found
      obtain rfl := Option.some.inj (present.symm.trans found)
      exact sameKey
  | create created =>
      obtain rfl := List.mem_singleton.mp member
      obtain ⟨-, absent⟩ := created.unused unused rfl
      rw [created.present] at absent
      exact absurd ((mem_iff_lookup _ _).mpr ⟨record, found⟩) absent
  | replace replaced =>
      obtain rfl := List.mem_singleton.mp member
      obtain ⟨-, present, sameKey, -, -⟩ := indexed.lookupKey replaced.found
      rw [replaced.reissued.id] at found
      obtain rfl := Option.some.inj (present.symm.trans found)
      exact sameKey

/-- What a publication of a key leaves alone. -/
structure Isolated (config : RuntimeConfig) (env : Env) (request : PublishRequest) (state : Impl) : Prop where
  others : ∀ (id : RouteId) record, state.routes[id]? = some record → record.key ≠ request.key →
    (state.publishRoute config env request).1.routes[id]? = some record
  fresh : ∀ result, (state.publishRoute config env request).2 = .ok result →
    result.idempotent = false → result.replaced = false → state.routes[result.route]? = none

/-- In every reachable state, a publication that creates no route under an identity in use
touches no record of another key. -/
theorem run_isolated {calls : List Call} {request : PublishRequest} (answers : env.backend.Answers)
    (unused : (run (step config) (initial seed) calls).createsUnused config ⟨env, .publish request⟩ = true) :
    Isolated config env request (run (step config) (initial seed) calls) := by
  have indexed : Indexed (run (step config) (initial seed) calls) := run_indexed calls
  generalize run (step config) (initial seed) calls = state at indexed unused
  constructor
  · intro id record found different
    refine publishRoute_untouched answers indexed (fun before edit legal updated member => ?_) found
    rintro rfl
    exact different (legal.publishes indexed unused updated member record found)
  · intro result returned fresh created
    unfold publishRoute at returned
    split at returned
    · cases returned
    · rename_i replay
      obtain ⟨-, idempotent, -⟩ := publishLocked_replays indexed replay
      rw [← Except.ok.inj returned, idempotent] at fresh
      cases fresh
    · rename_i after intent locked
      have moves : Moves config env state _ state _ := publishLocked_moves indexed request
      have after_indexed := moves.indexed indexed
      rw [locked] at after_indexed
      obtain ⟨record, found, rfl⟩ := reportDispatch_eq_ok returned
      obtain ⟨updated, intends, -, ⟨-, sameId, reaches⟩ | ⟨replaced, -⟩⟩ :=
        publishLocked_intends indexed locked
      · have own : record.id = intent.route := (after_indexed.runDispatch config env intent).routes _ _ found
        have absent : state.routes.contains (createdId request) = false := by
          simpa [createsUnused, reaches] using unused
        have missing : createdId request ∉ state.routes := by
          rw [← Std.ExtTreeMap.contains_iff_mem, absent]
          exact Bool.false_ne_true
        change state.routes[record.id]? = none
        rw [own, intends.route, sameId]
        exact not_mem_iff_lookup _ _ |>.mp missing
      · rw [replaced] at created
        cases created

theorem answering_answers : Scenario.answering.backend.Answers := by
  intro request _
  unfold dispatch
  split <;> rfl

/-- A second key is published beside the first. -/
theorem run_isolated_beside :
    Isolated Scenario.config Scenario.answering { Scenario.publication 2 with key := Scenario.otherKey }
      (run (step Scenario.config) (initial 0) Scenario.published) :=
  run_isolated answering_answers (by decide +kernel)

/-- A publication with a lineage in use overwrites the record of another key. -/
theorem publish_overwrites :
    ¬ Isolated Scenario.config Scenario.answering { Scenario.publication 1 with key := Scenario.otherKey }
      (run (step Scenario.config) (initial 0) Scenario.published) := by
  intro isolated
  have held : (run (step Scenario.config) (initial 0) Scenario.published).routes[(⟨1⟩ : RouteId)]?.map
      (·.key) = some Scenario.key := by decide +kernel
  have overwritten : ((run (step Scenario.config) (initial 0) Scenario.published).publishRoute
      Scenario.config Scenario.answering { Scenario.publication 1 with
        key := Scenario.otherKey }).1.routes[(⟨1⟩ : RouteId)]?.map (·.key) = some Scenario.otherKey := by
    decide +kernel
  obtain ⟨record, found, sameKey⟩ := Option.map_eq_some_iff.mp held
  have different : Scenario.key ≠ Scenario.otherKey := by decide
  rw [isolated.others ⟨1⟩ record found (sameKey ▸ different), Option.map_some, sameKey] at overwritten
  exact different (Option.some.inj overwritten)

/-! ## Authority -/

/-- A publisher may change a record: it is authorized, its scope covers the key, and it
owns the record or has the override. -/
def MayChange (state : Impl) (publisher : PublisherId) (workerBoot : WorkerBootId)
    (record : RouteRecord) : Prop :=
  ∃ registration, state.authorize publisher workerBoot = .ok registration ∧
    registration.permits publisher record = true

/-- Whether a creation replaces no record that its publisher may not change, and a
revocation closes no route outside the scope of its publisher. -/
def actsInScope (config : RuntimeConfig) (state : Impl) : Mutation → Bool
  | .publish request =>
      match state.publishAuthority request, state.routes[createdId request]? with
      | .ok registration, some record =>
          !state.reachesCreation config request || registration.permits request.publisher record
      | _, _ => true
  | .revoke request =>
      match state.authorize request.publisher request.workerBoot, state.routes[request.route]? with
      | .ok registration, some record => registration.scope.covers record.key
      | _, _ => true
  | _ => true

theorem Mutable.mayChange {route : RouteId} {publisher : PublisherId} {workerBoot : WorkerBootId}
    {record : RouteRecord} (mutable : state.Mutable route publisher workerBoot record) :
    state.MayChange publisher workerBoot record := by
  obtain ⟨registration, authorized, covers, owner⟩ := mutable.authorized
  exact ⟨registration, authorized, PublisherRegistration.permits_iff.mpr ⟨covers, owner⟩⟩

/-- Every record that an edit of a mutation replaces may be changed by its publisher. -/
theorem Legal.mayChange {mutation : Mutation} (indexed : Indexed origin)
    (inScope : origin.actsInScope config mutation = true)
    (legal : Legal config env origin mutation.action state edit) (updated : RouteRecord)
    (member : updated ∈ edit.upserts) (record : RouteRecord)
    (found : origin.routes[updated.id]? = some record) :
    origin.MayChange mutation.publisher mutation.workerBoot record := by
  cases mutation with
  | publish request =>
      cases legal with
      | takeover taken =>
          obtain rfl := List.mem_singleton.mp member
          obtain ⟨-, present, sameKey, -, -⟩ := indexed.lookupKey taken.found
          rw [taken.reissued.id] at found
          obtain rfl := Option.some.inj (present.symm.trans found)
          obtain ⟨registration, authority, override⟩ := taken.authority
          obtain ⟨-, -, -, -, -, -, authorized, covers⟩ := publishAuthority_eq_ok.mp authority
          exact ⟨registration, authorized,
            PublisherRegistration.permits_iff.mpr ⟨sameKey ▸ covers, .inr override⟩⟩
      | create created =>
          obtain rfl := List.mem_singleton.mp member
          obtain ⟨registration, authority⟩ := created.authority
          obtain ⟨-, -, -, -, -, -, authorized, -⟩ := publishAuthority_eq_ok.mp authority
          obtain ⟨programmingGeneration, -, made⟩ := created.made
          have own : updated.id = createdId request := by rw [made]; rfl
          rw [own] at found
          refine ⟨registration, authorized, ?_⟩
          simpa [actsInScope, authority, found, created.reaches, Mutation.publisher] using inScope
      | replace replaced =>
          obtain rfl := List.mem_singleton.mp member
          obtain ⟨-, present, sameKey, -, -⟩ := indexed.lookupKey replaced.found
          rw [replaced.reissued.id] at found
          obtain rfl := Option.some.inj (present.symm.trans found)
          obtain ⟨registration, authority, checked⟩ := replaced.authority
          obtain ⟨-, -, -, -, -, -, authorized, covers⟩ := publishAuthority_eq_ok.mp authority
          obtain ⟨owner, -⟩ := checkReplacement_eq_ok.mp checked
          exact ⟨registration, authorized,
            PublisherRegistration.permits_iff.mpr ⟨sameKey ▸ covers, owner⟩⟩
  | withdraw request =>
      cases legal with
      | withdraw withdrawn =>
          obtain rfl := List.mem_singleton.mp member
          obtain ⟨mutable, -⟩ := withdrawTarget_eq_ok withdrawn.target
          rw [withdrawn.reissued.id, indexed.routes _ _ mutable.found] at found
          obtain rfl := Option.some.inj (mutable.found.symm.trans found)
          exact mutable.mayChange
  | revalidate request =>
      cases legal with
      | revalidate revalidated =>
          obtain rfl := List.mem_singleton.mp member
          obtain ⟨mutable, -⟩ := revalidateTarget_eq_ok revalidated.target
          rw [revalidated.reissued.id, indexed.routes _ _ mutable.found] at found
          obtain rfl := Option.some.inj (mutable.found.symm.trans found)
          exact mutable.mayChange
  | retire request =>
      cases legal with
      | retire retired =>
          obtain rfl := List.mem_singleton.mp member
          obtain ⟨-, mutable⟩ := retireTarget_eq_ok retired.target
          rw [retired.closing.reissued.id, indexed.routes _ _ mutable.found] at found
          obtain rfl := Option.some.inj (mutable.found.symm.trans found)
          exact mutable.mayChange
  | revoke request =>
      cases legal with
      | revoke revoked =>
          obtain rfl := List.mem_singleton.mp member
          obtain ⟨held, registration, authorized, override⟩ := revokeTarget_eq_ok revoked.target
          rw [revoked.closing.reissued.id, indexed.routes _ _ held] at found
          have covers : registration.scope.covers record.key = true := by
            simpa [actsInScope, authorized, found] using inScope
          exact ⟨registration, authorized, PublisherRegistration.permits_iff.mpr ⟨covers, .inr override⟩⟩

/-- In every reachable state, a record that a call changes is one that its publisher may
change, when the call acts within its scope. -/
theorem run_mayChange {calls : List Call} (mutation : Mutation) (answers : env.backend.Answers)
    (inScope : (run (step config) (initial seed) calls).actsInScope config mutation = true)
    (id : RouteId) (record : RouteRecord)
    (found : (run (step config) (initial seed) calls).routes[id]? = some record)
    (changed : ((run (step config) (initial seed) calls).mutate config env mutation).routes[id]? ≠
      some record) :
    (run (step config) (initial seed) calls).MayChange mutation.publisher mutation.workerBoot record := by
  have indexed : Indexed (run (step config) (initial seed) calls) := run_indexed calls
  generalize run (step config) (initial seed) calls = state at indexed inScope found changed ⊢
  by_contra forbidden
  have spares : Spares config env state mutation.action id := by
    rintro before edit legal updated member rfl
    exact forbidden (legal.mayChange indexed inScope updated member record found)
  apply changed
  cases mutation with
  | publish request => exact publishRoute_untouched answers indexed spares found
  | withdraw request => exact withdrawRoute_untouched answers indexed spares found
  | revalidate request => exact revalidateRoute_untouched answers indexed spares found
  | retire request => exact (retireRoute_moves request).untouched spares found
  | revoke request => exact (revokeRoute_moves request).untouched spares found

/-- The operator retires its own route. -/
theorem run_mayChange_retire :
    MayChange (run (step Scenario.config) (initial 0) Scenario.published) Scenario.operator Scenario.boot
      ((run (step Scenario.config) (initial 0) Scenario.published).routes[(⟨1⟩ : RouteId)]?.getD {}) :=
  run_mayChange (.retire (Scenario.mutation 1)) answering_answers (by decide +kernel) ⟨1⟩ _
    (by decide +kernel) (by decide +kernel)

/-- A revocation by an operator whose scope covers no key closes a route all the same. -/
theorem revoke_outOfScope : ∃ record,
    (run (step Scenario.config) (initial 0) Scenario.intruded).routes[(⟨1⟩ : RouteId)]? = some record ∧
    ((run (step Scenario.config) (initial 0) Scenario.intruded).mutate Scenario.config Scenario.answering
      (.revoke Scenario.intrusion)).routes[(⟨1⟩ : RouteId)]? ≠ some record ∧
    ¬ MayChange (run (step Scenario.config) (initial 0) Scenario.intruded) Scenario.intrusion.publisher
      Scenario.intrusion.workerBoot record := by
  refine ⟨(run (step Scenario.config) (initial 0) Scenario.intruded).routes[(⟨1⟩ : RouteId)]?.getD {},
    by decide +kernel, by decide +kernel, ?_⟩
  rintro ⟨registration, authorized, permits⟩
  obtain ⟨-, registered, -⟩ := authorize_eq_ok.mp authorized
  have known : (run (step Scenario.config) (initial 0) Scenario.intruded).registrations[Scenario.outsider]? =
      some ⟨Scenario.outsider, ⟨2⟩, .one, Scenario.unscoped⟩ := by decide +kernel
  obtain rfl := Option.some.inj (known.symm.trans registered)
  revert permits
  decide +kernel

end Impl

end RouteFabric
