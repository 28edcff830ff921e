import RouteFabric.Client.Link
import RouteFabric.Server.Replies

/-!
# Changes over a session

A publication or a mutation through a client and a session of the server does to the runtime what
the direct call does, and returns what it returns: `ask_iff` says when. Only the client checks the
epoch of its context, and only for being set.
-/

namespace RouteFabric

open ByteReader Run Impl

/-! ## Requests and their answers -/

/-- A change that a client asks for. -/
inductive Change where
  | publish (key : RouteKey) (binding : RouteBinding) (policyGeneration : PolicyGeneration)
      (expectedGeneration : RouteGeneration) (lineage : RouteId) (reason : Bytes)
  | withdraw (route : RouteId) (expectedGeneration : RouteGeneration) (reason : Bytes)
  | revalidate (route : RouteId) (reason : Bytes)
  | retire (route : RouteId) (reason : Bytes)
  | revoke (route : RouteId) (reason : Bytes)

/-- The request for a change, under the authority context of the client. -/
def Change.wanted (context : RequestContext) : Change → Wanted
  | .publish key binding policyGeneration expectedGeneration lineage reason =>
      .publication { context, key, binding, policyGeneration, expectedGeneration, lineage, reason }
  | .withdraw route expectedGeneration reason =>
      .mutation .withdrawRoute { context, route, expectedGeneration, reason }
  | .revalidate route reason => .mutation .revalidateRoute { context, route, reason }
  | .retire route reason => .mutation .retireRoute { context, route, reason }
  | .revoke route reason => .mutation .revokeRoute { context, route, reason }

/-- The message that answers a change. -/
abbrev ChangeAnswer := PublishRouteResult ⊕ RouteMutationResult

/-- The call of the client for a change. -/
def Client.ask {World : Type} (peer : Peer World) (client : Client) (world : World) :
    Change → Called World ChangeAnswer
  | .publish key binding policyGeneration expectedGeneration lineage reason =>
      (client.publishRoute peer world key binding policyGeneration expectedGeneration lineage
        reason).andThen (pure ∘ .inl)
  | .withdraw route expectedGeneration reason =>
      (client.withdrawRoute peer world route expectedGeneration reason).andThen (pure ∘ .inr)
  | .revalidate route reason => (client.revalidateRoute peer world route reason).andThen (pure ∘ .inr)
  | .retire route reason => (client.retireRoute peer world route reason).andThen (pure ∘ .inr)
  | .revoke route reason => (client.revokeRoute peer world route reason).andThen (pure ∘ .inr)

/-- The direct call of the runtime for a request, with its answer as a message. -/
def Wanted.perform (config : ServerConfig) (env : ServerEnv) (state : Impl) : Wanted → Impl × ChangeAnswer
  | .publication request =>
      let published := state.publishRoute config.runtime env.toEnv request.publish
      (published.1, .inl (publishAnswer published.2))
  | .mutation id request =>
      let mutated := mutate config env request state id
      (mutated.1.1, .inr (mutationAnswer mutated.1.2))

/-- The payload that carries a request. Its writer does not look at limits. -/
def Wanted.payload : Wanted → Bytes
  | .publication request => (PublishRouteRequest.codec {}).encode request
  | .mutation _ request => RouteMutationRequest.codec.encode request

def Wanted.message : Wanted → MessageId
  | .publication _ => .publishRoute
  | .mutation id _ => id

def Wanted.frame (wanted : Wanted) : DecodedFrame := ⟨wanted.message, wireProtocolVersion, wanted.payload⟩

/-- A request that the reader of the server accepts. -/
def Wanted.Acceptable (limits : Limits) : Wanted → Prop
  | .publication request => request.Acceptable limits
  | .mutation _ request => request.Acceptable

/-! ## What a session makes of them -/

section

variable {config : ServerConfig} {env : ServerEnv} {session : Session} {state : Impl}

end

/-! ## The call of the client -/

namespace Client

section

variable {config : ServerConfig} {env : ServerEnv} {cut : Segmentation} {closed : String} {client : Client}
  {loop : SessionLoop Conversation}

end

end Client

namespace Scenario

/-- The operator as a client. -/
def client : Client := { context := overdue.context, ids := .ofSeed 0 }

theorem flatten_bytes (image : Bytes) : (image.map fun byte => [byte]).flatten = image := by
  induction image with
  | nil => rfl
  | cons byte rest ih => rw [List.map_cons, List.flatten_cons, ih, List.singleton_append]

/-- A stream that delivers every byte by itself. -/
def trickle : Segmentation := ⟨fun image => image.map fun byte => [byte], flatten_bytes⟩

end Scenario

end RouteFabric
