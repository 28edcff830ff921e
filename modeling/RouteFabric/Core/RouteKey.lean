import RouteFabric.Core.Ids

/-!
# Destinations and the semantic route key

A destination is a canonical address prefix or an endpoint token. The class of the
source keeps its fields private, so a destination is either the default value or one
that passed the checks of a parser or of the decoder; the `wellFormed` and `unset` fields
say so.
The route key names the authoritative slot of a route, and the default identity of a
route is a digest of its key.
-/

namespace RouteFabric

open ByteReader OrderedMap

/-! ## Destinations -/

inductive DestinationKind where
  | ipv4Prefix
  | ipv6Prefix
  | fabricEndpoint
  | serviceEndpoint
  | overlayEndpoint
  | logicalDestination
deriving DecidableEq

namespace DestinationKind

instance : Enumerated DestinationKind where
  values := [ipv4Prefix, ipv6Prefix, fabricEndpoint, serviceEndpoint, overlayEndpoint,
    logicalDestination]
  code
    | ipv4Prefix => 1
    | ipv6Prefix => 2
    | fabricEndpoint => 3
    | serviceEndpoint => 4
    | overlayEndpoint => 5
    | logicalDestination => 6
  decodes value := by cases value <;> decide

def text : DestinationKind → String
  | ipv4Prefix => "ipv4-prefix"
  | ipv6Prefix => "ipv6-prefix"
  | fabricEndpoint => "fabric-endpoint"
  | serviceEndpoint => "service-endpoint"
  | overlayEndpoint => "overlay-endpoint"
  | logicalDestination => "logical-destination"

def isPrefixKind (kind : DestinationKind) : Bool := kind = ipv4Prefix ∨ kind = ipv6Prefix

/-- Significant address bytes. -/
def addressSize : DestinationKind → Nat
  | ipv4Prefix => 4
  | ipv6Prefix => 16
  | _ => 0

def maxPrefix (kind : DestinationKind) : Nat := if kind = ipv4Prefix then 32 else 128

end DestinationKind

/-- Clears the bits from `prefixLength` on, counted from the most significant bit. -/
def maskHostBits (address : BitVec 128) (prefixLength : Nat) : BitVec 128 :=
  (List.range' prefixLength (128 - prefixLength)).foldl
    (fun masked bit => masked &&& ~~~(1#128 <<< (127 - bit))) address

/-- The checks of the destination decoder on the fields it has read. -/
def DestinationFields (kind : DestinationKind) (address : BitVec 128) (prefixLength : UInt8)
    (token : Bytes) (maxTokenLength : Nat) : Prop :=
  if kind.isPrefixKind then
    prefixLength.toNat ≤ kind.maxPrefix ∧ token = [] ∧
      (kind = .ipv4Prefix → (bytes128 address).drop 4 = List.replicate 12 0) ∧
      maskHostBits address prefixLength.toNat = address
  else
    prefixLength = 0 ∧ isValidTokenText token maxTokenLength = true ∧ address = 0#128

instance (kind : DestinationKind) (address : BitVec 128) (prefixLength : UInt8) (token : Bytes)
    (maxTokenLength : Nat) :
    Decidable (DestinationFields kind address prefixLength token maxTokenLength) := by
  unfold DestinationFields
  infer_instance

theorem isValidTokenText_iff (token : Bytes) (bound : Nat) :
    isValidTokenText token bound = true ↔
      token.length ≤ bound ∧ isValidTokenText token token.length = true := by
  cases token with
  | nil => simp [isValidTokenText]
  | cons head rest => simp [isValidTokenText, and_assoc]

/-- A destination: the default, invalid value or a canonical one. -/
structure Destination where
  kind : DestinationKind := .logicalDestination
  valid : Bool := false
  address : BitVec 128 := 0#128
  prefixLength : UInt8 := 0
  token : Bytes := []
  wellFormed : valid = true → DestinationFields kind address prefixLength token token.length := by
    intro given; cases given
  unset : valid = false →
      kind = .logicalDestination ∧ address = 0#128 ∧ prefixLength = 0 ∧ token = [] := by
    intro missing; first | exact ⟨rfl, rfl, rfl, rfl⟩ | cases missing
deriving DecidableEq

namespace Destination

/-- The default value, which is no destination. -/
def unspecified : Destination := {}

def isPrefix (destination : Destination) : Bool := destination.valid && destination.kind.isPrefixKind

def addressBytes (destination : Destination) : Bytes :=
  (bytes128 destination.address).take destination.kind.addressSize

/-- The longest run of zero groups, leftmost on a tie: its start and its length. -/
def longestZeroRun (groups : List Nat) : Nat × Nat :=
  let scan := groups.zipIdx.foldl (fun (best, current) (group, index) =>
    if group = 0 then
      let run : Nat × Nat := if current.2 = 0 then (index, 1) else (current.1, current.2 + 1)
      (if best.2 < run.2 then run else best, run)
    else (best, (current.1, 0))) (((8, 0), (0, 0)) : (Nat × Nat) × (Nat × Nat))
  if scan.1.2 < 2 then (8, 0) else scan.1

/-- The address groups of an IPv6 destination with the zero run `best` compressed. -/
def renderGroups (best : Nat × Nat) (groups : List Nat) : List Char :=
  groups.zipIdx.foldl (fun out (group, index) =>
    if best.2 ≠ 0 ∧ best.1 ≤ index ∧ index < best.1 + best.2 then
      if index = best.1 then out ++ [':', ':'] else out
    else
      (if out ≠ [] ∧ out.getLast? ≠ some ':' then out ++ [':'] else out) ++ Nat.toDigits 16 group) []

def render (destination : Destination) : String :=
  if destination.valid = false then "<invalid-destination>"
  else match destination.kind with
    | .ipv4Prefix =>
        ".".intercalate (destination.addressBytes.map fun byte => toString byte.toNat) ++ "/" ++
          toString destination.prefixLength.toNat
    | .ipv6Prefix =>
        let groups := (List.range 8).map fun index =>
          (destination.address >>> (112 - 16 * index)).toNat % 65536
        String.ofList (renderGroups (longestZeroRun groups) groups) ++ "/" ++
          toString destination.prefixLength.toNat
    | kind => kind.text ++ ":" ++ textOf destination.token

/-- Whether the leading bits of a scope's address match those of a candidate. -/
def sameNetwork (scope candidate : Destination) : Bool :=
  let bits := scope.prefixLength.toNat
  let wholeBytes := bits / 8
  let mask : UInt8 := 0xFF <<< UInt8.ofNat (8 - bits % 8)
  scope.kind = candidate.kind ∧ scope.prefixLength ≤ candidate.prefixLength ∧
    scope.addressBytes.length = candidate.addressBytes.length ∧
    scope.addressBytes.take wholeBytes = candidate.addressBytes.take wholeBytes ∧
    (bits % 8 ≠ 0 → (scope.addressBytes.getD wholeBytes 0 &&& mask) =
      (candidate.addressBytes.getD wholeBytes 0 &&& mask))

/-- Whether a publisher scoped to this destination may govern the candidate. -/
def scopeCovers (scope candidate : Destination) : Bool :=
  scope.valid && candidate.valid && scope.kind = candidate.kind &&
    if scope.kind.isPrefixKind then scope.sameNetwork candidate
    else scope.token = candidate.token

def write (destination : Destination) : Bytes :=
  [[Enumerated.code destination.kind], [destination.prefixLength], bytes128 destination.address,
    writeString destination.token].flatten

def read (maxTokenLength : Nat) : Reader Destination := do
  let kind ← enumerated
  let prefixLength ← byte
  let bytes ← raw 16
  let token ← string maxTokenLength
  if fields : DestinationFields kind (value128 bytes) prefixLength token maxTokenLength then
    pure
      { kind := kind, valid := true, address := value128 bytes, prefixLength := prefixLength,
        token := token,
        wellFormed := fun _ => by
          unfold DestinationFields at fields ⊢
          split at fields
          · simpa [*] using fields
          · rename_i endpoint
            simp only [endpoint]
            exact ⟨fields.1, ((isValidTokenText_iff _ _).mp fields.2.1).2, fields.2.2⟩ }
  else fail

/-- The checks of the decoder pass on the fields of a valid destination, up to the bound on
the token, and fail on those of the default value. -/
theorem fields_iff (destination : Destination) {maxTokenLength : Nat}
    (short : destination.token.length ≤ maxTokenLength) :
    DestinationFields destination.kind destination.address destination.prefixLength
      destination.token maxTokenLength ↔ destination.valid = true := by
  constructor
  · intro fields
    by_contra invalid
    obtain ⟨kind, -, -, token⟩ := destination.unset (Bool.not_eq_true _ ▸ invalid)
    simp [DestinationFields, kind, token, DestinationKind.isPrefixKind, isValidTokenText] at fields
  · intro valid
    have own := destination.wellFormed valid
    unfold DestinationFields at own ⊢
    split
    · simpa [*] using own
    · rename_i endpoint
      simp only [endpoint] at own
      exact ⟨own.1, (isValidTokenText_iff _ _).mpr ⟨short, own.2.1⟩, own.2.2⟩

/-- A destination is read back when it is valid and its token fits the bound of the reader. -/
theorem reads {destination : Destination} (fits : destination.token.length < 2 ^ 32)
    (maxTokenLength : Nat) :
    Reads (read maxTokenLength) destination.write
      (destination.token.length ≤ maxTokenLength ∧ destination.valid = true) destination := by
  have address16 : Reads (raw 16) (bytes128 destination.address) True (bytes128 destination.address) := by
    simpa only [length_bytes128] using Reads.raw (bytes128 destination.address)
  have parts : (True ∧ True ∧ True ∧ destination.token.length ≤ maxTokenLength ∧
      destination.valid = true) ↔
      destination.token.length ≤ maxTokenLength ∧ destination.valid = true := by
    simp only [true_and]
  refine Reads.restate parts
    (Reads.field (Reads.enumerated destination.kind) fun _ =>
      Reads.field (Reads.byte destination.prefixLength) fun _ =>
        Reads.field address16 fun _ =>
          Reads.field (Reads.string fits maxTokenLength) fun short => ?_)
  by_cases valid : destination.valid = true
  · have fields := (fields_iff destination short).mpr valid
    rw [← value128_bytes128 destination.address] at fields
    rw [dif_pos fields]
    simp only [value128_bytes128]
    obtain ⟨kind, valid', address, prefixLength, token, wellFormed, unset⟩ := destination
    obtain rfl : valid' = true := valid
    exact Reads.restate (by simp) (Reads.pure _)
  · have fields := mt (fields_iff destination short).mp valid
    rw [← value128_bytes128 destination.address] at fields
    rw [dif_neg fields]
    exact ⟨fun holds => absurd holds valid, fun _ rest => ⟨_, rfl⟩⟩

theorem canonical (maxTokenLength : Nat) : Canonical (read maxTokenLength) write fun destination =>
    destination.valid = true ∧ destination.token.length ≤ maxTokenLength ∧
      destination.token.length < 2 ^ 32 := by
  refine Consumes.field Canonical.enumerated fun kind _ => Consumes.field Canonical.byte fun prefixLength _ =>
    Consumes.field (Canonical.raw 16) fun bytes length =>
      Consumes.field (Canonical.string maxTokenLength) fun token short => ?_
  by_cases fields : DestinationFields kind (value128 bytes) prefixLength token maxTokenLength
  · rw [dif_pos fields]
    refine Consumes.pure ⟨?_, rfl, short⟩
    simp [write, bytes128_value128 length]
  · rw [dif_neg fields]
    exact fun _ _ _ returned => nomatch returned

end Destination

/-! ## Route keys -/

inductive RouteClass where
  | unicast
  | host
  | service
  | overlay
  | logical
deriving DecidableEq

namespace RouteClass

instance : Enumerated RouteClass where
  values := [unicast, host, service, overlay, logical]
  code
    | unicast => 1
    | host => 2
    | service => 3
    | overlay => 4
    | logical => 5
  decodes value := by cases value <;> decide

def text : RouteClass → String
  | unicast => "unicast"
  | host => "host"
  | service => "service"
  | overlay => "overlay"
  | logical => "logical"

end RouteClass

/-- The identity of the authoritative route slot. -/
structure RouteKey where
  fabric : FabricId := {}
  routingNamespace : RoutingNamespace := {}
  destination : Destination := .unspecified
  routeClass : RouteClass := .unicast
deriving DecidableEq

namespace RouteKey

/-- A host route binds one address. -/
def isValid (key : RouteKey) : Bool :=
  key.fabric.isValid && key.routingNamespace.isValid && key.destination.valid &&
    match key.routeClass with
    | .host =>
        key.destination.isPrefix &&
          key.destination.prefixLength.toNat = key.destination.kind.addressSize * 8
    | _ => true

def render (key : RouteKey) : String :=
  key.fabric.render ++ "/" ++ key.routingNamespace.render ++ "/" ++ key.routeClass.text ++ "/" ++
    key.destination.render

/-- The fields of a key in the order they are compared. -/
def sortKey (key : RouteKey) : List (List Nat) :=
  [key.fabric.value.map UInt8.toNat, key.routingNamespace.value.map UInt8.toNat,
    [(Enumerated.code key.destination.kind).toNat], [key.destination.valid.toNat],
    [key.destination.address.toNat], [key.destination.prefixLength.toNat],
    key.destination.token.map UInt8.toNat, [(Enumerated.code key.routeClass).toNat]]

theorem toNat_map_injective {left right : Bytes}
    (same : left.map UInt8.toNat = right.map UInt8.toNat) : left = right :=
  List.map_injective_iff.mpr (fun _ _ => UInt8.toNat_inj.mp) same

theorem sortKey_injective (left right : RouteKey) (same : left.sortKey = right.sortKey) :
    left = right := by
  obtain ⟨⟨_⟩, ⟨_⟩, ⟨kind, valid, address, prefixLength, token, _, _⟩, routeClass⟩ := left
  obtain ⟨⟨_⟩, ⟨_⟩, ⟨kind', valid', address', prefixLength', token', _, _⟩, routeClass'⟩ := right
  simp only [sortKey, List.cons.injEq, and_true, UInt8.toNat_inj] at same
  obtain ⟨fabrics, namespaces, kinds, valids, addresses, prefixes, tokens, classes⟩ := same
  have sameKind : kind = kind' := Enumerated.code_injective kinds
  have sameValid : valid = valid' := by
    clear * - valids
    cases valid <;> cases valid' <;> simp_all
  have sameClass : routeClass = routeClass' := Enumerated.code_injective classes
  obtain rfl := toNat_map_injective fabrics
  obtain rfl := toNat_map_injective namespaces
  obtain rfl := toNat_map_injective tokens
  obtain rfl := BitVec.eq_of_toNat_eq addresses
  subst sameKind sameValid prefixes sameClass
  rfl

instance : Ord RouteKey := ⟨fun left right => compare left.sortKey right.sortKey⟩

instance : Std.TransOrd RouteKey := transOrd_of_key sortKey fun _ _ => rfl

instance : Std.LawfulEqOrd RouteKey := lawfulEqOrd_of_key sortKey (fun _ _ => rfl) sortKey_injective

def write (key : RouteKey) : Bytes :=
  [key.fabric.write, key.routingNamespace.write, [Enumerated.code key.routeClass], key.destination.write].flatten

def read (maxDestinationToken : Nat) : Reader RouteKey := do
  let fabric ← TokenId.read
  let routingNamespace ← TokenId.read
  let routeClass ← enumerated
  let destination ← Destination.read maxDestinationToken
  let key : RouteKey := { fabric, routingNamespace, destination, routeClass }
  require (key.isValid = true)
  pure key

/-- The keys that the reader accepts. -/
def Storable (key : RouteKey) (maxDestinationToken : Nat) : Prop :=
  key.isValid = true ∧ key.destination.token.length ≤ maxDestinationToken

instance (key : RouteKey) (maxDestinationToken : Nat) : Decidable (key.Storable maxDestinationToken) := by
  unfold Storable
  infer_instance

/-- The parts of a key whose length prefixes hold their lengths. -/
structure Measured (key : RouteKey) : Prop where
  fabric : key.fabric.value.length < 2 ^ 32
  routingNamespace : key.routingNamespace.value.length < 2 ^ 32
  destination : key.destination.token.length < 2 ^ 32

theorem measured_of_length {key : RouteKey} (fits : key.write.length < 2 ^ 32) : key.Measured := by
  simp [write, TokenId.write, Destination.write] at fits
  constructor <;> omega

/-- Of a valid key, only the destination can be too long. -/
theorem measured_of_isValid {key : RouteKey} (valid : key.isValid = true)
    (short : key.destination.token.length < 2 ^ 32) : key.Measured := by
  simp only [isValid, Bool.and_eq_true] at valid
  exact ⟨TokenId.length_lt_of_isValid valid.1.1.1, TokenId.length_lt_of_isValid valid.1.1.2, short⟩

/-- A key in memory is read back exactly when the reader accepts it. -/
theorem reads {key : RouteKey} (measured : key.Measured) (maxDestinationToken : Nat) :
    Reads (read maxDestinationToken) key.write (key.Storable maxDestinationToken) key := by
  have parts : (key.fabric.isValid = true ∧ key.routingNamespace.isValid = true ∧ True ∧
      (key.destination.token.length ≤ maxDestinationToken ∧ key.destination.valid = true) ∧
      key.isValid = true ∧ True) ↔ key.Storable maxDestinationToken := by
    simp only [Storable, isValid, Bool.and_eq_true]
    tauto
  exact Reads.restate parts
    (Reads.field (TokenId.reads measured.fabric) fun _ =>
      Reads.field (TokenId.reads measured.routingNamespace) fun _ =>
        Reads.field (Reads.enumerated key.routeClass) fun _ =>
          Reads.field (Destination.reads measured.destination maxDestinationToken) fun _ =>
            Reads.guard fun _ => Reads.pure key)

theorem canonical (maxDestinationToken : Nat) : Canonical (read maxDestinationToken) write fun key =>
    key.Storable maxDestinationToken ∧ key.destination.token.length < 2 ^ 32 :=
  Consumes.field TokenId.canonical fun _ _ => Consumes.field TokenId.canonical fun _ _ =>
    Consumes.field Canonical.enumerated fun _ _ =>
      Consumes.field (Destination.canonical maxDestinationToken) fun _ short =>
        Consumes.guard fun valid => Consumes.pure ⟨rfl, ⟨valid, short.2.1⟩, short.2.2⟩

end RouteKey

/-- Route identity is a digest of the route key. -/
def deriveRouteId (key : RouteKey) : RouteId :=
  .fromDigest (digest128 "routefabric.route-id" (asciiBytes "routefabric.route-id.v1" ++ key.write))

end RouteFabric
