import RouteFabric.Core.Hash

/-!
# Identities and checked counters

Three families of strongly typed identities: 128-bit identities, bounded ASCII tokens,
and checked 64-bit counters. The tag of a family member keeps the members apart. A
counter is in the range of its machine word by construction, so counter arithmetic
below is arithmetic of natural numbers.
-/

namespace RouteFabric

open ByteReader OrderedMap

/-! ## 128-bit identities -/

inductive FixedTag where
  | route
  | snapshot
  | mutationAttempt
  | programmingAttempt
  | workerBoot
  | path
  | nextHop
  | nextHopGroup
  | destination

/-- A 128-bit identity; zero stands for its absence. -/
structure FixedId (tag : FixedTag) where
  bits : BitVec 128 := 0#128
deriving DecidableEq

abbrev RouteId := FixedId .route
abbrev MutationAttemptId := FixedId .mutationAttempt
abbrev ProgrammingAttemptId := FixedId .programmingAttempt
abbrev WorkerBootId := FixedId .workerBoot
abbrev PathId := FixedId .path
abbrev NextHopId := FixedId .nextHop
abbrev NextHopGroupId := FixedId .nextHopGroup

namespace FixedId

variable {tag : FixedTag}

/-- A zero identifier is never a valid identity. -/
def isValid (id : FixedId tag) : Bool := id.bits ≠ 0#128

def fromDigest (digest : Digest128) : FixedId tag := ⟨digest⟩

/-- Identities are ordered as their byte arrays. -/
instance : Ord (FixedId tag) := ⟨fun left right => compare left.bits.toNat right.bits.toNat⟩

instance : Std.TransOrd (FixedId tag) :=
  transOrd_of_key (fun id => id.bits.toNat) fun _ _ => rfl

instance : Std.LawfulEqOrd (FixedId tag) :=
  lawfulEqOrd_of_key (fun id => id.bits.toNat) (fun _ _ => rfl) fun left right same => by
    cases left
    cases right
    congr
    exact BitVec.eq_of_toNat_eq same

def write (id : FixedId tag) : Bytes := bytes128 id.bits

@[simp] theorem length_write (id : FixedId tag) : id.write.length = 16 := length_bytes128 id.bits

/-- An optional identity: the zero value is accepted as absent. -/
def readOptional : Reader (FixedId tag) := do
  let bytes ← raw 16
  pure ⟨value128 bytes⟩

/-- A required identity. -/
def read : Reader (FixedId tag) := do
  let id ← readOptional
  require (id.isValid = true)
  pure id

theorem reads_optional (id : FixedId tag) : Reads readOptional id.write True id := by
  have bytes : Reads (raw 16) id.write True id.write := by
    simpa only [length_write] using Reads.raw id.write
  have recovered : Reads (pure ⟨value128 id.write⟩) [] True id := by
    rw [write, value128_bytes128]
    exact Reads.pure id
  rw [← List.append_nil id.write]
  exact Reads.restate (by simp) (bytes.bind fun _ => recovered)

theorem reads (id : FixedId tag) : Reads read id.write (id.isValid = true) id := by
  rw [← List.append_nil id.write]
  exact Reads.restate (by simp)
    ((reads_optional id).bind fun _ => Reads.guard fun _ => Reads.pure id)

theorem canonical_optional : Canonical (readOptional : Reader (FixedId tag)) write fun _ => True := by
  refine Consumes.field (Canonical.raw 16) fun bytes length => Consumes.pure ⟨?_, trivial⟩
  rw [write, bytes128_value128 length, List.append_nil]
  rfl

theorem canonical : Canonical (read : Reader (FixedId tag)) write (·.isValid = true) :=
  Consumes.field canonical_optional fun _ _ => Consumes.guard fun valid =>
    Consumes.pure ⟨List.append_nil _, valid⟩

end FixedId

/-- The retry loop of the generator: a fresh draw until the identity is valid. Two draws
are always enough, so the loop needs no more. -/
def generateId {tag : FixedTag} (source : SeededIdSource) : FixedId tag × SeededIdSource :=
  match SeededIdSource.drawValid 2 source with
  | some (digest, next) => (.fromDigest digest, next)
  | none => (⟨0#128⟩, source)

/-- Generated identities are never zero. -/
theorem generateId_isValid {tag : FixedTag} (source : SeededIdSource) :
    (generateId source : FixedId tag × SeededIdSource).1.isValid = true := by
  unfold generateId
  split
  · rename_i digest next drawn
    have nonzero := SeededIdSource.drawValid_ne_zero drawn
    simp [FixedId.isValid, FixedId.fromDigest, nonzero]
  · rename_i missing
    have drawn := SeededIdSource.drawValid_isSome source
    rw [missing] at drawn
    simp at drawn

/-- The retry loop finds the same identity whatever number of draws from two on it is allowed. -/
theorem drawValid_two_le {source : SeededIdSource} {draws : Nat} (enough : 2 ≤ draws) :
    SeededIdSource.drawValid draws source = SeededIdSource.drawValid 2 source := by
  obtain ⟨more, rfl⟩ := Nat.exists_eq_add_of_le' enough
  by_cases zero : source.nextDigest.1 ≠ 0#128
  · simp only [SeededIdSource.drawValid, if_pos zero]
  · have second := SeededIdSource.nextDigest_zero (not_not.mp zero)
    simp only [SeededIdSource.drawValid, if_neg zero, if_pos second]

/-- From any seed and after any number of steps the state is not zero, and the retry loop of the
generator ends within two draws with a valid identity. -/
theorem generateId_terminates {tag : FixedTag} (seed : Word) (steps : Nat) :
    let source := SeededIdSource.advance^[steps] (.ofSeed seed)
    ¬ (source.s0 = 0#64 ∧ source.s1 = 0#64 ∧ source.s2 = 0#64 ∧ source.s3 = 0#64) ∧
      ∃ digest next, digest ≠ 0#128 ∧
        (∀ draws, 2 ≤ draws → SeededIdSource.drawValid draws source = some (digest, next)) ∧
        (generateId source : FixedId tag × SeededIdSource) = (.fromDigest digest, next) ∧
        (FixedId.fromDigest digest : FixedId tag).isValid = true := by
  intro source
  refine ⟨source.nonzero, ?_⟩
  obtain ⟨⟨digest, next⟩, drawn⟩ :=
    Option.isSome_iff_exists.mp (SeededIdSource.drawValid_isSome source)
  have nonzero := SeededIdSource.drawValid_ne_zero drawn
  refine ⟨digest, next, nonzero, ?_, ?_, ?_⟩
  · intro draws enough
    rw [drawValid_two_le enough, drawn]
  · rw [generateId, drawn]
  · simp [FixedId.isValid, FixedId.fromDigest, nonzero]

/-! ## Tokens -/

inductive TokenTag where
  | publisher
  | backend
  | fabric
  | routingNamespace

def isAlphanumeric (char : UInt8) : Bool :=
  (48 ≤ char && char ≤ 57) || (97 ≤ char && char ≤ 122) || (65 ≤ char && char ≤ 90)

def isTokenChar (char : UInt8) : Bool :=
  isAlphanumeric char || char == 46 || char == 95 || char == 45

/-- A token is a non-empty text from `[A-Za-z0-9._-]` that starts with an alphanumeric. -/
def isValidTokenText (text : Bytes) (maxLength : Nat) : Bool :=
  match text with
  | [] => false
  | head :: _ =>
      decide (text.length ≤ maxLength) && isAlphanumeric head && text.all isTokenChar

/-- An identity token. The constructor of the source takes any text; `isValid` says
whether the text is a token of at most 64 characters. -/
structure TokenId (tag : TokenTag) where
  value : Bytes := []
deriving DecidableEq

abbrev PublisherId := TokenId .publisher
abbrev BackendId := TokenId .backend
abbrev FabricId := TokenId .fabric
abbrev RoutingNamespace := TokenId .routingNamespace

/-- The text of a byte string, for diagnostics. -/
def textOf (bytes : Bytes) : String := String.ofList (bytes.map fun byte => Char.ofNat byte.toNat)

namespace TokenId

variable {tag : TokenTag}

/-- The longest identity token. -/
def maxLength : Nat := 64

def isValid (token : TokenId tag) : Bool := isValidTokenText token.value maxLength

def render (token : TokenId tag) : String := textOf token.value

instance : Ord (TokenId tag) := ⟨fun left right => compare left.value right.value⟩

instance : Std.TransOrd (TokenId tag) := transOrd_of_key (fun token => token.value) fun _ _ => rfl

instance : Std.LawfulEqOrd (TokenId tag) :=
  lawfulEqOrd_of_key (fun token => token.value) (fun _ _ => rfl) fun left right same => by
    cases left
    cases right
    simpa using same

def write (token : TokenId tag) : Bytes := writeString token.value

def read : Reader (TokenId tag) := do
  let text ← string maxLength
  require (isValidTokenText text maxLength = true)
  pure ⟨text⟩

/-- A valid token is no longer than the bound. -/
theorem length_le_of_isValid {text : Bytes} {bound : Nat} (valid : isValidTokenText text bound = true) :
    text.length ≤ bound := by
  cases text with
  | nil => simp
  | cons head rest =>
      simp only [isValidTokenText, Bool.and_eq_true, decide_eq_true_eq] at valid
      exact valid.1.1

theorem reads {token : TokenId tag} (fits : token.value.length < 2 ^ 32) :
    Reads read token.write (token.isValid = true) token := by
  have both : (token.value.length ≤ maxLength ∧ isValidTokenText token.value maxLength = true ∧ True) ↔
      token.isValid = true :=
    ⟨fun parts => parts.2.1, fun valid => ⟨length_le_of_isValid valid, valid, trivial⟩⟩
  rw [← List.append_nil token.write]
  exact Reads.restate both
    ((Reads.string fits maxLength).bind fun _ => Reads.guard fun _ => Reads.pure token)

theorem length_lt_of_isValid {token : TokenId tag} (valid : token.isValid = true) :
    token.value.length < 2 ^ 32 := by
  have bounded : maxLength < 2 ^ 32 := by decide
  exact (length_le_of_isValid valid).trans_lt bounded

theorem canonical : Canonical (read : Reader (TokenId tag)) write (·.isValid = true) :=
  Consumes.field (Canonical.string maxLength) fun _ _ => Consumes.guard fun valid =>
    Consumes.pure ⟨List.append_nil _, valid⟩

end TokenId

/-! ## Checked counters -/

inductive CounterTag where
  | routeGeneration
  | routeAuthorityGeneration
  | coordinatorEpoch
  | pathAuthorityGeneration
  | policyGeneration
  | programmingGeneration

def CounterTag.name : CounterTag → String
  | .routeGeneration => "RouteGeneration"
  | .routeAuthorityGeneration => "RouteAuthorityGeneration"
  | .coordinatorEpoch => "CoordinatorEpoch"
  | .pathAuthorityGeneration => "PathAuthorityGeneration"
  | .policyGeneration => "PolicyGeneration"
  | .programmingGeneration => "ProgrammingGeneration"

/-- A 64-bit counter; zero stands for its absence. -/
@[ext] structure CounterId (tag : CounterTag) where
  value : Nat := 0
  inWord : value < 18446744073709551616 := by decide
deriving DecidableEq

abbrev RouteGeneration := CounterId .routeGeneration
abbrev RouteAuthorityGeneration := CounterId .routeAuthorityGeneration
abbrev CoordinatorEpoch := CounterId .coordinatorEpoch
abbrev PathAuthorityGeneration := CounterId .pathAuthorityGeneration
abbrev PolicyGeneration := CounterId .policyGeneration
abbrev ProgrammingGeneration := CounterId .programmingGeneration

namespace CounterId

variable {tag : CounterTag}

/-- The absent value of a default-constructed counter. -/
def absent : CounterId tag := {}

/-- The first valid value. -/
def one : CounterId tag := ⟨1, by decide⟩

/-- A counter holding a machine word. -/
def fromValue (value : Nat) : CounterId tag :=
  ⟨value % 18446744073709551616, Nat.mod_lt _ (by decide)⟩

/-- The highest value that is counted to or read back. -/
def maxValue : Nat := 0xFFFFFFFFFFFFFFFE

def isValid (counter : CounterId tag) : Bool := counter.value ≠ 0

/-- The values that a required counter is read back with. -/
def Storable (counter : CounterId tag) : Prop := 1 ≤ counter.value ∧ counter.value ≤ maxValue

instance (counter : CounterId tag) : Decidable counter.Storable := by
  unfold Storable
  infer_instance

theorem storable_one : (one : CounterId tag).Storable := by
  have counted : 1 ≤ maxValue := by decide
  exact ⟨Nat.le_refl 1, counted⟩

@[simp] theorem fromValue_value (counter : CounterId tag) : fromValue counter.value = counter := by
  ext
  simp [fromValue, Nat.mod_eq_of_lt counter.inWord]

theorem one_le_fromValue {value : Nat} (inRange : value ≠ 0 ∧ value ≤ maxValue) :
    1 ≤ (fromValue value : CounterId tag).value := by
  have small : value < 2 ^ 64 := inRange.2.trans_lt (by decide)
  simp only [fromValue]
  omega

@[simp] theorem isValid_iff (counter : CounterId tag) : counter.isValid = true ↔ 1 ≤ counter.value := by
  simp [isValid]
  omega

/-- Checked increment: an exhausted counter is an error, never a wrap. -/
def next (counter : CounterId tag) : Expected (CounterId tag) :=
  if below : counter.value < maxValue then
    .ok ⟨counter.value + 1, by unfold maxValue at below; omega⟩
  else makeError .staleGeneration (tag.name ++ " would overflow its checked range")

/-- An increment adds one and stays in the stored range. -/
theorem next_eq_ok {counter following : CounterId tag} (advanced : counter.next = .ok following) :
    following.value = counter.value + 1 ∧ following.Storable := by
  unfold next at advanced
  split at advanced
  · rename_i below
    obtain rfl := Except.ok.inj advanced
    refine ⟨rfl, Nat.succ_le_succ (Nat.zero_le _), ?_⟩
    exact below
  · simp at advanced

/-- A storable counter one more than another is its increment. -/
theorem next_of_value {counter following : CounterId tag} (value : following.value = counter.value + 1)
    (storable : following.Storable) : counter.next = .ok following := by
  have below : counter.value < maxValue := by
    have bound := storable.2
    omega
  unfold next
  rw [dif_pos below]
  congr 1
  ext
  exact value.symm

def render (counter : CounterId tag) : String := toString counter.value

def write (counter : CounterId tag) : Bytes := leBytes 8 counter.value

@[simp] theorem length_write (counter : CounterId tag) : counter.write.length = 8 := by
  simp [write]

/-- A required counter. -/
def read : Reader (CounterId tag) := do
  let value ← word 8
  require (value ≠ 0 ∧ value ≤ maxValue)
  pure (fromValue value)

theorem reads_word (counter : CounterId tag) : Reads (word 8) counter.write True counter.value :=
  Reads.word (by have := counter.inWord; norm_num; omega)

theorem reads (counter : CounterId tag) : Reads read counter.write counter.Storable counter := by
  have range : (True ∧ (counter.value ≠ 0 ∧ counter.value ≤ maxValue) ∧ True) ↔ counter.Storable := by
    simp only [true_and, and_true, Storable, Nat.one_le_iff_ne_zero]
  have recovered : Reads (pure (fromValue counter.value)) [] True counter := by
    rw [fromValue_value]
    exact Reads.pure counter
  rw [← List.append_nil counter.write]
  exact Reads.restate range
    ((reads_word counter).bind fun _ => Reads.guard fun _ => recovered)

/-- A word that was read is the value of its counter. -/
theorem value_fromValue {value : Nat} (fits : value < 256 ^ 8) :
    (fromValue value : CounterId tag).value = value := by
  norm_num at fits
  simp [fromValue, Nat.mod_eq_of_lt fits]

theorem canonical : Canonical (read : Reader (CounterId tag)) write Storable := by
  refine Consumes.field (Canonical.word 8) fun value fits => Consumes.guard fun range =>
    Consumes.pure ⟨?_, ?_⟩
  · rw [write, value_fromValue fits, List.append_nil]
  · rw [Storable, value_fromValue fits]
    exact ⟨Nat.one_le_iff_ne_zero.mpr range.1, range.2⟩

/-- An optional counter: a presence flag and the value. -/
def writeOptional (counter : CounterId tag) : Bytes :=
  if counter.isValid then 1 :: counter.write else 0 :: leBytes 8 0

def readOptional : Reader (CounterId tag) := do
  let present ← byte
  let value ← word 8
  if present = 0 then do
    require (value = 0)
    pure absent
  else do
    require (present = 1 ∧ value ≠ 0)
    pure (fromValue value)

@[simp] theorem length_writeOptional (counter : CounterId tag) :
    counter.writeOptional.length = 9 := by
  unfold writeOptional
  split <;> simp

/-- Every optional counter is read back, whatever its value. -/
theorem reads_optional (counter : CounterId tag) :
    Reads readOptional counter.writeOptional True counter := by
  by_cases zero : counter.value = 0
  · have isAbsent : counter = absent := CounterId.ext zero
    have image : counter.writeOptional = [[0], leBytes 8 0].flatten := by
      simp [writeOptional, isValid, zero]
    have value : Reads (word 8) (leBytes 8 0) True 0 := Reads.word (by norm_num)
    have finish : Reads (do require ((0 : Nat) = 0); pure absent) [] (0 = 0 ∧ True) counter :=
      Reads.guard fun _ => isAbsent ▸ Reads.pure absent
    rw [image]
    exact Reads.restate (by simp) (Reads.field (Reads.byte 0) fun _ => Reads.field value fun _ => finish)
  · have image : counter.writeOptional = [[1], counter.write].flatten := by
      simp [writeOptional, isValid, zero]
    have recovered : Reads (pure (fromValue counter.value)) [] True counter := by
      rw [fromValue_value]
      exact Reads.pure counter
    have finish : Reads (do require ((1 : UInt8) = 1 ∧ counter.value ≠ 0); pure (fromValue counter.value))
        [] (((1 : UInt8) = 1 ∧ counter.value ≠ 0) ∧ True) counter := Reads.guard fun _ => recovered
    rw [image]
    exact Reads.restate (by simp [zero])
      (Reads.field (Reads.byte 1) fun _ => Reads.field (reads_word counter) fun _ => finish)

theorem canonical_optional :
    Canonical (readOptional : Reader (CounterId tag)) writeOptional fun _ => True := by
  refine Consumes.field Canonical.byte fun present _ => Consumes.field (Canonical.word 8) fun value fits => ?_
  by_cases missing : present = 0
  · rw [if_pos missing]
    refine Consumes.guard fun zero => Consumes.pure ⟨?_, trivial⟩
    simp [writeOptional, absent, isValid, missing, zero]
  · rw [if_neg missing]
    refine Consumes.guard fun given => Consumes.pure ⟨?_, trivial⟩
    have valid : (fromValue value : CounterId tag).isValid = true := by
      simpa [isValid, value_fromValue fits] using given.2
    rw [writeOptional, if_pos valid, write, value_fromValue fits, given.1]
    simp

end CounterId

end RouteFabric
