import Mathlib.Data.List.Basic
import Mathlib.Algebra.Order.Ring.Nat
import Mathlib.Tactic.Ring

/-!
# Strict byte readers

A reader consumes a prefix of its input or fails with a text. `Reads` states, for
one image, exactly when a reader accepts it: on the image followed by anything it
returns the value and leaves the rest, and it fails when the stated condition does
not hold. `Reads.field` and `Reads.guard` compose these statements along a `do` block,
so a reader written field by field has a proof written field by field.

`Canonical` states the converse, for every input: a reader that returns a value has
consumed the one image that a writer gives it. `Consumes` carries the image through a
`do` block until the value is complete.
-/

namespace ByteReader

/-- An encoded image. -/
abbrev Bytes := List UInt8

/-- A reader over the remaining input; the error is the reason given for it. -/
abbrev Reader (α : Type) := StateT Bytes (Except String) α

variable {α β : Type}

/-! ## Primitive readers -/

/-- Refuse the input without a reason of its own. -/
def fail : Reader α := fun _ => .error ""

/-- Continue only when a condition on what was read holds. -/
def require (condition : Prop) [Decidable condition] : Reader Unit :=
  fun bytes => if condition then .ok ((), bytes) else .error ""

/-- Give every failure of a reader this reason. -/
def because (why : String) (reader : Reader α) : Reader α := fun bytes =>
  match reader bytes with
  | .ok result => .ok result
  | .error _ => .error why

/-- The next byte. -/
def byte : Reader UInt8
  | [] => .error ""
  | head :: rest => .ok (head, rest)

/-- The next `count` bytes. -/
def raw (count : Nat) : Reader Bytes := fun bytes =>
  if count ≤ bytes.length then .ok (bytes.take count, bytes.drop count) else .error ""

/-- `count` values in order. -/
def many (reader : Reader α) : Nat → Reader (List α)
  | 0 => pure []
  | count + 1 => do
      let head ← reader
      let tail ← many reader count
      pure (head :: tail)

/-! ## Little-endian words -/

/-- The low `count` base-256 digits of a number, least significant first. -/
def leBytes : Nat → Nat → Bytes
  | 0, _ => []
  | count + 1, value => UInt8.ofNat value :: leBytes count (value / 256)

/-- The number written by little-endian bytes. -/
def leValue : Bytes → Nat
  | [] => 0
  | head :: rest => head.toNat + 256 * leValue rest

@[simp] theorem length_leBytes (count value : Nat) : (leBytes count value).length = count := by
  induction count generalizing value with
  | zero => rfl
  | succ count ih => simp [leBytes, ih]

/-- Writing truncates to the width and reading recovers what was kept. -/
theorem leValue_leBytes (count value : Nat) :
    leValue (leBytes count value) = value % 256 ^ count := by
  induction count generalizing value with
  | zero => simp [leBytes, leValue, Nat.mod_one]
  | succ count ih =>
      have byteValue : (UInt8.ofNat value).toNat = value % 256 := by simp
      rw [leBytes, leValue, ih, byteValue, pow_succ, Nat.mul_comm (256 ^ count) 256,
        Nat.mod_mul]

/-- Reading takes every image of its width for the value it stands for. -/
theorem leBytes_leValue (bytes : Bytes) : leBytes bytes.length (leValue bytes) = bytes := by
  induction bytes with
  | nil => rfl
  | cons head rest ih =>
      have low : UInt8.ofNat (head.toNat + 256 * leValue rest) = head := by
        apply UInt8.toNat_inj.mp
        have small := head.toNat_lt
        simp only [UInt8.toNat_ofNat']
        omega
      have high : (head.toNat + 256 * leValue rest) / 256 = leValue rest := by
        have small := head.toNat_lt
        omega
      simp only [List.length_cons, leBytes, leValue, low, high, ih]

theorem leValue_lt (bytes : Bytes) : leValue bytes < 256 ^ bytes.length := by
  induction bytes with
  | nil => decide
  | cons head rest ih =>
      have small := head.toNat_lt
      simp only [List.length_cons, leValue, pow_succ]
      omega

theorem leValue_leBytes_of_lt {count value : Nat} (fits : value < 256 ^ count) :
    leValue (leBytes count value) = value := by
  rw [leValue_leBytes, Nat.mod_eq_of_lt fits]

/-- A word of `count` bytes. -/
def word (count : Nat) : Reader Nat := do
  let bytes ← raw count
  pure (leValue bytes)

/-- Length-prefixed bytes; the prefix keeps the low 32 bits of the length. -/
def writeString (bytes : Bytes) : Bytes := leBytes 4 bytes.length ++ bytes

@[simp] theorem length_writeString (bytes : Bytes) :
    (writeString bytes).length = 4 + bytes.length := by
  simp [writeString]

/-- Length-prefixed bytes of at most `maxLength` bytes. -/
def string (maxLength : Nat) : Reader Bytes := do
  let length ← word 4
  require (length ≤ maxLength)
  raw length

/-- One byte that stands for a value. -/
def choice (decode : UInt8 → Option α) : Reader α := do
  let raw ← byte
  match decode raw with
  | some value => pure value
  | none => fail

/-- A counted list; the count keeps the low 32 bits. -/
def writeList (write : α → Bytes) (items : List α) : Bytes :=
  leBytes 4 items.length ++ items.flatMap write

/-- A counted list of at most `bound` items. -/
def listOf (countWhy boundWhy : String) (bound : Nat) (reader : Reader α) : Reader (List α) := do
  let count ← because countWhy (word 4)
  because boundWhy (require (count ≤ bound))
  many reader count

theorem length_writeList (write : α → Bytes) (items : List α) :
    (writeList write items).length = 4 + (items.flatMap write).length := by
  simp [writeList]

/-- An item takes up no more than the list it is part of. -/
theorem length_write_le {write : α → Bytes} {items : List α} {item : α} (member : item ∈ items) :
    (write item).length ≤ (items.flatMap write).length := by
  induction items with
  | nil => simp at member
  | cons head rest ih =>
      rw [List.flatMap_cons, List.length_append]
      rcases List.mem_cons.mp member with rfl | inRest
      · omega
      · have := ih inRest
        omega

/-- A list of items that each take up space has no more items than bytes. -/
theorem length_le_flatMap {write : α → Bytes} (nonempty : ∀ item, 1 ≤ (write item).length)
    (items : List α) : items.length ≤ (items.flatMap write).length := by
  induction items with
  | nil => simp
  | cons head rest ih =>
      rw [List.flatMap_cons, List.length_append, List.length_cons]
      have := nonempty head
      omega

/-- A field takes up no more than the image it is part of. -/
theorem length_le_flatten {fields : List Bytes} {field : Bytes} (member : field ∈ fields) :
    field.length ≤ fields.flatten.length := by
  obtain ⟨before, after, rfl⟩ := List.append_of_mem member
  simp only [List.flatten_append, List.flatten_cons, List.length_append]
  omega

/-- A text fits its length prefix when the image that it is a field of does. -/
theorem length_lt_of_field {fields : List Bytes} {text : Bytes} (member : writeString text ∈ fields)
    (fits : fields.flatten.length < 2 ^ 32) : text.length < 2 ^ 32 := by
  have whole := length_le_flatten member
  rw [length_writeString] at whole
  omega

/-- An enumeration whose values are stored as one byte each. -/
class Enumerated (α : Type) where
  values : List α
  code : α → UInt8
  decodes : ∀ value, values.find? (fun other => decide (code other = code value)) = some value

/-- Different values of an enumeration have different codes. -/
theorem Enumerated.code_injective [Enumerated α] {left right : α} (same : code left = code right) :
    left = right := by
  have decoded := decodes left
  rw [same, decodes right] at decoded
  exact (Option.some.inj decoded).symm

/-- One byte that stands for a value of an enumeration. -/
def enumerated [Enumerated α] : Reader α :=
  choice fun raw => Enumerated.values.find? fun value => decide (Enumerated.code value = raw)

/-- A byte that was read before stands for a value of an enumeration. -/
def known [Enumerated α] (raw : UInt8) : Reader α := fun bytes =>
  match Enumerated.values.find? fun value => decide (Enumerated.code value = raw) with
  | some value => .ok (value, bytes)
  | none => .error ""

/-! ## Acceptance of one image -/

/-- On `image` followed by anything, `reader` returns `value` and the rest exactly
when `accepts` holds; otherwise it fails. -/
structure Reads (reader : Reader α) (image : Bytes) (accepts : Prop) (value : α) : Prop where
  accept : accepts → ∀ rest, reader (image ++ rest) = .ok (value, rest)
  refuse : ¬ accepts → ∀ rest, ∃ why, reader (image ++ rest) = .error why

/-- Running two readers in sequence, the second only when the first succeeded. -/
theorem bind_apply (reader : Reader α) (next : α → Reader β) (bytes : Bytes) :
    (reader >>= next) bytes =
      match reader bytes with
      | .ok (value, rest) => next value rest
      | .error why => .error why := by
  change (StateT.bind reader next) bytes = _
  unfold StateT.bind
  cases reader bytes <;> rfl

namespace Reads

variable {reader : Reader α} {image : Bytes} {accepts : Prop} {value : α}

/-- The condition of acceptance may be restated. -/
theorem restate {restated : Prop} (same : accepts ↔ restated)
    (reads : Reads reader image accepts value) : Reads reader image restated value where
  accept holds := reads.accept (same.mpr holds)
  refuse fails := reads.refuse fun holds => fails (same.mp holds)

theorem pure (value : α) : Reads (Pure.pure value) [] True value where
  accept _ _ := rfl
  refuse fails := absurd trivial fails

/-- Sequencing reads the images one after the other and accepts when both parts do. -/
theorem bind {next : α → Reader β} {image' : Bytes} {accepts' : Prop} {value' : β}
    (reads : Reads reader image accepts value)
    (continues : accepts → Reads (next value) image' accepts' value') :
    Reads (reader >>= next) (image ++ image') (accepts ∧ accepts') value' where
  accept := by
    rintro ⟨first, second⟩ rest
    rw [bind_apply, List.append_assoc, reads.accept first]
    exact (continues first).accept second rest
  refuse := by
    intro fails rest
    rw [bind_apply, List.append_assoc]
    by_cases first : accepts
    · rw [reads.accept first]
      exact (continues first).refuse (fun second => fails ⟨first, second⟩) rest
    · obtain ⟨why, failed⟩ := reads.refuse first (image' ++ rest)
      exact ⟨why, by rw [failed]⟩

/-- One field of an image written as a list of fields. -/
theorem field {next : α → Reader β} {fields : List Bytes} {accepts' : Prop} {value' : β}
    (reads : Reads reader image accepts value)
    (continues : accepts → Reads (next value) fields.flatten accepts' value') :
    Reads (reader >>= next) (image :: fields).flatten (accepts ∧ accepts') value' := by
  rw [List.flatten_cons]
  exact reads.bind continues

/-- A field that is never refused. -/
theorem plain {next : α → Reader β} {fields : List Bytes} {accepts' : Prop} {value' : β}
    (reads : Reads reader image True value)
    (continues : Reads (next value) fields.flatten accepts' value') :
    Reads (reader >>= next) (image :: fields).flatten accepts' value' :=
  Reads.restate (by simp) (reads.field fun _ => continues)

/-- The last field of a sequence. -/
theorem last {next : α → Reader β} {value' : β} (reads : Reads reader image accepts value)
    (continues : accepts → Reads (next value) [] True value') :
    Reads (reader >>= next) [image].flatten (accepts ∧ True) value' :=
  reads.field continues

/-- A step between two fields that consumes nothing. -/
theorem silent {next : α → Reader β} {image' : Bytes} {accepts' : Prop} {value' : β}
    (reads : Reads reader [] accepts value)
    (continues : accepts → Reads (next value) image' accepts' value') :
    Reads (reader >>= next) image' (accepts ∧ accepts') value' :=
  reads.bind continues

theorem require (condition : Prop) [Decidable condition] :
    Reads (ByteReader.require condition) [] condition () where
  accept holds rest := by simp [ByteReader.require, holds]
  refuse fails rest := ⟨"", by simp [ByteReader.require, fails]⟩

/-- A check between two fields. -/
theorem guard {condition : Prop} [Decidable condition] {next : Unit → Reader β}
    {image' : Bytes} {accepts' : Prop} {value' : β}
    (continues : condition → Reads (next ()) image' accepts' value') :
    Reads (ByteReader.require condition >>= next) image' (condition ∧ accepts') value' :=
  (Reads.require condition).silent continues

theorem because (reads : Reads reader image accepts value) (why : String) :
    Reads (ByteReader.because why reader) image accepts value where
  accept holds rest := by simp [ByteReader.because, reads.accept holds rest]
  refuse fails rest := by
    obtain ⟨inner, failed⟩ := reads.refuse fails rest
    exact ⟨why, by simp [ByteReader.because, failed]⟩

theorem byte (value : UInt8) : Reads ByteReader.byte [value] True value where
  accept _ _ := rfl
  refuse fails := absurd trivial fails

theorem raw (bytes : Bytes) : Reads (ByteReader.raw bytes.length) bytes True bytes where
  accept _ rest := by simp [ByteReader.raw]
  refuse fails := absurd trivial fails

/-- A word that fits its width is read back. -/
theorem word {count value : Nat} (fits : value < 256 ^ count) :
    Reads (ByteReader.word count) (leBytes count value) True value := by
  have bytes := Reads.raw (leBytes count value)
  rw [length_leBytes] at bytes
  have recovered : Reads (Pure.pure (leValue (leBytes count value))) [] True value := by
    rw [leValue_leBytes_of_lt fits]
    exact Reads.pure value
  rw [← List.append_nil (leBytes count value)]
  exact Reads.restate (by simp) (bytes.bind fun _ => recovered)

/-- Length-prefixed bytes are accepted up to the bound of the reader. -/
theorem string {bytes : Bytes} (fits : bytes.length < 2 ^ 32) (maxLength : Nat) :
    Reads (ByteReader.string maxLength) (writeString bytes) (bytes.length ≤ maxLength) bytes := by
  have length : Reads (ByteReader.word 4) (leBytes 4 bytes.length) True bytes.length :=
    Reads.word (by norm_num at fits ⊢; exact fits)
  exact Reads.restate (by simp) (length.bind fun _ => Reads.guard fun _ => Reads.raw bytes)

theorem choice {decode : UInt8 → Option α} {raw : UInt8} {value : α}
    (decodes : decode raw = some value) : Reads (ByteReader.choice decode) [raw] True value := by
  refine Reads.restate (by simp) (Reads.last (Reads.byte raw) fun _ => ?_)
  rw [decodes]
  exact Reads.pure value

theorem enumerated [Enumerated α] (value : α) :
    Reads ByteReader.enumerated [Enumerated.code value] True value :=
  Reads.choice (Enumerated.decodes value)

theorem known [Enumerated α] (value : α) :
    Reads (ByteReader.known (Enumerated.code value)) [] True value where
  accept _ rest := by simp [ByteReader.known, Enumerated.decodes value]
  refuse fails := absurd trivial fails

/-- A list is accepted when every element is. -/
theorem many {reader : Reader α} {write : α → Bytes} {accepts : α → Prop} (items : List α)
    (each : ∀ item ∈ items, Reads reader (write item) (accepts item) item) :
    Reads (ByteReader.many reader items.length) (items.flatMap write)
      (∀ item ∈ items, accepts item) items := by
  induction items with
  | nil => exact (Reads.pure []).restate (by simp)
  | cons item items ih =>
      have head := each item List.mem_cons_self
      have tail := ih fun other member => each other (List.mem_cons_of_mem _ member)
      rw [List.flatMap_cons, ← List.append_nil (items.flatMap write)]
      exact Reads.restate (by simp) (head.bind fun _ => tail.bind fun _ => Reads.pure (item :: items))

/-- A counted list is accepted up to the bound of the reader. -/
theorem listOf {reader : Reader α} {write : α → Bytes} {accepts : α → Prop} {items : List α}
    (fits : items.length < 2 ^ 32) (countWhy boundWhy : String) (bound : Nat)
    (each : ∀ item ∈ items, Reads reader (write item) (accepts item) item) :
    Reads (ByteReader.listOf countWhy boundWhy bound reader) (writeList write items)
      (items.length ≤ bound ∧ ∀ item ∈ items, accepts item) items := by
  have count : Reads (ByteReader.word 4) (leBytes 4 items.length) True items.length :=
    Reads.word (by norm_num at fits ⊢; exact fits)
  exact Reads.restate (by simp)
    ((count.because countWhy).bind fun _ =>
      ((Reads.require (items.length ≤ bound)).because boundWhy).silent fun _ => Reads.many items each)

end Reads

/-! ## What a reader consumes -/

/-- Whatever a reader returns, the bytes that it consumed stand in a relation to it. -/
def Consumes (reader : Reader α) (related : Bytes → α → Prop) : Prop :=
  ∀ bytes value rest, reader bytes = .ok (value, rest) → ∃ image, bytes = image ++ rest ∧ related image value

/-- Whatever a reader returns has a property, and the bytes consumed are its image. -/
def Canonical (reader : Reader α) (write : α → Bytes) (holds : α → Prop) : Prop :=
  Consumes reader fun image value => image = write value ∧ holds value

namespace Consumes

variable {reader : Reader α} {related : Bytes → β → Prop}

theorem pure {value : β} (has : related [] value) : Consumes (Pure.pure value) related := by
  intro bytes result rest returned
  obtain ⟨rfl, rfl⟩ := Prod.mk.inj (Except.ok.inj returned)
  exact ⟨[], rfl, has⟩

/-- A field, with its image put before that of what follows. -/
theorem field {next : α → Reader β} {write : α → Bytes} {holds : α → Prop}
    (first : Canonical reader write holds)
    (continues : ∀ value, holds value →
      Consumes (next value) fun more result => related (write value ++ more) result) :
    Consumes (reader >>= next) related := by
  intro bytes result rest returned
  rw [bind_apply] at returned
  split at returned
  · rename_i value remaining read
    obtain ⟨image, rfl, rfl, has⟩ := first bytes value remaining read
    obtain ⟨more, rfl, relates⟩ := continues value has remaining result rest returned
    exact ⟨write value ++ more, by rw [List.append_assoc], relates⟩
  · cases returned

/-- A check between two fields. -/
theorem guard {condition : Prop} [Decidable condition] {next : Unit → Reader β}
    (continues : condition → Consumes (next ()) related) :
    Consumes (ByteReader.require condition >>= next) related := by
  intro bytes result rest returned
  rw [bind_apply, ByteReader.require] at returned
  by_cases holds : condition
  · rw [if_pos holds] at returned
    exact continues holds bytes result rest returned
  · rw [if_neg holds] at returned
    cases returned

theorem because {reader : Reader β} (consumes : Consumes reader related) (why : String) :
    Consumes (ByteReader.because why reader) related := by
  intro bytes value rest returned
  unfold ByteReader.because at returned
  split at returned
  · rename_i result read
    obtain rfl := Except.ok.inj returned
    exact consumes bytes value rest read
  · cases returned

end Consumes

namespace Canonical

variable {reader : Reader α} {write : α → Bytes} {holds : α → Prop}

/-- A reader that consumed all of its input consumed the image of what it returned. -/
theorem whole (canonical : Canonical reader write holds) {bytes : Bytes} {value : α}
    (returned : reader bytes = .ok (value, [])) : bytes = write value ∧ holds value := by
  obtain ⟨image, rfl, rfl, has⟩ := canonical bytes value [] returned
  exact ⟨List.append_nil _, has⟩

theorem because (canonical : Canonical reader write holds) (why : String) :
    Canonical (ByteReader.because why reader) write holds :=
  Consumes.because canonical why

/-- A check under a reason of its own. -/
theorem guard (condition : Prop) [Decidable condition] (why : String) :
    Canonical (ByteReader.because why (ByteReader.require condition)) (fun _ => []) fun _ => condition := by
  refine Consumes.because ?_ why
  intro bytes value rest returned
  unfold ByteReader.require at returned
  split at returned
  · rename_i met
    obtain ⟨-, rfl⟩ := Prod.mk.inj (Except.ok.inj returned)
    exact ⟨[], rfl, rfl, met⟩
  · cases returned

theorem byte : Canonical ByteReader.byte (fun value => [value]) fun _ => True := by
  intro bytes value rest returned
  cases bytes with
  | nil => cases returned
  | cons head tail =>
      obtain ⟨rfl, rfl⟩ := Prod.mk.inj (Except.ok.inj returned)
      exact ⟨[head], rfl, rfl, trivial⟩

theorem raw (count : Nat) : Canonical (ByteReader.raw count) id fun bytes => bytes.length = count := by
  intro bytes value rest returned
  unfold ByteReader.raw at returned
  split at returned
  · rename_i enough
    obtain ⟨rfl, rfl⟩ := Prod.mk.inj (Except.ok.inj returned)
    exact ⟨_, (List.take_append_drop count bytes).symm, rfl, List.length_take_of_le enough⟩
  · cases returned

theorem word (count : Nat) : Canonical (ByteReader.word count) (leBytes count) (· < 256 ^ count) := by
  refine Consumes.field (raw count) fun bytes length => Consumes.pure ?_
  subst length
  exact ⟨by rw [leBytes_leValue, List.append_nil]; rfl, leValue_lt bytes⟩

theorem string (maxLength : Nat) : Canonical (ByteReader.string maxLength) writeString
    fun bytes => bytes.length ≤ maxLength ∧ bytes.length < 2 ^ 32 := by
  refine Consumes.field (word 4) fun length fits => Consumes.guard fun short => ?_
  intro bytes value rest returned
  obtain ⟨image, rfl, rfl, rfl⟩ := raw length bytes value rest returned
  exact ⟨_, rfl, rfl, short, by norm_num at fits ⊢; exact fits⟩

theorem choice {decode : UInt8 → Option α} (writes : ∀ raw value, decode raw = some value → write value = [raw]) :
    Canonical (ByteReader.choice decode) write fun _ => True := by
  refine Consumes.field byte fun head _ => ?_
  cases decoded : decode head with
  | none => exact fun bytes value rest returned => nomatch returned
  | some value => exact Consumes.pure ⟨(writes head value decoded).symm, trivial⟩

theorem enumerated [Enumerated α] :
    Canonical ByteReader.enumerated (fun value : α => [Enumerated.code value]) fun _ => True := by
  refine choice fun raw value found => ?_
  have same := List.find?_some found
  rw [decide_eq_true_eq] at same
  rw [same]

theorem known [Enumerated α] (raw : UInt8) :
    Canonical (ByteReader.known raw) (fun _ => []) fun value : α => Enumerated.code value = raw := by
  intro bytes value rest returned
  unfold ByteReader.known at returned
  split at returned
  · rename_i found decoded
    obtain ⟨rfl, rfl⟩ := Prod.mk.inj (Except.ok.inj returned)
    have same := List.find?_some decoded
    rw [decide_eq_true_eq] at same
    exact ⟨[], rfl, rfl, same⟩
  · cases returned

theorem many (canonical : Canonical reader write holds) (count : Nat) :
    Canonical (ByteReader.many reader count) (List.flatMap write)
      fun items => items.length = count ∧ ∀ item ∈ items, holds item := by
  induction count with
  | zero => exact Consumes.pure ⟨rfl, rfl, by simp⟩
  | succ count ih =>
      refine Consumes.field canonical fun head has => Consumes.field ih fun tail each =>
        Consumes.pure ⟨by simp, by simp [each.1], ?_⟩
      intro item member
      rcases List.mem_cons.mp member with rfl | inTail
      · exact has
      · exact each.2 item inTail

theorem listOf (canonical : Canonical reader write holds) (countWhy boundWhy : String) (bound : Nat) :
    Canonical (ByteReader.listOf countWhy boundWhy bound reader) (writeList write)
      fun items => items.length ≤ bound ∧ items.length < 2 ^ 32 ∧ ∀ item ∈ items, holds item := by
  refine Consumes.field ((word 4).because countWhy) fun count fits =>
    Consumes.field (guard _ boundWhy) fun _ short => ?_
  intro bytes value rest returned
  obtain ⟨image, rfl, rfl, rfl, each⟩ := canonical.many count bytes value rest returned
  exact ⟨_, rfl, rfl, short, by norm_num at fits ⊢; exact fits, each⟩

end Canonical

/-! ## Whole payloads -/

/-- A payload format: its reader consumes nothing but what the writer writes. -/
structure Codec (α : Type) where
  write : α → Bytes
  read : Reader α
  /-- The reason given for bytes left over. -/
  trailing : String
  canonical : Canonical read write fun _ => True

namespace Codec

def encode (codec : Codec α) (message : α) : Bytes := codec.write message

/-- A payload has to be consumed exactly. -/
def decode (codec : Codec α) (payload : Bytes) : Except String α :=
  match codec.read payload with
  | .ok (message, []) => .ok message
  | .ok (_, _ :: _) => .error codec.trailing
  | .error why => .error why

theorem decode_eq_ok {codec : Codec α} {payload : Bytes} {message : α} :
    codec.decode payload = .ok message ↔ codec.read payload = .ok (message, []) := by
  unfold decode
  split
  · rename_i found read
    simp [read]
  · rename_i found head rest read
    simp [read]
  · rename_i why read
    simp [read]

/-- An accepted payload is the encoding of what it was decoded to. -/
theorem encode_of_decode {codec : Codec α} {payload : Bytes} {message : α}
    (accepted : codec.decode payload = .ok message) : codec.encode message = payload :=
  (codec.canonical.whole (decode_eq_ok.mp accepted)).1.symm

/-- The encoding of a message is decoded to it exactly when the reader accepts the image. -/
theorem decode_encode {codec : Codec α} {message : α} {accepts : Prop}
    (reads : Reads codec.read (codec.write message) accepts message) :
    codec.decode (codec.encode message) = .ok message ↔ accepts := by
  rw [decode_eq_ok, encode]
  constructor
  · intro returned
    by_contra fails
    obtain ⟨why, refused⟩ := reads.refuse fails []
    rw [List.append_nil, returned] at refused
    cases refused
  · intro holds
    simpa using reads.accept holds []

/-- An image that the reader refuses is no payload at all. -/
theorem decode_encode_error {codec : Codec α} {message : α} {accepts : Prop}
    (reads : Reads codec.read (codec.write message) accepts message) (fails : ¬ accepts) :
    ∃ why, codec.decode (codec.encode message) = .error why := by
  obtain ⟨why, refused⟩ := reads.refuse fails []
  rw [List.append_nil] at refused
  refine ⟨why, ?_⟩
  rw [decode, encode, refused]

end Codec

end ByteReader
