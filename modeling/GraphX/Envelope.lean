/-
  The envelope wire format (`include/graphx/envelope.hpp`, `src/envelope.cpp`,
  `include/graphx/framing.hpp`).

  Byte strings (`std::string`, `std::vector<std::byte>`) are lists of bytes.
  A thrown exception is an `Exn`, with its text.  The writer functions append
  to their output, so `put*` return the bytes they append; the `Reader` is a
  decoder whose state is the unread part of the span.

  The attributes of an envelope are an `std::unordered_map`: a multiset of
  entries with distinct keys, whose iteration order nothing may depend on.
-/
import GraphX.Lib.Codec
import Mathlib.Data.Multiset.Fold
import Mathlib.Data.Multiset.MapFold
import Mathlib.Data.List.Sort
import Mathlib.Data.List.Lex
import Mathlib.Data.Prod.Lex

namespace GraphX

abbrev Bytes := List UInt8

/-- The exceptions of the standard library that the code throws. -/
inductive Exn where
  | invalidArgument (what : String)
  | lengthError (what : String)
  | runtimeError (what : String)
  deriving DecidableEq, Repr

def Exn.what : Exn → String
  | invalidArgument w | lengthError w | runtimeError w => w

abbrev Result := Except Exn

instance {α : Type} [DecidableEq α] : DecidableEq (Result α)
  | .ok a, .ok b => decidable_of_iff (a = b) (by simp)
  | .error e, .error e' => decidable_of_iff (e = e') (by simp)
  | .ok _, .error _ => isFalse nofun
  | .error _, .ok _ => isFalse nofun

/-! ## Constants -/

def kMaxFrameBytes : ℕ := 16 * 1024 * 1024
def kEnvelopeWireVersion : UInt8 := 2
def kIdentityHexLength : ℕ := 32
def kMaxEnvelopeAttributes : ℕ := 4096

/-! ## Envelopes -/

/-- Bytes are compared as unsigned characters. -/
instance byteLinearOrder : LinearOrder UInt8 where
  le_refl := UInt8.le_refl
  le_trans _ _ _ := UInt8.le_trans
  le_antisymm _ _ := UInt8.le_antisymm
  le_total := UInt8.le_total
  toDecidableLE := inferInstance
  toDecidableLT := inferInstance
  toDecidableEq := inferInstance
  lt_iff_le_not_ge a b := by simp only [UInt8.lt_iff_toNat_lt, UInt8.le_iff_toNat_le]; omega
  min_def _ _ := rfl
  max_def _ _ := rfl
  compare_eq_compareOfLessAndEq _ _ := rfl

abbrev Entry := Bytes × Bytes

/-- `std::unordered_map<std::string, std::string>` -/
@[ext] structure Attributes where
  entries : Multiset Entry
  nodup : (entries.map Prod.fst).Nodup

namespace Attributes

instance : DecidableEq Attributes := fun a b =>
  decidable_of_iff (a.entries = b.entries) Attributes.ext_iff.symm

def empty : Attributes := ⟨0, by simp⟩

def size (a : Attributes) : ℕ := a.entries.card

/-- `emplace`: inserts the entry unless its key is present, and says whether it
    did. -/
def emplace (a : Attributes) (key value : Bytes) : Attributes × Bool :=
  if h : key ∈ a.entries.map Prod.fst then (a, false)
  else (⟨(key, value) ::ₘ a.entries, by rw [Multiset.map_cons]; exact a.nodup.cons h⟩, true)

end Attributes

@[ext] structure Envelope where
  sequence : UInt64
  timestampNs : Int64
  type : Bytes
  traceId : Bytes
  attributes : Attributes
  payload : Bytes
  messageId : Bytes
  parentMessageId : Bytes
  wireVersion : UInt8

instance : DecidableEq Envelope := fun a b =>
  decidable_of_iff (a.sequence = b.sequence ∧ a.timestampNs = b.timestampNs ∧ a.type = b.type ∧
    a.traceId = b.traceId ∧ a.attributes = b.attributes ∧ a.payload = b.payload ∧
    a.messageId = b.messageId ∧ a.parentMessageId = b.parentMessageId ∧
    a.wireVersion = b.wireVersion) Envelope.ext_iff.symm

/-! ## Identities -/

/-- The byte of an ASCII character. -/
def ascii (c : Char) : UInt8 := UInt8.ofNat c.toNat

def isHexByte (c : UInt8) : Bool :=
  (ascii '0' ≤ c && c ≤ ascii '9') || (ascii 'a' ≤ c && c ≤ ascii 'f')

def isCanonicalIdentity (value : Bytes) : Bool :=
  value.length == kIdentityHexLength && value.all isHexByte && value.any (· != ascii '0')

def hexDigit (value : UInt8) : UInt8 :=
  if value < 10 then ascii '0' + value else ascii 'a' + value - 10

def hexValue (value : UInt8) : Result UInt8 :=
  if ascii '0' ≤ value && value ≤ ascii '9' then .ok (value - ascii '0')
  else if ascii 'a' ≤ value && value ≤ ascii 'f' then .ok (value - ascii 'a' + 10)
  else .error (.invalidArgument "identity must contain lowercase hexadecimal characters")

/-! ## Writing -/

/-- `put<T>` with `sizeof(T) = n`: the shifts `8 (n - 1)`, …, `8`, `0`. -/
def put : ℕ → UInt64 → Bytes
  | 0, _ => []
  | n + 1, value => ((value >>> UInt64.ofNat (8 * n)) &&& 0xff).toUInt8 :: put n value

/-- The digit pairs of an identity, packed two to a byte. -/
def packHex : Bytes → Result Bytes
  | hi :: lo :: rest => do
    let h ← hexValue hi
    let l ← hexValue lo
    let out ← packHex rest
    return ((h <<< 4) ||| l) :: out
  | _ => return []

def putIdentity (value : Bytes) (field : String) (optional : Bool) : Result Bytes :=
  if optional && value.isEmpty then .ok (List.replicate 16 0)
  else if !isCanonicalIdentity value then
    .error (.invalidArgument
      (field ++ " must be a non-zero 32-character lowercase hexadecimal identity"))
  else packHex value

def checkedAdd (total amount : ℕ) : Result ℕ :=
  if amount > kMaxFrameBytes || total > kMaxFrameBytes - amount then
    .error (.lengthError "envelope exceeds 16777216-byte protocol maximum")
  else .ok (total + amount)

def checkedStringSize (total size : ℕ) : Result ℕ := do
  let total ← checkedAdd total 4
  checkedAdd total size

/-- One iteration of the attribute loop of `encoded_size`. -/
def addEntrySize (total : Result ℕ) (entry : Entry) : Result ℕ := do
  let total ← checkedStringSize (← total) entry.1.length
  checkedStringSize total entry.2.length

theorem checkedAdd_eq (total amount : ℕ) : checkedAdd total amount =
    if total + amount ≤ kMaxFrameBytes then .ok (total + amount)
    else .error (.lengthError "envelope exceeds 16777216-byte protocol maximum") := by
  unfold checkedAdd
  by_cases h : total + amount ≤ kMaxFrameBytes
  · rw [if_pos h, if_neg (by simp; omega)]
  · rw [if_neg h, if_pos (by simp; omega)]

theorem checkedStringSize_eq (total size : ℕ) : checkedStringSize total size =
    if total + 4 + size ≤ kMaxFrameBytes then .ok (total + 4 + size)
    else .error (.lengthError "envelope exceeds 16777216-byte protocol maximum") := by
  unfold checkedStringSize
  rw [checkedAdd_eq]
  by_cases h : total + 4 ≤ kMaxFrameBytes
  · rw [if_pos h]; exact checkedAdd_eq _ _
  · rw [if_neg h, if_neg (by omega)]; rfl

/-- The bytes of one attribute entry on the wire. -/
def entrySize (entry : Entry) : ℕ := 4 + entry.1.length + (4 + entry.2.length)

theorem addEntrySize_ok (total : ℕ) (entry : Entry) : addEntrySize (.ok total) entry =
    if total + entrySize entry ≤ kMaxFrameBytes then .ok (total + entrySize entry)
    else .error (.lengthError "envelope exceeds 16777216-byte protocol maximum") := by
  show (checkedStringSize total entry.1.length >>= fun t =>
    checkedStringSize t entry.2.length) = _
  rw [checkedStringSize_eq, entrySize]
  by_cases h : total + 4 + entry.1.length ≤ kMaxFrameBytes
  · rw [if_pos h]
    exact (checkedStringSize_eq _ _).trans (by
      rw [show total + 4 + entry.1.length + 4 + entry.2.length =
        total + (4 + entry.1.length + (4 + entry.2.length)) by omega])
  · rw [if_neg h, if_neg (by omega)]; rfl

theorem addEntrySize_error (e : Exn) (entry : Entry) :
    addEntrySize (.error e) entry = .error e := rfl

/-- The sum does not depend on the order of iteration. -/
instance : RightCommutative addEntrySize where
  right_comm total a b := by
    cases total with
    | error e => rfl
    | ok t =>
      simp only [addEntrySize_ok]
      by_cases ha : t + entrySize a ≤ kMaxFrameBytes <;>
        by_cases hb : t + entrySize b ≤ kMaxFrameBytes <;>
        simp only [ha, hb, if_true, if_false, addEntrySize_ok, addEntrySize_error] <;>
        split_ifs <;> first | omega | rfl | (congr 1; omega)

def encodedSize (envelope : Envelope) : Result ℕ :=
  if envelope.attributes.size > kMaxEnvelopeAttributes then
    .error (.lengthError "envelope has more than 4096 attributes")
  else do
  let total ← checkedStringSize 72 envelope.type.length
  let total ← envelope.attributes.entries.foldl addEntrySize (.ok total)
  checkedStringSize total envelope.payload.length

def validateSerializable (envelope : Envelope) : Result Unit :=
  if envelope.wireVersion != kEnvelopeWireVersion then
    .error (.invalidArgument
      ("unsupported envelope wire version " ++ toString envelope.wireVersion))
  else .ok ()

def serializedSize (envelope : Envelope) : Result ℕ := do
  validateSerializable envelope
  encodedSize envelope

def putString (value : Bytes) : Result Bytes :=
  if value.length > 0xffffffff then .error (.lengthError "string too large")
  else .ok (put 4 (UInt64.ofNat value.length) ++ value)

/-- `std::pair`'s `operator<=`, on keys and then values. -/
def entryLe (a b : Entry) : Prop := toLex a ≤ toLex b

instance : DecidableRel entryLe := fun a b => inferInstanceAs (Decidable (toLex a ≤ toLex b))
instance : IsTrans Entry entryLe := ⟨fun _ _ _ => le_trans⟩
instance : Std.Total entryLe := ⟨fun a b => le_total (toLex a) (toLex b)⟩
instance : Std.Antisymm entryLe := ⟨fun _ _ h h' => toLex.injective (le_antisymm h h')⟩

/-- The attributes in the order `std::sort` gives them. -/
def Attributes.sorted (a : Attributes) : List Entry :=
  Quot.liftOn a.entries (List.insertionSort entryLe) fun l l' h =>
    ((List.perm_insertionSort entryLe l).trans
      (h.trans (List.perm_insertionSort entryLe l').symm)).eq_of_pairwise'
        (List.pairwise_insertionSort entryLe l) (List.pairwise_insertionSort entryLe l')

/-- The attribute loop of `serialize`. -/
def putEntries : List Entry → Result Bytes
  | [] => return []
  | (key, value) :: rest => do
    let k ← putString key
    let v ← putString value
    let out ← putEntries rest
    return k ++ v ++ out

def serialize (envelope : Envelope) : Result Bytes := do
  let _ ← serializedSize envelope
  let messageId ← putIdentity envelope.messageId "message_id" false
  let traceId ← putIdentity envelope.traceId "trace_id" false
  let parentMessageId ← putIdentity envelope.parentMessageId "parent_message_id" true
  let type ← putString envelope.type
  let attributes := envelope.attributes.sorted
  let entries ← putEntries attributes
  let payload ← putString envelope.payload
  return [ascii 'G', ascii 'X', ascii 'E', envelope.wireVersion] ++ put 8 envelope.sequence ++
    put 8 envelope.timestampNs.toUInt64 ++ messageId ++ traceId ++ parentMessageId ++ type ++
    put 4 (UInt64.ofNat attributes.length) ++ entries ++ payload

/-! ## Reading -/

/-- The state is the part of the span that is not read yet. -/
abbrev Reader := Codec.Decoder UInt8 Exn

namespace Reader

/-- `require(count)`, and the next `count` bytes. -/
def take (count : ℕ) : Reader Bytes := do
  let bytes ← get
  Codec.check (count ≤ bytes.length) (.runtimeError "truncated envelope")
  set (bytes.drop count)
  return bytes.take count

/-- The loop body of `get`. -/
def shiftIn (value : UInt64) (byte : UInt8) : UInt64 := (value <<< 8) ||| byte.toUInt64

/-- `get<T>` with `sizeof(T) = n`, before the cast to `T`. -/
def get (n : ℕ) : Reader UInt64 := do
  let bytes ← take n
  return bytes.foldl shiftIn 0

def string : Reader Bytes := do
  let size ← get 4
  take size.toNat

/-- The two hexadecimal digits of a byte. -/
def hexDigits (byte : UInt8) : Bytes := [hexDigit (byte >>> 4), hexDigit (byte &&& 0x0f)]

def identity (optional : Bool) : Reader Bytes := do
  let bytes ← take 16
  if bytes.all (· == 0) then
    if optional then return [] else throw (.runtimeError "zero envelope identity is invalid")
  else return bytes.flatMap hexDigits

/-- `count` attribute entries, in the order of the wire. -/
def attributes : ℕ → Attributes → Reader Attributes
  | 0, acc => return acc
  | n + 1, acc => do
    let key ← string
    let value ← string
    match acc.emplace key value with
    | (acc', true) => attributes n acc'
    | (_, false) => throw (.runtimeError "duplicate envelope attribute key")

def magic : List Char → Reader Unit
  | [] => return ()
  | c :: cs => do
    let byte ← get 1
    Codec.check (byte.toUInt8 == ascii c) (.runtimeError "invalid envelope magic")
    magic cs

def envelope : Reader Envelope := do
  magic ['G', 'X', 'E']
  let version := (← get 1).toUInt8
  Codec.check (version == kEnvelopeWireVersion)
    (.runtimeError ("unsupported envelope wire version " ++ toString version))
  let sequence ← get 8
  let timestampNs := (← get 8).toInt64
  let messageId ← identity false
  let traceId ← identity false
  let parentMessageId ← identity true
  let type ← string
  let attributeCount ← get 4
  Codec.check (attributeCount.toNat ≤ kMaxEnvelopeAttributes)
    (.runtimeError "too many envelope attributes")
  let attributes ← attributes attributeCount.toNat Attributes.empty
  let payload ← string
  let rest ← MonadState.get
  Codec.check rest.isEmpty (.runtimeError "trailing envelope bytes")
  return { sequence, timestampNs, type, traceId, attributes, payload, messageId, parentMessageId,
           wireVersion := version }

end Reader

def deserialize (bytes : Bytes) : Result Envelope :=
  if bytes.length > kMaxFrameBytes then
    .error (.lengthError "envelope exceeds 16777216-byte protocol maximum")
  else (·.1) <$> Reader.envelope.run bytes

end GraphX
