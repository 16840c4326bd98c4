/-
  The Wireshark dissector of framed envelopes (`wireshark/graphx.lua`).

  The dissector is a second reader of the wire format: it walks the packet by
  offsets, adds a labelled byte range to the protocol tree for each field, and
  stops at the first problem with an expert report.  It is a call whose world is
  the tree; the columns of the packet list are left out.
-/
import GraphX.Transport

namespace GraphX.Wireshark

open Codec Imperative Imperative.Act List

/-! ## The dissector -/

/-- The protocol fields. -/
inductive Field where
  | frameLength | magic | version | sequence | timestamp | messageId | traceId | parentMessageId
  | typeLength | messageType | attributeCount | attributeKeyLength | attributeKey
  | attributeValueLength | attributeValue | payloadLength | payload
  deriving DecidableEq, Repr

/-- A field added to the tree, with the range of the packet it labels. -/
structure Label where
  field : Field
  start : ℕ
  length : ℕ
  deriving DecidableEq, Repr

/-- The expert reports. -/
inductive Report where
  | malformed (message : String)
  | unsupported (message : String)
  deriving DecidableEq, Repr

abbrev Tree := List Label

abbrev Dissect := Act Tree Report

def maxEnvelopeBytes : ℕ := 16777216
def maxAttributes : ℕ := 4096

/-- `buffer(offset, length)` -/
def range (packet : Bytes) (offset length : ℕ) : Bytes := (packet.drop offset).take length

/-- `buffer(offset, length):uint()` -/
def uint (packet : Bytes) (offset length : ℕ) : ℕ := ofBE (range packet offset length)

/-- Go on only under a condition; otherwise report and stop. -/
def demand (b : Bool) (report : Report) : Dissect Unit := if b then pure () else throw report

def add (field : Field) (offset length : ℕ) : Dissect Unit := modify (· ++ [⟨field, offset, length⟩])

def requireBytes (offset amount limit : ℕ) (label : String) : Dissect Unit :=
  demand (decide (offset ≤ limit ∧ amount ≤ limit - offset)) (.malformed ("truncated " ++ label))

def addByteString (packet : Bytes) (offset limit : ℕ) (lengthField valueField : Field)
    (label : String) : Dissect (ℕ × ℕ) := do
  requireBytes offset 4 limit (label ++ " length")
  let length := uint packet offset 4
  add lengthField offset 4
  let offset := offset + 4
  requireBytes offset length limit label
  onlyIf (decide (length > 0)) (add valueField offset length)
  return (offset + length, length)

def allZero (packet : Bytes) (offset length : ℕ) : Bool := (range packet offset length).all (· == 0)

/-- The attribute loop: the number of entries to go, the index of the next one
    and the keys seen so far. -/
def addAttributes (packet : Bytes) (limit : ℕ) : ℕ → ℕ → ℕ → List Bytes → Dissect ℕ
  | 0, _, offset, _ => return offset
  | n + 1, index, offset, attributeKeys => do
    let (offset, keyLength) ← addByteString packet offset limit .attributeKeyLength .attributeKey
      ("attribute " ++ toString index ++ " key")
    let key := range packet (offset - keyLength) keyLength
    demand (!attributeKeys.contains key) (.malformed "duplicate envelope attribute key")
    let (offset, _) ← addByteString packet offset limit .attributeValueLength .attributeValue
      ("attribute " ++ toString index ++ " value")
    addAttributes packet limit n (index + 1) offset (key :: attributeKeys)

/-- The parts of variable length, from the type to the end of the packet. -/
def dissectBody (packet : Bytes) (limit offset : ℕ) : Dissect Unit := do
  let (offset, _) ← addByteString packet offset limit .typeLength .messageType "type"
  requireBytes offset 4 limit "attribute count"
  let attributeCount := uint packet offset 4
  add .attributeCount offset 4
  let offset := offset + 4
  demand (decide (attributeCount ≤ maxAttributes)) (.malformed "attribute count exceeds 4096")
  let offset ← addAttributes packet limit attributeCount 1 offset []
  let (offset, _) ← addByteString packet offset limit .payloadLength .payload "payload"
  demand (offset == limit) (.malformed "trailing envelope bytes")

def dissector (packet : Bytes) : Dissect ℕ := do
  let packetLength := packet.length
  demand (decide (4 ≤ packetLength)) (.malformed "truncated stream length prefix")
  let envelopeLength := uint packet 0 4
  add .frameLength 0 4
  demand (decide (envelopeLength ≠ 0 ∧ envelopeLength ≤ maxEnvelopeBytes))
    (.malformed "envelope length is outside 1..16777216")
  demand (envelopeLength == packetLength - 4)
    (.malformed "length prefix does not match captured packet size")
  let limit := packetLength
  requireBytes 4 20 limit "envelope header"
  demand (range packet 4 3 == [ascii 'G', ascii 'X', ascii 'E']) (.malformed "invalid GraphX magic")
  add .magic 4 3
  let version := uint packet 7 1
  add .version 7 1
  demand (version == 2) (.unsupported ("unsupported envelope wire version " ++ toString version))
  add .sequence 8 8
  add .timestamp 16 8
  requireBytes 24 48 limit "envelope identities"
  demand (!allZero packet 24 16) (.malformed "zero envelope message identity is invalid")
  add .messageId 24 16
  demand (!allZero packet 40 16) (.malformed "zero envelope trace identity is invalid")
  add .traceId 40 16
  add .parentMessageId 56 16
  dissectBody packet limit 72
  return packetLength

/-- The dissector returns the length of the packet, and this tree. -/
def Accepts (packet : Bytes) (tree : Tree) : Prop :=
  (dissector packet).run [] = .returned packet.length tree

/-! ## Ranges and steps -/

section steps

variable {α : Type} {packet rest : Bytes} {tree tree' : Tree} {offset amount limit : ℕ}

@[simp] theorem range_append (pre s post : Bytes) :
    range (pre ++ (s ++ post)) pre.length s.length = s := by simp [range]

variable {f : Unit → Dissect α}

@[simp] theorem run_add_bind {field : Field} {length : ℕ} :
    (add field offset length >>= f).run tree = (f ()).run (tree ++ [⟨field, offset, length⟩]) := rfl

theorem run_demand_bind {b : Bool} {report : Report} {a : α} :
    (demand b report >>= f).run tree = .returned a tree' ↔
      b = true ∧ (f ()).run tree = .returned a tree' := by
  cases b <;> simp [demand, run_bind_eq_returned]

theorem run_demand {b : Bool} {report : Report} :
    (demand b report).run tree = .returned () tree' ↔ b = true ∧ tree = tree' := by
  cases b <;> simp [demand]

theorem run_requireBytes_bind {label : String} {a : α} :
    (requireBytes offset amount limit label >>= f).run tree = .returned a tree' ↔
      offset + amount ≤ limit ∧ (f ()).run tree = .returned a tree' := by
  rw [requireBytes, run_demand_bind, decide_eq_true_iff]
  constructor
  · rintro ⟨⟨h₁, h₂⟩, h⟩; exact ⟨by omega, h⟩
  · rintro ⟨h₁, h⟩; exact ⟨⟨by omega, by omega⟩, h⟩

end steps

variable {n : ℕ}

theorem exists_eq_append (bs : Bytes) (h : n ≤ bs.length) :
    ∃ b post : Bytes, b.length = n ∧ bs.length = n + post.length ∧ bs = b ++ post :=
  ⟨bs.take n, bs.drop n, by simp [h], by simp; omega, (take_append_drop n bs).symm⟩

theorem put_ofBE (hn : n ≤ 8) {b : Bytes} (hb : b.length = n) :
    put n (UInt64.ofNat (ofBE b)) = b := by
  have hlt : ofBE b < 2 ^ 64 :=
    calc ofBE b < 256 ^ b.length := ofBE_lt b
      _ ≤ 256 ^ 8 := Nat.pow_le_pow_right (by norm_num) (hb.trans_le hn)
      _ = 2 ^ 64 := by norm_num
  rw [put_eq_toBE _ hn, UInt64.toNat_ofNat', Nat.mod_eq_of_lt hlt, ← hb, toBE_ofBE]

theorem ofBE_put (h : n < 2 ^ 32) : ofBE (put 4 (UInt64.ofNat n)) = n := by
  rw [put_eq_toBE _ (by norm_num), ofBE_toBE, UInt64.toNat_ofNat', Nat.mod_eq_of_lt (by omega),
    Nat.mod_eq_of_lt (by omega)]

/-- The word at the end of `pre`. -/
theorem uint_append {pre b post : Bytes} (hb : b.length = n) :
    uint (pre ++ (b ++ post)) pre.length n = ofBE b := by rw [uint, ← hb, range_append]

/-! ## Strings -/

def stringLabels (lengthField valueField : Field) (offset : ℕ) (s : Bytes) : Tree :=
  ⟨lengthField, offset, 4⟩ :: if s = [] then [] else [⟨valueField, offset + 4, s.length⟩]

variable {rest : Bytes} {tree : Tree}

section strings

variable {pre : Bytes} {lengthField valueField : Field} {label : String} {tree' : Tree}

/-- **Strings.** A string is accepted at an offset exactly when the packet goes
    on with one. -/
theorem run_addByteString_bind {α : Type} {f : ℕ × ℕ → Dissect α} {a : α} :
    (addByteString (pre ++ rest) pre.length (pre ++ rest).length lengthField valueField label >>=
        f).run tree = .returned a tree' ↔
      ∃ s post : Bytes, s.length < 2 ^ 32 ∧ rest = encString s ++ post ∧
        (f ((pre ++ encString s).length, s.length)).run
          (tree ++ stringLabels lengthField valueField pre.length s) = .returned a tree' := by
  have hvalue : ∀ s : Bytes, (onlyIf (decide (s.length > 0))
      (add valueField (pre.length + 4) s.length) >>= fun _ =>
        pure (pre.length + 4 + s.length, s.length) >>= f).run (tree ++ [⟨lengthField, pre.length, 4⟩]) =
      (f ((pre ++ encString s).length, s.length)).run
        (tree ++ stringLabels lengthField valueField pre.length s) := by
    intro s
    cases s <;> simp [stringLabels, Nat.add_assoc]
  simp only [addByteString, bind_bind, run_requireBytes_bind, run_add_bind]
  constructor
  · rintro ⟨h4, hn, hrun⟩
    rw [length_append] at h4 hn
    obtain ⟨b, tail, hb, hlength, rfl⟩ := exists_eq_append rest (n := 4) (by omega)
    rw [uint_append hb] at hn hrun
    obtain ⟨s, post, hs, -, rfl⟩ := exists_eq_append tail (n := ofBE b) (by omega)
    have hlt : s.length < 2 ^ 32 := by
      rw [hs]; exact (ofBE_lt b).trans_eq (by rw [hb]; norm_num)
    rw [← hs, hvalue] at hrun
    refine ⟨s, post, hlt, ?_, hrun⟩
    rw [encString, hs, put_ofBE (by norm_num) hb, append_assoc]
  · rintro ⟨s, post, hlt, rfl, hrun⟩
    have hword : uint (pre ++ (encString s ++ post)) pre.length 4 = s.length := by
      rw [encString, append_assoc, uint_append (length_put 4 _), ofBE_put hlt]
    rw [hword]
    refine ⟨by simp [encString], ?_, (hvalue s).trans hrun⟩
    simp only [length_append, encString, length_put]
    omega

end strings

theorem range_encString (pre s post : Bytes) :
    range (pre ++ (encString s ++ post)) ((pre ++ encString s).length - s.length) s.length = s := by
  have hoffset : (pre ++ encString s).length - s.length =
      (pre ++ put 4 (UInt64.ofNat s.length)).length := by
    simp only [encString, length_append]; omega
  have hpacket : pre ++ (encString s ++ post) =
      (pre ++ put 4 (UInt64.ofNat s.length)) ++ (s ++ post) := by simp [encString]
  rw [hoffset, hpacket, range_append]

/-! ## Attributes -/

def entryLabels : ℕ → List Entry → Tree
  | _, [] => []
  | offset, (key, value) :: es =>
    stringLabels .attributeKeyLength .attributeKey offset key ++
      (stringLabels .attributeValueLength .attributeValue (offset + (encString key).length) value ++
        entryLabels (offset + (encEntry (key, value)).length) es)

/-- **The attribute loop** accepts any entries with new, distinct keys. -/
theorem addAttributes_iff : ∀ {n index r : ℕ} {pre rest : Bytes} {keys : List Bytes}
    {tree tree' : Tree},
    (addAttributes (pre ++ rest) (pre ++ rest).length n index pre.length keys).run tree =
        .returned r tree' ↔
      ∃ (es : List Entry) (post : Bytes), es.length = n ∧ (∀ e ∈ es, EntryOk e) ∧
        (es.map Prod.fst).Nodup ∧ (∀ e ∈ es, e.1 ∉ keys) ∧ rest = es.flatMap encEntry ++ post ∧
        r = (pre ++ es.flatMap encEntry).length ∧ tree' = tree ++ entryLabels pre.length es
  | 0, index, r, pre, rest, keys, tree, tree' => by
    rw [addAttributes, run_pure]
    constructor
    · intro h
      cases h
      exact ⟨[], rest, rfl, by simp, by simp, by simp, rfl, by simp, by simp [entryLabels]⟩
    · rintro ⟨es, post, hl, -, -, -, -, rfl, rfl⟩
      obtain rfl := length_eq_zero_iff.1 hl
      simp [entryLabels]
  | n + 1, index, r, pre, rest, keys, tree, tree' => by
    rw [addAttributes, run_addByteString_bind]
    constructor
    · rintro ⟨key, post, hkl, rfl, h⟩
      simp only [range_encString] at h
      obtain ⟨hnew, h⟩ := run_demand_bind.1 h
      rw [← append_assoc] at h
      obtain ⟨value, post, hvl, rfl, h⟩ := run_addByteString_bind.1 h
      rw [← append_assoc] at h
      obtain ⟨es, post, hl, hes, hnd, hkeys, rfl, rfl, rfl⟩ := addAttributes_iff.1 h
      refine ⟨(key, value) :: es, post, by simp [hl], ?_, ?_, ?_, ?_, ?_, ?_⟩
      · simp only [forall_mem_cons]; exact ⟨⟨hkl, hvl⟩, hes⟩
      · rw [map_cons, nodup_cons]
        refine ⟨fun hmem => ?_, hnd⟩
        obtain ⟨e, he, hek⟩ := mem_map.1 hmem
        exact hkeys e he (by simp [hek])
      · simp only [forall_mem_cons]
        exact ⟨by simpa using hnew, fun e he hmem => hkeys e he (mem_cons_of_mem _ hmem)⟩
      · simp [encEntry]
      · simp [encEntry]
      · simp [entryLabels, encEntry]
    · rintro ⟨_ | ⟨⟨key, value⟩, es⟩, post, hl, hes, hnd, hkeys, rfl, rfl, rfl⟩
      · simp at hl
      simp only [forall_mem_cons] at hes hkeys
      obtain ⟨⟨hkl, hvl⟩, hes⟩ := hes
      obtain ⟨hnew, hkeys⟩ := hkeys
      rw [map_cons, nodup_cons] at hnd
      rw [flatMap_cons, encEntry, append_assoc, append_assoc]
      refine ⟨key, _, hkl, rfl, ?_⟩
      simp only [range_encString]
      refine run_demand_bind.2 ⟨by simpa using hnew, ?_⟩
      rw [← append_assoc pre]
      refine run_addByteString_bind.2 ⟨value, _, hvl, rfl, ?_⟩
      rw [← append_assoc (pre ++ encString key)]
      refine addAttributes_iff.2 ⟨es, post, by simpa using hl, hes, hnd.2, ?_, rfl, ?_, ?_⟩
      · intro e he hmem
        rcases mem_cons.1 hmem with heq | hmem
        · exact hnd.1 (mem_map.2 ⟨e, he, heq⟩)
        · exact hkeys e he hmem
      · simp
      · simp [entryLabels, encEntry]

/-! ## The body -/

/-- The labels of the parts of variable length from an offset on. -/
def bodyLabels (offset : ℕ) (type : Bytes) (es : List Entry) (payload : Bytes) : Tree :=
  stringLabels .typeLength .messageType offset type ++
    ⟨.attributeCount, offset + (encString type).length, 4⟩ ::
      (entryLabels (offset + (encString type).length + 4) es ++
        stringLabels .payloadLength .payload
          (offset + (encString type).length + 4 + (es.flatMap encEntry).length) payload)

theorem dissectBody_iff {pre : Bytes} {tree' : Tree} :
    (dissectBody (pre ++ rest) (pre ++ rest).length pre.length).run tree = .returned () tree' ↔
      ∃ (type : Bytes) (es : List Entry) (payload : Bytes), type.length < 2 ^ 32 ∧
        es.length ≤ maxAttributes ∧ (∀ e ∈ es, EntryOk e) ∧ (es.map Prod.fst).Nodup ∧
        payload.length < 2 ^ 32 ∧
        rest = encString type ++ (put 4 (UInt64.ofNat es.length) ++
          (es.flatMap encEntry ++ encString payload)) ∧
        tree' = tree ++ bodyLabels pre.length type es payload := by
  rw [dissectBody, run_addByteString_bind]
  constructor
  · rintro ⟨type, post, htl, rfl, h⟩
    rw [← append_assoc] at h
    obtain ⟨h4, h⟩ := run_requireBytes_bind.1 h
    obtain ⟨b, tail, hb, -, rfl⟩ := exists_eq_append post (n := 4)
      (by simp only [length_append] at h4; omega)
    rw [uint_append hb, run_add_bind, run_demand_bind, decide_eq_true_iff] at h
    obtain ⟨hmax, h⟩ := h
    rw [← append_assoc, ← hb, ← length_append] at h
    obtain ⟨r₂, tree₂, hentries, h⟩ := run_bind_eq_returned.1 h
    obtain ⟨es, post, hl, hes, hnd, -, rfl, rfl, rfl⟩ := addAttributes_iff.1 hentries
    rw [← append_assoc] at h
    obtain ⟨payload, post, hpl, rfl, h⟩ := run_addByteString_bind.1 h
    obtain ⟨hend, rfl⟩ := run_demand.1 h
    -- the payload ends at the limit, so nothing is left behind it
    obtain rfl : post = [] := by
      have := beq_iff_eq.1 hend
      simp only [length_append] at this
      exact length_eq_zero_iff.1 (by omega)
    refine ⟨type, es, payload, htl, hl ▸ hmax, hes, hnd, hpl, ?_, ?_⟩
    · rw [hl, put_ofBE (by norm_num) hb]; simp
    · simp [bodyLabels, hb, Nat.add_assoc]
  · rintro ⟨type, es, payload, htl, hmax, hes, hnd, hpl, rfl, rfl⟩
    have hword : ofBE (put 4 (UInt64.ofNat es.length)) = es.length :=
      ofBE_put (hmax.trans_lt (by decide))
    refine ⟨type, _, htl, rfl, ?_⟩
    rw [← append_assoc]
    refine run_requireBytes_bind.2 ⟨by simp only [length_append, length_put]; omega, ?_⟩
    rw [uint_append (length_put 4 _), run_add_bind, run_demand_bind, decide_eq_true_iff, hword]
    refine ⟨hmax, ?_⟩
    have hlen : (pre ++ encString type).length + 4 =
        (pre ++ encString type ++ put 4 (UInt64.ofNat es.length)).length := by
      simp only [length_append, length_put]
    rw [← append_assoc, hlen]
    refine run_bind_eq_returned.2 ⟨_, _,
      addAttributes_iff.2 ⟨es, _, rfl, hes, hnd, by simp, rfl, rfl, rfl⟩, ?_⟩
    rw [← append_assoc]
    refine run_addByteString_bind.2 ⟨payload, [], hpl, (append_nil _).symm, ?_⟩
    exact run_demand.2 ⟨by simp, by simp [bodyLabels, Nat.add_assoc]⟩

/-! ## The head -/

/-- The parts of fixed length. -/
structure Head where
  frame : Bytes
  magic : Bytes
  version : Bytes
  sequence : Bytes
  timestamp : Bytes
  message : Bytes
  trace : Bytes
  parent : Bytes
  length_frame : frame.length = 4
  length_magic : magic.length = 3
  length_version : version.length = 1
  length_sequence : sequence.length = 8
  length_timestamp : timestamp.length = 8
  length_message : message.length = 16
  length_trace : trace.length = 16
  length_parent : parent.length = 16

attribute [simp] Head.length_frame Head.length_magic Head.length_version Head.length_sequence
  Head.length_timestamp Head.length_message Head.length_trace Head.length_parent

namespace Head

variable (h : Head) (rest : Bytes)

def bytes : Bytes :=
  h.frame ++ (h.magic ++ (h.version ++ (h.sequence ++ (h.timestamp ++ (h.message ++
    (h.trace ++ h.parent))))))

@[simp] theorem length_bytes : h.bytes.length = 72 := by simp [bytes]

theorem range_eq (pre : Bytes) {s post : Bytes} {offset length : ℕ} (hoffset : pre.length = offset)
    (hlength : s.length = length) (hbytes : h.bytes ++ rest = pre ++ (s ++ post)) :
    range (h.bytes ++ rest) offset length = s := by
  rw [hbytes, ← hoffset, ← hlength, range_append]

@[simp] theorem range_frame : range (h.bytes ++ rest) 0 4 = h.frame :=
  h.range_eq rest [] rfl h.length_frame (by simp [bytes]; rfl)

@[simp] theorem range_magic : range (h.bytes ++ rest) 4 3 = h.magic :=
  h.range_eq rest h.frame h.length_frame h.length_magic (by simp [bytes]; rfl)

@[simp] theorem range_version : range (h.bytes ++ rest) 7 1 = h.version :=
  h.range_eq rest (h.frame ++ h.magic) (by simp) h.length_version (by simp [bytes]; rfl)

@[simp] theorem range_sequence : range (h.bytes ++ rest) 8 8 = h.sequence :=
  h.range_eq rest (h.frame ++ h.magic ++ h.version) (by simp) h.length_sequence
    (by simp [bytes]; rfl)

@[simp] theorem range_timestamp : range (h.bytes ++ rest) 16 8 = h.timestamp :=
  h.range_eq rest (h.frame ++ h.magic ++ h.version ++ h.sequence) (by simp) h.length_timestamp
    (by simp [bytes]; rfl)

@[simp] theorem range_message : range (h.bytes ++ rest) 24 16 = h.message :=
  h.range_eq rest (h.frame ++ h.magic ++ h.version ++ h.sequence ++ h.timestamp) (by simp)
    h.length_message (by simp [bytes]; rfl)

@[simp] theorem range_trace : range (h.bytes ++ rest) 40 16 = h.trace :=
  h.range_eq rest (h.frame ++ h.magic ++ h.version ++ h.sequence ++ h.timestamp ++ h.message)
    (by simp) h.length_trace (by simp [bytes]; rfl)

@[simp] theorem range_parent : range (h.bytes ++ rest) 56 16 = h.parent :=
  h.range_eq rest
    (h.frame ++ h.magic ++ h.version ++ h.sequence ++ h.timestamp ++ h.message ++ h.trace)
    (by simp) h.length_parent (by simp [bytes]; rfl)

end Head

variable {packet : Bytes}

theorem exists_head (hlen : 72 ≤ packet.length) :
    ∃ (h : Head) (rest : Bytes), packet = h.bytes ++ rest := by
  obtain ⟨frame, p₁, h₁, l₁, rfl⟩ := exists_eq_append packet (n := 4) (by omega)
  obtain ⟨magic, p₂, h₂, l₂, rfl⟩ := exists_eq_append p₁ (n := 3) (by omega)
  obtain ⟨version, p₃, h₃, l₃, rfl⟩ := exists_eq_append p₂ (n := 1) (by omega)
  obtain ⟨sequence, p₄, h₄, l₄, rfl⟩ := exists_eq_append p₃ (n := 8) (by omega)
  obtain ⟨timestamp, p₅, h₅, l₅, rfl⟩ := exists_eq_append p₄ (n := 8) (by omega)
  obtain ⟨message, p₆, h₆, l₆, rfl⟩ := exists_eq_append p₅ (n := 16) (by omega)
  obtain ⟨trace, p₇, h₇, l₇, rfl⟩ := exists_eq_append p₆ (n := 16) (by omega)
  obtain ⟨parent, rest, h₈, -, rfl⟩ := exists_eq_append p₇ (n := 16) (by omega)
  refine ⟨⟨frame, magic, version, sequence, timestamp, message, trace, parent,
    h₁, h₂, h₃, h₄, h₅, h₆, h₇, h₈⟩, rest, ?_⟩
  simp [Head.bytes]

/-- The labels of the parts of fixed length. -/
def headLabels : Tree :=
  [⟨.frameLength, 0, 4⟩, ⟨.magic, 4, 3⟩, ⟨.version, 7, 1⟩, ⟨.sequence, 8, 8⟩, ⟨.timestamp, 16, 8⟩,
    ⟨.messageId, 24, 16⟩, ⟨.traceId, 40, 16⟩, ⟨.parentMessageId, 56, 16⟩]

/-- What the dissector checks before the parts of variable length. -/
structure Head.Ok (h : Head) (rest : Bytes) : Prop where
  frame : ofBE h.frame = 68 + rest.length
  max : ofBE h.frame ≤ maxEnvelopeBytes
  magic : h.magic = [ascii 'G', ascii 'X', ascii 'E']
  version : ofBE h.version = 2
  message : h.message.all (· == 0) = false
  trace : h.trace.all (· == 0) = false

theorem dissector_head {h : Head} : Accepts (h.bytes ++ rest) tree ↔
    h.Ok rest ∧ (dissectBody (h.bytes ++ rest) (h.bytes ++ rest).length h.bytes.length).run
      headLabels = .returned () tree := by
  rw [Accepts, dissector]
  simp only [run_demand_bind, run_requireBytes_bind, run_add_bind, uint, allZero, Head.range_frame,
    Head.range_magic, Head.range_version, Head.range_message, Head.range_trace, Bool.not_eq_true',
    beq_iff_eq, decide_eq_true_iff, length_append, Head.length_bytes]
  constructor
  · rintro ⟨-, ⟨-, hmax⟩, hframe, -, hmagic, hversion, -, hmessage, htrace, hbody⟩
    obtain ⟨⟨⟩, tree₁, hbody, hret⟩ := run_bind_eq_returned.1 hbody
    cases hret
    exact ⟨⟨by omega, hmax, hmagic, hversion, hmessage, htrace⟩, hbody⟩
  · rintro ⟨hok, hbody⟩
    have hframe := hok.frame
    exact ⟨by omega, ⟨by omega, hok.max⟩, by omega, by omega, hok.magic, hok.version, by omega,
      hok.message, hok.trace, run_bind_eq_returned.2 ⟨(), tree, hbody, rfl⟩⟩

theorem Accepts.length_le (h : Accepts packet tree) : 72 ≤ packet.length := by
  rw [Accepts, dissector] at h
  simp only [run_demand_bind, run_requireBytes_bind, run_add_bind] at h
  obtain ⟨-, -, -, -, -, -, hlen, -⟩ := h
  exact hlen

/-! ## Framed wires -/

/-- Sixteen bytes are an identity, unless they are zero where one is required. -/
theorem exists_identity {b : Bytes} (hb : b.length = 16) (optional : Bool)
    (hz : optional = false → b.all (· == 0) = false) :
    ∃ v, IdentityOk optional v ∧ encIdentity v = b := by
  cases h0 : b.all (· == 0) with
  | false =>
    exact ⟨b.flatMap Reader.hexDigits, Or.inl (isCanonicalIdentity_iff.2 ⟨b, hb, h0, rfl⟩),
      encIdentity_flatMap hb⟩
  | true =>
    cases optional with
    | false => rw [hz rfl] at h0; cases h0
    | true =>
      refine ⟨[], Or.inr ⟨rfl, rfl⟩, ?_⟩
      have : b = replicate 16 0 := eq_replicate_iff.2 ⟨hb, by simpa using h0⟩
      simp [this, encIdentity]

theorem encIdentity_ne_zero {v : Bytes} (h : IdentityOk false v) :
    (encIdentity v).all (· == 0) = false := by
  rcases h with h | ⟨h, -⟩
  · obtain ⟨bs, hbs, hz, rfl⟩ := isCanonicalIdentity_iff.1 h
    rw [encIdentity_flatMap hbs, hz]
  · cases h

def framed (w : Wire) : Bytes := put 4 (UInt64.ofNat w.encode.length) ++ w.encode

/-- The fixed parts of a framed wire. -/
def wireHead (w : Wire) (hw : w.Ok) : Head where
  frame := put 4 (UInt64.ofNat w.encode.length)
  magic := [ascii 'G', ascii 'X', ascii 'E']
  version := [kEnvelopeWireVersion]
  sequence := put 8 w.sequence
  timestamp := put 8 w.timestampNs.toUInt64
  message := encIdentity w.messageId
  trace := encIdentity w.traceId
  parent := encIdentity w.parentMessageId
  length_frame := length_put _ _
  length_magic := rfl
  length_version := rfl
  length_sequence := length_put _ _
  length_timestamp := length_put _ _
  length_message := length_encIdentity hw.messageId
  length_trace := length_encIdentity hw.traceId
  length_parent := length_encIdentity hw.parentMessageId

/-- The variable parts of a wire. -/
def wireBody (w : Wire) : Bytes :=
  encString w.type ++ (put 4 (UInt64.ofNat w.entries.length) ++
    (w.entries.flatMap encEntry ++ encString w.payload))

theorem framed_eq (w : Wire) (hw : w.Ok) : framed w = (wireHead w hw).bytes ++ wireBody w := by
  simp [framed, wireHead, wireBody, Head.bytes, Wire.encode]

theorem length_framed (w : Wire) : (framed w).length = 4 + w.encode.length := by
  simp [framed]

def wireLabels (w : Wire) : Tree := headLabels ++ bodyLabels 72 w.type w.entries w.payload

/-- **The dissector accepts exactly the framed wires.** -/
theorem dissector_iff : Accepts packet tree ↔
    ∃ w : Wire, w.Ok ∧ w.encode.length ≤ maxEnvelopeBytes ∧ packet = framed w ∧
      tree = wireLabels w := by
  constructor
  · intro hacc
    obtain ⟨h, rest, rfl⟩ := exists_head hacc.length_le
    obtain ⟨hok, hbody⟩ := dissector_head.1 hacc
    obtain ⟨type, es, payload, htl, hmax, hes, hnd, hpl, rfl, rfl⟩ := dissectBody_iff.1 hbody
    obtain ⟨messageId, hm, hmb⟩ := exists_identity h.length_message false fun _ => hok.message
    obtain ⟨traceId, ht, htb⟩ := exists_identity h.length_trace false fun _ => hok.trace
    obtain ⟨parentId, hp, hpb⟩ := exists_identity h.length_parent true (by simp)
    let w : Wire := ⟨UInt64.ofNat (ofBE h.sequence), (UInt64.ofNat (ofBE h.timestamp)).toInt64,
      messageId, traceId, parentId, type, es, payload⟩
    have hw : w.Ok := ⟨hm, ht, hp, htl, hmax, hes, hnd, hpl⟩
    have hlen : ofBE h.frame = w.encode.length := by
      have := congrArg length (framed_eq w hw)
      rw [length_framed, length_append, Head.length_bytes] at this
      rw [hok.frame]
      exact (by omega : 68 + (wireBody w).length = w.encode.length)
    refine ⟨w, hw, hlen ▸ hok.max, ?_, by simp [wireLabels, w]⟩
    have hversion : h.version = [kEnvelopeWireVersion] := by
      rw [← put_ofBE (by norm_num) h.length_version, hok.version]; rfl
    have hhead : h.bytes = (wireHead w hw).bytes := by
      simp only [Head.bytes, wireHead, ← hlen, put_ofBE (n := 4) (by norm_num) h.length_frame,
        hok.magic, hversion, w, UInt64.toUInt64_toInt64, hmb, htb, hpb,
        put_ofBE (n := 8) (by norm_num) h.length_sequence,
        put_ofBE (n := 8) (by norm_num) h.length_timestamp]
    rw [framed_eq w hw, hhead]
    rfl
  · rintro ⟨w, hw, hmax, rfl, rfl⟩
    have hframe : ofBE (put 4 (UInt64.ofNat w.encode.length)) = w.encode.length :=
      ofBE_put (hmax.trans_lt (by decide))
    have hlen := congrArg length (framed_eq w hw)
    rw [length_framed, length_append, Head.length_bytes] at hlen
    rw [framed_eq w hw, dissector_head]
    refine ⟨⟨?_, ?_, rfl, rfl, ?_, ?_⟩, dissectBody_iff.2 ⟨w.type, w.entries, w.payload, hw.type,
      hw.count, hw.entries, hw.nodup, hw.payload, rfl, by simp [wireLabels]⟩⟩
    · exact hframe.trans (by omega)
    · exact hframe.trans_le hmax
    · exact encIdentity_ne_zero hw.messageId
    · exact encIdentity_ne_zero hw.traceId

/-! ## What the labels hold -/

def value (packet : Bytes) (l : Label) : Field × Bytes := (l.field, range packet l.start l.length)

def stringValues (lengthField valueField : Field) (s : Bytes) : List (Field × Bytes) :=
  (lengthField, put 4 (UInt64.ofNat s.length)) :: if s = [] then [] else [(valueField, s)]

def entryValues (entry : Entry) : List (Field × Bytes) :=
  stringValues .attributeKeyLength .attributeKey entry.1 ++
    stringValues .attributeValueLength .attributeValue entry.2

/-- The fields of an envelope of `size` bytes whose attributes are in the order
    `es`: integers as `put` writes them, identities as `putIdentity` does. -/
def envelopeValues (size : ℕ) (e : Envelope) (es : List Entry) : List (Field × Bytes) :=
  [(.frameLength, put 4 (UInt64.ofNat size)), (.magic, [ascii 'G', ascii 'X', ascii 'E']),
    (.version, [e.wireVersion]), (.sequence, put 8 e.sequence),
    (.timestamp, put 8 e.timestampNs.toUInt64), (.messageId, encIdentity e.messageId),
    (.traceId, encIdentity e.traceId), (.parentMessageId, encIdentity e.parentMessageId)] ++
  stringValues .typeLength .messageType e.type ++
  (.attributeCount, put 4 (UInt64.ofNat es.length)) :: es.flatMap entryValues ++
  stringValues .payloadLength .payload e.payload

theorem map_stringLabels (lengthField valueField : Field) (pre s post : Bytes) :
    (stringLabels lengthField valueField pre.length s).map
        (value (pre ++ (encString s ++ post))) = stringValues lengthField valueField s := by
  have hword : range (pre ++ (encString s ++ post)) pre.length 4 =
      put 4 (UInt64.ofNat s.length) := by
    have := range_append pre (put 4 (UInt64.ofNat s.length)) (s ++ post)
    rwa [length_put, ← append_assoc (put _ _)] at this
  have hvalue : range (pre ++ (encString s ++ post)) (pre.length + 4) s.length = s := by
    have := range_append (pre ++ put 4 (UInt64.ofNat s.length)) s post
    rwa [length_append, length_put, append_assoc, ← append_assoc (put _ _)] at this
  unfold stringLabels stringValues
  split_ifs
  · simp only [map_cons, map_nil, value, hword]
  · simp only [map_cons, map_nil, value, hword, hvalue]

theorem map_entryLabels (pre post : Bytes) (es : List Entry) :
    (entryLabels pre.length es).map (value (pre ++ (es.flatMap encEntry ++ post))) =
      es.flatMap entryValues := by
  induction es generalizing pre with
  | nil => rfl
  | cons e es ih =>
    obtain ⟨key, value⟩ := e
    have hkey := map_stringLabels .attributeKeyLength .attributeKey pre key
    have hvalue := map_stringLabels .attributeValueLength .attributeValue (pre ++ encString key)
    have hrest := ih (pre ++ encEntry (key, value))
    simp only [append_assoc, length_append, encEntry] at hkey hvalue hrest
    simp only [entryLabels, map_append, flatMap_cons, encEntry, append_assoc,
      length_append, hkey, hvalue, hrest, entryValues]

theorem map_bodyLabels (pre type payload : Bytes) (es : List Entry) :
    (bodyLabels pre.length type es payload).map (value (pre ++ (encString type ++
        (put 4 (UInt64.ofNat es.length) ++ (es.flatMap encEntry ++ encString payload))))) =
      stringValues .typeLength .messageType type ++
        (.attributeCount, put 4 (UInt64.ofNat es.length)) :: (es.flatMap entryValues ++
          stringValues .payloadLength .payload payload) := by
  have htype := map_stringLabels .typeLength .messageType pre type
  have hcount := range_append (pre ++ encString type) (put 4 (UInt64.ofNat es.length))
  have hentries := map_entryLabels (pre ++ encString type ++ put 4 (UInt64.ofNat es.length))
  have hpayload := map_stringLabels .payloadLength .payload
    (pre ++ encString type ++ put 4 (UInt64.ofNat es.length) ++ es.flatMap encEntry) payload []
  simp only [append_assoc, length_append, length_put, append_nil]
    at htype hcount hentries hpayload
  simp only [bodyLabels, map_append, map_cons, value, Nat.add_assoc, htype, hcount,
    hentries, hpayload]

theorem map_wireLabels {w : Wire} (hw : w.Ok) {e : Envelope} (hr : w.Represents e) :
    (wireLabels w).map (value (framed w)) = envelopeValues w.encode.length e w.entries := by
  have hbody := map_bodyLabels (wireHead w hw).bytes w.type w.payload w.entries
  rw [Head.length_bytes] at hbody
  rw [framed_eq w hw, wireLabels, map_append]
  simp only [wireBody, hbody]
  simp [headLabels, value, envelopeValues, wireHead, hr.sequence, hr.timestampNs, hr.messageId,
    hr.traceId, hr.parentMessageId, hr.type, hr.payload, hr.wireVersion]

/-! ## The length prefix -/

theorem foldl_shiftIn_word (bs : Bytes) (size : UInt32)
    (h : size.toNat * 256 ^ bs.length + 256 ^ bs.length ≤ 2 ^ 32) :
    (bs.foldl (fun (size : UInt32) byte => (size <<< 8) ||| byte.toUInt32) size).toNat =
      size.toNat * 256 ^ bs.length + ofBE bs := by
  induction bs generalizing size with
  | nil => simp [ofBE]
  | cons b bs ih =>
    rw [length_cons, pow_succ] at h
    have hp : 1 ≤ 256 ^ bs.length := Nat.one_le_pow _ _ (by norm_num)
    have hs : size.toNat * 256 + 256 ≤ 2 ^ 32 := by nlinarith
    have hstep := toNat_shiftIn size b (by omega)
    have hb := b.toNat_lt
    rw [foldl_cons, ih _ (by rw [hstep]; nlinarith), hstep, ofBE_cons, length_cons]
    ring

theorem decodeFrameSize_iff {header : Bytes} (hlen : header.length = 4) {size : UInt32} :
    decodeFrameSize header = .ok size ↔ ofBE header ≤ kMaxFrameBytes ∧ size.toNat = ofBE header := by
  have hfold := foldl_shiftIn_word header 0 (by rw [hlen]; decide)
  rw [UInt32.toNat_zero, zero_mul, zero_add] at hfold
  unfold decodeFrameSize
  simp only [hfold]
  split_ifs with h
  · simp only [false_iff]; omega
  · rw [Except.ok.injEq, ← UInt32.toNat_inj, hfold]
    constructor
    · intro heq; exact ⟨by omega, heq.symm⟩
    · rintro ⟨-, heq⟩; exact heq.symm

/-! ## The dissector and the reader -/

/-- **The dissector agrees with the reader.** A packet is accepted exactly when
    its prefix is a size that `decodeFrameSize` accepts, nonzero and that of the
    rest, and `deserialize` accepts the rest; the ranges labelled then hold the
    values of the envelope, its attributes in the order of the packet. -/
theorem dissector_refines (packet : Bytes) :
    ((∃ tree, Accepts packet tree) ↔ 4 ≤ packet.length ∧ ∃ size : UInt32,
      decodeFrameSize (packet.take 4) = .ok size ∧ size ≠ 0 ∧ size.toNat = packet.length - 4 ∧
      ∃ e, deserialize (packet.drop 4) = .ok e) ∧
    ∀ tree e, Accepts packet tree → deserialize (packet.drop 4) = .ok e →
      ∃ es : List Entry, (es : Multiset Entry) = e.attributes.entries ∧
        tree.map (value packet) = envelopeValues (packet.length - 4) e es := by
  have htake : ∀ w, (framed w).take 4 = put 4 (UInt64.ofNat w.encode.length) := fun w => by
    simp [framed]
  have hdrop : ∀ w, (framed w).drop 4 = w.encode := fun w => by simp [framed]
  refine ⟨⟨?_, ?_⟩, ?_⟩
  · rintro ⟨tree, hacc⟩
    obtain ⟨w, hw, hmax, rfl, -⟩ := dissector_iff.1 hacc
    have hlen := length_framed w
    have hpos := Wire.length_encode hw
    have hlt : w.encode.length < 2 ^ 32 := hmax.trans_lt (by decide)
    have hsize : (UInt32.ofNat w.encode.length).toNat = w.encode.length := toNat_ofNat_frame hmax
    refine ⟨by omega, UInt32.ofNat w.encode.length, ?_, ?_, by omega, ?_⟩
    · rw [htake, decodeFrameSize_iff (length_put _ _), ofBE_put hlt]
      exact ⟨hmax, hsize⟩
    · intro h0
      rw [h0, UInt32.toNat_zero] at hsize
      omega
    · rw [hdrop]
      obtain ⟨e, he⟩ := hw.exists_envelope
      exact ⟨e, deserialize_iff.2 ⟨hmax, w, hw, rfl, he⟩⟩
  · rintro ⟨h4, size, hsize, -, hrest, e, he⟩
    obtain ⟨hmax, w, hw, hbytes, -⟩ := deserialize_iff.1 he
    have hhead : (packet.take 4).length = 4 := by simp [h4]
    have hvalue := ((decodeFrameSize_iff hhead).1 hsize).2
    refine ⟨wireLabels w, dissector_iff.2 ⟨w, hw, hbytes ▸ hmax, ?_, rfl⟩⟩
    have hlen : w.encode.length = ofBE (packet.take 4) := by
      rw [← hbytes, length_drop, ← hrest, hvalue]
    rw [framed, hlen, put_ofBE (by norm_num) hhead, ← hbytes, take_append_drop]
  · intro tree e hacc he
    obtain ⟨w, hw, -, rfl, rfl⟩ := dissector_iff.1 hacc
    rw [hdrop] at he
    have hr := hw.represents he
    refine ⟨w.entries, hr.entries, ?_⟩
    rw [map_wireLabels hw hr, length_framed, Nat.add_sub_cancel_left]

end GraphX.Wireshark
