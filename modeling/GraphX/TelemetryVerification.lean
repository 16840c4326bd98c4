/-
  From the telemetry sink to the collector: which signed texts
  `verifyEnvelope` returns.

  * **`verified_iff_survives`**: the payload is returned if and only if its text
    survives reading and printing.
-/
import GraphX.TelemetryPayload
import GraphX.Security

namespace GraphX

open Ecma UdpJsonTraceSink List

/-! ## Signed datagrams -/

/-- What stands behind the payload. -/
def authMembers (timestamp : Int64) (nonce signature : Bytes) : List Member :=
  [("timestamp", .integer timestamp.toInt), ("nonce", .string nonce),
    ("signature", .string signature)]

/-- The value of a timestamp. -/
def timestampNumber (timestamp : Int64) : Number :=
  .ofDecimal (decide (timestamp.toInt < 0)) timestamp.toInt.natAbs 0

/-- The `auth` of a datagram as a value. -/
def authValue (timestamp : Int64) (nonce signature : Bytes) : Json :=
  .obj [(text "timestamp", .num (timestampNumber timestamp)), (text "nonce", .str (widen nonce)),
    (text "signature", .str (widen signature))]

def signedObject (payload : Text) (timestamp : Int64) (nonce signature : Bytes) : Text :=
  object [(text "payload", payload),
    (text "auth", object ((authMembers timestamp nonce signature).map Member.entry))]

section signing

variable {H : Hmac} {sink : UdpJsonTraceSink} {m : Moment} {key : Bytes} {entropy : Entropy}

def signature (H : Hmac) (m : Moment) (key : Bytes) (entropy : Entropy) (payload : Bytes) : Bytes :=
  hmacHex H key (signedValue m.signedAt (hexText entropy.1) payload)

theorem sign_eq (hkey : sink.secret m = .ok key) (hne : key ≠ [])
    (hentropy : m.entropy = some entropy) (payload : Bytes) :
    sink.sign H m payload = chars "\x7b\"payload\":" ++ payload ++
      chars ",\"auth\":\x7b\"timestamp\":" ++ integerText m.signedAt.toInt ++
      chars ",\"nonce\":\"" ++ hexText entropy.1 ++ chars "\",\"signature\":\"" ++
      signature H m key entropy payload ++ chars "\"\x7d\x7d" := by
  have hsigned : signedDatagram H payload key m.signedAt (some entropy) = .ok _ :=
    if_neg (by simpa using hne)
  unfold sign
  rw [hkey, hentropy]
  simp only [bind, Except.bind, hsigned]
  rfl

theorem widen_sign (hkey : sink.secret m = .ok key) (hne : key ≠ [])
    (hentropy : m.entropy = some entropy) (payload : Bytes) :
    widen (sink.sign H m payload) = signedObject (widen payload) m.signedAt (hexText entropy.1)
      (signature H m key entropy payload) := by
  have hhex : escapeJson (signature H m key entropy payload) = signature H m key entropy payload :=
    escapeJson_hexText _
  rw [sign_eq hkey hne hentropy, signedObject, authMembers]
  simp only [map_cons, object_cons, flatMap_cons, Member.entry, fieldText, Datum.text,
    escapeJson_hexText, hhex]
  simp only [cons_append, append_assoc]
  simp only [widen_append, widen_integerText]
  rfl

theorem field_ok {name : String} {t : Text} {v : Json} (hname : IsName (text name))
    (h : Reads t v) : Field.Ok ⟨text name, t, v⟩ :=
  ⟨hname.1, hname.2, h⟩

theorem reads_auth (timestamp : Int64) (nonce signature : Bytes) :
    Reads (object ((authMembers timestamp nonce signature).map Member.entry))
      (authValue timestamp nonce signature) := by
  have hnodup : (["timestamp", "nonce", "signature"].map text).Nodup := by decide
  refine @reads_object [⟨text "timestamp", _, .num (timestampNumber timestamp)⟩,
    ⟨text "nonce", _, .str (widen nonce)⟩, ⟨text "signature", _, .str (widen signature)⟩]
    (by simp) ?_ hnodup
  simp only [forall_mem_cons, not_mem_nil, false_imp_iff, implies_true, and_true]
  exact ⟨field_ok (by decide) (reads_decimalInt _),
    field_ok (by decide) (reads_datum_string nonce),
    field_ok (by decide) (reads_datum_string signature)⟩

theorem reads_signedObject {payload : Text} {v : Json} (h : Reads payload v) (timestamp : Int64)
    (nonce signature : Bytes) : Reads (signedObject payload timestamp nonce signature)
      (.obj [(text "payload", v), (text "auth", authValue timestamp nonce signature)]) := by
  have hnodup : (["payload", "auth"].map text).Nodup := by decide
  refine @reads_object [⟨text "payload", payload, v⟩,
    ⟨text "auth", _, authValue timestamp nonce signature⟩] (by simp) ?_ hnodup
  simp only [forall_mem_cons, not_mem_nil, false_imp_iff, implies_true, and_true]
  exact ⟨field_ok (by decide) h, field_ok (by decide) (reads_auth ..)⟩

theorem fails_signedObject {payload : Text} (h : Fails payload) (timestamp : Int64)
    (nonce signature : Bytes) : Fails (signedObject payload timestamp nonce signature) := by
  exact @fails_object [] (by simp) (by simp) (text "payload", payload) h _

end signing

/-! ## Verification -/

theorem timestampNumber_print {timestamp : Int64} (h : timestamp.toInt.natAbs < 2 ^ 53) :
    (timestampNumber timestamp).print = decimalInt timestamp.toInt := by
  have := (reads_decimalInt timestamp.toInt).survives_iff.1 (survives_decimalInt h)
  rwa [stringify] at this

theorem signedText_eq {timestamp : Int64} (h : timestamp.toInt.natAbs < 2 ^ 53) (payload : Json)
    (nonce : Text) : signedText payload (timestampNumber timestamp) nonce =
      decimalInt timestamp.toInt ++ unit '.' :: (nonce ++ unit '.' :: stringify payload) := by
  rw [signedText, timestampNumber_print h]

theorem widen_signedValue (timestamp : Int64) (nonce payload : Bytes) :
    widen (signedValue timestamp nonce payload) =
      decimalInt timestamp.toInt ++ unit '.' :: (widen nonce ++ unit '.' :: widen payload) := by
  simp only [signedValue, widen_append, widen_integerText, append_assoc]
  rfl

theorem ofJson_authValue (timestamp : Int64) {nonce signature : Bytes}
    (hnonce : lowerHex 32 (widen nonce) = true) (hsignature : lowerHex 64 (widen signature) = true) :
    Auth.ofJson (authValue timestamp nonce signature) =
      some ⟨timestampNumber timestamp, widen nonce, widen signature⟩ := by
  have h₁ : text "nonce" ≠ text "timestamp" := by decide
  have h₂ : text "signature" ≠ text "timestamp" := by decide
  have h₃ : text "signature" ≠ text "nonce" := by decide
  simp [Auth.ofJson, authValue, Json.get_head, Json.get_tail h₁, Json.get_tail h₂, Json.get_tail h₃,
    hnonce, hsignature]

section verification

variable {H : Hmac} {secret : Text} {cache : ReplayCache} {now : ℤ} {timestamp : Int64}
  {entropy : Entropy} {digest : Bytes}

/-- A datagram in time with a new nonce is returned if its digest is the one the
    collector computes. -/
theorem verifyEnvelope_signed (ms : List (Text × Json)) (hsecret : secret ≠ [])
    (hsafe : timestamp.toInt.natAbs < 2 ^ 53) (hskew : |now - timestamp.toInt| ≤ maxClockSkewMs)
    (hunused : ∀ entry ∈ cache.values, entry.1 ≠ widen (hexText entropy.1))
    (hdigest : digest.length = 32) :
    verifyEnvelope H (.obj [(text "payload", .obj ms),
        (text "auth", authValue timestamp (hexText entropy.1) (hexText digest))])
      secret cache now =
      if createHmac H secret (signedText (.obj ms) (timestampNumber timestamp)
          (widen (hexText entropy.1))) = digest
      then (.obj ms, (cache.accept (widen (hexText entropy.1)) now).2) else (.null, cache) := by
  have hauth : text "auth" ≠ text "payload" := by decide
  have hform := ofJson_authValue timestamp (lowerHex_hexText (n := 32) (by rw [entropy.2]))
    (lowerHex_hexText (n := 64) (by rw [hdigest]))
  have hvalid : (Auth.mk (timestampNumber timestamp) (widen (hexText entropy.1))
      (widen (hexText digest))).valid H (.obj ms) secret now =
      decide (createHmac H secret (signedText (.obj ms) (timestampNumber timestamp)
        (widen (hexText entropy.1))) = digest) := by
    have hinteger : (timestampNumber timestamp).safeInteger = some timestamp.toInt :=
      safeInteger_ofDecimal hsafe
    simp [Auth.valid, hinteger, hexBuffer_hexText, not_lt.2 hskew]
  simp only [verifyEnvelope, if_neg hsecret, Json.get_head, Json.get_tail hauth, hform, hvalid,
    truthy, Bool.true_and, decide_eq_true_eq, ReplayCache.accept_new hunused, if_true]

end verification

/-! ## ASCII -/

theorem isAscii_narrow {t : Text} (h : Numeric t) : IsAscii (narrow t) := by
  intro b hb
  obtain ⟨u, hu, rfl⟩ := mem_map.1 hb
  exact forall_numeric (P := fun u => u.toUInt8 < 0x80) (by decide) (by decide) (h u hu)

theorem isAscii_integerText (n : ℤ) : IsAscii (integerText n) := isAscii_narrow (numeric_decimalInt n)

theorem isAscii_hexText (bytes : Bytes) : IsAscii (hexText bytes) :=
  isAscii_flatMap (forall_byte (by decide))

theorem isAscii_escapeJson (s : Bytes) : IsAscii (escapeJson s) :=
  isAscii_flatMap (forall_byte (by decide))

theorem isAscii_double (d : Double) : IsAscii (narrow d.text) := by
  cases d with
  | nan => decide
  | infinite negative => cases negative <;> decide
  | finite negative magnitude => exact isAscii_narrow (numeric_finite negative magnitude)

theorem isAscii_envelopeText (e : Envelope) : IsAscii (envelopeText e) := by
  unfold envelopeText
  simp only [isAscii_append, isAscii_integerText, isAscii_escapeJson]
  decide

theorem isAscii_emit (sink : UdpJsonTraceSink) (now : Int64) (a : Emit)
    (hevent : IsAscii (chars a.event)) : IsAscii (sink.emit now a) := by
  have hedge : IsAscii (edgeText a.edgeId) := by
    unfold edgeText
    split_ifs
    · decide
    · simp only [isAscii_append, isAscii_escapeJson]
      decide
  have hmessage : IsAscii (messageText a.message) := by
    unfold messageText
    split_ifs
    · decide
    · simp only [isAscii_append, isAscii_escapeJson]
      decide
  have hcpu : IsAscii (cpuText a.cpuPercent) := by
    unfold cpuText
    split_ifs
    · simp only [isAscii_append, isAscii_double]
      decide
    · decide
  have henvelope : IsAscii (a.envelope.elim [] envelopeText) := by
    cases a.envelope with
    | none => decide
    | some e => exact isAscii_envelopeText e
  unfold emit
  simp only [isAscii_append, isAscii_integerText, isAscii_escapeJson, hevent, hedge, hmessage, hcpu,
    henvelope]
  decide

theorem isAscii_payload (sink : UdpJsonTraceSink) (now : Int64) (c : Call) :
    IsAscii (sink.payload now c) := by
  unfold payload
  cases hrecord : c.record with
  | trace a =>
    refine isAscii_emit sink now a ?_
    rw [← escapeJson_event c hrecord]
    exact isAscii_escapeJson _
  | edgeTotals edgeId sent packets wireBytes =>
    have hdirection : IsAscii (chars (if sent then "sent" else "received")) := by
      cases sent <;> decide
    unfold UdpJsonTraceSink.edgeTotals
    simp only [isAscii_append, isAscii_integerText, isAscii_escapeJson, isAscii_hexText, hdirection]
    decide
  | capture edgeId e direction file packetIndex fileOffset =>
    unfold UdpJsonTraceSink.capture
    simp only [isAscii_append, isAscii_integerText, isAscii_escapeJson]
    decide

/-! ## The sink and the collector -/

/-- The circumstances of a datagram: sink and collector have the same secret, the
    collector's clock is within the allowed skew of the sender's, and the nonce
    was not used before. -/
structure InTime (sink : UdpJsonTraceSink) (m : Moment) (entropy : Entropy) (secret : Text)
    (cache : ReplayCache) (now : ℤ) : Prop where
  secret_ne : secret ≠ []
  same_secret : sink.secret m = .ok (encode secret)
  has_entropy : m.entropy = some entropy
  /-- A time value of ECMAScript. -/
  date : |now| ≤ 8640000000000000
  skew : |now - m.signedAt.toInt| ≤ maxClockSkewMs
  unused : ∀ entry ∈ cache.values, entry.1 ≠ widen (hexText entropy.1)

/-- The two messages, the one that was signed and the one that is signed again,
    have the same digest only if they are the same. -/
def NoCollision (H : Hmac) (m : Moment) (entropy : Entropy) (secret : Text) (payload : Bytes) :
    Prop :=
  ∀ v, parse (widen payload) = some v →
    createHmac H secret (signedText v (timestampNumber m.signedAt) (widen (hexText entropy.1))) =
      H.digest (encode secret) (signedValue m.signedAt (hexText entropy.1) payload) →
    encode (signedText v (timestampNumber m.signedAt) (widen (hexText entropy.1))) =
      signedValue m.signedAt (hexText entropy.1) payload

section collector

variable {H : Hmac} {sink : UdpJsonTraceSink} {m : Moment} {entropy : Entropy} {secret : Text}
  {cache : ReplayCache} {now : ℤ} {payload : Bytes}

theorem isAscii_signedValue (m : Moment) (entropy : Entropy) (hascii : IsAscii payload) :
    IsAscii (signedValue m.signedAt (hexText entropy.1) payload) := by
  unfold signedValue
  simp only [isAscii_append, isAscii_integerText, isAscii_hexText, hascii]
  decide

variable (h : InTime sink m entropy secret cache now)
include h

theorem InTime.safe : m.signedAt.toInt.natAbs < 2 ^ 53 := by
  have hdate := abs_le.1 h.date
  have hskew := abs_le.1 h.skew
  simp only [maxClockSkewMs] at hskew
  omega

variable (hascii : IsAscii payload)
include hascii

theorem isAscii_sign : IsAscii (sink.sign H m payload) := by
  rw [sign_eq h.same_secret (encode_ne_nil h.secret_ne) h.has_entropy]
  have hsignature : IsAscii (signature H m (encode secret) entropy payload) := isAscii_hexText _
  simp only [isAscii_append, isAscii_integerText, isAscii_hexText, hascii, hsignature]
  decide

theorem parse_sign : parse (decode (sink.sign H m payload)) = parse (signedObject (widen payload)
    m.signedAt (hexText entropy.1) (signature H m (encode secret) entropy payload)) := by
  rw [decode_widen (isAscii_sign h hascii),
    widen_sign h.same_secret (encode_ne_nil h.secret_ne) h.has_entropy]

theorem encode_signedText_iff (v : Json) :
    encode (signedText v (timestampNumber m.signedAt) (widen (hexText entropy.1))) =
      signedValue m.signedAt (hexText entropy.1) payload ↔ stringify v = widen payload := by
  have hvalue := isAscii_signedValue m entropy hascii
  constructor
  · intro heq
    have := encode_injective_ascii hvalue heq
    rw [signedText_eq h.safe, widen_signedValue] at this
    simpa using this
  · intro heq
    rw [signedText_eq h.safe, heq, ← widen_signedValue, encode_widen hvalue]

theorem verifyDatagram_sign {ms : List (Text × Json)} (hreads : Reads (widen payload) (.obj ms)) :
    (verifyDatagram H (sink.sign H m payload) secret cache now).1 =
      if createHmac H secret (signedText (.obj ms) (timestampNumber m.signedAt)
          (widen (hexText entropy.1))) =
        H.digest (encode secret) (signedValue m.signedAt (hexText entropy.1) payload)
      then .obj ms else .null := by
  have hparse := (reads_signedObject hreads m.signedAt (hexText entropy.1)
    (signature H m (encode secret) entropy payload)).parse
  have hverify := verifyEnvelope_signed (H := H) ms h.secret_ne h.safe h.skew h.unused
    (H.length_digest (encode secret) (signedValue m.signedAt (hexText entropy.1) payload))
  rw [verifyDatagram, parse_sign h hascii, hparse]
  simp only [signature, hmacHex, hverify]
  split_ifs <;> rfl

theorem returned_of_survives {ms : List (Text × Json)} (hreads : Reads (widen payload) (.obj ms))
    (hsurvives : Survives (widen payload)) :
    (verifyDatagram H (sink.sign H m payload) secret cache now).1 = .obj ms := by
  have hprint := hreads.survives_iff.1 hsurvives
  rw [verifyDatagram_sign h hascii hreads, if_pos]
  rw [createHmac, (encode_signedText_iff h hascii _).2 hprint]

variable (hcollision : NoCollision H m entropy secret payload)
  (hobject : (∃ ms, Reads (widen payload) (.obj ms)) ∨ Fails (widen payload))
include hcollision hobject

theorem rejected_of_not_survives (hsurvives : ¬Survives (widen payload)) :
    (verifyDatagram H (sink.sign H m payload) secret cache now).1 = .null := by
  rcases hobject with ⟨ms, hreads⟩ | hfails
  · rw [verifyDatagram_sign h hascii hreads, if_neg]
    intro hdigest
    have hsame := hcollision _ hreads.parse hdigest
    exact hsurvives (hreads.survives_iff.2 ((encode_signedText_iff h hascii _).1 hsame))
  · rw [verifyDatagram, parse_sign h hascii, (fails_signedObject hfails _ _ _).parse]

/-- **The collector returns a payload if and only if its text survives.** -/
theorem returned_iff_survives :
    parse (widen payload) = some (verifyDatagram H (sink.sign H m payload) secret cache now).1 ↔
      Survives (widen payload) := by
  by_cases hsurvives : Survives (widen payload)
  · rcases hobject with ⟨ms, hreads⟩ | hfails
    · rw [returned_of_survives h hascii hreads hsurvives, hreads.parse]
      exact iff_of_true rfl hsurvives
    · exact absurd hsurvives hfails.not_survives
  · rw [rejected_of_not_survives h hascii hcollision hobject hsurvives]
    refine iff_of_false (fun hparse => ?_) hsurvives
    rcases hobject with ⟨ms, hreads⟩ | hfails
    · cases hreads.parse.symm.trans hparse
    · cases hfails.parse.symm.trans hparse

end collector

/-- **Which callbacks reach the collector.**  It returns the payload, printed as
    it was signed, if and only if every string consists of `plain` bytes and every
    number is printed by ECMAScript as the sink wrote it, as all integers below `2 ^ 53` are. -/
theorem telemetry_returned_iff (H : Hmac) (sink : UdpJsonTraceSink) (m : Moment) (entropy : Entropy)
    (secret : Text) (cache : ReplayCache) (now : ℤ) (c : Call)
    (h : InTime sink m entropy secret cache now)
    (hcollision : NoCollision H m entropy secret (sink.payload m.now c)) :
    (parse (widen (sink.payload m.now c)) =
        some (verifyDatagram H (sink.datagram H m c) secret cache now).1 ↔
      ∀ d ∈ sink.members m.now c, d.2.Survives) ∧
    (Survives (widen (sink.payload m.now c)) ↔ ∀ d ∈ sink.members m.now c, d.2.Survives) ∧
    ∀ n : ℤ, |n| < 2 ^ 53 → (Datum.integer n).Survives := by
  have hiff := survives_payload_iff sink m.now c
  refine ⟨?_, hiff, fun n hn => survives_decimalInt ?_⟩
  · rw [← hiff]
    exact returned_iff_survives h (isAscii_payload sink m.now c) hcollision
      (payload_object sink m.now c)
  · rw [Int.abs_eq_natAbs] at hn
    exact_mod_cast hn

/-! A sink and a collector that share a secret. -/

/-- A digest that tells one message from all others. -/
def recognising (message : Bytes) : Hmac where
  digest _ other := List.replicate 32 (if other = message then 0 else 1)
  length_digest _ _ := List.length_replicate

theorem eq_of_recognising {message other key : Bytes}
    (h : (recognising message).digest key other = (recognising message).digest key message) :
    other = message := by
  by_contra hne
  simp [recognising, hne] at h

def sampleSecret : Text := text "runtime-control-secret-012345678901"

def sampleEntropy : Entropy := ⟨List.replicate 16 0, rfl⟩

def sampleSink : UdpJsonTraceSink :=
  ⟨chars "generator", encode sampleSecret, false, sampleEntropy⟩

def sampleMoment : Moment := ⟨1700000000000, .ok [], 1700000000000, some sampleEntropy⟩

/-- The digest that recognises what is signed for the callback. -/
def sampleHmac (c : Call) : Hmac :=
  recognising (signedValue sampleMoment.signedAt (hexText sampleEntropy.1)
    (sampleSink.payload sampleMoment.now c))

theorem inTime_sample :
    InTime sampleSink sampleMoment sampleEntropy sampleSecret .new 1700000000000 where
  secret_ne := by decide
  same_secret := rfl
  has_entropy := rfl
  date := by norm_num
  skew := by decide
  unused := fun _ h => absurd h (by simp [ReplayCache.new])

theorem noCollision_sample (c : Call) : NoCollision (sampleHmac c) sampleMoment sampleEntropy
    sampleSecret (sampleSink.payload sampleMoment.now c) :=
  fun _ _ hdigest => eq_of_recognising hdigest

theorem survives_string {s : Bytes} (h : s.all plain = true) : (Datum.string s).Survives :=
  all_eq_true.1 h

/-- An error of an edge reaches the collector. -/
theorem telemetry_returned_sample :
    parse (widen (sampleSink.payload sampleMoment.now (.onError (chars "samples") (chars "late")))) =
      some (verifyDatagram (sampleHmac (.onError (chars "samples") (chars "late")))
        (sampleSink.datagram (sampleHmac (.onError (chars "samples") (chars "late"))) sampleMoment
          (.onError (chars "samples") (chars "late")))
        sampleSecret .new 1700000000000).1 := by
  refine (telemetry_returned_iff _ _ _ sampleEntropy _ _ _ _ inTime_sample
    (noCollision_sample _)).1.2 ?_
  have hmembers : sampleSink.members sampleMoment.now (.onError (chars "samples") (chars "late")) =
      [("kind", .string (chars "trace")), ("event", .string (chars "error")),
        ("nodeId", .string (chars "generator")), ("edgeId", .string (chars "samples")),
        ("timestamp", .integer 1700000000000), ("wireBytes", .integer 0), ("latencyUs", .integer 0),
        ("message", .string (chars "late"))] := rfl
  rw [hmembers]
  simp only [forall_mem_cons, not_mem_nil, false_imp_iff, implies_true, and_true]
  exact ⟨survives_string (by decide), survives_string (by decide),
    survives_string (by decide), survives_string (by decide),
    survives_decimalInt (by decide), survives_decimalInt (by decide),
    survives_decimalInt (by decide), survives_string (by decide)⟩

/-- A callback whose datagram is not returned, although it is in time and signed
    with the secret of the collector. -/
def Rejected (c : Call) : Prop :=
  ∃ H, InTime sampleSink sampleMoment sampleEntropy sampleSecret .new 1700000000000 ∧
    NoCollision H sampleMoment sampleEntropy sampleSecret (sampleSink.payload sampleMoment.now c) ∧
    (verifyDatagram H (sampleSink.datagram H sampleMoment c) sampleSecret .new 1700000000000).1 = .null

theorem rejected_of_member {c : Call} {d : Member} (hmem : d ∈ sampleSink.members sampleMoment.now c)
    (hnot : ¬d.2.Survives) : Rejected c := by
  refine ⟨sampleHmac c, inTime_sample, noCollision_sample c, ?_⟩
  refine rejected_of_not_survives inTime_sample (isAscii_payload _ _ c) (noCollision_sample c)
    (payload_object _ _ c) fun hsurvives => hnot ?_
  exact (survives_payload_iff _ _ c).1 hsurvives d hmem

/-- Neither an error that holds the byte `7f` reaches it, which `escape_json`
    writes as `\u007f`, nor an envelope with the sequence number `2 ^ 53 + 1`,
    which ECMAScript prints as `2 ^ 53`. -/
theorem telemetry_rejected_sample :
    Rejected (.onError (chars "samples") [0x7f]) ∧
      Rejected (.onSend (chars "samples") { sampleEnvelope with sequence := 9007199254740993 } 10) := by
  constructor
  · refine @rejected_of_member _ ("message", .string [0x7f]) (mem_of_getElem? (i := 7) rfl) ?_
    exact fun hmessage => absurd (hmessage 0x7f (by simp)) (by decide)
  · refine @rejected_of_member _ ("sequence", .integer 9007199254740993)
      (mem_of_getElem? (i := 7) rfl) ?_
    have hnot : ¬Survives (decimalInt 9007199254740993) := by decide +kernel
    exact hnot

end GraphX
