/-
  What the texts of the telemetry sink say, and which of them a reader gets back
  that parses them and prints them again.

  * `members`: a callback as names and data.  **`payload_eq`**: its text is the
    JSON object of these members.
  * `Datum.Survives`: a string survives if every byte of it is `plain`, a number
    if it is printed as it was written.  **`survives_payload_iff`**: a text
    survives if all its data do.
-/
import GraphX.Telemetry

namespace GraphX

open Ecma List

/-! ## Data -/

/-- A value that is written.  A `double` is written only if it is at least zero. -/
inductive Datum where
  | string (s : Bytes)
  | integer (n : ℤ)
  | double (d : {d : Double // d.atLeastZero = true})

/-- The datum as the sink writes it. -/
def Datum.text : Datum → Text
  | string s => unit '"' :: widen (escapeJson s) ++ [unit '"']
  | integer n => decimalInt n
  | double d => d.1.text

/-- The bytes that `escape_json` and `JSON.stringify` write in the same way. -/
def plain (byte : UInt8) : Bool := byte < 0x7f && byte ≠ 0x08 && byte ≠ 0x0c

/-- The datum is printed as the sink wrote it. -/
def Datum.Survives : Datum → Prop
  | string s => ∀ byte ∈ s, plain byte = true
  | integer n => Ecma.Survives (decimalInt n)
  | double d => Ecma.Survives d.1.text

/-! ### Strings -/

theorem widen_escapeJson (s : Bytes) :
    widen (escapeJson s) = s.flatMap fun byte => widen (escapeByte byte) := by
  simp [widen, escapeJson, map_flatMap]

theorem spells_hexDigits (b : UInt8) :
    Spells (widen (chars "\\u00" ++ Reader.hexDigits b)) b.toUInt16 := by
  obtain ⟨hhigh, hlow⟩ := hexValue_hexDigits b
  have hbyte : ∀ b : UInt8, ((0 : UInt16) <<< 12 ||| (0 : UInt16) <<< 8 |||
      (b >>> 4).toUInt16 <<< 4 ||| (b &&& 0x0f).toUInt16) = b.toUInt16 :=
    forall_byte (by decide)
  have hzero : Ecma.hexValue (unit '0') = some 0 := by decide
  have hspells := spells_unicode hzero hzero hhigh hlow
  rw [hbyte] at hspells
  exact hspells

theorem spells_escapeByte (b : UInt8) : Spells (widen (escapeByte b)) b.toUInt16 := by
  unfold escapeByte
  split_ifs with h1 h2 h3 h4 h5 h6
  · exact h1 ▸ spells_escape (by decide) (by decide)
  · exact h2 ▸ spells_escape (by decide) (by decide)
  · exact h3 ▸ spells_escape (by decide) (by decide)
  · exact h4 ▸ spells_escape (by decide) (by decide)
  · exact h5 ▸ spells_escape (by decide) (by decide)
  · exact spells_hexDigits b
  · have hunit : ∀ b : UInt8, b ≠ ascii '\\' → b ≠ ascii '"' → ¬(b < 0x20 || b ≥ 0x7f) →
        ¬b.toUInt16 < 0x20 ∧ b.toUInt16 ≠ unit '"' ∧ b.toUInt16 ≠ unit '\\' :=
      forall_byte (by decide)
    obtain ⟨h7, h8, h9⟩ := hunit b h1 h2 h6
    exact spells_unit h7 h8 h9

theorem stringBody_escapeJson (s : Bytes) (rest : Text) :
    stringBody (widen (escapeJson s) ++ unit '"' :: rest) = some (widen s, rest) := by
  rw [widen_escapeJson]
  exact stringBody_flatMap spells_escapeByte s rest

theorem lt_surrogate_of_mem_widen {s : Bytes} : ∀ u ∈ widen s, u < 0xd800 := by
  intro u hu
  obtain ⟨b, -, rfl⟩ := mem_map.1 hu
  have hlt := b.toNat_lt
  exact lt_trans hlt (by decide)

theorem reads_datum_string (s : Bytes) : Reads (Datum.string s).text (.str (widen s)) :=
  reads_string (stringBody_escapeJson s)

theorem separate_datum_string (s : Bytes) :
    Separate (Datum.string s).text (stringify (.str (widen s))) := by
  exact separate_string (stringBody_escapeJson s) (stringBody_quoteBody _)

theorem quoteUnit_plain : ∀ b : UInt8, plain b = true →
    quoteUnit b.toUInt16 = widen (escapeByte b) :=
  forall_byte (by decide)

/-- Of the other bytes the two texts differ in their first or second unit. -/
theorem quoteUnit_not_plain : ∀ b : UInt8, plain b = false → ∃ i : Fin 2,
    i < (quoteUnit b.toUInt16).length ∧ i < (widen (escapeByte b)).length ∧
      (quoteUnit b.toUInt16)[i.val]? ≠ (widen (escapeByte b))[i.val]? :=
  forall_byte (by decide)

theorem quoteUnit_ne {b : UInt8} (h : plain b = false) (x y : Text) :
    quoteUnit b.toUInt16 ++ x ≠ widen (escapeByte b) ++ y := by
  obtain ⟨i, hi, hi', hne⟩ := quoteUnit_not_plain b h
  intro heq
  have hat : (quoteUnit b.toUInt16 ++ x)[i.val]? = (widen (escapeByte b) ++ y)[i.val]? := by
    rw [heq]
  rw [getElem?_append_left hi, getElem?_append_left hi'] at hat
  exact hne hat

theorem flatMap_quoteUnit_iff (s : Bytes) (rest : Text) :
    (widen s).flatMap quoteUnit ++ rest = widen (escapeJson s) ++ rest ↔
      ∀ byte ∈ s, plain byte = true := by
  induction s with
  | nil => simp [escapeJson]
  | cons b s ih =>
    rw [widen_escapeJson] at ih ⊢
    simp only [widen_cons, flatMap_cons, append_assoc, forall_mem_cons]
    cases hb : plain b with
    | true => rw [quoteUnit_plain b hb, append_cancel_left_eq, ih]; simp
    | false => simpa using quoteUnit_ne hb _ _

theorem survives_string_iff (s : Bytes) :
    Ecma.Survives (Datum.string s).text ↔ (Datum.string s).Survives := by
  rw [(reads_datum_string s).survives_iff, stringify, quote, quoteBody_eq lt_surrogate_of_mem_widen]
  simp only [Datum.text, cons_append, cons.injEq, true_and]
  exact flatMap_quoteUnit_iff s _

/-! ### Numbers -/

theorem settled_integer (n : ℤ) : Settled (Datum.integer n).text :=
  .inl ⟨_, reads_decimalInt n, separate_number (numeric_decimalInt n) _⟩

theorem settled_of_lexes {t : Text} (h : Lexes t) (hn : Numeric t) : Settled t := by
  obtain ⟨n, hreads⟩ := h.reads
  exact .inl ⟨_, hreads, separate_number hn n⟩

theorem lexes_minus_zero : Lexes [unit '-', unit '0'] := by
  refine ⟨(true, 0, 0), fun rest hrest => ?_⟩
  have h := (integerPart_decimal 0).unsigned true hrest.not_isDigit hrest.fraction hrest.exponent
  exact h

/-- `inf` is no JSON. -/
theorem fails_inf : Fails (Double.infinite false).text := by
  intro n hn rest _
  obtain ⟨n, rfl⟩ : ∃ m, n = m + 1 := ⟨n - 1, by
    have : (Double.infinite false).text.length = 3 := by decide
    omega⟩
  rfl

theorem settled_double (d : {d : Double // d.atLeastZero = true}) :
    Settled (Datum.double d).text := by
  obtain ⟨d, h⟩ := d
  cases d with
  | nan => exact absurd h (by decide)
  | infinite negative =>
    cases negative with
    | true => exact absurd h (by decide)
    | false => exact .inr fails_inf
  | finite negative magnitude =>
    simp only [Datum.text, Double.text]
    by_cases hm : magnitude = 0
    · rw [if_pos hm]
      cases negative with
      | false => exact settled_integer 0
      | true => exact settled_of_lexes lexes_minus_zero ((numeric_nil.cons rfl).cons rfl)
    · obtain rfl : negative = false := by simpa [Double.atLeastZero, hm] using h
      have hpos : (0 : ℚ) < magnitude := by exact_mod_cast pos_iff_ne_zero.2 hm
      rw [if_neg hm]
      exact settled_of_lexes (lexes_printGeneral (by decide) hpos) (numeric_printGeneral 15 _)

theorem settled_text (d : Datum) : Settled d.text := by
  cases d with
  | string s => exact .inl ⟨_, reads_datum_string s, separate_datum_string s⟩
  | integer n => exact settled_integer n
  | double d => exact settled_double d

theorem Datum.survives_iff (d : Datum) : Ecma.Survives d.text ↔ d.Survives := by
  cases d with
  | string s => exact survives_string_iff s
  | integer n | double x => rfl

/-! ## Members -/

abbrev Member := String × Datum

def Member.entry (m : Member) : Text × Text := (Ecma.text m.1, m.2.text)

namespace UdpJsonTraceSink

def envelopeMembers (e : Envelope) : List Member :=
  [("sequence", .integer e.sequence.toNat), ("wireVersion", .integer e.wireVersion.toNat),
    ("type", .string e.type), ("payloadBytes", .integer e.payload.length),
    ("messageId", .string e.messageId), ("parentMessageId", .string e.parentMessageId),
    ("traceId", .string e.traceId)]

def edgeMember (edgeId : Bytes) : List Member :=
  if edgeId.isEmpty then [] else [("edgeId", .string edgeId)]

def messageMember (message : Bytes) : List Member :=
  if message.isEmpty then [] else [("message", .string message)]

def cpuMember (cpuPercent : Double) : List Member :=
  if h : cpuPercent.atLeastZero = true then [("cpuPercent", .double ⟨cpuPercent, h⟩)] else []

def headMembers (sink : UdpJsonTraceSink) (event : String) : List Member :=
  [("kind", .string (chars "trace")), ("event", .string (chars event)),
    ("nodeId", .string sink.nodeId)]

def clockMembers (now : Int64) (a : Emit) : List Member :=
  [("timestamp", .integer now.toInt), ("wireBytes", .integer a.wireBytes),
    ("latencyUs", .integer (microseconds a.latency))]

def emitMembers (sink : UdpJsonTraceSink) (now : Int64) (a : Emit) : List Member :=
  sink.headMembers a.event ++ edgeMember a.edgeId ++ clockMembers now a ++
    a.envelope.elim [] envelopeMembers ++ messageMember a.message ++ cpuMember a.cpuPercent

def edgeTotalsMembers (sink : UdpJsonTraceSink) (now : Int64) (edgeId : Bytes) (sent : Bool)
    (packets wireBytes : UInt64) : List Member :=
  [("kind", .string (chars "edge_totals")), ("event", .string (chars "totals")),
    ("nodeId", .string sink.nodeId), ("edgeId", .string edgeId),
    ("direction", .string (chars (if sent then "sent" else "received"))),
    ("sessionId", .string (hexText sink.counterSession.1)), ("timestamp", .integer now.toInt),
    ("packets", .integer packets.toNat), ("wireBytes", .integer wireBytes.toNat)]

def captureMembers (sink : UdpJsonTraceSink) (now : Int64) (edgeId : Bytes) (e : Envelope)
    (direction file : Bytes) (packetIndex fileOffset : UInt64) : List Member :=
  [("kind", .string (chars "capture")), ("event", .string (chars "frame")),
    ("nodeId", .string sink.nodeId), ("edgeId", .string edgeId),
    ("timestamp", .integer now.toInt), ("sequence", .integer e.sequence.toNat),
    ("wireVersion", .integer e.wireVersion.toNat), ("type", .string e.type),
    ("messageId", .string e.messageId), ("parentMessageId", .string e.parentMessageId),
    ("traceId", .string e.traceId), ("direction", .string direction),
    ("captureFile", .string file), ("capturePacket", .integer packetIndex.toNat),
    ("captureOffset", .integer fileOffset.toNat)]

/-- What the text of a callback says. -/
def members (sink : UdpJsonTraceSink) (now : Int64) (c : Call) : List Member :=
  match c.record with
  | .trace a => sink.emitMembers now a
  | .edgeTotals edgeId sent packets wireBytes =>
    sink.edgeTotalsMembers now edgeId sent packets wireBytes
  | .capture edgeId envelope direction file packetIndex fileOffset =>
    sink.captureMembers now edgeId envelope direction file packetIndex fileOffset

/-! ## Texts of objects -/

theorem widen_narrow {t : Text} (h : ∀ u ∈ t, u < 0x100) : widen (narrow t) = t := by
  rw [widen, narrow, map_map]
  refine (map_congr_left fun u hu => ?_).trans (map_id t)
  have hlt : u.toNat < 256 := h u hu
  apply UInt16.toNat_inj.1
  simp only [Function.comp_apply, UInt8.toNat_toUInt16, UInt16.toNat_toUInt8, id_eq]
  omega

theorem lt_of_isNumeric {u : UInt16} (h : isNumeric u = true) : u < 0x100 :=
  forall_numeric (P := fun u => u < 0x100) (by decide) (by decide) h

theorem widen_integerText (n : ℤ) : widen (integerText n) = decimalInt n :=
  widen_narrow fun u hu => lt_of_isNumeric (numeric_decimalInt n u hu)

theorem numeric_finite (negative : Bool) (magnitude : ℚ≥0) :
    Numeric (Double.finite negative magnitude).text := by
  have hsign : Numeric (if negative then [unit '-'] else []) := by
    split_ifs
    · exact numeric_nil.cons rfl
    · exact numeric_nil
  have hdigits : Numeric (if magnitude = 0 then [unit '0'] else printGeneral 15 magnitude) := by
    split_ifs
    · exact numeric_nil.cons rfl
    · exact numeric_printGeneral 15 _
  exact hsign.append hdigits

theorem widen_double (d : Double) : widen (narrow d.text) = d.text := by
  cases d with
  | nan => rfl
  | infinite negative => cases negative <;> rfl
  | finite negative magnitude =>
    exact widen_narrow fun u hu => lt_of_isNumeric (numeric_finite negative magnitude u hu)

theorem escapeJson_hexText (bytes : Bytes) : escapeJson (hexText bytes) = hexText bytes := by
  have hdigits : ∀ b : UInt8, (Reader.hexDigits b).flatMap escapeByte = Reader.hexDigits b :=
    forall_byte (by decide)
  rw [escapeJson, hexText, flatMap_assoc]
  exact congrArg (flatMap · bytes) (funext hdigits)

/-- Members behind commas. -/
abbrev tailText (ms : List Member) : Text := ms.flatMap fun m => unit ',' :: fieldText m.entry

theorem widen_envelopeText (e : Envelope) : widen (envelopeText e) = tailText (envelopeMembers e) := by
  unfold envelopeText
  simp only [tailText, envelopeMembers, flatMap_cons, flatMap_nil, Member.entry, fieldText,
    Datum.text]
  simp only [cons_append, nil_append, append_nil, append_assoc]
  simp only [widen_append, widen_integerText]
  rfl

theorem widen_edgeText (edgeId : Bytes) : widen (edgeText edgeId) = tailText (edgeMember edgeId) := by
  unfold edgeText edgeMember
  split_ifs
  · rfl
  · simp only [flatMap_cons, Member.entry, fieldText, Datum.text,
      cons_append, append_assoc, widen_append]
    rfl

theorem widen_messageText (message : Bytes) :
    widen (messageText message) = tailText (messageMember message) := by
  unfold messageText messageMember
  split_ifs
  · rfl
  · simp only [flatMap_cons, Member.entry, fieldText, Datum.text,
      cons_append, append_assoc, widen_append]
    rfl

theorem widen_cpuText (cpuPercent : Double) :
    widen (cpuText cpuPercent) = tailText (cpuMember cpuPercent) := by
  unfold cpuText cpuMember
  split_ifs
  · simp only [flatMap_cons, flatMap_nil, Member.entry, widen_append, widen_double, append_nil]
    rfl
  · rfl

variable (sink : UdpJsonTraceSink) (now : Int64)

theorem widen_emit (a : Emit)
    (hevent : escapeJson (chars a.event) = chars a.event) :
    widen (sink.emit now a) = object ((sink.emitMembers now a).map Member.entry) := by
  have henvelope : widen (a.envelope.elim [] envelopeText) =
      tailText (a.envelope.elim [] envelopeMembers) := by
    cases a.envelope with
    | none => rfl
    | some e => exact widen_envelopeText e
  have htail : sink.emitMembers now a = ("kind", .string (chars "trace")) ::
      ([("event", .string (chars a.event)), ("nodeId", .string sink.nodeId)] ++
        (edgeMember a.edgeId ++ (clockMembers now a ++ (a.envelope.elim [] envelopeMembers ++
          (messageMember a.message ++ cpuMember a.cpuPercent))))) := by
    simp [emitMembers, headMembers]
  rw [htail, map_cons, object_cons, flatMap_map, flatMap_append, flatMap_append,
    flatMap_append, flatMap_append, flatMap_append]
  unfold emit
  simp only [widen_append, widen_edgeText, henvelope, widen_messageText, widen_cpuText,
    widen_integerText]
  simp only [clockMembers, flatMap_cons, Member.entry, fieldText, Datum.text,
    hevent]
  simp only [cons_append, append_assoc]
  rfl

set_option maxRecDepth 2000 in
theorem widen_edgeTotals (edgeId : Bytes) (sent : Bool)
    (packets wireBytes : UInt64) : widen (sink.edgeTotals now edgeId sent packets wireBytes) =
      object ((sink.edgeTotalsMembers now edgeId sent packets wireBytes).map Member.entry) := by
  unfold UdpJsonTraceSink.edgeTotals
  rw [edgeTotalsMembers, map_cons, object_cons, flatMap_map]
  simp only [flatMap_cons, flatMap_nil, Member.entry, fieldText, Datum.text,
    escapeJson_hexText]
  simp only [cons_append, nil_append, append_nil, append_assoc]
  simp only [widen_append, widen_integerText]
  cases sent <;> rfl

set_option maxRecDepth 4000 in
theorem widen_capture (edgeId : Bytes) (e : Envelope)
    (direction file : Bytes) (packetIndex fileOffset : UInt64) :
    widen (sink.capture now edgeId e direction file packetIndex fileOffset) = object
      ((sink.captureMembers now edgeId e direction file packetIndex fileOffset).map Member.entry) := by
  unfold UdpJsonTraceSink.capture
  rw [captureMembers, map_cons, object_cons, flatMap_map]
  simp only [flatMap_cons, flatMap_nil, Member.entry, fieldText, Datum.text]
  simp only [cons_append, nil_append, append_nil, append_assoc]
  simp only [widen_append, widen_integerText]
  rfl

theorem escapeJson_event (c : Call) {a : Emit} (h : c.record = .trace a) :
    escapeJson (chars a.event) = chars a.event := by
  have hplain : ∀ e ∈ ["send", "receive", "error", "connection", "reconnect", "backpressure",
      "processing", "heartbeat"], escapeJson (chars e) = chars e := by decide
  refine hplain a.event ?_
  cases c
  case onEdgeTotals | onCapture => cases h
  all_goals
    obtain rfl := Record.trace.inj h
    simp

variable (c : Call)

/-- **The text of a callback is the JSON object of its members.** -/
theorem payload_eq :
    widen (sink.payload now c) = object ((sink.members now c).map Member.entry) := by
  unfold payload members
  cases hrecord : c.record with
  | trace a => exact widen_emit sink now a (escapeJson_event c hrecord)
  | edgeTotals edgeId sent packets wireBytes =>
    exact widen_edgeTotals sink now edgeId sent packets wireBytes
  | capture edgeId e direction file packetIndex fileOffset =>
    exact widen_capture sink now edgeId e direction file packetIndex fileOffset

/-! ## Survival -/

def emitNames : List String :=
  ["kind", "event", "nodeId", "edgeId", "timestamp", "wireBytes", "latencyUs", "sequence",
    "wireVersion", "type", "payloadBytes", "messageId", "parentMessageId", "traceId", "message",
    "cpuPercent"]

def edgeTotalsNames : List String :=
  ["kind", "event", "nodeId", "edgeId", "direction", "sessionId", "timestamp", "packets",
    "wireBytes"]

def captureNames : List String :=
  ["kind", "event", "nodeId", "edgeId", "timestamp", "sequence", "wireVersion", "type",
    "messageId", "parentMessageId", "traceId", "direction", "captureFile", "capturePacket",
    "captureOffset"]

theorem emitNames_sublist (a : Emit) :
    ((sink.emitMembers now a).map Prod.fst).Sublist emitNames := by
  have hedge : ((edgeMember a.edgeId).map Prod.fst).Sublist ["edgeId"] := by
    unfold edgeMember
    split_ifs <;> simp
  have hmessage : ((messageMember a.message).map Prod.fst).Sublist ["message"] := by
    unfold messageMember
    split_ifs <;> simp
  have hcpu : ((cpuMember a.cpuPercent).map Prod.fst).Sublist ["cpuPercent"] := by
    unfold cpuMember
    split_ifs <;> simp
  have henvelope : ((a.envelope.elim [] envelopeMembers).map Prod.fst).Sublist
      ["sequence", "wireVersion", "type", "payloadBytes", "messageId", "parentMessageId",
        "traceId"] := by
    cases a.envelope with
    | none => exact nil_sublist _
    | some e => exact List.Sublist.refl _
  simp only [emitMembers, map_append]
  exact ((((((List.Sublist.refl _).append hedge).append (List.Sublist.refl _)).append
    henvelope).append hmessage).append hcpu)

theorem names_sublist :
    ∃ names ∈ [emitNames, edgeTotalsNames, captureNames],
      ((sink.members now c).map Prod.fst).Sublist names := by
  unfold members
  cases c.record with
  | trace a => exact ⟨_, by simp, emitNames_sublist sink now a⟩
  | edgeTotals => exact ⟨edgeTotalsNames, by simp, List.Sublist.refl _⟩
  | capture => exact ⟨captureNames, by simp, List.Sublist.refl _⟩

theorem isName_members :
    ∀ m ∈ sink.members now c, IsName (Ecma.text m.1) := by
  have hall : ∀ names ∈ [emitNames, edgeTotalsNames, captureNames], ∀ n ∈ names,
      IsName (Ecma.text n) := by decide
  obtain ⟨names, hmem, hsub⟩ := names_sublist sink now c
  exact fun m hm => hall names hmem m.1 (hsub.subset (mem_map_of_mem hm))

theorem nodup_members :
    (((sink.members now c).map Member.entry).map Prod.fst).Nodup := by
  have hall : ∀ names ∈ [emitNames, edgeTotalsNames, captureNames],
      (names.map Ecma.text).Nodup := by decide
  obtain ⟨names, hmem, hsub⟩ := names_sublist sink now c
  have heq : ((sink.members now c).map Member.entry).map Prod.fst =
      ((sink.members now c).map Prod.fst).map Ecma.text := by
    simp [Member.entry]
  rw [heq]
  exact (hall names hmem).sublist (hsub.map _)

theorem members_ne_nil :
    (sink.members now c).map Member.entry ≠ [] := by
  unfold members
  cases c.record <;> simp [emitMembers, headMembers, edgeTotalsMembers, captureMembers]

theorem isName_entries :
    ∀ e ∈ (sink.members now c).map Member.entry, IsName e.1 :=
  forall_mem_map.2 (isName_members sink now c)

theorem settled_entries :
    ∀ e ∈ (sink.members now c).map Member.entry, Settled e.2 :=
  forall_mem_map.2 fun m _ => settled_text m.2

theorem payload_object :
    (∃ ms, Reads (widen (sink.payload now c)) (.obj ms)) ∨ Fails (widen (sink.payload now c)) := by
  rw [payload_eq]
  exact reads_or_fails (members_ne_nil sink now c) (isName_entries sink now c)
    (nodup_members sink now c) (settled_entries sink now c)

/-- **A text survives if all its data do.** -/
theorem survives_payload_iff :
    Survives (widen (sink.payload now c)) ↔ ∀ m ∈ sink.members now c, m.2.Survives := by
  rw [payload_eq, survives_entries (members_ne_nil sink now c) (isName_entries sink now c)
    (nodup_members sink now c) (settled_entries sink now c), forall_mem_map]
  exact forall₂_congr fun m _ => m.2.survives_iff

end UdpJsonTraceSink

end GraphX
