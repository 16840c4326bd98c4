/-
  The redaction of credentials (`sanitizeTelemetryEvent` of
  `apps/telemetry/security.mjs`, and its use in `handleDatagram` of `collector.mjs`).

  A string of an event has every credential replaced by a marker; other values are passed
  on as they are.  The validator admits arrays and objects under the keys that it does not
  look at.

  * **`redacted_iff`**: what observers and the history see is free of credentials iff the
    values that are not looked at are.
-/
import GraphX.Security
import GraphX.Lib.Keyed
import GraphX.Lib.Text

namespace GraphX

open Ecma List

/-! ## Keys -/

def telemetryKeys : List String :=
  ["kind", "event", "nodeId", "edgeId", "timestamp", "sequence", "wireVersion", "type",
    "payloadBytes", "wireBytes", "latencyUs", "cpuPercent", "message", "messageId",
    "parentMessageId", "traceId", "spanId", "captureFile", "direction", "capturePacket",
    "captureOffset"]

def networkPacketKeys : List String := telemetryKeys ++ packetOnlyKeys

def controlAckKeys : List String :=
  ["kind", "nodeId", "action", "accepted", "commandId", "state", "error"]

def captureKeys : List String :=
  ["kind", "event", "nodeId", "edgeId", "timestamp", "sequence", "wireVersion", "type",
    "messageId", "parentMessageId", "traceId", "direction", "captureFile", "capturePacket",
    "captureOffset"]

def hasKind (event : Json) (kind : String) : Bool := oneOf [kind] (event.get (text "kind"))

def allowedKeys (event : Json) : List String :=
  if hasKind event "control_ack" then controlAckKeys
  else if hasKind event "edge_totals" then edgeTotalKeys
  else if hasKind event "capture" then captureKeys
  else if hasKind event "network_packet" then networkPacketKeys
  else telemetryKeys

/-! ## Redaction -/

def redactionMarker : Text := text "[credential-redacted]"

/-- The credentials, without empty ones and duplicates, the longest first. -/
def secretsOf (credentials : List Text) : List Text :=
  (credentials.filter (· ≠ [])).eraseDups.mergeSort fun left right => left.length ≥ right.length

/-- `filtered.split(secret).join('[credential-redacted]')`, for each secret -/
def redact (secrets : List Text) (value : Text) : Text :=
  secrets.foldl (fun filtered secret => Text.replaceAll secret redactionMarker filtered) value

/-- The value of a member: only strings are redacted. -/
def redactValue (secrets : List Text) : Json → Json
  | .str s => .str (redact secrets s)
  | value => value

def sanitizeMembers (allowed : List String) (secrets : List Text) (ms : List (Text × Json)) :
    List (Text × Json) :=
  (ms.filter fun m => allowed.any (text · = m.1)).map fun m => (m.1, redactValue secrets m.2)

def sanitizeTelemetryEvent (event : Json) (credentials : List Text) : Json :=
  match event with
  | .obj ms => .obj (sanitizeMembers (allowedKeys event) (secretsOf credentials) ms)
  -- the keys of an array are its indices
  | .arr _ => .obj []
  | .null | .bool _ | .num _ | .str _ => event

/-- What `handleDatagram` makes of an event before anything is stored or sent. -/
def collectedEvent (event : Json) (credentials : List Text) : Json :=
  sanitizeTelemetryEvent (sanitizeControlAcknowledgement event) credentials

/-! ## What is revealed -/

mutual

/-- The strings in a value, at any depth, and the names of the members of its objects. -/
def textsOf : Json → List Text
  | .null | .bool _ | .num _ => []
  | .str s => [s]
  | .arr xs => elementTexts xs
  | .obj ms => memberTexts ms

def elementTexts : List Json → List Text
  | [] => []
  | x :: xs => textsOf x ++ elementTexts xs

def memberTexts : List (Text × Json) → List Text
  | [] => []
  | (k, v) :: ms => k :: textsOf v ++ memberTexts ms

end

def Clean (credentials : List Text) (value : Json) : Prop :=
  ∀ secret ∈ credentials, secret ≠ [] → ∀ s ∈ textsOf value, ¬secret <:+: s

/-- No credential occurs in a value of the event. -/
def CleanEvent (credentials : List Text) (event : Json) : Prop :=
  ∀ ms, event = .obj ms → ∀ m ∈ ms, Clean credentials m.2

theorem mem_secretsOf {credentials : List Text} {secret : Text} :
    secret ∈ secretsOf credentials ↔ secret ∈ credentials ∧ secret ≠ [] := by
  rw [secretsOf, (mergeSort_perm _ _).mem_iff, mem_eraseDups, mem_filter,
    decide_eq_true_eq]

/-- **No credential is left in a string.** -/
theorem redact_clean {secrets : List Text} (hne : ∀ secret ∈ secrets, secret ≠ [])
    (hplain : ∀ secret ∈ secrets, ∀ u ∈ secret, u ∉ redactionMarker) (value : Text) :
    ∀ secret ∈ secrets, ¬secret <:+: redact secrets value := by
  have hmarker : redactionMarker ≠ [] := by decide
  -- a credential that does not occur before the replacements does not occur after them
  have hkeep : ∀ (secret value : Text), (∀ u ∈ secret, u ∉ redactionMarker) → ∀ others : List Text,
      ¬secret <:+: value → ¬secret <:+: redact others value := by
    intro secret value hsecret others hnot
    induction others generalizing value with
    | nil => exact hnot
    | cons other others ih =>
      exact ih _ fun hinside => hnot (Text.infix_of_infix_replaceAll hsecret hmarker hinside)
  induction secrets generalizing value with
  | nil => simp
  | cons first rest ih =>
    obtain ⟨hfirst, hrest⟩ := forall_mem_cons.1 hne
    obtain ⟨hfirst', hrest'⟩ := forall_mem_cons.1 hplain
    rw [forall_mem_cons]
    refine ⟨?_, ih hrest hrest' _⟩
    exact hkeep first _ hfirst' rest (Text.not_infix_replaceAll hmarker hfirst hfirst')

/-- An array or an object. -/
def isStructured : Json → Bool
  | .arr _ | .obj _ => true
  | .null | .bool _ | .num _ | .str _ => false

theorem redactValue_of_structured (secrets : List Text) {value : Json}
    (h : isStructured value = true) : redactValue secrets value = value := by
  cases value <;> first | rfl | cases h

section
variable {credentials : List Text}
  (hplain : ∀ secret ∈ credentials, ∀ u ∈ secret, u ∉ redactionMarker)
include hplain

theorem clean_redactValue {value : Json} (h : isStructured value = false) :
    Clean credentials (redactValue (secretsOf credentials) value) := by
  intro secret hsecret hne s hs
  cases value with
  | str t =>
    rw [redactValue, textsOf, mem_singleton] at hs
    rw [hs]
    refine redact_clean (fun other hother => (mem_secretsOf.1 hother).2)
      (fun other hother => hplain other (mem_secretsOf.1 hother).1) t secret ?_
    exact mem_secretsOf.2 ⟨hsecret, hne⟩
  | null | bool b | num n => cases hs
  | arr xs | obj ms => cases h

/-- **The event is clean iff the structured values that are passed on are.** -/
theorem cleanEvent_sanitize {allowed : List String} {ms : List (Text × Json)} :
    CleanEvent credentials (.obj (sanitizeMembers allowed (secretsOf credentials) ms)) ↔
      ∀ m ∈ ms, allowed.any (text · = m.1) = true → isStructured m.2 = true →
        Clean credentials m.2 := by
  constructor
  · intro h m hm hallowed hstructured
    have hmem : (m.1, redactValue (secretsOf credentials) m.2) ∈
        sanitizeMembers allowed (secretsOf credentials) ms :=
      mem_map.2 ⟨m, mem_filter.2 ⟨hm, hallowed⟩, rfl⟩
    have hclean := h _ rfl _ hmem
    rwa [redactValue_of_structured _ hstructured] at hclean
  · intro h ms' hms' m' hm'
    obtain rfl := Json.obj.inj hms'
    obtain ⟨m, hm, rfl⟩ := mem_map.1 hm'
    obtain ⟨hm, hallowed⟩ := mem_filter.1 hm
    cases hstructured : isStructured m.2 with
    | false => exact clean_redactValue hplain hstructured
    | true =>
      have hclean := h m hm hallowed hstructured
      rwa [← redactValue_of_structured (secretsOf credentials) hstructured] at hclean

end

/-! ## What the validator admits -/

def Simple (value : Option Json) : Prop := ∀ v, value = some v → isStructured v = false

section
variable {value : Option Json}

theorem simple_of_stringWhere {p : Text → Bool} (h : stringWhere p value = true) : Simple value := by
  rintro v rfl
  cases v <;> first | rfl | cases h

theorem simple_of_oneOf {names : List String} (h : oneOf names value = true) : Simple value :=
  simple_of_stringWhere h

theorem simple_of_integerWhere {p : ℤ → Bool} (h : integerWhere p value = true) : Simple value := by
  rintro v rfl
  cases v <;> first | rfl | cases h

theorem simple_of_isNull (h : isNull value = true) : Simple value := by
  rintro v rfl
  cases v <;> first | rfl | cases h

theorem simple_of_boundedText {maximum : ℕ} (h : boundedText value maximum = true) : Simple value := by
  rw [boundedText, Bool.or_eq_true] at h
  rcases h with h | h
  · exact simple_of_isNull h
  · exact simple_of_stringWhere h

theorem simple_of_identities (h : identities value = true) : Simple value := by
  rw [identities, Bool.or_eq_true] at h
  rcases h with h | h
  · exact simple_of_isNull h
  · exact simple_of_stringWhere h

theorem simple_of_boundedNumber {maximum : ℚ} (h : boundedNumber value maximum = true) :
    Simple value := by
  rw [boundedNumber, Bool.or_eq_true] at h
  rcases h with h | h
  · exact simple_of_isNull h
  · rintro v rfl
    cases v <;> first | rfl | cases h

theorem simple_of_edgeId {edgeIds : List Text}
    (h : (!truthy value || stringWhere (· ∈ edgeIds) value) = true) : Simple value := by
  rw [Bool.or_eq_true] at h
  rcases h with h | h
  · rintro v rfl
    cases v <;> first | rfl | cases h
  · exact simple_of_stringWhere h

end

/-- The keys of an event that the validator does not look at. -/
def uncheckedKeys (event : Json) : List String :=
  if hasKind event "trace" then ["captureFile", "direction", "capturePacket", "captureOffset"]
  else if hasKind event "network_packet" then ["captureFile", "capturePacket", "captureOffset"]
  else []

section
variable {ms : List (Text × Json)} {nodeIds edgeIds : List Text}

/-- The keys that are checked for every event about messages. -/
def messageKeys : List String :=
  ["kind", "event", "nodeId", "edgeId", "timestamp", "sequence", "wireVersion", "type",
    "payloadBytes", "wireBytes", "latencyUs", "cpuPercent", "message", "messageId",
    "parentMessageId", "traceId", "spanId"]

theorem simple_of_validMessage {get : String → Option Json} (hkind : Simple (get "kind"))
    (hnode : Simple (get "nodeId")) (h : validMessage get edgeIds = true) :
    ∀ k ∈ messageKeys, Simple (get k) := by
  simp only [validMessage, Bool.and_eq_true] at h
  obtain ⟨⟨⟨⟨⟨⟨⟨⟨⟨⟨⟨⟨⟨⟨hevent, htimestamp⟩, hsequence⟩, hwire⟩, hlatency⟩, hcpu⟩, hmessageId⟩, hparent⟩,
    htrace⟩, hspan⟩, htype⟩, hmessage⟩, hversion⟩, hpayload⟩, hedge⟩ := h
  simp only [messageKeys, forall_mem_cons]
  exact ⟨hkind, simple_of_oneOf hevent, hnode, simple_of_edgeId hedge,
    simple_of_boundedNumber htimestamp, simple_of_boundedNumber hsequence,
    simple_of_boundedNumber hversion, simple_of_boundedText htype, simple_of_boundedNumber hpayload,
    simple_of_boundedNumber hwire, simple_of_boundedNumber hlatency, simple_of_boundedNumber hcpu,
    simple_of_boundedText hmessage, simple_of_identities hmessageId, simple_of_identities hparent,
    simple_of_identities htrace, simple_of_boundedText hspan, by simp⟩

theorem oneOf_eq_any (names : List String) (value : Option Json) :
    oneOf names value = names.any fun name => oneOf [name] value := by
  cases value with
  | none => simp [oneOf, stringWhere]
  | some v => cases v <;> simp [oneOf, stringWhere]

theorem hasKind_eq {event : Json} {kind : String} (h : hasKind event kind = true) (other : String) :
    hasKind event other = decide (text other = text kind) := by
  unfold hasKind oneOf at *
  cases hvalue : event.get (text "kind") with
  | none =>
    rw [hvalue] at h
    cases h
  | some v =>
    rw [hvalue] at h
    cases v with
    | str s =>
      simp only [stringWhere, any_cons, any_nil, Bool.or_false, decide_eq_true_eq] at h ⊢
      rw [h]
    | null | bool b | num n | arr xs | obj ms => cases h

/-- An event that has only a kind. -/
def ofKind (kind : String) : Json := .obj [(text "kind", .str (text kind))]

/-- The keys of an event are those of its kind. -/
theorem keys_of_kind {event : Json} {kind : String} (h : hasKind event kind = true) :
    allowedKeys event = allowedKeys (ofKind kind) ∧
      uncheckedKeys event = uncheckedKeys (ofKind kind) := by
  have hkind : hasKind (ofKind kind) kind = true := by
    simp [hasKind, oneOf, stringWhere, ofKind, Json.get]
  simp only [allowedKeys, uncheckedKeys, hasKind_eq h, hasKind_eq hkind, and_self]

theorem checked_of_kind {event : Json} {kind : String} (keys : List String)
    (hkind : hasKind event kind = true)
    (hkeys : ∀ k ∈ allowedKeys (ofKind kind), k ∈ uncheckedKeys (ofKind kind) ∨ k ∈ keys)
    (hsimple : ∀ k ∈ keys, Simple (event.get (text k))) :
    ∀ k ∈ allowedKeys event, k ∈ uncheckedKeys event ∨ Simple (event.get (text k)) := by
  rw [(keys_of_kind hkind).1, (keys_of_kind hkind).2]
  exact fun k hk => (hkeys k hk).imp_right (hsimple k)

theorem valid_cases (h : validateTelemetryEvent (.obj ms) nodeIds edgeIds = true) :
    let event := Json.obj ms
    let get (k : String) := event.get (text k)
    Simple (get "kind") ∧ Simple (get "nodeId") ∧
      (hasKind event "edge_totals" = true ∧ validEdgeTotals get ms edgeIds = true ∨
        hasKind event "control_ack" = true ∧ validControlAck get = true ∨
        validMessage get edgeIds = true ∧
          (hasKind event "network_packet" = true ∧ validNetworkPacket get = true ∨
            hasKind event "capture" = true ∧ validCapture get = true ∨
            hasKind event "trace" = true ∧ validTrace get = true)) := by
  intro event get
  unfold validateTelemetryEvent at h
  dsimp only at h
  split_ifs at h with hhead hpacket htotals hack hmessage hnetwork hcapture
  all_goals
    rw [Bool.or_eq_true, not_or, Bool.not_eq_true', Bool.not_eq_false, Bool.not_eq_true',
      Bool.not_eq_false] at hhead
    refine ⟨simple_of_oneOf hhead.1, simple_of_stringWhere hhead.2, ?_⟩
  · exact .inl ⟨htotals, h⟩
  · exact .inr (.inl ⟨hack, h⟩)
  all_goals
    rw [Bool.not_eq_true', Bool.not_eq_false] at hmessage
    refine .inr (.inr ⟨hmessage, ?_⟩)
  · exact .inl ⟨hnetwork, h⟩
  · exact .inr (.inl ⟨hcapture, h⟩)
  · refine .inr (.inr ⟨?_, h⟩)
    have hkind := hhead.1
    rw [oneOf_eq_any] at hkind
    simp only [any_cons, any_nil, Bool.or_false, Bool.eq_false_iff.2 hcapture,
      Bool.eq_false_iff.2 hack, Bool.eq_false_iff.2 hnetwork, Bool.eq_false_iff.2 htotals] at hkind
    exact hkind

/-- **The validator admits structured values only under the keys it does not look at.** -/
theorem simple_of_valid (h : validateTelemetryEvent (.obj ms) nodeIds edgeIds = true) :
    ∀ k ∈ allowedKeys (.obj ms), k ∈ uncheckedKeys (.obj ms) ∨
      Simple ((Json.obj ms).get (text k)) := by
  obtain ⟨hkind, hnode, hcases⟩ := valid_cases h
  rcases hcases with ⟨hk, hvalid⟩ | ⟨hk, hvalid⟩ | ⟨hmessage, hcases⟩
  · simp only [validEdgeTotals, Bool.and_eq_true, all_cons] at hvalid
    obtain ⟨⟨⟨⟨⟨-, hevent⟩, hedge⟩, hdirection⟩, hsession⟩, htimestamp, hpackets, hwire, -⟩ := hvalid
    refine checked_of_kind edgeTotalKeys hk (by decide) ?_
    simp only [edgeTotalKeys, forall_mem_cons]
    exact ⟨hkind, simple_of_oneOf hevent, hnode, simple_of_stringWhere hedge,
      simple_of_integerWhere htimestamp, simple_of_stringWhere hsession, simple_of_oneOf hdirection,
      simple_of_integerWhere hpackets, simple_of_integerWhere hwire, by simp⟩
  · simp only [validControlAck, Bool.and_eq_true] at hvalid
    obtain ⟨⟨⟨⟨haction, haccepted⟩, hcommand⟩, hstate⟩, herror⟩ := hvalid
    have haccepted' : Simple ((Json.obj ms).get (text "accepted")) := by
      intro v hv
      rw [hv] at haccepted
      cases v <;> first | rfl | cases haccepted
    have hstate' : Simple ((Json.obj ms).get (text "state")) := by
      rw [Bool.or_eq_true] at hstate
      rcases hstate with hstate | hstate
      · exact simple_of_isNull hstate
      · exact simple_of_oneOf hstate
    refine checked_of_kind controlAckKeys hk (by decide) ?_
    simp only [controlAckKeys, forall_mem_cons]
    exact ⟨hkind, hnode, simple_of_oneOf haction, haccepted', simple_of_stringWhere hcommand, hstate',
      simple_of_boundedText herror, by simp⟩
  · have hmessage := simple_of_validMessage hkind hnode hmessage
    rcases hcases with ⟨hk, hvalid⟩ | ⟨hk, hvalid⟩ | ⟨hk, -⟩
    · simp only [validNetworkPacket, Bool.and_eq_true] at hvalid
      obtain ⟨⟨⟨⟨⟨⟨⟨-, hprotocol⟩, hsource⟩, hdestination⟩, hsourcePort⟩, hdestinationPort⟩,
        hobservation⟩, hdirection⟩ := hvalid
      refine checked_of_kind (messageKeys ++ "direction" :: packetOnlyKeys) hk (by decide)
        (forall_mem_append.2 ⟨hmessage, ?_⟩)
      simp only [packetOnlyKeys, forall_mem_cons]
      exact ⟨simple_of_oneOf hdirection, simple_of_oneOf hprotocol, simple_of_stringWhere hsource,
        simple_of_stringWhere hdestination, simple_of_integerWhere hsourcePort,
        simple_of_integerWhere hdestinationPort, simple_of_oneOf hobservation, by simp⟩
    · simp only [validCapture, Bool.and_eq_true] at hvalid
      obtain ⟨⟨⟨⟨-, hfile⟩, hdirection⟩, hpacket⟩, hoffset⟩ := hvalid
      refine checked_of_kind
        (messageKeys ++ ["captureFile", "direction", "capturePacket", "captureOffset"]) hk (by decide)
        (forall_mem_append.2 ⟨hmessage, ?_⟩)
      simp only [forall_mem_cons]
      exact ⟨simple_of_stringWhere hfile, simple_of_oneOf hdirection,
        simple_of_boundedNumber hpacket, simple_of_boundedNumber hoffset, by simp⟩
    · exact checked_of_kind messageKeys hk (by decide) hmessage

theorem uncheckedKeys_subset {event : Json} : ∀ k ∈ uncheckedKeys event, k ∈ allowedKeys event := by
  unfold uncheckedKeys
  split_ifs with htrace hnetwork
  · rw [(keys_of_kind htrace).1]
    decide
  · rw [(keys_of_kind hnetwork).1]
    decide
  · simp

theorem sanitizeControlAcknowledgement_members (hnames : (ms.map Prod.fst).Nodup)
    (hack : hasKind (.obj ms) "control_ack" = true) :
    ∃ ms', sanitizeControlAcknowledgement (.obj ms) = .obj ms' ∧
      hasKind (.obj ms') "control_ack" = true ∧
      ∀ m ∈ ms', m ∈ ms ∨ isStructured m.2 = false := by
  have hkind : ∀ ms' : List (Text × Json), (ms'.map Prod.fst).Nodup →
      (∀ m ∈ ms, m.1 ≠ text "error" → m ∈ ms') → hasKind (.obj ms') "control_ack" = true := by
    intro ms' hnodup hmem
    unfold hasKind at hack ⊢
    cases hget : (Json.obj ms).get (text "kind") with
    | none =>
      rw [hget] at hack
      cases hack
    | some v =>
      rw [hget] at hack
      have hlookup : (Json.obj ms').get (text "kind") = some v :=
        Keyed.lookup_of_mem hnodup (hmem _ (Keyed.mem_of_lookup hget)
          (show text "kind" ≠ text "error" by decide))
      rwa [hlookup]
  have hfilter : ∃ ms', Json.obj (ms.filter (·.1 ≠ text "error")) = .obj ms' ∧
      hasKind (.obj ms') "control_ack" = true ∧ ∀ m ∈ ms', m ∈ ms ∨ isStructured m.2 = false := by
    refine ⟨_, rfl, hkind _ (hnames.sublist (filter_sublist.map _)) ?_, ?_⟩
    · exact fun m hm hne => mem_filter.2 ⟨hm, by simpa using hne⟩
    · exact fun m hm => .inl (mem_of_mem_filter hm)
  unfold sanitizeControlAcknowledgement
  dsimp only
  rw [if_neg (by simpa [hasKind] using hack)]
  split
  · exact hfilter
  · exact hfilter
  · exact hfilter
  · next error _ _ _ =>
    refine ⟨_, rfl, hkind _ ?_ ?_, ?_⟩
    · have hsame : (ms.map fun m => if m.1 = text "error" then (m.1, (if oneOf controlAckErrorCodes
          (some error) then error else .str (text "runtime-rejected"))) else m).map Prod.fst =
          ms.map Prod.fst := by
        rw [map_map]
        refine map_congr_left fun m _ => ?_
        rw [Function.comp_apply]
        split_ifs <;> rfl
      rw [hsame]
      exact hnames
    · exact fun m hm hne => mem_map.2 ⟨m, hm, if_neg hne⟩
    · intro m' hm'
      obtain ⟨m, hm, rfl⟩ := mem_map.1 hm'
      split_ifs with herror hcode
      · exact .inr (simple_of_oneOf hcode error rfl)
      · exact .inr rfl
      · exact .inl hm

end

/-- **What is passed on is free of credentials** iff the arrays and objects are that the
    validator did not look at. -/
theorem redacted_iff {ms : List (Text × Json)} {nodeIds edgeIds credentials : List Text}
    (hnames : (ms.map Prod.fst).Nodup)
    (hvalid : validateTelemetryEvent (.obj ms) nodeIds edgeIds = true)
    (hplain : ∀ secret ∈ credentials, ∀ u ∈ secret, u ∉ redactionMarker) :
    let unchecked := ∀ k ∈ uncheckedKeys (.obj ms), ∀ v, (Json.obj ms).get (text k) = some v →
      isStructured v = true → Clean credentials v
    (CleanEvent credentials (sanitizeTelemetryEvent (.obj ms) credentials) ↔ unchecked) ∧
      (CleanEvent credentials (collectedEvent (.obj ms) credentials) ↔ unchecked) := by
  intro unchecked
  have hmember : ∀ m ∈ ms, ∀ k ∈ allowedKeys (.obj ms), text k = m.1 →
      k ∈ uncheckedKeys (.obj ms) ∨ isStructured m.2 = false := by
    intro m hm k hk heq
    refine (simple_of_valid hvalid k hk).imp_right fun hsimple => hsimple m.2 ?_
    exact Keyed.lookup_of_mem hnames (heq ▸ hm)
  have hsanitized : CleanEvent credentials (sanitizeTelemetryEvent (.obj ms) credentials) ↔
      unchecked := by
    refine (cleanEvent_sanitize hplain).trans ⟨fun h k hk v hv hstructured => ?_, fun h m hm => ?_⟩
    · refine h (text k, v) (Keyed.mem_of_lookup hv) ?_ hstructured
      exact any_eq_true.2 ⟨k, uncheckedKeys_subset k hk, by simp⟩
    · intro hallowed hstructured
      obtain ⟨k, hk, heq⟩ := any_eq_true.1 hallowed
      rw [decide_eq_true_eq] at heq
      rcases hmember m hm k hk heq with hunchecked | hsimple
      · exact h k hunchecked m.2 (Keyed.lookup_of_mem hnames (heq ▸ hm)) hstructured
      · rw [hsimple] at hstructured
        cases hstructured
  refine ⟨hsanitized, ?_⟩
  cases hack : hasKind (.obj ms) "control_ack" with
  | false =>
    have hsame : sanitizeControlAcknowledgement (.obj ms) = .obj ms := by
      unfold sanitizeControlAcknowledgement
      exact if_pos (by simpa [hasKind] using hack)
    rw [collectedEvent, hsame]
    exact hsanitized
  | true =>
    -- every key of an acknowledgement is checked
    obtain ⟨ms', heq, hack', hmembers⟩ := sanitizeControlAcknowledgement_members hnames hack
    have hallowed : allowedKeys (.obj ms) = allowedKeys (.obj ms') := by
      rw [allowedKeys, allowedKeys, if_pos hack, if_pos hack']
    have hnone : uncheckedKeys (.obj ms) = [] := by
      simp only [uncheckedKeys, hasKind_eq hack]
      rfl
    refine iff_of_true ?_ ?_
    · rw [collectedEvent, heq]
      refine (cleanEvent_sanitize hplain).2 fun m hm hmem hstructured => ?_
      obtain ⟨k, hk, hkey⟩ := any_eq_true.1 hmem
      rw [decide_eq_true_eq] at hkey
      have hsimple : isStructured m.2 = false := by
        rcases hmembers m hm with hm | hsimple
        · refine (hmember m hm k (hallowed ▸ hk) hkey).resolve_left ?_
          simp [hnone]
        · exact hsimple
      rw [hsimple] at hstructured
      cases hstructured
    · intro k hk
      rw [hnone] at hk
      cases hk

namespace Leak

def token : Text := text "7H4Q"

/-- A trace of a received message. -/
def trace (direction : Json) : List (Text × Json) :=
  [(text "kind", .str (text "trace")), (text "event", .str (text "receive")),
    (text "nodeId", .str (text "sink")), (text "edgeId", .str (text "link")),
    (text "traceId", .str (text "a7H4Qb")), (text "direction", direction)]

end Leak

open Leak in
set_option maxRecDepth 2000 in
theorem redacted_trace : CleanEvent [token] (collectedEvent (.obj (trace (.str token))) [token]) := by
  have hvalid : validateTelemetryEvent (.obj (trace (.str token))) [text "sink"] [text "link"] =
      true := by decide
  have hsimple : ∀ k ∈ uncheckedKeys (.obj (trace (.str token))),
      ((Json.obj (trace (.str token))).get (text k)).any isStructured = false := by decide
  have hplain : ∀ secret ∈ [token], ∀ u ∈ secret, u ∉ redactionMarker := by
    have hall : (token.all fun u => !redactionMarker.contains u) = true := by decide
    simpa using hall
  refine (redacted_iff (by decide) hvalid hplain).2.2 fun k hk v hv hstructured => ?_
  have hnot := hsimple k hk
  rw [hv, Option.any_some, hstructured] at hnot
  cases hnot

open Leak in
/-- The direction of a trace may be an object, and it is passed on with the token in it. -/
theorem redacted_leak :
    validateTelemetryEvent (.obj (trace (.obj [(text "x", .str token)]))) [text "sink"]
        [text "link"] = true ∧
      (collectedEvent (.obj (trace (.obj [(text "x", .str token)]))) [token]).get
        (text "direction") = some (.obj [(text "x", .str token)]) := by
  exact ⟨by decide, rfl⟩

end GraphX
