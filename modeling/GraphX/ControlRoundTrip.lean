/-
  A command on its way: `deliverControl` writes it with `JSON.stringify`, the
  runtime finds its fields by their markers, and the acknowledgement comes back to
  the control plane.

  * **`control_round_trip`**: the runtime obeys the command, and its answer is
    applied.
-/
import GraphX.ControlDatagram
import GraphX.ControlLifeCycle

namespace GraphX

open Ecma Search UdpJsonTraceSink List

/-! ## The acknowledgement -/

def stateText (action : PauseAction) : String := if action = .pause then "paused" else "running"

def acknowledgementFields (node : Bytes) (action : PauseAction) (uuid : Bytes) :
    List (Bytes × Bytes) :=
  [(chars "kind", json.quoted (chars "control_ack")), (chars "nodeId", json.quoted node),
    (chars "action", json.quoted (chars action.text)), (chars "commandId", json.quoted uuid),
    (chars "accepted", chars "true"), (chars "state", json.quoted (chars (stateText action)))]

/-- The acknowledgement as the collector reads it. -/
def acknowledgementValue (node : Bytes) (action : PauseAction) (uuid : Bytes) : List (Text × Json) :=
  [(text "kind", .str (text "control_ack")), (text "nodeId", .str (widen node)),
    (text "action", .str (text action.text)), (text "commandId", .str (widen uuid)),
    (text "accepted", .bool true), (text "state", .str (text (stateText action)))]

section acknowledgement

variable {sink : UdpJsonTraceSink} {node uuid : Bytes} {action : PauseAction}

theorem acknowledgementPayload_eq (sink : UdpJsonTraceSink) (hnode : Bare sink.nodeId)
    (action : PauseAction) (uuid : Bytes) :
    sink.acknowledgementPayload action uuid (decide (action = .pause)) =
      json.object (acknowledgementFields sink.nodeId action uuid) := by
  have hstate : chars (if decide (action = .pause) = true then "paused" else "running") =
      chars (stateText action) := by cases action <;> rfl
  unfold acknowledgementPayload
  rw [hnode.escapeJson, hstate]
  simp only [acknowledgementFields, Punctuation.object, Punctuation.ending, Punctuation.quoted,
    append_assoc, cons_append]
  rfl

theorem bare_actionText (action : PauseAction) : Bare (chars action.text) := by
  cases action <;> decide

theorem bare_stateText (action : PauseAction) : Bare (chars (stateText action)) := by
  cases action <;> decide

theorem widen_actionText (action : PauseAction) : text action.text = widen (chars action.text) := by
  cases action <;> rfl

theorem widen_stateText (action : PauseAction) :
    text (stateText action) = widen (chars (stateText action)) := by
  cases action <;> rfl

theorem printed_acknowledgement (hnode : Bare node) (huuid : Bare uuid) (action : PauseAction) :
    stringify (.obj (acknowledgementValue node action uuid)) =
        widen (json.object (acknowledgementFields node action uuid)) ∧
      IsAscii (json.object (acknowledgementFields node action uuid)) := by
  refine printed_object (by simp [acknowledgementFields]) ?_
  rw [acknowledgementValue, widen_actionText, widen_stateText]
  exact .cons ⟨rfl, rfl, Bare.printed (s := chars "control_ack") (by decide)⟩
    (.cons ⟨rfl, rfl, hnode.printed⟩ (.cons ⟨rfl, rfl, (bare_actionText action).printed⟩
    (.cons ⟨rfl, rfl, huuid.printed⟩ (.cons ⟨rfl, rfl, by rw [stringify]; rfl, by decide⟩
    (.cons ⟨rfl, rfl, (bare_stateText action).printed⟩ .nil)))))

theorem reads_acknowledgement (node uuid : Bytes) (action : PauseAction) :
    Reads (stringify (.obj (acknowledgementValue node action uuid)))
      (.obj (acknowledgementValue node action uuid)) := by
  have hstring : ∀ s : Bytes, Reads (stringify (.str (widen s))) (.str (widen s)) := by
    intro s
    exact reads_quote _
  have hnodup : (["kind", "nodeId", "action", "commandId", "accepted", "state"].map text).Nodup := by
    decide
  refine reads_stringify (by simp [acknowledgementValue]) ?_ hnodup
  rw [acknowledgementValue, widen_actionText, widen_stateText]
  simp only [forall_mem_cons, not_mem_nil, false_imp_iff, implies_true, and_true]
  exact ⟨⟨by decide, hstring (chars "control_ack")⟩, ⟨by decide, hstring node⟩,
    ⟨by decide, hstring _⟩, ⟨by decide, hstring uuid⟩,
    ⟨by decide, by rw [stringify]; exact reads_true⟩, by decide, hstring _⟩

theorem validate_acknowledgement {nodeIds : List Text} (edgeIds : List Text)
    (hnode : widen node ∈ nodeIds) (huuid : matchesClasses commandIdClasses (widen uuid) = true)
    (action : PauseAction) :
    validateTelemetryEvent (.obj (acknowledgementValue node action uuid)) nodeIds edgeIds = true := by
  set event := Json.obj (acknowledgementValue node action uuid)
  have hnodeId : event.get (text "nodeId") = some (.str (widen node)) := rfl
  have hpacket : packetOnlyKeys.any (fun k => (event.get (text k)).isSome) = false := rfl
  have hack : validControlAck (fun k => event.get (text k)) = true := by
    have hcommand : stringWhere (matchesClasses commandIdClasses)
        (event.get (text "commandId")) = true := huuid
    have haction : oneOf ["pause", "resume"] (event.get (text "action")) = true := by
      cases action <;> rfl
    have hstate : oneOf ["paused", "running"] (event.get (text "state")) = true := by
      cases action <;> rfl
    have haccepted : event.get (text "accepted") = some (.bool true) := rfl
    have herror : event.get (text "error") = none := rfl
    simp [validControlAck, hcommand, haction, hstate, haccepted, herror, boundedText, isNull]
  have hmem : stringWhere (fun s => decide (s ∈ nodeIds)) (some (.str (widen node))) = true :=
    decide_eq_true hnode
  unfold validateTelemetryEvent
  simp only [hnodeId, hmem, hpacket, hack, Bool.not_true]
  rfl

end acknowledgement

/-! ## There and back -/

/-- What a runtime does at a command that is no reset. -/
def pauseAction (action : ControlAction) : PauseAction := if action = .pause then .pause else .resume

/-- The circumstances of a command: the control plane has issued it, collector and
    runtime have the same secret and the same clock, which has not reached the
    expiry when the answer is handled, and the nonces are new.  Meanwhile the
    control plane handles the `calls`. -/
structure Exchange (H : Hmac) (plane : ControlPlane) (im : IssueMoment) (r : ControlRequest)
    (delivery : Text → Delivery) (c : Command) (node : Bytes) (sink : UdpJsonTraceSink)
    (m : ControlMoment) (state : ControlState) (entropy : Entropy) (calls : List PlaneCall)
    (cache : ReplayCache) (now : ℤ) : Prop where
  issued : (plane.issue im r (delivered H delivery)).1 = .ok (c, false)
  not_reset : r.action ≠ .reset
  random_uuid : matchesClasses uuidClasses im.uuid = true
  node_id : isNodeId node = true
  same_node : sink.nodeId = node
  received_secret : sink.secret m.received = .ok (encode (delivery (widen node)).targetSecret)
  answered_secret : sink.secret m.answered = .ok (encode (delivery (widen node)).targetSecret)
  has_entropy : m.answered.entropy = some entropy
  /-- Time values of ECMAScript. -/
  date : |c.issuedAt| ≤ 8640000000000000 ∧ |now| ≤ 8640000000000000
  signed : c.issuedAt ≤ (delivery (widen node)).timestamp
  arrived : (delivery (widen node)).timestamp ≤ m.received.now.toInt
  checked : m.received.now.toInt ≤ m.now.toInt
  answered : m.now.toInt ≤ m.answered.signedAt.toInt
  handled : m.answered.signedAt.toInt ≤ now
  not_expired : now < c.expiresAt
  command_nonce : hexText (delivery (widen node)).nonce.1 ∉ state.nonces
  answer_nonce : ∀ entry ∈ cache.values, entry.1 ≠ widen (hexText entropy.1)
  others : ∀ call ∈ calls, call.Before c (widen node)

section exchange

variable {H : Hmac} {plane : ControlPlane} {im : IssueMoment} {r : ControlRequest}
  {delivery : Text → Delivery} {c : Command} {node : Bytes} {sink : UdpJsonTraceSink}
  {m : ControlMoment} {state : ControlState} {entropy : Entropy} {calls : List PlaneCall}
  {cache : ReplayCache} {now : ℤ}

/-- **What the runtime reads of a command.** -/
theorem commandFields_read {uuid : Bytes} (hnode : Bare node) (hlength : node.length ≤ 64)
    (huuid : Bare uuid) (hlength' : uuid.length = 36) (hexpires : c.expiresAt.natAbs < 2 ^ 53) :
    let payload := json.object (commandFields c uuid node)
    jsonStringField payload (chars "kind") 16 = chars "control" ∧
      jsonStringField payload (chars "action") 8 = chars c.action.name ∧
      jsonStringField payload (chars "commandId") 36 = uuid ∧
      jsonStringField payload (chars "targetNode") 64 = node ∧
      jsonIntegerField payload (chars "expiresAt") = some c.expiresAt := by
  let fields := commandFields c uuid node
  have hsimple : ∀ f ∈ fields, json.Simple f.2 := by
    simp only [fields, commandFields, forall_mem_cons, not_mem_nil, false_imp_iff, implies_true,
      and_true]
    exact ⟨simple_quoted (by decide), simple_quoted (bare_action c.action), simple_quoted huuid,
      simple_quoted hnode, simple_integerText _, simple_integerText _⟩
  have hothers : ∀ {key : Bytes} (n : ℕ), (∀ name ∈ (["kind", "action", "commandId", "targetNode",
      "issuedAt", "expiresAt"].map chars).take n, ascii '"' ∉ name ∧ key ≠ name) →
      OtherFields key (fields.take n) := by
    intro key n hnames f hf
    have hmem : f.1 ∈ (fields.map Prod.fst).take n := by
      rw [← map_take]
      exact mem_map_of_mem hf
    obtain ⟨hquote, hne⟩ := hnames f.1 hmem
    exact ⟨hquote, hne, hsimple f (mem_of_mem_take hf)⟩
  have haction : (chars c.action.name).length ≤ 8 := by cases c.action <;> decide
  refine ⟨?_, ?_, ?_, ?_, ?_⟩
  · exact jsonStringField_object (fields.take 0) (json_name (by decide)) (hothers 0 (by decide))
      (by decide) (by decide)
  · exact jsonStringField_object (fields.take 1) (json_name (by decide)) (hothers 1 (by decide))
      (bare_action c.action) haction
  · exact jsonStringField_object (fields.take 2) (json_name (by decide)) (hothers 2 (by decide))
      huuid hlength'.le
  · exact jsonStringField_object (fields.take 3) (json_name (by decide)) (hothers 3 (by decide))
      hnode hlength
  · exact jsonIntegerField_object (fields.take 5) [] (json_name (by decide))
      (hothers 5 (by decide)) (by omega) (by omega)

theorem requestedAction_eq {action : ControlAction} (h : action ≠ .reset) :
    requestedAction (chars action.name) = some (pauseAction action) ∧
      (pauseAction action).text = action.name := by
  cases action with
  | reset => exact absurd rfl h
  | pause | resume => decide

theorem comma_not_mem_hexText (bytes : Bytes) : ascii ',' ∉ hexText bytes := by
  have hdigits : ∀ b : UInt8, ascii ',' ∉ Reader.hexDigits b := forall_byte (by decide)
  intro hmem
  obtain ⟨b, -, hb⟩ := mem_flatMap.1 hmem
  exact hdigits b hb

variable (h : Exchange H plane im r delivery c node sink m state entropy calls cache now)
include h

theorem Exchange.times :
    c.issuedAt.natAbs < 2 ^ 53 ∧ c.expiresAt.natAbs < 2 ^ 53 ∧
      (delivery (widen node)).timestamp.natAbs < 2 ^ 53 ∧
      |m.received.now.toInt - (delivery (widen node)).timestamp| ≤ 30000 ∧
      ¬c.expiresAt < m.now.toInt ∧ ¬c.expiresAt > m.now.toInt + 30000 ∧
      |now - m.answered.signedAt.toInt| ≤ 30000 := by
  obtain ⟨-, -, htimeout⟩ := issue_ok h.issued
  have hdate := abs_le.1 h.date.1
  have hsigned := h.signed
  have harrived := h.arrived
  have hchecked := h.checked
  have hanswered := h.answered
  have hhandled := h.handled
  have hexpired := h.not_expired
  refine ⟨by omega, by omega, by omega, abs_le.2 ⟨by omega, by omega⟩, by omega, by omega,
    abs_le.2 ⟨by omega, by omega⟩⟩

/-- **The runtime takes the command as it was sent.** -/
theorem Exchange.received {uuid : Bytes} (hid : c.id = widen uuid) (huuid : Bare uuid)
    (hlength : uuid.length = 36) (hsecret : (delivery (widen node)).targetSecret ≠ []) :
    let d := delivery (widen node)
    (controlDatagram H c (widen node) d).take 2048 =
        signedCommand (json.object (commandFields c uuid node)) d.timestamp (hexText d.nonce.1)
          (commandSignature H c uuid node d) ∧
      authenticateCommand H ((controlDatagram H c (widen node) d).take 2048) (encode d.targetSecret)
        state.nonces m.received.now = (true, insertNonce state.nonces (hexText d.nonce.1)) ∧
      commandPayload ((controlDatagram H c (widen node) d).take 2048) =
        json.object (commandFields c uuid node) := by
  obtain ⟨hnode, hshort⟩ := nodeId_spec h.node_id
  obtain ⟨hissued, hexpires, htimestamp, hskew, -⟩ := h.times
  have hdatagram := controlDatagram_eq (H := H) hid huuid hnode hissued hexpires htimestamp hsecret
  have hfits := length_signedCommand_le (H := H) hlength hshort hissued hexpires htimestamp
  have htake : (controlDatagram H c (widen node) (delivery (widen node))).take 2048 =
      signedCommand (json.object (commandFields c uuid node)) (delivery (widen node)).timestamp
        (hexText (delivery (widen node)).nonce.1)
        (commandSignature H c uuid node (delivery (widen node))) := by
    rw [hdatagram, take_of_length_le hfits]
  have hauthentic := authenticateCommand_signed (H := H) (json.object (commandFields c uuid node)) state.nonces
    (encode_ne_nil hsecret) (by omega) (by omega) hskew (bare_hexText _)
    (by rw [length_hexText, (delivery (widen node)).nonce.2]) (comma_not_mem_hexText _)
    h.command_nonce rfl (comma_not_mem_hexText _)
  simp only [htake]
  exact ⟨trivial, hauthentic⟩

/-- **The runtime obeys**, and says so. -/
theorem Exchange.obeyed {uuid : Bytes} (hid : c.id = widen uuid) (huuid : Bare uuid)
    (hlength : uuid.length = 36) (hvalid : validCommandId uuid = true)
    (hsecret : (delivery (widen node)).targetSecret ≠ []) :
    sink.receiveCommand H m state (controlDatagram H c (widen node) (delivery (widen node))) =
      (⟨decide (c.action = .pause),
        insertNonce state.nonces (hexText (delivery (widen node)).nonce.1)⟩,
        some (sink.sign H m.answered
          (json.object (acknowledgementFields node (pauseAction c.action) uuid)))) := by
  obtain ⟨hnode, hshort⟩ := nodeId_spec h.node_id
  obtain ⟨-, hexpires, -, -, hearly, hlate, -⟩ := h.times
  obtain ⟨-, hauthentic, hpayload⟩ := h.received hid huuid hlength hsecret
  obtain ⟨hkind, haction, hcommandId, htarget, hexpiry⟩ :=
    @commandFields_read c node uuid hnode hshort huuid hlength hexpires
  have hreset : c.action ≠ .reset := by
    rw [(issue_ok h.issued).2.1]
    exact h.not_reset
  have hcommand : sink.commandAction (json.object (commandFields c uuid node)) m.now =
      some (pauseAction c.action) := by
    simp only [commandAction, haction, hcommandId, htarget, hexpiry, h.same_node, hvalid,
      hearly, hlate, ne_eq, not_true]
    exact (requestedAction_eq hreset).1
  have hpaused : decide (pauseAction c.action = .pause) = decide (c.action = .pause) := by
    cases c.action <;> rfl
  have hack := acknowledgementPayload_eq sink (h.same_node ▸ hnode) (pauseAction c.action)
  rw [hpaused, h.same_node] at hack
  simp [receiveCommand, h.received_secret, hauthentic, hpayload, hcommand, hcommandId, hack, hpaused]

end exchange

/-- **A command reaches its node, and the answer reaches the control plane.**  For
    every target to which `deliverControl` sends a datagram the runtime
    authenticates it, reads the fields of the payload, and pauses or resumes; its
    acknowledgement is verified, valid, and applied. -/
theorem control_round_trip (H : Hmac) (plane : ControlPlane) (im : IssueMoment) (r : ControlRequest)
    (delivery : Text → Delivery) (c : Command) (node : Bytes) (sink : UdpJsonTraceSink)
    (m : ControlMoment) (state : ControlState) (entropy : Entropy) (calls : List PlaneCall)
    (cache : ReplayCache) (now : ℤ) (nodeIds edgeIds : List Text)
    (h : Exchange H plane im r delivery c node sink m state entropy calls cache now)
    (hconfigured : widen node ∈ nodeIds) (endpoint : ControlEndpoint) (datagram : Bytes)
    (hsent : (widen node, endpoint, datagram) ∈ deliverControl H c delivery) :
    let secret := (delivery (widen node)).targetSecret
    let command := datagram.take 2048
    let payload := commandPayload command
    let plane' := calls.foldl PlaneCall.step (plane.issue im r (delivered H delivery)).2
    (authenticateCommand H command (encode secret) state.nonces m.received.now).1 = true ∧
    widen payload = stringify (controlPayload c (widen node)) ∧
    jsonStringField payload (chars "kind") 16 = chars "control" ∧
    widen (jsonStringField payload (chars "commandId") 36) = c.id ∧
    jsonStringField payload (chars "targetNode") 64 = node ∧
    jsonStringField payload (chars "action") 8 = chars c.action.name ∧
    jsonIntegerField payload (chars "expiresAt") = some c.expiresAt ∧
    (sink.receiveCommand H m state datagram).1.paused = decide (c.action = .pause) ∧
    ∃ answer event, (sink.receiveCommand H m state datagram).2 = some answer ∧
      (verifyDatagram H answer secret cache now).1 = event ∧
      validateTelemetryEvent event nodeIds edgeIds = true ∧
      (plane'.acknowledge event now).1 = true ∧
      ∃ c', (plane'.acknowledge event now).2.command c.id = some c' ∧
        (widen node, ⟨true, now, some (text (stateText (pauseAction c.action))), none⟩) ∈
          c'.acknowledgements := by
  obtain ⟨hid, haction, -⟩ := issue_ok h.issued
  obtain ⟨uuid, huuid, hbare, hlength, hvalid, hclasses⟩ := uuid_spec h.random_uuid
  rw [← hid] at huuid hclasses
  obtain ⟨hnode, hshort⟩ := nodeId_spec h.node_id
  obtain ⟨hissued, hexpires, -, -, -, -, hskew⟩ := h.times
  obtain ⟨target, htarget, hdelivery⟩ := mem_filterMap.1 hsent
  obtain ⟨endpoint', -, hdelivery⟩ := Option.bind_eq_some_iff.1 hdelivery
  split_ifs at hdelivery with hsecret
  simp only [Option.some.injEq, Prod.mk.injEq] at hdelivery
  obtain ⟨rfl, -, rfl⟩ := hdelivery
  obtain ⟨-, hauthentic, hpayload⟩ := h.received huuid hbare hlength hsecret
  obtain ⟨hkind, hact, hcommandId, htargetNode, hexpiry⟩ :=
    @commandFields_read c node uuid hnode hshort hbare hlength hexpires
  have hobeyed := h.obeyed huuid hbare hlength hvalid hsecret
  have hreset : c.action ≠ .reset := by
    rw [haction]
    exact h.not_reset
  have hintime : InTime sink m.answered entropy (delivery (widen node)).targetSecret cache now :=
    ⟨hsecret, h.answered_secret, h.has_entropy, h.date.2, hskew, h.answer_nonce⟩
  have hreads := reads_acknowledgement node uuid (pauseAction c.action)
  obtain ⟨hprint, hascii⟩ := printed_acknowledgement hnode hbare (pauseAction c.action)
  have hverified := returned_of_survives (H := H) hintime hascii (hprint ▸ hreads)
    (by rw [← hprint]; exact hreads.survives_iff.2 rfl)
  have happlied := ((waits_of_issue h.issued h.not_reset htarget).run h.others).applied
    (.obj (acknowledgementValue node (pauseAction c.action) uuid)) h.not_expired
    (by rw [huuid]; rfl) rfl (by rw [← (requestedAction_eq hreset).2]; rfl)
  have hpayload' : widen (json.object (commandFields c uuid node)) =
      stringify (controlPayload c (widen node)) :=
    (printed_controlPayload huuid hbare hnode hissued hexpires).1.symm
  have hacknowledgement : ControlPlane.acknowledgement (sanitizeControlAcknowledgement
      (.obj (acknowledgementValue node (pauseAction c.action) uuid))) now =
      ⟨true, now, some (text (stateText (pauseAction c.action))), none⟩ := by
    cases pauseAction c.action <;> rfl
  simp only [hauthentic, hpayload, hpayload', hkind, hact, hcommandId, htargetNode, hexpiry, hobeyed,
    ← huuid, true_and]
  refine ⟨_, _, rfl, hverified, ?_, happlied.1, ?_⟩
  · exact validate_acknowledgement edgeIds hconfigured (huuid ▸ hclasses) _
  · rw [← hacknowledgement]
    exact happlied.2

/-! A command to pause a generator. -/

def samplePlane : ControlPlane where
  config := .unset
  nodeIds := [widen (chars "generator")]

def sampleIssue : IssueMoment :=
  ⟨1700000000000, 1700000000000, 1700000000000, text "3f2b8c1e-0d4a-4b6c-9e7f-0123456789ab"⟩

def sampleRequest : ControlRequest :=
  { action := .pause, targetNodes := [widen (chars "generator")], actor := text "operator" }

def sampleEndpoint : ControlEndpoint := ⟨text "127.0.0.1", 40000⟩

def sampleDelivery : Delivery := ⟨some sampleEndpoint, sampleSecret, 1700000000001, sampleEntropy⟩

def sampleCommand : Command := samplePlane.issuedCommand sampleIssue sampleRequest fun _ => 1

def sampleControlMoment : ControlMoment :=
  ⟨{ sampleMoment with now := 1700000000002 }, 1700000000003,
    { sampleMoment with signedAt := 1700000000004 }⟩

theorem exchange_sample (H : Hmac) : Exchange H samplePlane sampleIssue sampleRequest
    (fun _ => sampleDelivery) sampleCommand (chars "generator") sampleSink sampleControlMoment
    ⟨false, ∅⟩ sampleEntropy [] .new 1700000000005 where
  issued := rfl
  not_reset := by decide
  random_uuid := by decide
  node_id := by decide
  same_node := rfl
  received_secret := rfl
  answered_secret := rfl
  has_entropy := rfl
  date := by decide
  signed := by decide
  arrived := by decide
  checked := by decide
  answered := by decide
  handled := by decide
  not_expired := by decide
  command_nonce := by simp
  answer_nonce := fun _ h => absurd h (by simp [ReplayCache.new])
  others := by simp

theorem control_round_trip_sample :
    (sampleSink.receiveCommand (recognising []) sampleControlMoment ⟨false, ∅⟩
      (controlDatagram (recognising []) sampleCommand (widen (chars "generator"))
        sampleDelivery)).1.paused = true := by
  have hsent : (widen (chars "generator"), sampleEndpoint,
      controlDatagram (recognising []) sampleCommand (widen (chars "generator")) sampleDelivery) ∈
        deliverControl (recognising []) sampleCommand fun _ => sampleDelivery :=
    mem_singleton.2 rfl
  obtain ⟨-, -, -, -, -, -, -, hpaused, -⟩ := control_round_trip (recognising []) _ _ _ _ _ _ _ _ _ _ _ _ _
    [widen (chars "generator")] [] (exchange_sample _) (mem_singleton.2 rfl) _ _ hsent
  exact hpaused

end GraphX
