/-
  The datagram of a command: `deliverControl` writes it with `JSON.stringify`, and the
  runtime authenticates it and takes its payload.
-/
import GraphX.ControlFields
import GraphX.ControlPlane

namespace GraphX

open Ecma Search UdpJsonTraceSink List

/-! ## Signed commands -/

section signed

variable {payload nonce signature : Bytes} {timestamp : ℤ}

def authFields (timestamp : ℤ) (nonce signature : Bytes) : List (Bytes × Bytes) :=
  [(chars "timestamp", integerText timestamp), (chars "nonce", json.quoted nonce),
    (chars "signature", json.quoted signature)]

def signedCommand (payload : Bytes) (timestamp : ℤ) (nonce signature : Bytes) : Bytes :=
  json.object [(chars "payload", payload),
    (chars "auth", json.object (authFields timestamp nonce signature))]

def authText (timestamp : ℤ) (nonce signature : Bytes) : Bytes :=
  chars ",\"auth\":" ++ (json.object (authFields timestamp nonce signature) ++ chars "\x7d")

theorem signedCommand_eq (payload : Bytes) (timestamp : ℤ) (nonce signature : Bytes) :
    signedCommand payload timestamp nonce signature =
      payloadMarker ++ payload ++ authText timestamp nonce signature := by
  rfl

/-- What follows the marker of `auth`. -/
def authRest (timestamp : ℤ) (nonce signature : Bytes) : Bytes :=
  timestampMarker ++ (integerText timestamp ++ (chars ",\"nonce\":\"" ++ (nonce ++
    (chars "\",\"signature\":\"" ++ (signature ++ chars "\"\x7d\x7d")))))

theorem authText_eq (timestamp : ℤ) (nonce signature : Bytes) :
    authText timestamp nonce signature = authMarker ++ authRest timestamp nonce signature := by
  simp only [authText, authFields, Punctuation.object, Punctuation.ending, Punctuation.quoted,
    append_assoc, cons_append]
  rfl

/-- `authMarker` without its comma. -/
def authName : Bytes := chars "\"auth\":\x7b"

theorem absent_comma {c : UInt8} {s rest : Bytes} (hc : c ≠ ascii 'a') (hs : ascii ',' ∉ c :: s) :
    Absent (ascii ',' :: authName) (ascii ',' :: ascii '"' :: c :: s) rest := by
  have hname : authName = ascii '"' :: ascii 'a' :: chars "uth\":\x7b" := rfl
  refine ⟨fun h => ?_, absent_of_not_mem (not_mem_cons_of_ne_of_not_mem (by decide) hs)⟩
  have h₁ := (cons_prefix_cons.1 h).2
  have h₂ := (cons_prefix_cons.1 h₁).2
  exact hc (cons_prefix_cons.1 h₂).1.symm

theorem comma_not_mem_integerText (n : ℤ) : ascii ',' ∉ integerText n := by
  intro hmem
  obtain ⟨u, hu, heq⟩ := mem_map.1 hmem
  exact forall_numeric (P := fun u => u.toUInt8 ≠ ascii ',') (by decide) (by decide)
    (numeric_decimalInt n u hu) heq

theorem rfind_auth (timestamp : ℤ) (hnonce : ascii ',' ∉ nonce) (hsignature : ascii ',' ∉ signature)
    (lead : Bytes) : rfind authMarker (lead ++ authText timestamp nonce signature) =
      some lead.length := by
  have hquote : chars "\",\"signature\":\"" = [ascii '"'] ++ chars ",\"signature\":\"" := rfl
  rw [authText_eq]
  refine @rfind_last _ lead (authRest timestamp nonce signature) _ (ascii ',') authName ?_
  rw [authRest, hquote]
  simp only [absent_append]
  refine ⟨absent_of_not_mem (by decide), absent_of_not_mem (by decide),
    absent_of_not_mem (comma_not_mem_integerText timestamp), absent_comma (by decide) (by decide),
    absent_of_not_mem hnonce, ⟨absent_of_not_mem (by decide), absent_comma (by decide) (by decide)⟩,
    absent_of_not_mem hsignature, absent_of_not_mem (by decide)⟩

theorem absent_auth {key tail : Bytes} (hkey : json.Name key) (hne : key ≠ chars "auth") (s : Bytes) :
    Absent (json.marker key ++ tail) (chars ",\"auth\":") s := by
  have hsplit : chars ",\"auth\":" = [ascii ','] ++ json.marker (chars "auth") := rfl
  rw [hsplit, absent_append]
  exact ⟨Punctuation.Name.absent_of_not_mem (by decide), hkey.absent_marker (by decide) hne⟩

theorem jsonAuthField_authText {key v : Bytes} (before : List (Bytes × Bytes))
    {after : List (Bytes × Bytes)}
    (hfields : authFields timestamp nonce signature = before ++ (key, json.quoted v) :: after)
    (hkey : json.Name key) (hne : key ≠ chars "auth") (hbefore : OtherFields key before) :
    jsonAuthField (authText timestamp nonce signature) key v.length = v := by
  obtain ⟨start, hfind, hdrop⟩ := @find_object (chars ",\"auth\":") (v ++ [ascii '"']) before after
    (key, json.quoted v) [ascii '"'] hkey (absent_auth hkey hne) hbefore rfl (chars "\x7d")
  rw [authText, hfields]
  refine jsonAuthField_found (json.ending after ++ chars "\x7d") hfind ?_
  rw [hdrop]
  simp

theorem commandTimestamp_authText (lead nonce signature : Bytes) (hlow : -2 ^ 63 ≤ timestamp)
    (hhigh : timestamp < 2 ^ 63) :
    commandTimestamp (lead ++ authText timestamp nonce signature) lead.length = some timestamp := by
  have hname : json.Name (chars "timestamp") := json_name (by decide)
  obtain ⟨start, hfind, hdrop⟩ := @find_object (chars ",\"auth\":") (integerText timestamp) []
    ([(chars "nonce", json.quoted nonce), (chars "signature", json.quoted signature)])
    (chars "timestamp", integerText timestamp) [] hname
    (@absent_auth (chars "timestamp") _ hname (by decide)) (by simp [OtherFields]) rfl (chars "\x7d")
  have hmarker : json.marker (chars "timestamp") = timestampMarker := rfl
  have hlength : timestampMarker.length = 12 := rfl
  simp only [append_nil, nil_append, hmarker, hlength] at hfind hdrop
  obtain ⟨rest, hrest⟩ : ∃ rest, json.ending [(chars "nonce", json.quoted nonce),
      (chars "signature", json.quoted signature)] ++ chars "\x7d" = chars "," ++ rest := ⟨_, rfl⟩
  rw [hrest] at hdrop
  have hcomma : find (chars ",") (integerText timestamp ++ (chars "," ++ rest)) =
      some (integerText timestamp).length :=
    (@find_here _ (chars ",") _ _ _ (absent_of_not_mem (comma_not_mem_integerText timestamp))).1
  have hfrom : findFrom timestampMarker (lead ++ authText timestamp nonce signature) lead.length =
      some (start + lead.length) := by
    rw [findFrom, drop_left, authText, authFields, hfind, Option.map_some]
  have hafter : (lead ++ authText timestamp nonce signature).drop (start + lead.length + 12) =
      integerText timestamp ++ (chars "," ++ rest) := by
    rw [Nat.add_comm start, Nat.add_assoc, ← drop_drop, drop_left, authText, authFields, hdrop]
  simp only [commandTimestamp, hfrom, Option.bind_eq_bind, Option.bind_some]
  rw [findFrom, hafter, hcomma]
  simp only [Option.map_some, Option.bind_some, substr, hafter, Nat.add_sub_cancel, take_left',
    stoll_integerText hlow hhigh]
  rfl

/-- **A signed command is authentic** if the runtime computes the same digest. -/
theorem authenticateCommand_signed {H : Hmac} {secret : Bytes} {now : Int64} (payload : Bytes)
    (nonces : Finset Bytes)
    (hsecret : secret ≠ []) (hlow : -2 ^ 63 ≤ timestamp) (hhigh : timestamp < 2 ^ 63)
    (hskew : |now.toInt - timestamp| ≤ 30000) (hnonce : Bare nonce) (hlength : nonce.length = 32)
    (hcomma : ascii ',' ∉ nonce) (hunused : nonce ∉ nonces)
    (hsignature : signature = hmacHex H secret
      (integerText timestamp ++ chars "." ++ nonce ++ chars "." ++ payload))
    (hcomma' : ascii ',' ∉ signature) :
    authenticateCommand H (signedCommand payload timestamp nonce signature) secret nonces now =
        (true, insertNonce nonces nonce) ∧
      commandPayload (signedCommand payload timestamp nonce signature) = payload := by
  have hrfind := rfind_auth timestamp hcomma hcomma' (payloadMarker ++ payload)
  have hleads : payloadMarker.isPrefixOf (payloadMarker ++ payload ++
      authText timestamp nonce signature) = true := by
    rw [List.isPrefixOf_iff_prefix]
    exact prefix_append _ _
  have hpayload : substr (payloadMarker ++ payload ++ authText timestamp nonce signature)
      payloadMarker.length ((payloadMarker ++ payload).length - payloadMarker.length) = payload := by
    rw [substr, append_assoc, drop_left, length_append, Nat.add_sub_cancel_left,
      take_left]
  rw [signedCommand_eq]
  refine ⟨?_, by rw [commandPayload, hrfind]; simp only [hleads, if_true, hpayload]⟩
  have hsuffix : (chars "\x7d\x7d").isSuffixOf (payloadMarker ++ payload ++
      authText timestamp nonce signature) = true := by
    rw [isSuffixOf_iff_suffix, authText_eq, authRest]
    simp only [← append_assoc]
    exact suffix_append_of_suffix ⟨chars "\"", rfl⟩
  have htimestamp := commandTimestamp_authText (payloadMarker ++ payload) nonce signature hlow hhigh
  have hnonceField : jsonAuthField (authText timestamp nonce signature) (chars "nonce") 32 = nonce := by
    rw [← hlength]
    refine jsonAuthField_authText [(chars "timestamp", integerText timestamp)] rfl
      (json_name (by decide)) (by decide) ?_
    simpa [OtherFields] using ⟨by decide, by decide, simple_integerText timestamp⟩
  have hlength' : signature.length = 64 := by
    rw [hsignature, hmacHex, length_hexText, H.length_digest]
  have hsignatureField : jsonAuthField (authText timestamp nonce signature) (chars "signature") 64 =
      signature := by
    rw [← hlength']
    refine jsonAuthField_authText [(chars "timestamp", integerText timestamp),
      (chars "nonce", json.quoted nonce)] rfl (json_name (by decide)) (by decide) ?_
    simpa [OtherFields] using ⟨⟨by decide, by decide, simple_integerText timestamp⟩, by decide,
      by decide, simple_quoted hnonce⟩
  have hlong : ∀ {s : Bytes} {n : ℕ}, s.length = n + 1 → s.isEmpty = false := by
    intro s n hs
    rw [isEmpty_eq_false_iff, ← length_pos_iff]
    omega
  obtain ⟨hlate, hearly⟩ := abs_le.1 hskew
  have hlate' : ¬timestamp < now.toInt - 30000 := by omega
  have hearly' : ¬timestamp > now.toInt + 30000 := by omega
  have hempty : secret.isEmpty = false := by simpa using hsecret
  rw [authenticateCommand, hrfind]
  simp only [hempty, hleads, hsuffix, Bool.not_true, Bool.or_self, Bool.false_eq_true, if_false,
    htimestamp, hlate', hearly', decide_false, drop_left, hnonceField, hsignatureField,
    hlong hlength, hlong hlength', hunused, hpayload, ← hsignature, ne_eq, not_true]

end signed

/-! ## The datagram -/

theorem stringify_time {t : ℤ} (h : t.natAbs < 2 ^ 53) :
    stringify (.num (timeNumber t)) = widen (integerText t) := by
  rw [widen_integerText]
  exact (reads_decimalInt t).survives_iff.1 (survives_decimalInt h)

theorem printed_time {t : ℤ} (h : t.natAbs < 2 ^ 53) :
    stringify (.num (timeNumber t)) = widen (integerText t) ∧ IsAscii (integerText t) :=
  ⟨stringify_time h, isAscii_integerText t⟩

def commandFields (c : Command) (uuid node : Bytes) : List (Bytes × Bytes) :=
  [(chars "kind", json.quoted (chars "control")), (chars "action", json.quoted (chars c.action.name)),
    (chars "commandId", json.quoted uuid), (chars "targetNode", json.quoted node),
    (chars "issuedAt", integerText c.issuedAt), (chars "expiresAt", integerText c.expiresAt)]

theorem bare_action (a : ControlAction) : Bare (chars a.name) := by cases a <;> decide

variable {uuid node : Bytes}

theorem printed_controlPayload {c : Command} (hid : c.id = widen uuid) (huuid : Bare uuid)
    (hnode : Bare node) (hissued : c.issuedAt.natAbs < 2 ^ 53)
    (hexpires : c.expiresAt.natAbs < 2 ^ 53) :
    stringify (controlPayload c (widen node)) = widen (json.object (commandFields c uuid node)) ∧
      IsAscii (json.object (commandFields c uuid node)) := by
  have haction : Ecma.text c.action.name = widen (chars c.action.name) := by
    cases c.action <;> rfl
  refine printed_object (by simp [commandFields]) ?_
  rw [hid, haction]
  exact .cons ⟨rfl, rfl, Bare.printed (s := chars "control") (by decide)⟩
    (.cons ⟨rfl, rfl, (bare_action c.action).printed⟩ (.cons ⟨rfl, rfl, huuid.printed⟩
    (.cons ⟨rfl, rfl, hnode.printed⟩ (.cons ⟨rfl, rfl, printed_time hissued⟩
    (.cons ⟨rfl, rfl, printed_time hexpires⟩ .nil)))))

def commandSignature (H : Hmac) (c : Command) (uuid node : Bytes) (d : Delivery) : Bytes :=
  hmacHex H (encode d.targetSecret) (integerText d.timestamp ++ chars "." ++ hexText d.nonce.1 ++
    chars "." ++ json.object (commandFields c uuid node))

/-- **The datagram of a command.** -/
theorem controlDatagram_eq {H : Hmac} {c : Command} {d : Delivery} (hid : c.id = widen uuid)
    (huuid : Bare uuid) (hnode : Bare node) (hissued : c.issuedAt.natAbs < 2 ^ 53)
    (hexpires : c.expiresAt.natAbs < 2 ^ 53) (htimestamp : d.timestamp.natAbs < 2 ^ 53)
    (hsecret : d.targetSecret ≠ []) :
    controlDatagram H c (widen node) d =
      signedCommand (json.object (commandFields c uuid node)) d.timestamp (hexText d.nonce.1)
        (commandSignature H c uuid node d) := by
  have hpayload := printed_controlPayload hid huuid hnode hissued hexpires
  have hmessage : encode (signedText (controlPayload c (widen node)) (timeNumber d.timestamp)
      (widen (hexText d.nonce.1))) = integerText d.timestamp ++ chars "." ++ hexText d.nonce.1 ++
        chars "." ++ json.object (commandFields c uuid node) := by
    have hprint : (timeNumber d.timestamp).print = widen (integerText d.timestamp) := by
      have := stringify_time htimestamp
      rwa [stringify] at this
    have hdot : [unit '.'] = widen (chars ".") := rfl
    rw [signedText, hpayload.1, hprint, ← singleton_append, hdot, ← singleton_append, hdot,
      ← widen_append, ← widen_append, ← widen_append, ← widen_append, ← append_assoc,
      ← append_assoc, ← append_assoc]
    refine encode_widen ?_
    simp only [isAscii_append, isAscii_integerText, isAscii_hexText, hpayload.2]
    decide
  have hsignature : hexText (createHmac H d.targetSecret (signedText (controlPayload c (widen node))
      (timeNumber d.timestamp) (widen (hexText d.nonce.1)))) = commandSignature H c uuid node d := by
    rw [createHmac, hmessage]
    rfl
  have hbare : Bare (commandSignature H c uuid node d) := bare_hexText _
  rw [controlDatagram, signEnvelope, if_neg hsecret]
  simp only [hsignature]
  refine encode_object (by simp) (.cons ⟨rfl, rfl, hpayload⟩ (.cons ⟨rfl, rfl, ?_⟩ .nil))
  dsimp only [authFields]
  exact printed_object (by simp) (.cons ⟨rfl, rfl, printed_time htimestamp⟩
    (.cons ⟨rfl, rfl, (bare_hexText _).printed⟩ (.cons ⟨rfl, rfl, hbare.printed⟩ .nil)))

theorem length_signedCommand_le {H : Hmac} {c : Command} {d : Delivery} (huuid : uuid.length = 36)
    (hnode : node.length ≤ 64) (hissued : c.issuedAt.natAbs < 2 ^ 53)
    (hexpires : c.expiresAt.natAbs < 2 ^ 53) (htimestamp : d.timestamp.natAbs < 2 ^ 53) :
    (signedCommand (json.object (commandFields c uuid node)) d.timestamp (hexText d.nonce.1)
      (commandSignature H c uuid node d)).length ≤ 2048 := by
  have hquoted : ∀ s : Bytes, (json.quoted s).length = s.length + 2 := by
    intro s
    simp [Punctuation.quoted]
  have haction : (chars c.action.name).length ≤ 6 := by cases c.action <;> decide
  have hsignature : (commandSignature H c uuid node d).length = 64 := by
    rw [commandSignature, hmacHex, length_hexText, H.length_digest]
  have hnonce : (hexText d.nonce.1).length = 32 := by rw [length_hexText, d.nonce.2]
  have h₁ := length_integerText_le hissued
  have h₂ := length_integerText_le hexpires
  have h₃ := length_integerText_le htimestamp
  have hnames : (chars "kind").length = 4 ∧ (chars "control").length = 7 ∧
      (chars "action").length = 6 ∧ (chars "commandId").length = 9 ∧
      (chars "targetNode").length = 10 ∧ (chars "issuedAt").length = 8 ∧
      (chars "expiresAt").length = 9 ∧ (chars "payload").length = 7 ∧ (chars "auth").length = 4 ∧
      (chars "timestamp").length = 9 ∧ (chars "nonce").length = 5 ∧
      (chars "signature").length = 9 := by decide
  simp only [signedCommand, commandFields, authFields, length_object, map_cons, map_nil,
    sum_cons, sum_nil, hquoted]
  omega

/-! ## Identifiers -/

/-- The classes of what `randomUUID` returns. -/
def uuidClasses : List (UInt16 → Bool) :=
  List.replicate 8 isLowerHex ++ isDash :: (List.replicate 4 isLowerHex ++
    isDash :: (fun u => u = unit '4') :: (List.replicate 3 isLowerHex ++
    isDash :: (fun u => (text "89ab").contains u) :: (List.replicate 3 isLowerHex ++
    isDash :: List.replicate 12 isLowerHex)))

/-- `^[a-z][a-z0-9_-]\x7b0,63\x7d$`, the form of a node id. -/
def isNodeId : Bytes → Bool
  | [] => false
  | b :: s => (ascii 'a' ≤ b && b ≤ ascii 'z') && s.length ≤ 63 &&
      s.all fun b => (ascii 'a' ≤ b && b ≤ ascii 'z') || isDigitByte b || b = ascii '_' || b = ascii '-'

theorem matchesClasses_iff {classes : List (UInt16 → Bool)} {s : Text} :
    matchesClasses classes s = true ↔ List.Forall₂ (fun c u => c u = true) classes s := by
  induction classes generalizing s with
  | nil => cases s <;> simp [matchesClasses]
  | cons c classes ih =>
    cases s with
    | nil => simp [matchesClasses]
    | cons u s =>
      rw [forall₂_cons, ← ih]
      simp [matchesClasses]
      tauto

theorem forall₂_comp {α β γ : Type} {R : α → β → Prop} {S : α → γ → Prop} {T : β → γ → Prop}
    {as : List α} {bs : List β} {cs : List γ} (hR : List.Forall₂ R as bs) (hS : List.Forall₂ S as cs)
    (h : ∀ a b c, R a b → S a c → T b c) : List.Forall₂ T bs cs := by
  induction hR generalizing cs with
  | nil => cases hS; exact .nil
  | cons hab _ ih =>
    cases hS with
    | cons hac hrest => exact .cons (h _ _ _ hab hac) (ih hrest)

/-- The place of a unit decides what it is. -/
def idUnit (i : ℕ) (u : UInt16) : Bool := if i ∈ commandIdDashes then u = unit '-' else isLowerHex u

/-- What the class of a UUID says at a place: it is a dash or a digit, and it is in the class of
    a command id. -/
def Says (c : UInt16 → Bool) (p : ℕ × (UInt16 → Bool)) : Prop :=
  ∀ u, c u = true → idUnit p.1 u = true ∧ p.2 u = true

theorem uuidClasses_spec : List.Forall₂ Says uuidClasses ((range 36).zip commandIdClasses) := by
  have hdigit : ∀ {i : ℕ}, i ∉ commandIdDashes → ∀ u, isLowerHex u = true →
      idUnit i u = true ∧ isHex u = true := by
    intro i hi u hu
    rw [idUnit, if_neg hi]
    exact ⟨hu, by rw [isHex, hu, Bool.true_or]⟩
  have hdash : ∀ {i : ℕ}, i ∈ commandIdDashes → ∀ u, isDash u = true →
      idUnit i u = true ∧ isDash u = true := by
    intro i hi u hu
    rw [idUnit, if_pos hi]
    exact ⟨by simpa [isDash] using hu, hu⟩
  have hversion : ∀ u, decide (u = unit '4') = true →
      idUnit 14 u = true ∧ (decide (unit '1' ≤ u) && decide (u ≤ unit '5')) = true := by
    intro u hu
    obtain rfl := of_decide_eq_true hu
    decide
  have hvariant : ∀ u, (text "89ab").contains u = true →
      idUnit 19 u = true ∧ (text "89abAB").contains u = true := by
    intro u hu
    have hcases : u = unit '8' ∨ u = unit '9' ∨ u = unit 'a' ∨ u = unit 'b' := by
      simpa [text] using hu
    rcases hcases with rfl | rfl | rfl | rfl <;> decide
  have hdigits : ∀ (n start : ℕ) {cs : List (UInt16 → Bool)} {ps : List (ℕ × (UInt16 → Bool))},
      (∀ i ∈ range' start n, i ∉ commandIdDashes) → List.Forall₂ Says cs ps →
      List.Forall₂ Says (replicate n isLowerHex ++ cs) ((range' start n).zip (replicate n isHex) ++ ps) := by
    intro n
    induction n with
    | zero => intro start cs ps _ h; exact h
    | succ n ih =>
      intro start cs ps hi h
      obtain ⟨hfirst, hrest⟩ := forall_mem_cons.1 hi
      exact .cons (hdigit hfirst) (ih (start + 1) hrest h)
  exact hdigits 8 0 (by decide) (.cons (hdash (by decide)) (hdigits 4 9 (by decide)
    (.cons (hdash (by decide)) (.cons hversion (hdigits 3 15 (by decide) (.cons (hdash (by decide))
    (.cons hvariant (hdigits 3 20 (by decide) (.cons (hdash (by decide))
    (hdigits 12 24 (by decide) .nil))))))))))

theorem isLowerHex_lt {u : UInt16} (h : isLowerHex u = true) : u < 0x100 := by
  simp only [isLowerHex, isDigit, Bool.or_eq_true, Bool.and_eq_true, decide_eq_true_eq] at h
  rcases h with h | h
  · exact UInt16.lt_of_le_of_lt h.2 (by decide)
  · exact UInt16.lt_of_le_of_lt h.2 (by decide)

theorem idUnit_byte {i : ℕ} {u : UInt16} (h : idUnit i u = true) : u < 0x100 ∧ bare u.toUInt8 = true ∧
    (i ∈ commandIdDashes → u.toUInt8 = ascii '-') ∧ (i ∉ commandIdDashes → isIdDigit u.toUInt8 = true) := by
  have hdigit : ∀ b : UInt8, isLowerHex b.toUInt16 = true → bare b = true ∧ isIdDigit b = true :=
    forall_byte (by decide)
  by_cases hi : i ∈ commandIdDashes
  · simp only [idUnit, if_pos hi, decide_eq_true_eq] at h
    subst h
    exact ⟨by decide, by decide, fun _ => rfl, fun hnot => absurd hi hnot⟩
  · simp only [idUnit, if_neg hi] at h
    have hlt := isLowerHex_lt h
    have hwiden : u.toUInt8.toUInt16 = u := by
      simpa [narrow] using widen_narrow (t := [u]) (by simpa using hlt)
    obtain ⟨hbare, hid⟩ := hdigit u.toUInt8 (by rw [hwiden]; exact h)
    exact ⟨hlt, hbare, fun hmem => absurd hmem hi, fun _ => hid⟩

/-- **What `randomUUID` returns is a command id**, for the collector and for the
    runtime. -/
theorem uuid_spec {id : Text} (h : matchesClasses uuidClasses id = true) :
    ∃ uuid : Bytes, id = widen uuid ∧ Bare uuid ∧ uuid.length = 36 ∧ validCommandId uuid = true ∧
      matchesClasses commandIdClasses id = true := by
  have hplaces := forall₂_comp uuidClasses_spec (matchesClasses_iff.1 h)
    (T := fun p u => idUnit p.1 u = true ∧ p.2 u = true) fun c p u hspec hu => hspec u hu
  have hlengths : (range 36).length = commandIdClasses.length := rfl
  have hclasses : List.Forall₂ (fun c u => c u = true) commandIdClasses id := by
    rw [← map_snd_zip hlengths.ge]
    exact forall₂_map_left_iff.2 (hplaces.imp fun _ _ hp => hp.2)
  have hunits : List.Forall₂ (fun i u => idUnit i u = true) (range 36) id := by
    rw [← map_fst_zip hlengths.le]
    exact forall₂_map_left_iff.2 (hplaces.imp fun _ _ hp => hp.1)
  have hlength : id.length = 36 := hunits.length_eq.symm
  have hat : ∀ i u, id[i]? = some u → idUnit i u = true := by
    intro i u hu
    obtain ⟨hlt, rfl⟩ := List.getElem?_eq_some_iff.1 hu
    have := hunits.get (i := i) (by simpa [hlength] using hlt) hlt
    simpa using this
  have hmem : ∀ u ∈ id, ∃ i, idUnit i u = true := by
    intro u hu
    obtain ⟨i, hi⟩ := mem_iff_getElem?.1 hu
    exact ⟨i, hat i u hi⟩
  refine ⟨narrow id, (widen_narrow fun u hu => ?_).symm, ?_, by simpa [narrow] using hlength, ?_,
    matchesClasses_iff.2 hclasses⟩
  · obtain ⟨i, hi⟩ := hmem u hu
    exact (idUnit_byte hi).1
  · refine all_eq_true.2 fun b hb => ?_
    obtain ⟨u, hu, rfl⟩ := mem_map.1 hb
    obtain ⟨i, hi⟩ := hmem u hu
    exact (idUnit_byte hi).2.1
  · have hbyte : ∀ i < 36, ∃ u, (narrow id)[i]? = some u.toUInt8 ∧ idUnit i u = true := by
      intro i hi
      have hu := getElem?_eq_getElem (l := id) (i := i) (by omega)
      exact ⟨_, by rw [narrow, getElem?_map, hu]; rfl, hat i _ hu⟩
    have hdashes : ∀ i ∈ commandIdDashes, i < 36 := by decide
    simp only [validCommandId, Bool.and_eq_true, decide_eq_true_eq, all_eq_true, mem_range,
      Bool.or_eq_true]
    refine ⟨⟨by simpa [narrow] using hlength, fun i hi => ?_⟩, fun i hi => ?_⟩
    · obtain ⟨u, hu, hid⟩ := hbyte i (hdashes i hi)
      rw [hu, (idUnit_byte hid).2.2.1 hi]
    · obtain ⟨u, hu, hid⟩ := hbyte i hi
      by_cases hdash : i ∈ commandIdDashes
      · exact .inl hdash
      · exact .inr (by rw [hu]; exact (idUnit_byte hid).2.2.2 hdash)

theorem nodeId_spec (h : isNodeId node = true) : Bare node ∧ node.length ≤ 64 := by
  have hbyte : ∀ b : UInt8, ((ascii 'a' ≤ b && b ≤ ascii 'z') || isDigitByte b || b = ascii '_' ||
      b = ascii '-') = true → bare b = true := forall_byte (by decide)
  have hfirst : ∀ b : UInt8, (ascii 'a' ≤ b && b ≤ ascii 'z') = true → bare b = true :=
    forall_byte (by decide)
  cases node with
  | nil => cases h
  | cons b s =>
    simp only [isNodeId, Bool.and_eq_true, all_eq_true] at h
    refine ⟨all_eq_true.2 (forall_mem_cons.2 ⟨hfirst b (by simpa using h.1.1), fun c hc => ?_⟩),
      by simpa [Nat.lt_succ_iff] using h.1.2⟩
    exact hbyte c (by simpa using h.2 c hc)

end GraphX
