/-
  The transports that connections resolve to (`normalize_name` and `mapping_size` of
  `src/shared_memory_transport.cpp`, `create_impl` of `src/udp_transport.cpp`).
-/
import GraphX.Envelope
import GraphX.Config.ResolvedConnections

namespace GraphX.Config

namespace SharedRing

def sink : Ident := ⟨"sink", .refl true⟩
def source : Ident := ⟨"source", .refl true⟩
def transform : Ident := ⟨"transform", .refl true⟩
def samples : Ident := ⟨"samples", .refl true⟩
def transformed : Ident := ⟨"transformed", .refl true⟩

def application (type : String) : Node where
  type := type
  execution := { kind := .native, ipcDomain := some ⟨"local", .refl true⟩ }

def ring (segment : String) (bytes : Within 1 16777216) : Settings where
  segment := some segment
  capacity := some ⟨8, .refl true⟩
  maxMessageBytes := some bytes
  connectTimeoutMs := some ⟨5000, .refl true⟩
  sendTimeoutMs := some ⟨5000, .refl true⟩
  backpressure := some .block

/-- The sample pipeline over shared memory, with one segment for both connections. -/
def graph : Graph where
  id := ⟨"pipeline", .refl true⟩
  nodes := .ofList [(sink, application "sample.sink"), (source, application "sample.source"),
    (transform, application "sample.transform")] rfl
  connections := .ofList
    [(⟨"first", .refl true⟩,
        { source := ⟨source, samples⟩, target := ⟨transform, samples⟩, transport := .sharedMemory
          settings := ring "ring" ⟨4096, .refl true⟩ }),
      (⟨"second", .refl true⟩,
        { source := ⟨transform, transformed⟩, target := ⟨sink, transformed⟩
          transport := .sharedMemory, settings := ring "ring" ⟨4096, .refl true⟩ })] rfl

/-- The same, with other settings for the second connection. -/
def graphWith (settings : Settings) : Graph :=
  { graph with connections := graph.connections.map fun _ c =>
      if c.target.node = sink then { c with settings := settings } else c }

end SharedRing

variable {env : Environment} {catalog : Catalog} {options : LoadOptions} {graph : Graph}
  {config : GraphConfig}

/-! ## Segments -/

def normalizeName (name : String) : Result String :=
  if name = "" then .error (.invalidArgument "shared-memory segment name is empty") else
    let name := if name.toList.head? = some '/' then name else "/" ++ name
    if 200 < name.utf8ByteSize || (name.toList.drop 1).contains '/' then
      .error (.invalidArgument "shared-memory segment must be one POSIX name")
    else .ok name

theorem isSegment_chars {text : String} (h : isSegment text = true) :
    text.toList ≠ [] ∧ text.toList.length ≤ 64 ∧
      ∀ c ∈ text.toList, isAsciiAlphanumeric c = true ∨ c = '_' ∨ c = '-' := by
  unfold isSegment at h
  rcases htext : text.toList with _ | ⟨c, rest⟩
  · simp [htext] at h
  · rw [htext] at h
    simp only [Bool.and_eq_true, List.all_eq_true, Bool.or_eq_true, decide_eq_true_eq] at h
    obtain ⟨⟨hfirst, hrest⟩, hlength⟩ := h
    refine ⟨by simp, Nat.succ_le_succ hlength, fun d hd => ?_⟩
    rcases List.mem_cons.1 hd with rfl | hd
    · exact .inl (by simpa [isAsciiAlphanumeric] using .inl hfirst)
    · simpa [or_assoc] using hrest d hd

theorem utf8Size_of_segment {c : Char} (h : isAsciiAlphanumeric c = true ∨ c = '_' ∨ c = '-') :
    c.utf8Size = 1 := by
  rcases h with h | rfl | rfl
  · have hlt : c.val ≤ 127 := by
      simp only [isAsciiAlphanumeric, Bool.or_eq_true] at h
      rcases h with (h | h) | h
      · exact UInt32.le_trans (of_decide_eq_true (Bool.and_eq_true_iff.1 h).2) (by decide)
      · exact UInt32.le_trans (of_decide_eq_true h).2 (by decide)
      · exact UInt32.le_trans (of_decide_eq_true (Bool.and_eq_true_iff.1 h).2) (by decide)
    simp [Char.utf8Size, hlt]
  · rfl
  · rfl

theorem utf8ByteSize_ofList {cs : List Char} (h : ∀ c ∈ cs, c.utf8Size = 1) :
    (String.ofList cs).utf8ByteSize = cs.length := by
  induction cs with
  | nil => rfl
  | cons c cs ih =>
    rw [String.ofList_cons, String.utf8ByteSize_append, String.utf8ByteSize_singleton, h c (by simp),
      ih fun d hd => h d (by simp [hd]), List.length_cons]
    omega

/-- **A segment that the loader admits is normalized by a slash.** -/
theorem normalizeName_segment {text : String} (h : isSegment text = true) :
    normalizeName text = .ok ("/" ++ text) := by
  obtain ⟨hne, hlength, hchars⟩ := isSegment_chars h
  have hslash : '/' ∉ text.toList := by
    intro hmem
    rcases hchars '/' hmem with h | h | h <;> exact absurd h (by decide)
  have hempty : text ≠ "" := by
    rintro rfl
    exact hne rfl
  have hhead : text.toList.head? ≠ some '/' := fun hhead => hslash (List.mem_of_head? hhead)
  have hsize : text.utf8ByteSize ≤ 64 := by
    rw [← String.ofList_toList (s := text), utf8ByteSize_ofList fun c hc => utf8Size_of_segment (hchars c hc)]
    exact hlength
  have hbytes : ("/" ++ text).utf8ByteSize = 1 + text.utf8ByteSize := String.utf8ByteSize_append
  have hdrop : (("/" ++ text).toList.drop 1).contains '/' = false := by
    simpa using hslash
  simp only [normalizeName, hempty, hhead, if_false, hdrop, Bool.or_false, decide_eq_true_eq]
  rw [if_neg (by omega)]

def segmentName (c : ResolvedConnection) : Option (Result String) :=
  match c.settings with
  | .sharedMemory s => some (normalizeName s.segment)
  | .tcp _ | .udp _ => none

theorem ConnectionResolved.segmentName_eq {attachments : List ResolvedAttachment}
    {portable : Option PortableNetwork} {native : Bool} {entry : Ident × Connection} {ordinal : ℕ}
    {c : ResolvedConnection}
    (h : ConnectionResolved graph catalog attachments portable native entry ordinal c) :
    (entry.2.transport = .sharedMemory ∧ ∃ segment, entry.2.settings.segment = some segment ∧
        segmentName c = some (.ok ("/" ++ segment))) ∨
      (entry.2.transport ≠ .sharedMemory ∧ segmentName c = none) := by
  obtain ⟨out, input, -, -, -, -, -, -, hchecked, hsettings⟩ := h.ports
  rcases resolveSettings_cases hsettings with ⟨htransport, s, hs, hshared⟩ | ⟨htransport, s, hs, -⟩ |
      ⟨htransport, hs⟩
  · obtain ⟨-, hsegment, -⟩ := sharedMemorySettings_eq_ok hshared
    obtain ⟨-, -, -, -, -, hcheck, -⟩ := checkSettings_eq_ok hchecked
    unfold checkSegment at hcheck
    rw [if_pos htransport, hsegment] at hcheck
    have hadmitted := require_eq_ok.1 (Check.bind_unit_eq_ok.1 hcheck).1
    exact .inl ⟨htransport, s.segment, hsegment, by simp [segmentName, hs, normalizeName_segment hadmitted]⟩
  · exact .inr ⟨by simp [htransport], by simp [segmentName, hs]⟩
  · exact .inr ⟨by simp [htransport], by simp [segmentName, hs]⟩

/-- **Shared segments.**  Two connections open different segments iff different
    segments are authored: nothing compares them. -/
theorem segments_distinct_iff (h : loadGraph env catalog options graph = .ok config) :
    (∀ c ∈ config.connections, ∀ c' ∈ config.connections, c.id ≠ c'.id →
      ∀ name, segmentName c = some (.ok name) → segmentName c' ≠ some (.ok name)) ↔
    (∀ entry ∈ config.authored.connections.entries, ∀ entry' ∈ config.authored.connections.entries,
      entry.1 ≠ entry'.1 → entry.2.transport = .sharedMemory → entry'.2.transport = .sharedMemory →
        entry.2.settings.segment ≠ entry'.2.settings.segment) := by
  have hresolved := (loadGraph_accepted h).resolved
  constructor
  · intro hdistinct entry hentry entry' hentry' hid htransport htransport' hsegments
    obtain ⟨c, hc, ordinal, hce⟩ := hresolved.of_entry hentry
    obtain ⟨c', hc', ordinal', hce'⟩ := hresolved.of_entry hentry'
    rcases hce.segmentName_eq with ⟨-, segment, hsegment, hname⟩ | ⟨hne, -⟩
    · rcases hce'.segmentName_eq with ⟨-, segment', hsegment', hname'⟩ | ⟨hne', -⟩
      · have hsame : segment = segment' := Option.some.inj (hsegment.symm.trans (hsegments.trans hsegment'))
        exact hdistinct c hc c' hc' (by rwa [hce.id, hce'.id]) _ hname (hsame ▸ hname')
      · exact hne' htransport'
    · exact hne htransport
  · intro hdistinct c hc c' hc' hid name hname hname'
    obtain ⟨entry, hentry, ordinal, hce⟩ := hresolved.of_mem hc
    obtain ⟨entry', hentry', ordinal', hce'⟩ := hresolved.of_mem hc'
    rcases hce.segmentName_eq with ⟨htransport, segment, hsegment, heq⟩ | ⟨-, hnone⟩
    · rcases hce'.segmentName_eq with ⟨htransport', segment', hsegment', heq'⟩ | ⟨-, hnone'⟩
      · refine hdistinct entry hentry entry' hentry' (by rwa [hce.id, hce'.id] at hid) htransport
          htransport' ?_
        have hnames : "/" ++ segment = "/" ++ segment' := by
          have := (heq.symm.trans hname).trans (hname'.symm.trans heq')
          simpa using this
        rw [hsegment, hsegment', String.append_right_inj "/" |>.1 hnames]
      · rw [hnone'] at hname'
        cases hname'
    · rw [hnone] at hname
      cases hname

set_option maxRecDepth 4000 in
/-- A pipeline whose connections have segments of their own. -/
theorem segments_distinct_pipeline :
    ∃ config, loadGraph sampleEnvironment shippedCatalog { target := "native-linux" }
        (SharedRing.graphWith (SharedRing.ring "other" ⟨4096, .refl true⟩)) = .ok config ∧
      ∀ c ∈ config.connections, ∀ c' ∈ config.connections, c.id ≠ c'.id →
        ∀ name, segmentName c = some (.ok name) → segmentName c' ≠ some (.ok name) := by
  refine ⟨_, rfl, (segments_distinct_iff (show loadGraph sampleEnvironment shippedCatalog
    { target := "native-linux" } (SharedRing.graphWith (SharedRing.ring "other" ⟨4096, .refl true⟩)) =
      .ok _ from rfl)).2 ?_⟩
  decide

set_option maxRecDepth 4000 in
/-- A pipeline whose two connections open one segment. -/
theorem segments_shared_pipeline :
    ∃ config, loadGraph sampleEnvironment shippedCatalog { target := "native-linux" }
        SharedRing.graph = .ok config ∧
      ∃ c ∈ config.connections, ∃ c' ∈ config.connections, c.id ≠ c'.id ∧
        segmentName c = some (.ok "/ring") ∧ segmentName c' = some (.ok "/ring") := by
  refine ⟨_, rfl, ?_⟩
  decide

/-! ## Sizes -/

/-- `slot_stride`: the length and the message, aligned to 16 bytes. -/
def slotStride (maximum : ℕ) : ℕ := (4 + maximum + 15) / 16 * 16

def mappingSize (headerBytes capacity maxMessageBytes : ℕ) : Result ℕ :=
  if capacity = 0 || 65536 < capacity then
    .error (.invalidArgument "shared-memory capacity must be between 1 and 65536")
  else if maxMessageBytes < 64 || kMaxFrameBytes + 4 < maxMessageBytes then
    .error (.invalidArgument "shared-memory maximum message size must be between 64 and 16777220")
  else if (268435456 - headerBytes) / slotStride maxMessageBytes < capacity then
    .error (.invalidArgument "shared-memory mapping exceeds 256 MiB")
  else .ok (headerBytes + capacity * slotStride maxMessageBytes)

/-- The checks of `create_impl` on sizes. -/
def checkUdpSizes (s : UdpSettings) : Result Unit :=
  if s.maxDatagramBytes.val < 64 || 65507 < s.maxDatagramBytes.val then
    .error (.invalidArgument "UDP max_datagram_bytes must be between 64 and 65507")
  else if s.receiveBufferBytes.val < 4096 || s.sendBufferBytes.val < 4096 then
    .error (.invalidArgument "UDP socket buffers must be at least 4096 bytes")
  else .ok ()

/-- The transport accepts the sizes that a connection resolved to. -/
def ResolvedSettings.constructible (headerBytes : ℕ) : ResolvedSettings → Bool
  | tcp _ => true
  | udp s => checkUdpSizes s = .ok ()
  | sharedMemory s => (mappingSize headerBytes s.capacity.val s.maxMessageBytes.val).isOk

/-- The sizes that a transport needs, of authored settings. -/
def sizesFit (headerBytes : ℕ) (connection : Connection) : Bool :=
  let s := connection.settings
  match connection.transport with
  | .tcp => true
  | .udp => s.maxDatagramBytes.all (64 ≤ ·.val) && s.receiveBufferBytes.all (4096 ≤ ·.val) &&
      s.sendBufferBytes.all (4096 ≤ ·.val)
  | .sharedMemory => s.maxMessageBytes.all fun bytes => 64 ≤ bytes.val &&
      s.capacity.all fun capacity =>
        capacity.val ≤ (268435456 - headerBytes) / slotStride bytes.val

theorem mappingSize_isOk {headerBytes : ℕ} (capacity : Within 1 65536) (bytes : Within 1 16777216) :
    (mappingSize headerBytes capacity.val bytes.val).isOk = true ↔
      64 ≤ bytes.val ∧ capacity.val ≤ (268435456 - headerBytes) / slotStride bytes.val := by
  have hlow := capacity.low_le
  have hhigh := capacity.le_high
  have hbytes := bytes.le_high
  unfold mappingSize kMaxFrameBytes
  simp only [Bool.or_eq_true, decide_eq_true_eq]
  rw [if_neg (by omega)]
  split_ifs with hmessage hfits
  · simp only [Except.toBool, Bool.false_eq_true, false_iff]
    omega
  · simp only [Except.toBool, Bool.false_eq_true, false_iff]
    omega
  · simp only [Except.toBool, true_iff]
    exact ⟨by omega, Nat.le_of_not_lt hfits⟩

theorem checkUdpSizes_ok {s : UdpSettings} : checkUdpSizes s = .ok () ↔
    64 ≤ s.maxDatagramBytes.val ∧ 4096 ≤ s.receiveBufferBytes.val ∧ 4096 ≤ s.sendBufferBytes.val := by
  have hhigh := s.maxDatagramBytes.le_high
  unfold checkUdpSizes
  simp only [Bool.or_eq_true, decide_eq_true_eq]
  split_ifs with hdatagram hbuffers
  · simp only [false_iff]
    omega
  · simp only [false_iff]
    omega
  · simp only [true_iff]
    omega

theorem le_getD_iff {low high : ℕ} {value : Option (Within low high)} {default : Within low high}
    {bound : ℕ} (hdefault : bound ≤ default.val) :
    bound ≤ (value.getD default).val ↔ value.all (bound ≤ ·.val) = true := by
  cases value with
  | none => simpa using hdefault
  | some n => simp

theorem ConnectionResolved.constructible_iff {attachments : List ResolvedAttachment}
    {portable : Option PortableNetwork} {native : Bool} {entry : Ident × Connection} {ordinal : ℕ}
    {c : ResolvedConnection} {headerBytes : ℕ}
    (h : ConnectionResolved graph catalog attachments portable native entry ordinal c) :
    c.settings.constructible headerBytes = sizesFit headerBytes entry.2 := by
  obtain ⟨out, input, -, -, -, -, -, -, -, hsettings⟩ := h.ports
  rw [Bool.eq_iff_iff]
  rcases resolveSettings_cases hsettings with ⟨htransport, s, hs, hshared⟩ | ⟨htransport, s, hs, -⟩ |
      ⟨htransport, hs⟩
  · obtain ⟨-, -, hcapacity, hbytes, -⟩ := sharedMemorySettings_eq_ok hshared
    rw [hs, ResolvedSettings.constructible, mappingSize_isOk]
    simp [sizesFit, htransport, hcapacity, hbytes]
  · simp [hs, ResolvedSettings.constructible, sizesFit, htransport]
  · rw [hs, ResolvedSettings.constructible, decide_eq_true_eq, checkUdpSizes_ok]
    simp only [udpSettings, sizesFit, htransport, Bool.and_eq_true]
    rw [le_getD_iff (by decide), le_getD_iff (by decide), le_getD_iff (by decide), and_assoc]

/-- **Construction.**  The transports accept what an accepted graph resolves to iff
    its authored sizes fit; the loader admits smaller ones. -/
theorem transports_constructible_iff (headerBytes : ℕ)
    (h : loadGraph env catalog options graph = .ok config) :
    (∀ c ∈ config.connections, c.settings.constructible headerBytes = true) ↔
      ∀ entry ∈ config.authored.connections.entries, sizesFit headerBytes entry.2 = true := by
  have hresolved := (loadGraph_accepted h).resolved
  constructor
  · intro hall entry hentry
    obtain ⟨c, hc, ordinal, hce⟩ := hresolved.of_entry hentry
    exact hce.constructible_iff ▸ hall c hc
  · intro hall c hc
    obtain ⟨entry, hentry, ordinal, hce⟩ := hresolved.of_mem hc
    exact hce.constructible_iff ▸ hall entry hentry

set_option maxRecDepth 4000 in
/-- A pipeline over rings of 4096 byte messages. -/
theorem transports_constructible_pipeline :
    ∃ config, loadGraph sampleEnvironment shippedCatalog { target := "native-linux" }
        (SharedRing.graphWith (SharedRing.ring "other" ⟨4096, .refl true⟩)) = .ok config ∧
      ∀ c ∈ config.connections, c.settings.constructible 200 = true := by
  refine ⟨_, rfl, (transports_constructible_iff 200 (show loadGraph sampleEnvironment shippedCatalog
    { target := "native-linux" } (SharedRing.graphWith (SharedRing.ring "other" ⟨4096, .refl true⟩)) =
      .ok _ from rfl)).2 ?_⟩
  decide

set_option maxRecDepth 4000 in
/-- A pipeline over a ring of 32 byte messages, which the transport refuses. -/
theorem transports_refuse_small_messages :
    ∃ config, loadGraph sampleEnvironment shippedCatalog { target := "native-linux" }
        (SharedRing.graphWith (SharedRing.ring "other" ⟨32, .refl true⟩)) = .ok config ∧
      ∃ c ∈ config.connections, c.settings.constructible 200 = false := by
  refine ⟨_, rfl, ?_⟩
  decide

end GraphX.Config
