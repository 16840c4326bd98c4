/-
  The shipped catalog (`config/catalog`).
-/
import GraphX.Config.Catalog

namespace GraphX.Config

/-! ## Types -/

def runtimeImage : String :=
  "graphx-design/runtime@sha256:09486a2ac3d5398b1bb25e807db55c4954971f306b94e55498ee30b6f02cda8c"

def sdrImage : String :=
  "graphx-design/sdr@sha256:928533888c6b3ecff6123dd69342931275216f99fce32367d76a000ba4a5dd82"

/-- A port that is connected once. -/
def shippedPort (encoding : Encoding) (transport : Transport) (others : List Transport)
    (direction : Direction) (schema : String) (feedback : Bool)
    (defaultPort : Option (Within 1 65535)) : PortType where
  direction := direction
  schema := schema
  transports := transport :: others
  encoding := encoding
  minConnections := 1
  maxConnections := ⟨1, .refl true⟩
  feedback := feedback
  listener := decide (direction = .input)
  defaultPort := defaultPort
  ordered := rfl
  connectable := rfl
  listens := rfl

def rawPort (transport : Transport) (direction : Direction) (schema : String) (feedback : Bool)
    (defaultPort : Option (Within 1 65535)) : PortType :=
  shippedPort .raw transport [] direction schema feedback defaultPort

def rawPortAt (transport : Transport) (direction : Direction) (schema : String) (feedback : Bool)
    (port : ℕ) (h : (decide (1 ≤ port) && decide (port ≤ 65535)) = true := by exact .refl true) :
    PortType :=
  rawPort transport direction schema feedback (some ⟨port, h⟩)

def graphxPort (transport : Transport) (others : List Transport) (direction : Direction)
    (schema : String) : PortType :=
  shippedPort .graphx transport others direction schema false none

/-- What the shipped types have in common. -/
def shippedType (image executable : String) (execution : List ExecutionKind)
    (observation : TypeObservation) : NodeType where
  revision := ⟨1, .refl true⟩
  image := image
  executable := executable
  execution := execution
  ports := .empty
  parameters := .empty
  observation := observation
  readinessTimeoutMs := ⟨30000, .refl true⟩
  credentials := []
  pids := ⟨64, .refl true⟩
  memoryBytes := ⟨134217728, .refl true⟩

namespace Shipped

def name (text : String) (h : isIdentifier text = true := by exact .refl true) : Ident :=
  ⟨text, h⟩

/-- The same definition under several names. -/
def each {α : Type} (names : List Ident) (definition : α) : List (Ident × α) :=
  names.map (·, definition)

def packetPorts : Table Ident PortType := .ofList
  [(name "tcp_in", rawPort .tcp .input "RawTcpBytes" true none),
    (name "tcp_out", rawPort .tcp .output "RawTcpBytes" true none),
    (name "udp_in", rawPort .udp .input "RawUdpDatagram" true none),
    (name "udp_out", rawPort .udp .output "RawUdpDatagram" true none)] rfl

def radioPorts : Table Ident PortType := .ofList
  [(name "control", rawPortAt .tcp .input "RawSdrControl" true 18401),
    (name "samples", rawPortAt .udp .output "RawIqSamples" true 18400)] rfl

/-- A node that stops after so many messages. -/
def messageLimit : Table Ident ParameterDefinition := .ofList
  [(name "max_messages", ⟨1, 1000000, 20, .refl true⟩)] rfl

def diagnosticLeft : NodeType :=
  { shippedType runtimeImage "graphx-diagnostic" [.namespace] .packet with
    ports := .ofList
      [(name "allowed", rawPortAt .udp .output "RawDiagnosticDatagram" true 18601),
        (name "denied", rawPortAt .udp .input "RawDiagnosticDatagram" true 18602),
        (name "routed", rawPortAt .udp .output "RawDiagnosticDatagram" false 18603)] rfl }

def diagnosticMiddle : NodeType :=
  { shippedType runtimeImage "graphx-diagnostic" [.namespace] .packet with
    ports := .ofList
      [(name "allowed", rawPortAt .udp .input "RawDiagnosticDatagram" true 18601),
        (name "denied", rawPortAt .udp .output "RawDiagnosticDatagram" true 18602)] rfl }

def diagnosticPeer : NodeType :=
  { shippedType runtimeImage "graphx-packet-peer" [.namespace] .packet with
    ports := packetPorts }

def diagnosticRight : NodeType :=
  { shippedType runtimeImage "graphx-diagnostic" [.namespace] .packet with
    ports := .ofList
      [(name "routed", rawPortAt .udp .input "RawDiagnosticDatagram" false 18603)] rfl }

def discoveryPublisher : NodeType :=
  { shippedType runtimeImage "graphx-udp-publisher" [.container, .native] .graphx with
    ports := .ofList [(name "out", graphxPort .udp [] .output "Discovery")] rfl
    parameters := messageLimit }

def discoverySubscriber : NodeType :=
  { shippedType runtimeImage "graphx-udp-subscriber" [.container, .native] .graphx with
    ports := .ofList [(name "in", graphxPort .udp [] .input "Discovery")] rfl
    parameters := messageLimit }

def externalPacketSource : NodeType :=
  shippedType runtimeImage "" [.external] .packet

def guestEcho : NodeType :=
  { shippedType runtimeImage "graphx-packet-guest" [.qemu] .packet with
    ports := packetPorts }

def sampleSink : NodeType :=
  { shippedType runtimeImage "graphx-sink" [.container, .native] .graphx with
    ports := .ofList
      [(name "transformed", graphxPort .tcp [.sharedMemory] .input "TransformedSample")] rfl
    revision := ⟨2, .refl true⟩
    parameters := .ofList
      [(name "max_messages", ⟨0, 1000000, 20, .refl true⟩)] rfl }

def sampleSource : NodeType :=
  { shippedType runtimeImage "graphx-generator" [.container, .native] .graphx with
    ports := .ofList
      [(name "samples", graphxPort .tcp [.sharedMemory] .output "Sample")] rfl
    revision := ⟨2, .refl true⟩
    parameters := .ofList
      [(name "interval_ms", ⟨1, 60000, 500, .refl true⟩),
        (name "max_messages", ⟨0, 1000000, 20, .refl true⟩)] rfl
    control := .graphx }

def sampleTransform : NodeType :=
  { shippedType runtimeImage "graphx-transform" [.container, .native] .graphx with
    ports := .ofList
      [(name "samples", graphxPort .tcp [.sharedMemory] .input "Sample"),
        (name "transformed", graphxPort .tcp [.sharedMemory] .output "TransformedSample")] rfl
    revision := ⟨2, .refl true⟩
    parameters := .ofList
      [(name "factor", ⟨1, 1000, 2, .refl true⟩),
        (name "max_messages", ⟨0, 1000000, 20, .refl true⟩)] rfl }

def sdrProcessor : NodeType :=
  { shippedType sdrImage "graphx-sdr-processor" [.container] .graphx with
    ports := .ofList
      [(name "control", rawPortAt .tcp .output "RawSdrControl" true 18401),
        (name "results", rawPortAt .tcp .output "RawPowerResult" false 18402),
        (name "samples", rawPortAt .udp .input "RawIqSamples" true 18400)] rfl
    credentials := [name "control"] }

def sdrRadio : NodeType :=
  { shippedType sdrImage "graphx-sdr-radio" [.external, .qemu] .packet with
    ports := radioPorts
    credentials := [name "control"] }

def sdrResultSink : NodeType :=
  { shippedType sdrImage "graphx-sdr-sink" [.container] .graphx with
    ports := .ofList
      [(name "results", rawPortAt .tcp .input "RawPowerResult" false 18402)] rfl }

def sdrSimulator : NodeType :=
  { shippedType sdrImage "graphx-sdr-radio" [.container] .graphx with
    ports := radioPorts
    credentials := [name "control"] }

def udpPublisher : NodeType :=
  { shippedType runtimeImage "graphx-udp-publisher" [.container, .native] .graphx with
    ports := .ofList [(name "out", graphxPort .udp [] .output "UdpExample")] rfl
    parameters := messageLimit }

def udpSubscriber : NodeType :=
  { shippedType runtimeImage "graphx-udp-subscriber" [.container, .native] .graphx with
    ports := .ofList [(name "in", graphxPort .udp [] .input "UdpExample")] rfl
    parameters := messageLimit }

def vitaDetector : NodeType :=
  { shippedType sdrImage "graphx-vita-detector" [.native, .container] .graphx with
    ports := .ofList
      [(name "spectra", rawPortAt .udp .input "VitaPowerSpectrum" false 18500)] rfl }

def vitaProcessor : NodeType :=
  { shippedType sdrImage "graphx-vita-processor" [.native, .container] .graphx with
    ports := .ofList
      [(name "control1", rawPortAt .tcp .output "VitaControl" true 18401),
        (name "control2", rawPortAt .tcp .output "VitaControl" true 18402),
        (name "control3", rawPortAt .tcp .output "VitaControl" true 18403),
        (name "control4", rawPortAt .tcp .output "VitaControl" true 18404),
        (name "data1", rawPortAt .udp .input "VitaIq" true 18411),
        (name "data2", rawPortAt .udp .input "VitaIq" true 18412),
        (name "data3", rawPortAt .udp .input "VitaIq" true 18413),
        (name "data4", rawPortAt .udp .input "VitaIq" true 18414),
        (name "spectra", rawPortAt .udp .output "VitaPowerSpectrum" false 18500)] rfl
    parameters := .ofList
      (each [name "bandwidth1", name "bandwidth2", name "bandwidth3", name "bandwidth4"]
          ⟨1, 2000000, 800000, .refl true⟩ ++
        each [name "bin_width_denominator1", name "bin_width_denominator2",
          name "bin_width_denominator3", name "bin_width_denominator4"] ⟨1, 2048, 16, .refl true⟩ ++
        each [name "bin_width_numerator_hz1", name "bin_width_numerator_hz2",
          name "bin_width_numerator_hz3", name "bin_width_numerator_hz4"]
          ⟨1, 2000000, 15625, .refl true⟩ ++
        each [name "center1", name "center2", name "center3", name "center4"]
          ⟨1000000, 6000000000, 100000000, .refl true⟩ ++
        each [name "gain_db1", name "gain_db2", name "gain_db3", name "gain_db4"] ⟨-60, 60, 0, rfl⟩ ++
        [(name "overlap_percent", ⟨0, 75, 0, .refl true⟩),
          (name "path_mtu", ⟨4200, 9000, 9000, .refl true⟩)] ++
        each [name "rate1", name "rate2", name "rate3", name "rate4"]
          ⟨1000, 2000000, 1000000, .refl true⟩ ++
        [(name "window", ⟨0, 1, 0, .refl true⟩)]) rfl
    credentials := [name "control1", name "control2", name "control3", name "control4"] }

def vitaRadio : NodeType :=
  { shippedType sdrImage "graphx-vita-radio" [.native, .container] .graphx with
    ports := .ofList
      [(name "control", rawPortAt .tcp .input "VitaControl" true 18401),
        (name "samples", rawPortAt .udp .output "VitaIq" true 18400)] rfl
    parameters := .ofList
      [(name "amplitude_ppm", ⟨0, 1000000, 250000, .refl true⟩),
        (name "burst_samples", ⟨1, 262144, 262144, .refl true⟩),
        (name "initial_phase_mdeg", ⟨0, 359999, 0, .refl true⟩),
        (name "radio_index", ⟨1, 4, 1, .refl true⟩),
        (name "signal_frequency_hz", ⟨1000000, 6000000000, 100050000, .refl true⟩)] rfl
    credentials := [name "control"] }

def vitaRecorder : NodeType :=
  shippedType sdrImage "graphx-vita-recorder" [.container] .graphx

end Shipped

open Shipped in
/-- `config/catalog/types` -/
def shippedTypes : Table String NodeType := .ofList
  [("diagnostic.left", diagnosticLeft),
    ("diagnostic.middle", diagnosticMiddle),
    ("diagnostic.peer", diagnosticPeer),
    ("diagnostic.right", diagnosticRight),
    ("discovery.publisher", discoveryPublisher),
    ("discovery.subscriber", discoverySubscriber),
    ("external.packet-source", externalPacketSource),
    ("guest.echo", guestEcho),
    ("sample.sink", sampleSink),
    ("sample.source", sampleSource),
    ("sample.transform", sampleTransform),
    ("sdr.processor", sdrProcessor),
    ("sdr.radio", sdrRadio),
    ("sdr.result-sink", sdrResultSink),
    ("sdr.simulator", sdrSimulator),
    ("udp.publisher", udpPublisher),
    ("udp.subscriber", udpSubscriber),
    ("vita.detector", vitaDetector),
    ("vita.processor", vitaProcessor),
    ("vita.radio", vitaRadio),
    ("vita.recorder", vitaRecorder)] rfl

/-! ## The other documents -/

/-- `config/catalog/platform.json` -/
def shippedPlatform : Platform where
  capture :=
    { enabled := false, maxFileBytes := ⟨67108864, .refl true⟩, maxFiles := ⟨2, .refl true⟩
      maxPackets := ⟨100000, .refl true⟩, provider := .application, retentionSeconds := ⟨86400, .refl true⟩
      snaplen := some ⟨65535, .refl true⟩ }
  consolePort := ⟨8080, .refl true⟩
  control :=
    { enabled := false, grants := [], idempotencyTtlSeconds := ⟨3600, .refl true⟩
      maxAuditRecords := ⟨4096, .refl true⟩, maxRequestBytes := ⟨4096, .refl true⟩ }
  extensions := []
  history :=
    { batchSize := ⟨100, .refl true⟩, flushIntervalMs := ⟨250, .refl true⟩
      maxDatabaseBytes := ⟨268435456, .refl true⟩, maxPendingQueries := ⟨16, .refl true⟩
      maxQueueBytes := ⟨8388608, .refl true⟩, maxRecords := ⟨100000, .refl true⟩
      queryLimit := ⟨200, .refl true⟩, queryTimeoutMs := ⟨2000, .refl true⟩
      queueCapacity := ⟨4096, .refl true⟩, retentionSeconds := ⟨604800, .refl true⟩
      shutdownTimeoutMs := ⟨2000, .refl true⟩ }
  image :=
    "graphx-design/platform@sha256:41b3db89b6ec78cab84b29c12a1af5024ba670b44463edc40d887cad8b952ba4"
  otlp := { enabled := false }

/-- `config/catalog/targets.json` -/
def shippedTargets : Table String TargetCapability := .ofList
  [("lima", ⟨true, true, true⟩), ("native-linux", ⟨true, true, true⟩),
    ("native-macos", ⟨false, true, false⟩), ("orbstack", ⟨true, false, false⟩)] rfl

def guestBuilder : String :=
  "graphx-design/guest-builder@sha256:6a386502337587de8b635877138af27ebe5755eb8c8a4ae3182345deb9f4fcfd"

/-- `config/catalog/guests` -/
def shippedGuests : Table String Guest := .ofList
  [("echo-x86", { architecture := .x86_64, accelerators := [.tcg], application := some "guest.echo"
                  builderImage := guestBuilder, sourceRef := "guest-source-echo-x86" }),
    ("radio-x86", { architecture := .x86_64, accelerators := [.tcg], application := some "sdr.radio"
                    builderImage := guestBuilder, sourceRef := "guest-source-radio-x86" })] rfl

/-- `config/catalog/wire-schemas.json` -/
def shippedWireSchemas : Table String Encoding := .ofList
  [("Discovery", .graphx), ("RawDiagnosticDatagram", .raw), ("RawIqSamples", .raw),
    ("RawPowerResult", .raw), ("RawSdrControl", .raw), ("RawTcpBytes", .raw),
    ("RawUdpDatagram", .raw), ("Sample", .graphx), ("TransformedSample", .graphx),
    ("UdpExample", .graphx), ("VitaControl", .raw), ("VitaIq", .raw),
    ("VitaPowerSpectrum", .raw)] rfl

def shippedCatalog : Catalog where
  types := shippedTypes
  guests := shippedGuests
  wireSchemas := shippedWireSchemas
  platform := shippedPlatform
  targets := shippedTargets
  sources := .ofList [("guest-source-echo-x86", "guests"), ("guest-source-radio-x86", "guests")] rfl
  inhabited := rfl
  wired := rfl

end GraphX.Config
