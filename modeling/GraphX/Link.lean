/-
  Links: what an application that sends and one that receives see of the two
  ends of a transport.

  A run of a link is a list of calls, of either application, and of things the
  surroundings do between them; `delivered` is what the receiving application
  gets in it.
-/
import GraphX.Lib.Simulation
import GraphX.InProcess
import GraphX.SharedMemoryCalls
import GraphX.Tcp

namespace GraphX

open Imperative

/-! ## Runs of a link -/

structure Link (ω ι : Type) where
  send : Envelope → Act ω Thrown Unit
  receive : Option ℕ → Act ω Thrown ReceiveResult
  environment : ι → ω → ω

inductive LinkCall (ι : Type) where
  | send (envelope : Envelope)
  | receive (timeoutMs : Option ℕ)
  | environment (event : ι)

/-- The envelopes that the receiving application gets.  A call that does not
    return is the last one. -/
def Link.delivered {ω ι : Type} (link : Link ω ι) : List (LinkCall ι) → ω → List Envelope
  | [], _ => []
  | .send envelope :: calls, w =>
    match (link.send envelope).run w with
    | .returned _ w' | .threw _ w' => link.delivered calls w'
    | .blocked _ => []
  | .receive timeoutMs :: calls, w =>
    match (link.receive timeoutMs).run w with
    | .returned result w' => result.delivered ++ link.delivered calls w'
    | .threw _ w' => link.delivered calls w'
    | .blocked _ => []
  | .environment event :: calls, w => link.delivered calls (link.environment event w)

/-- The world that a run leaves. -/
def Link.after {ω ι : Type} (link : Link ω ι) : List (LinkCall ι) → ω → ω
  | [], w => w
  | .send envelope :: calls, w =>
    match (link.send envelope).run w with
    | .returned _ w' | .threw _ w' => link.after calls w'
    | .blocked w' => w'
  | .receive timeoutMs :: calls, w =>
    match (link.receive timeoutMs).run w with
    | .returned _ w' | .threw _ w' => link.after calls w'
    | .blocked w' => w'
  | .environment event :: calls, w => link.after calls (link.environment event w)

/-! ## The links -/

variable {σ τ : Type}

def inProcessLink (sendSink : TraceSink σ) (receiveSink : TraceSink τ) :
    Link (InProcess.Pair σ τ) Empty where
  send := InProcess.send sendSink
  receive := InProcess.receiveResult receiveSink
  environment := nofun

def sharedMemoryLink (opts : SharedMemory.Options) (sendSink : TraceSink σ)
    (receiveSink : TraceSink τ) : Link (SharedMemory.Pair σ τ) Empty where
  send := SharedMemory.send opts sendSink
  receive := SharedMemory.receiveResult opts receiveSink
  environment := nofun

namespace Tcp

/-- Something happens to the connection `id`, accepted or not. -/
def updateSocket (id : ℕ) (f : Socket → Socket) (t : Tcp σ) : Tcp σ :=
  let g (s : Socket) : Socket := if s.id = id then f s else s
  { t with
    socket := t.socket.map g
    listener := t.listener.map (List.map fun
      | .connection s => .connection (g s)
      | a => a) }

/-- A connection joins the queue of the listener. -/
def connectionArrives (id : ℕ) (t : Tcp σ) : Tcp σ :=
  { t with listener := t.listener.map (· ++ [.connection ⟨id, [], false⟩]) }

def bytesArrive (id : ℕ) : Bytes → Tcp σ → Tcp σ
  | [], t => t
  | b :: bs, t => t.updateSocket id fun s => { s with incoming := s.incoming ++ [.data b bs] }

def endArrives (id : ℕ) (t : Tcp σ) : Tcp σ :=
  t.updateSocket id fun s => { s with ended := true }

end Tcp

/-- A connecting end that sends, a listening end that receives, and what is on
    its way from one to the other. -/
structure TcpNet (σ τ : Type) where
  sender : Tcp σ
  receiver : Tcp τ
  inFlight : List WireEffect

namespace TcpNet

/-- The sender's end as a call finds it, and what the call has put on its way. -/
def sending (n : TcpNet σ τ) : Tcp σ := { n.sender with wire := [] }

def sent (t : Tcp σ) (n : TcpNet σ τ) : TcpNet σ τ :=
  { n with sender := t, inFlight := n.inFlight ++ t.wire }

/-- The next thing arrives; of bytes, at most `more + 1`. -/
def arrive (more : ℕ) (n : TcpNet σ τ) : TcpNet σ τ :=
  match n.inFlight with
  | [] => n
  | .opened id :: rest =>
    { n with receiver := n.receiver.connectionArrives id, inFlight := rest }
  | .wrote id bytes :: rest =>
    { n with
      receiver := n.receiver.bytesArrive id (bytes.take (more + 1))
      inFlight := match bytes.drop (more + 1) with
        | [] => rest
        | later => .wrote id later :: rest }
  | .shut id :: rest => { n with receiver := n.receiver.endArrives id, inFlight := rest }

end TcpNet

def tcpLink (sendSink : TraceSink σ) (receiveSink : TraceSink τ) : Link (TcpNet σ τ) ℕ where
  send envelope := (Tcp.send sendSink envelope).zoom TcpNet.sending TcpNet.sent
  receive timeoutMs := (Tcp.receiveResult receiveSink timeoutMs).zoom TcpNet.receiver
    fun t n => { n with receiver := t }
  environment := TcpNet.arrive

end GraphX
