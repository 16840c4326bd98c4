/-
  Receiving over one TCP connection: the frames of the byte stream come out in
  order however the network cuts the stream.

  * **`receive_framed_stream`**: messages in order, an error for a truncated
    frame, one error for each frame that holds no envelope.
-/
import GraphX.Tcp
import GraphX.Lib.Triple

namespace GraphX

open Imperative Imperative.Act Codec List

/-- A sink that never throws. -/
def TraceSink.Quiet {σ : Type} (sink : TraceSink σ) : Prop :=
  ∀ c s, (sink.call c s).1 = none

/-! ## The byte stream of a socket -/

def RecvEvent.bytes : RecvEvent → Bytes
  | .data b bs => b :: bs
  | _ => []

/-- The bytes the events carry, in order. -/
def streamBytes (events : List RecvEvent) : Bytes := events.flatMap RecvEvent.bytes

/-- No event is an error of the network. -/
def Reliable (events : List RecvEvent) : Prop := ∀ what, RecvEvent.failed what ∉ events

@[simp] theorem streamBytes_nil : streamBytes [] = [] := rfl

@[simp] theorem streamBytes_cons (ev : RecvEvent) (events : List RecvEvent) :
    streamBytes (ev :: events) = ev.bytes ++ streamBytes events := rfl

theorem Reliable.tail {ev : RecvEvent} {events : List RecvEvent} (h : Reliable (ev :: events)) :
    Reliable events := fun what hm => h what (mem_cons_of_mem _ hm)

namespace Tcp

/-- **Reading bytes that the stream holds**, without a deadline. -/
theorem readLoop_complete (ended : Bool) (events : List RecvEvent) (bs rest got : Bytes)
    (hr : Reliable events) (h : streamBytes events = bs ++ rest) :
    ∃ events', readLoop false ended events bs.length got = .finished .complete (got ++ bs) events' ∧
      Reliable events' ∧ streamBytes events' = rest := by
  induction events generalizing bs got with
  | nil =>
    obtain ⟨rfl, rfl⟩ := append_eq_nil_iff.1 h.symm
    exact ⟨[], by simp [readLoop], hr, rfl⟩
  | cons ev events ih =>
    cases bs with
    | nil => exact ⟨ev :: events, by simp [readLoop], hr, h⟩
    | cons b bs =>
      have hr' := hr.tail
      cases ev with
      | data c cs =>
        simp only [streamBytes_cons, RecvEvent.bytes, cons_append, cons.injEq] at h
        obtain ⟨rfl, h⟩ := h
        -- either the chunk ends inside the buffer, or the buffer inside the chunk
        rcases append_eq_append_iff.1 h with ⟨bs', rfl, h'⟩ | ⟨cs', rfl, h'⟩
        · obtain ⟨events', he, hok⟩ := ih bs' (got ++ c :: cs) hr' h'
          have hd : cs.drop (cs ++ bs').length = [] := drop_eq_nil_iff.2 (by simp)
          refine ⟨events', ?_, hok⟩
          simp only [length_cons, readLoop, hd]
          simpa using he
        · cases cs' with
          | nil =>
            obtain ⟨events', he, hok⟩ := ih [] (got ++ c :: bs) hr' (by simpa using h'.symm)
            refine ⟨events', ?_, hok⟩
            simpa [readLoop] using he
          | cons d ds =>
            refine ⟨.data d ds :: events, by simp [readLoop], fun what hm => ?_, ?_⟩
            · exact hr' what (by simpa using hm)
            · simpa [RecvEvent.bytes] using h'.symm
      | failed what => exact absurd (mem_cons_self ..) (hr what)
      | interrupted | wouldBlock | quiet =>
        simpa [readLoop] using ih (b :: bs) got hr' (by simpa [RecvEvent.bytes] using h)

/-- **Reading more bytes than are left** before the peer shuts the
    connection. -/
theorem readLoop_closed (events : List RecvEvent) (wanted : ℕ) (got : Bytes) (hr : Reliable events)
    (h : (streamBytes events).length < wanted) :
    readLoop false true events wanted got = .finished .closed (got ++ streamBytes events) [] := by
  obtain ⟨n, rfl⟩ : ∃ n, wanted = n + 1 := ⟨wanted - 1, by omega⟩
  induction events generalizing n got with
  | nil => simp [readLoop]
  | cons ev events ih =>
    have hr' := hr.tail
    cases ev with
    | data c cs =>
      simp only [streamBytes_cons, RecvEvent.bytes, length_cons,
        length_append] at h
      have hd : cs.drop n = [] := drop_eq_nil_iff.2 (by omega)
      have hw : n - cs.length = (n - cs.length - 1) + 1 := by omega
      simp only [readLoop, hd]
      rw [hw, ih (got ++ c :: cs) hr' (n - cs.length - 1) (by omega)]
      simp [RecvEvent.bytes]
    | failed what => exact absurd (mem_cons_self ..) (hr what)
    | interrupted | wouldBlock | quiet =>
      simpa [readLoop, RecvEvent.bytes] using ih got hr' n (by simpa [RecvEvent.bytes] using h)

/-! ## Rules of the calls -/

section rules
variable {σ α : Type} {sink : TraceSink σ} {t t' : Tcp σ} {s : Socket}

/-- The transport after a callback. -/
def heard (sink : TraceSink σ) (c : SinkCall) (t : Tcp σ) : Tcp σ :=
  { t with sink := (sink.call c t.sink).2 }

/-- The transport after its connection was shut. -/
def hungUp (sink : TraceSink σ) (s : Socket) (t : Tcp σ) : Tcp σ :=
  heard sink (.onConnection t.edgeId .disconnected)
    { t with socket := none, wire := t.wire ++ [.shut s.id] }

/-- The exception with this text. -/
def raised (t : Tcp σ) (detail : String) : Thrown := .std (.runtimeError (t.context detail))

variable {c : SinkCall} {f : Unit → Call σ α} {R : Post (Tcp σ) Thrown α} {detail : String}

/-- A callback changes nothing but the sink, and ends as the sink says. -/
theorem wp_observe {Q : Post (Tcp σ) Thrown Unit} (hreturned : Q.returned () (heard sink c t))
    (hthrew : ∀ e, (sink.call c t.sink).1 = some e → Q.threw e (heard sink c t)) :
    (observe sink c).wp t Q := by
  unfold wp observe
  rw [run_notify]
  cases hc : (sink.call c t.sink).1 with
  | none => exact hreturned
  | some e => exact hthrew e hc

theorem wp_observe_bind (hq : sink.Quiet) (h : (f ()).wp (heard sink c t) R) :
    (observe sink c >>= f).wp t R := by
  refine wp_bind.2 (wp_observe h fun e he => ?_)
  rw [hq] at he
  cases he

theorem wp_failure (hq : sink.Quiet)
    (h : R.threw (t.raised detail) (heard sink (.onError t.edgeId (t.context detail)) t)) :
    (failure sink detail : Call σ α).wp t R :=
  wp_observe_bind hq h

/-- The sink may throw in place of the failure. -/
theorem wp_failure_any (h : ∀ e t', R.threw e t') : (failure sink detail : Call σ α).wp t R := by
  rw [failure, wp_get_bind]
  exact wp_bind.2 (wp_observe (h _ _) fun _ _ => h _ _)

theorem wp_closeConnection_bind (hs : t.socket = some s) (h : (f ()).wp (hungUp sink s t) R) :
    (closeConnection sink >>= f).wp t R := by
  rw [wp_bind, closeConnection, wp_get_bind]
  simp only [hs, wp_modify_bind, wp_catch]
  exact wp_observe h fun _ _ => h

end rules

/-- An open transport with a connection, accepted or still waiting to be, that
    carries `bytes` in whatever pieces.  If it has `ended`, the peer shuts it
    after them. -/
def Carries {σ : Type} (t : Tcp σ) (bytes : Bytes) (ended : Bool) : Prop :=
  t.closed = false ∧ ∃ s : Socket,
    (t.socket = some s ∨ t.socket = none ∧ ∃ rest, t.listener = some (.connection s :: rest)) ∧
    s.ended = ended ∧ Reliable s.incoming ∧ streamBytes s.incoming = bytes

section carries
variable {σ α : Type} {sink : TraceSink σ} {t t' : Tcp σ} {bytes rest : Bytes} {ended : Bool}

/-- What a call leaves: an accepted connection that carries the bytes. -/
structure Leaves (t : Tcp σ) (bytes : Bytes) (ended : Bool) (t' : Tcp σ) : Prop where
  closed : t'.closed = false
  socket : ∃ s : Socket, t'.socket = some s ∧ s.ended = ended ∧ Reliable s.incoming ∧
    streamBytes s.incoming = bytes
  raised : t'.raised = t.raised
  ends : t'.outbound = t.outbound ∧ t'.reconnect = t.reconnect

theorem Leaves.heard (h : Leaves t bytes ended t') (c : SinkCall) :
    Leaves t bytes ended (heard sink c t') :=
  ⟨h.closed, h.socket, h.raised, h.ends⟩

theorem Leaves.carries (h : Leaves t bytes ended t') : Carries t' bytes ended := by
  obtain ⟨s, hs, hrest⟩ := h.socket
  exact ⟨h.closed, s, .inl hs, hrest⟩

section reading
variable {handler : Exn → Call σ (ReadStatus × Bytes)} {f : ReadStatus × Bytes → Call σ α}
  {R : Post (Tcp σ) Thrown α} {wanted : ℕ}

theorem wp_readAll {t₀ : Tcp σ} {bs : Bytes} (h : Leaves t₀ (bs ++ rest) ended t)
    (hwanted : bs.length = wanted)
    (hf : ∀ t', Leaves t₀ rest ended t' → (f (.complete, bs)).wp t' R) :
    (catchStd (readAll wanted false) handler >>= f).wp t R := by
  obtain ⟨s, hs, he, hr, hbytes⟩ := h.socket
  obtain ⟨events, hloop, hr', hrest⟩ := readLoop_complete s.ended s.incoming bs rest [] hr hbytes
  rw [wp_bind, catchStd, wp_catch, readAll, wp_get_bind]
  simp only [hs, ← hwanted, hloop]
  exact hf _ ⟨h.closed, ⟨_, rfl, he, hr', hrest⟩, h.raised, h.ends⟩

theorem wp_readAll_closed {t₀ : Tcp σ} (h : Leaves t₀ bytes true t) (hlt : bytes.length < wanted)
    (hf : ∀ t', Leaves t₀ [] true t' → (f (.closed, bytes)).wp t' R) :
    (catchStd (readAll wanted false) handler >>= f).wp t R := by
  obtain ⟨s, hs, he, hr, rfl⟩ := h.socket
  have hloop := readLoop_closed s.incoming wanted [] hr hlt
  rw [wp_bind, catchStd, wp_catch, readAll, wp_get_bind]
  simp only [hs, he, hloop]
  exact hf _ ⟨h.closed, ⟨_, rfl, rfl, fun _ => not_mem_nil, rfl⟩, h.raised, h.ends⟩

end reading

/-- To a receive, a connection waiting to be accepted is an accepted one. -/
theorem wp_acceptInbound (hq : sink.Quiet) (h : Carries t bytes ended) (hasDeadline : Bool) :
    (acceptInbound sink hasDeadline).wp t
      ⟨fun connected t' => connected = true ∧ Leaves t bytes ended t', fun _ _ => False,
        fun _ => False⟩ := by
  obtain ⟨ho, s, hs, hrest⟩ := h
  rw [acceptInbound, wp_get_bind]
  rcases hs with hs | ⟨hn, rest, hl⟩
  · rw [if_pos (by rw [hs]; rfl)]
    exact ⟨rfl, ho, ⟨s, hs, hrest⟩, rfl, rfl, rfl⟩
  · rw [if_neg (by simp [hn]), if_neg (by simp [ho])]
    simp only [hl, wp_modify_bind]
    cases t.everConnected with
    | false =>
      exact wp_observe_bind hq ⟨rfl, ho, ⟨s, rfl, hrest⟩, rfl, rfl, rfl⟩
    | true =>
      refine wp_observe_bind hq ?_
      rw [wp_modify_bind]
      exact wp_observe_bind hq ⟨rfl, ho, ⟨s, rfl, hrest⟩, rfl, rfl, rfl⟩

/-- A receive whose first turn decides. -/
theorem wp_receiveResult (hq : sink.Quiet) (h : Carries t bytes ended)
    {R : Post (Tcp σ) Thrown ReceiveResult}
    (hframe : ∀ t', Leaves t bytes ended t' → (receiveFrame sink false).wp t'
      ⟨fun r t'' => ∃ r', r = some r' ∧ R.returned r' t'', R.threw, R.blocked⟩) :
    (receiveResult sink none).wp t R := by
  rw [receiveResult, wp_get_bind, receiveLoop, wp_bind, receiveTurn, wp_get_bind,
    if_neg (by simp [h.1])]
  refine wp_bind_of (wp_acceptInbound hq h false) (fun connected t' ⟨hc, ht'⟩ => ?_)
    (fun _ _ h => h.elim) fun _ h => h.elim
  rw [if_pos hc]
  refine wp_mono (hframe t' ht') (fun r t'' ⟨r', hr, hreturned⟩ => ?_) (fun _ _ => id) fun _ => id
  rw [hr]
  exact hreturned

/-! ## One frame -/

def framed (body : Bytes) : Bytes := frameHeader (UInt32.ofNat body.length) ++ body

/-- What a receive makes of a framed payload: its envelope, or one error. -/
def verdict (t : Tcp σ) (body : Bytes) : Except Thrown ReceiveResult :=
  match deserialize body with
  | .ok e => .ok (.ofMessage e)
  | .error error => .error (t.raised ("malformed envelope: " ++ error.what))

section frame
variable {body : Bytes} (hq : sink.Quiet) (hb : body.length ≤ kMaxFrameBytes)
include hq hb

theorem wp_receiveBody {t₀ : Tcp σ} (h : Leaves t₀ (body ++ rest) ended t)
    {f : ReceiveResult → Call σ α} {R : Post (Tcp σ) Thrown α}
    (hok : ∀ r t', verdict t₀ body = .ok r → Leaves t₀ rest ended t' → (f r).wp t' R)
    (herror : ∀ e t', verdict t₀ body = .error e → Leaves t₀ rest ended t' → R.threw e t') :
    (receiveBody sink false (UInt32.ofNat body.length) >>= f).wp t R := by
  rw [wp_bind, receiveBody, toNat_ofNat_frame hb]
  refine wp_readAll h rfl fun t' ht' => ?_
  unfold verdict at hok herror
  cases hd : deserialize body with
  | error error =>
    rw [hd] at herror
    simp only [hd]
    exact wp_failure hq (herror _ _ (by rw [ht'.raised]) (ht'.heard _))
  | ok e =>
    rw [hd] at hok
    simp only [hd, wp_get_bind]
    exact wp_observe_bind hq (hok _ _ rfl (ht'.heard _))

/-- **One frame, one result.** -/
theorem Carries.frame (h : Carries t (framed body ++ rest) ended) :
    ∃ t', ((receiveResult sink none).run t).result = some (verdict t body, t') ∧
      Leaves t rest ended t' := by
  have hwp : (receiveResult sink none).wp t
      ⟨fun r t' => verdict t body = .ok r ∧ Leaves t rest ended t',
        fun e t' => verdict t body = .error e ∧ Leaves t rest ended t', fun _ => False⟩ := by
    refine wp_receiveResult hq h fun t' ht' => ?_
    rw [framed, append_assoc] at ht'
    refine wp_readAll ht' (length_frameHeader _) fun t'' ht'' => ?_
    simp only [decodeFrameSize_header hb]
    refine wp_receiveBody hq hb ht'' (fun r t₃ hr ht₃ => ?_) fun e t₃ he ht₃ => ⟨he, ht₃⟩
    exact ⟨r, rfl, hr, ht₃⟩
  unfold wp at hwp
  cases hrun : (receiveResult sink none).run t with
  | returned r t' | threw e t' =>
    rw [hrun] at hwp
    exact ⟨t', by rw [hwp.1]; rfl, hwp.2⟩
  | blocked t' =>
    rw [hrun] at hwp
    exact hwp.elim

omit hq hb in
/-- A piece of a frame that has the whole header. -/
theorem header_of_cut (hcut : bytes <+: framed body) (hlt : bytes ≠ framed body)
    (hlength : 4 ≤ bytes.length) : ∃ part, bytes = frameHeader (UInt32.ofNat body.length) ++ part ∧
      part.length < body.length := by
  obtain ⟨part, rfl⟩ := prefix_of_prefix_length_le (prefix_append _ body) hcut
    ((length_frameHeader _).trans_le hlength)
  have hpart : part <+: body := (prefix_append_right_inj _).1 hcut
  refine ⟨part, rfl, lt_of_le_of_ne hpart.length_le fun heq => hlt ?_⟩
  rw [hpart.eq_of_length heq, framed]

/-- A connection that is shut inside a frame. -/
theorem Carries.truncated (h : Carries t bytes true) (hcut : bytes <+: framed body)
    (hne : bytes ≠ []) (hlt : bytes ≠ framed body) :
    ∃ error t', (receiveResult sink none).run t = .threw error t' ∧ t'.socket = none := by
  refine exists_threw (wp_receiveResult hq h fun t' ht' => ?_)
  by_cases h4 : bytes.length < 4
  · refine wp_readAll_closed ht' h4 fun t'' ht'' => ?_
    obtain ⟨s, hs, -⟩ := ht''.socket
    refine wp_closeConnection_bind hs ?_
    rw [if_pos (by simpa using hne)]
    exact wp_failure hq rfl
  · -- the header is complete, the body is not
    obtain ⟨part, rfl, hpart⟩ := header_of_cut hcut hlt (by omega)
    refine wp_readAll ht' (length_frameHeader _) fun t'' ht'' => ?_
    simp only [decodeFrameSize_header hb]
    rw [wp_bind, receiveBody, toNat_ofNat_frame hb]
    refine wp_readAll_closed ht'' hpart fun t₃ ht₃ => ?_
    obtain ⟨s, hs, -⟩ := ht₃.socket
    exact wp_closeConnection_bind hs (wp_failure hq rfl)

end frame

theorem Carries.end (hq : sink.Quiet) (h : Carries t [] true)
    (hlast : t.outbound = true ∨ t.reconnect = false) :
    ∃ t', (receiveResult sink none).run t = .returned .endOfStream t' := by
  have hwp : (receiveResult sink none).wp t
      ⟨fun r _ => r = .endOfStream, fun _ _ => False, fun _ => False⟩ := by
    refine wp_receiveResult hq h fun t' ht' => ?_
    refine wp_readAll_closed ht' (by decide) fun t'' ht'' => ?_
    obtain ⟨s, hs, -⟩ := ht''.socket
    refine wp_closeConnection_bind hs ?_
    rw [if_neg (by simp), endOfConnection, wp_get_bind, if_neg]
    · exact ⟨_, rfl, rfl⟩
    · change ¬(!t''.outbound && t''.reconnect) = true
      rw [ht''.ends.1, ht''.ends.2]
      rcases hlast with hlast | hlast <;> simp [hlast]
  obtain ⟨_, t', hrun, rfl⟩ := exists_returned hwp
  exact ⟨t', hrun⟩

/-! ## Whole streams -/

/-- **Every frame of the stream**, in order. -/
theorem Carries.frames (hq : sink.Quiet) {bodies : List Bytes}
    (hb : ∀ body ∈ bodies, body.length ≤ kMaxFrameBytes)
    (h : Carries t (bodies.flatMap framed ++ rest) ended) :
    ∃ t', (receiveResult sink none).calls bodies.length t = some (bodies.map (verdict t), t') ∧
      Carries t' rest ended ∧ t'.outbound = t.outbound ∧ t'.reconnect = t.reconnect := by
  induction bodies generalizing t with
  | nil => exact ⟨t, rfl, h, rfl, rfl⟩
  | cons body bodies ih =>
    rw [flatMap_cons, append_assoc] at h
    obtain ⟨hbody, hrest⟩ := forall_mem_cons.1 hb
    obtain ⟨t₁, hrun, ht₁⟩ := h.frame hq hbody
    obtain ⟨t', hruns, hcarries, hout, hre⟩ := ih hrest ht₁.carries
    have hv : verdict t₁ = verdict t := by
      funext b
      simp only [verdict, ht₁.raised]
    rw [hv] at hruns
    exact ⟨t', calls_succ hrun hruns, hcarries, hout.trans ht₁.ends.1, hre.trans ht₁.ends.2⟩

/-- What a sender puts on the connection for these envelopes. -/
def encodeStream : List Envelope → Result Bytes
  | [] => .ok []
  | e :: es => do
    let framed ← serialize e >>= frame
    let rest ← encodeStream es
    pure (framed ++ rest)

theorem encodeStream_ok {es : List Envelope} {stream : Bytes} (h : encodeStream es = .ok stream) :
    ∃ bodies : List Bytes, stream = bodies.flatMap framed ∧ bodies.length = es.length ∧
      (∀ body ∈ bodies, body.length ≤ kMaxFrameBytes) ∧
      ∀ t : Tcp σ, bodies.map (verdict t) = es.map fun e => .ok (.ofMessage e) := by
  induction es generalizing stream with
  | nil =>
    cases h
    exact ⟨[], rfl, rfl, by simp, fun _ => rfl⟩
  | cons e es ih =>
    obtain ⟨f, hf, h⟩ := Check.bind_eq_ok.1 h
    obtain ⟨rest, hrest, h⟩ := Check.bind_eq_ok.1 h
    obtain ⟨body, hbody, hf⟩ := Check.bind_eq_ok.1 hf
    obtain ⟨hle, rfl⟩ := frame_ok.1 hf
    obtain ⟨bodies, rfl, hlen, hb, hv⟩ := ih hrest
    cases h
    refine ⟨body :: bodies, by simp [framed], by simp [hlen], ?_, fun t => ?_⟩
    · simpa using ⟨hle, hb⟩
    · have hd := deserialize_of_serialize hbody
      simp [verdict, hd, hv t]

end carries

/-! ## The turns of a receive

For any sink, each turn of the loop that ends with `continue` uses up one of the
`pending` connections, so the bound that `receiveResult` puts on the turns is
never met. -/

section turns
variable {σ : Type} {sink : TraceSink σ} {t : Tcp σ} {hasDeadline : Bool}

/-- If the call returns `none`, fewer than `n` connections are left. -/
def UsesUp (n : ℕ) : Post (Tcp σ) Thrown (Option ReceiveResult) :=
  ⟨fun r t' => r = none → t'.pending < n, fun _ _ => True, fun _ => True⟩

theorem wp_acceptInbound_pending : (acceptInbound sink hasDeadline).wp t
    ⟨fun connected t' => connected = true → t'.socket.isSome ∧ t'.pending = t.pending,
      fun _ _ => True, fun _ => True⟩ := by
  rw [acceptInbound, wp_get_bind]
  by_cases hs : t.socket.isSome
  · rw [if_pos hs]
    exact fun _ => ⟨hs, rfl⟩
  · have hn : t.socket = none := by simpa using hs
    rw [if_neg hs]
    split
    · exact nofun
    split
    · exact nofun
    · split_ifs
      · exact nofun
      · trivial
    · exact wp_failure_any fun _ _ => trivial
    · exact wp_failure_any fun _ _ => trivial
    · next s rest hl =>
      have hlast : ∀ t' : Tcp σ, t'.socket = some s → t'.listener = some rest →
          (observe sink (.onConnection t.edgeId .connected) >>= fun _ => pure true).wp t'
            ⟨fun connected t' => connected = true → t'.socket.isSome ∧ t'.pending = t.pending,
              fun _ _ => True, fun _ => True⟩ := by
        refine fun t' hs' hl' => wp_bind.2 (wp_observe (fun _ => ?_) fun _ _ => trivial)
        simp [heard, pending, hs', hl', hn, hl, Nat.add_comm]
      rw [wp_modify_bind]
      cases t.everConnected with
      | false => exact hlast _ rfl rfl
      | true => exact wp_bind.2 (wp_observe (hlast _ rfl rfl) fun _ _ => trivial)

theorem wp_receiveFrame_pending {s : Socket} (hs : t.socket = some s) :
    (receiveFrame sink hasDeadline).wp t (UsesUp t.pending) := by
  have hfails : ∀ {t' : Tcp σ} {s' : Socket} {what : String}, t'.socket = some s' →
      (closeConnection sink >>= fun _ => failure sink what : Call σ (Option ReceiveResult)).wp t'
        (UsesUp t.pending) := fun hs' =>
    wp_closeConnection_bind hs' (wp_failure_any fun _ _ => trivial)
  rw [receiveFrame, wp_bind, catchStd, wp_catch, readAll, wp_get_bind]
  simp only [hs]
  cases readLoop hasDeadline s.ended s.incoming 4 [] with
  | waiting => trivial
  | failed what rest => exact wp_closeConnection_bind rfl (wp_failure_any fun _ _ => trivial)
  | finished status header rest =>
    rw [wp_modify_bind, wp_pure]
    cases status with
    | timedOut =>
      dsimp only
      split_ifs
      · exact nofun
      · exact hfails rfl
    | closed =>
      refine wp_closeConnection_bind rfl ?_
      split_ifs
      · exact wp_failure_any fun _ _ => trivial
      · rw [endOfConnection, wp_get_bind]
        split_ifs
        · intro _
          simp [hungUp, heard, pending, hs]
        · exact nofun
    | complete =>
      dsimp only
      cases decodeFrameSize header with
      | error error => exact hfails rfl
      | ok size =>
        refine wp_bind.2 (wp_intro (fun _ _ h => ?_) (fun _ _ => trivial) fun _ => trivial)
        cases h

theorem receiveTurn_continue {t' : Tcp σ} (h : (receiveTurn sink hasDeadline).run t = .returned none t') :
    t'.pending < t.pending := by
  have hwp : (receiveTurn sink hasDeadline).wp t (UsesUp t.pending) := by
    rw [receiveTurn, wp_get_bind]
    split_ifs
    · exact nofun
    · refine wp_bind_of wp_acceptInbound_pending (fun connected t₁ hc => ?_) (fun _ _ => id)
        fun _ => id
      cases connected with
      | false => exact nofun
      | true =>
        obtain ⟨hs, hp⟩ := hc rfl
        obtain ⟨s, hs⟩ := Option.isSome_iff_exists.1 hs
        exact hp ▸ wp_receiveFrame_pending hs
  exact of_returned hwp h rfl

/-- Turns in a row that end with `continue`, counted. -/
inductive Continues (sink : TraceSink σ) (hasDeadline : Bool) : ℕ → Tcp σ → Tcp σ → Prop
  | none (t : Tcp σ) : Continues sink hasDeadline 0 t t
  | turn {t t' t'' : Tcp σ} {n : ℕ} (h : (receiveTurn sink hasDeadline).run t = .returned none t')
      (rest : Continues sink hasDeadline n t' t'') : Continues sink hasDeadline (n + 1) t t''

end turns

end Tcp

open Tcp

/-- **Receiving a framed stream**, without a timeout and with a sink that does
    not throw: the envelopes sent come out in order, and after them the end of
    the stream; a stream that stops inside a frame gives the frames before it
    and then an error; a frame that holds no envelope gives one error and leaves
    the other frames alone. -/
theorem receive_framed_stream {σ : Type} (sink : TraceSink σ) (hq : sink.Quiet) (t : Tcp σ) :
    (∀ es stream ended, encodeStream es = .ok stream → Carries t stream ended →
      ∃ t', (receiveResult sink none).calls es.length t =
          some (es.map fun e => .ok (.ofMessage e), t') ∧ Carries t' [] ended ∧
        (ended = true → t.outbound = true ∨ t.reconnect = false →
          ∃ t'', (receiveResult sink none).run t' = .returned .endOfStream t'')) ∧
    (∀ es stream body cut, encodeStream es = .ok stream → body.length ≤ kMaxFrameBytes →
      cut <+: framed body → cut ≠ [] → cut ≠ framed body → Carries t (stream ++ cut) true →
      ∃ error t', (receiveResult sink none).calls (es.length + 1) t =
          some ((es.map fun e => .ok (.ofMessage e)) ++ [.error error], t') ∧ t'.socket = none) ∧
    (∀ (bodies : List Bytes) ended, (∀ body ∈ bodies, body.length ≤ kMaxFrameBytes) →
      Carries t (bodies.flatMap framed) ended →
      ∃ t', (receiveResult sink none).calls bodies.length t =
          some (bodies.map (verdict t), t') ∧ Carries t' [] ended) := by
  refine ⟨fun es stream ended hes hc => ?_, fun es stream body cut hes hb hcut hne hlt hc => ?_,
    fun bodies ended hb hc => ?_⟩
  · obtain ⟨bodies, rfl, hlen, hb, hv⟩ := encodeStream_ok hes
    rw [← append_nil (bodies.flatMap framed)] at hc
    obtain ⟨t', hrun, hc', ho, hr⟩ := hc.frames hq hb
    rw [hlen, hv t] at hrun
    refine ⟨t', hrun, hc', ?_⟩
    rintro rfl hlast
    exact hc'.end hq (by rwa [ho, hr])
  · obtain ⟨bodies, rfl, hlen, hbs, hv⟩ := encodeStream_ok hes
    obtain ⟨t', hrun, hc', -⟩ := hc.frames hq hbs
    rw [hlen, hv t] at hrun
    obtain ⟨error, t'', herr, ht''⟩ := hc'.truncated hq hb hcut hne hlt
    have hlast : (receiveResult sink none).calls 1 t' = some ([.error error], t'') :=
      Act.calls_succ (by rw [herr]; rfl) rfl
    exact ⟨error, t'', Act.calls_add hrun hlast, ht''⟩
  · rw [← append_nil (bodies.flatMap framed)] at hc
    obtain ⟨t', hrun, hc', -⟩ := hc.frames hq hb
    exact ⟨t', hrun, hc'⟩

/-- A listening transport with one connection waiting, which brings these
    events and is then shut. -/
def sampleTcp (events : List RecvEvent) : Tcp Unit where
  socket := none
  listener := some [.connection ⟨0, events, true⟩]
  closed := false
  endpoint := ⟨"127.0.0.1", 7000⟩
  edgeId := "a-b"
  reconnect := false
  maxAttempts := 1
  outbound := false
  everConnected := false
  sink := ()
  connects := []
  writes := []
  opened := 0
  wire := []
  nowNs := 0

/-- The payload of `sampleEnvelope`. -/
def sampleBody : Bytes := sampleBytes [0, 0, 0, 2, 3, 4, 0, 0, 0, 0, 0, 0, 0, 1, 9, 0, 0, 0, 1, 1]

theorem receive_framed_stream_sample :
    (∃ t', (receiveResult nullTraceSink none).calls 1
        (sampleTcp [.interrupted, .data 0 [0], .wouldBlock, .data 0 (104 :: sampleBody)]) =
          some ([.ok (.ofMessage sampleEnvelope)], t') ∧ Carries t' [] true ∧
        ∃ t'', (receiveResult nullTraceSink none).run t' = .returned .endOfStream t'') ∧
    (∃ error t', (receiveResult nullTraceSink none).calls 2
        (sampleTcp [.data 0 [0, 0, 104], .data 71 sampleBody.tail, .data 0 [0]]) =
          some ([.ok (.ofMessage sampleEnvelope), .error error], t') ∧ t'.socket = none) ∧
    (∃ t', (receiveResult nullTraceSink none).calls 2
        (sampleTcp [.data 0 [0, 0, 1, 7, 0, 0, 0, 104], .data 71 sampleBody.tail]) =
          some ([.error (.std (.runtimeError
              "TCP edge 'a-b' 127.0.0.1:7000 malformed envelope: invalid envelope magic")),
            .ok (.ofMessage sampleEnvelope)], t') ∧ Carries t' [] true) := by
  have hr : ∀ events, (events.all fun ev => match ev with | .failed _ => false | _ => true) = true →
      Reliable events := by
    intro events h what hm
    exact absurd (all_eq_true.1 h _ hm) (by simp)
  refine ⟨?_, ?_, ?_⟩
  · obtain ⟨t', h, hc, hend⟩ := (receive_framed_stream nullTraceSink (fun _ _ => rfl)
      (sampleTcp [.interrupted, .data 0 [0], .wouldBlock, .data 0 (104 :: sampleBody)])).1
      [sampleEnvelope] (framed sampleBody) true (by decide +kernel)
      ⟨rfl, _, .inr ⟨rfl, _, rfl⟩, rfl, hr _ rfl, by decide +kernel⟩
    exact ⟨t', h, hc, hend rfl (.inr rfl)⟩
  · exact (receive_framed_stream nullTraceSink (fun _ _ => rfl)
      (sampleTcp [.data 0 [0, 0, 104], .data 71 sampleBody.tail, .data 0 [0]])).2.1
      [sampleEnvelope] (framed sampleBody) sampleBody [0, 0] (by decide +kernel) (by decide +kernel)
      ⟨[0, 104] ++ sampleBody, by decide +kernel⟩ (by decide) (by decide +kernel)
      ⟨rfl, _, .inr ⟨rfl, _, rfl⟩, rfl, hr _ rfl, by decide +kernel⟩
  · have h := (receive_framed_stream nullTraceSink (fun _ _ => rfl)
      (sampleTcp [.data 0 [0, 0, 1, 7, 0, 0, 0, 104], .data 71 sampleBody.tail])).2.2
      [[7], sampleBody] true (by decide +kernel)
      ⟨rfl, _, .inr ⟨rfl, _, rfl⟩, rfl, hr _ rfl, by decide +kernel⟩
    have hv : [[7], sampleBody].map (verdict
        (sampleTcp [.data 0 [0, 0, 1, 7, 0, 0, 0, 104], .data 71 sampleBody.tail])) =
      [.error (.std (.runtimeError
          "TCP edge 'a-b' 127.0.0.1:7000 malformed envelope: invalid envelope magic")),
        .ok (.ofMessage sampleEnvelope)] := by
      decide +kernel
    rwa [hv] at h

end GraphX
