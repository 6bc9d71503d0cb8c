import MultiDAQ.Client.PlaneHandshake

/-!
# Late answers

A frame that waits on the socket of a client when it begins a handshake (`waiting`) is what the
control plane takes for the answer to its hello: the attempt fails, and its own answer is left
behind, so that no attempt succeeds any more (`control_handshake_iff`). The data planes pass over
the `ready` of an earlier hello; an attempt fails only because of another frame, which it takes away
(`plane_handshake_iff`).
-/

namespace MultiDAQ.Client

open MultiDAQ.Common MultiDAQ.Lib MultiDAQ.Server

section Frames

variable {Payload : Type} {frames more : List (SocketFrame Payload)}

def SocketFrame.isProbe : SocketFrame Payload → Bool
  | .probe => true
  | .unreadable => false
  | .message _ => false

/-- How many frames wait that are no probe. -/
def waiting (frames : List (SocketFrame Payload)) : Nat := frames.countP (!·.isProbe)

/-- No message that waits answers one of these, and they differ. -/
def Fresh (ids : List String) (frames : List (SocketFrame Payload)) : Prop :=
  ids.Nodup ∧ ∀ m, .message m ∈ frames → ∀ id ∈ ids, m.inReplyTo ≠ some id

theorem waiting_append : waiting (frames ++ more) = waiting frames + waiting more :=
  List.countP_append

/-- Behind probes alone, what comes is received. -/
theorem receiveMessage_append_of_waiting_zero (h : waiting frames = 0) :
    receiveMessage (frames ++ more) = receiveMessage more := by
  induction frames with
  | nil => rfl
  | cons f frames ih =>
    cases f with
    | probe => exact ih h
    | unreadable => simp [waiting, SocketFrame.isProbe] at h
    | message m => simp [waiting, SocketFrame.isProbe] at h

/-- The first frame that waits is received, whatever comes behind. -/
theorem receiveMessage_append_of_waiting (h : waiting frames ≠ 0)
    (more : List (SocketFrame Payload)) :
    ∃ o rest, receiveMessage (frames ++ more) = (o, rest ++ more) ∧
      waiting rest + 1 = waiting frames ∧ rest ⊆ frames ∧ ∀ m, o = some m → .message m ∈ frames := by
  induction frames with
  | nil => exact absurd rfl h
  | cons f frames ih =>
    cases f with
    | probe =>
      obtain ⟨o, rest, hreceive, hwaiting, hsub, ho⟩ := ih h
      exact ⟨o, rest, hreceive, hwaiting, List.subset_cons_of_subset _ hsub,
        fun m hm => List.mem_cons_of_mem _ (ho m hm)⟩
    | unreadable =>
      exact ⟨none, frames, rfl, by simp [waiting, SocketFrame.isProbe],
        List.subset_cons_of_subset _ (List.Subset.refl _), fun m hm => nomatch hm⟩
    | message m =>
      refine ⟨some m, frames, rfl, by simp [waiting, SocketFrame.isProbe],
        List.subset_cons_of_subset _ (List.Subset.refl _), fun m' hm => ?_⟩
      obtain rfl := Option.some.inj hm
      exact List.mem_cons_self

/-- What a failed attempt leaves answers none of the attempts to come. -/
theorem Fresh.next {id : String} {ids : List String} {rest : List (SocketFrame Payload)}
    {m : ProtocolMessage Payload} (h : Fresh (id :: ids) frames) (hrest : rest ⊆ frames)
    (hm : m.inReplyTo = some id) : Fresh ids (rest ++ [.message m]) := by
  obtain ⟨hnodup, hstale⟩ := h
  rw [List.nodup_cons] at hnodup
  refine ⟨hnodup.2, fun m' hm' id' hid' => ?_⟩
  obtain hm' | hm' := List.mem_append.1 hm'
  · exact hstale m' (hrest hm') id' (List.mem_cons_of_mem _ hid')
  · obtain rfl := SocketFrame.message.inj (List.mem_singleton.1 hm')
    rw [hm]
    intro heq
    obtain rfl := Option.some.inj heq
    exact hnodup.1 hid'

end Frames

/-! ## The server -/

section Server

variable {s : ControlPlane} {cid : ClientId} {turn : HandshakeTurn} {id last : String}

open ControlLink

/-- The server waits for the next message of the client, which answers the one with this id. -/
def AwaitsAnswer (cid : ClientId) (last : String) (state : ServerState) (s : ControlPlane) : Prop :=
  s.io = .idle ∧ s.serverState = state ∧
    ∃ session, s.handshakeSessions.get? cid = some session ∧ session.lastSentRequestId = last

theorem ofText_phase (phase : HandshakePhase) :
    HandshakePhase.ofText (some phase.text) = some phase := by
  cases phase <;> rfl

theorem check_createHandshake {phase : HandshakePhase} {inReplyTo expected : Option String}
    {identity : Option Identity} (h : expected = none ∨ inReplyTo = expected) :
    checkHandshakeMessage (createHandshake phase id inReplyTo identity) phase expected = true := by
  simp [checkHandshakeMessage, createHandshake, h]

theorem awaitsAnswer_advance {session : ControlHandshakeSession} {message : HandshakeMessage}
    {phase : HandshakePhase} (hidle : s.io = .idle) :
    AwaitsAnswer cid turn.requestId s.serverState (s.advance cid session message turn phase) := by
  have hsession : (s.advance cid session message turn phase).handshakeSessions.get? cid =
      some { session with
        phase, lastSentRequestId := turn.requestId
        deadline := turn.now + ControlPlane.handshakeStepTimeout } := by
    rw [ControlPlane.advance, Dict.get?_set, if_pos rfl]
  exact ⟨hidle, rfl, _, hsession, rfl⟩

theorem reply_createHandshake {phase : HandshakePhase} {inReplyTo : Option String}
    {identity : Option Identity} (hidle : s.io = .idle) (hsent : turn.sent = true) :
    ¬ (s.io ≠ .idle ∨ (createHandshake phase id inReplyTo identity).msgType ≠ .handshake ∨
      (!turn.sent) = true) := by
  simp [hidle, hsent, createHandshake]

/-- A hello is answered, whatever the server had with the client before. -/
theorem serves_hello (cid : ClientId) (id : String) (hidle : s.io = .idle)
    (hsent : turn.sent = true) :
    s.reply cid (createHandshake .hello id none none) turn =
        some (ControlPlane.replyTo (createHandshake .hello id none none) turn "hello_ack"
          { message := some "Alive" }) ∧
      AwaitsAnswer cid turn.requestId s.serverState
        (s.step (.receive cid (createHandshake .hello id none none) turn)) := by
  have hcheck : checkHandshakeMessage (createHandshake .hello id none none) .hello none = true :=
    check_createHandshake (.inl rfl)
  have hphase : HandshakePhase.ofText (createHandshake .hello id none none).phase = some .hello :=
    ofText_phase .hello
  constructor
  · rw [ControlPlane.reply, if_neg (reply_createHandshake hidle hsent), hphase]
    exact if_pos hcheck
  · rw [ControlPlane.step, if_pos ⟨hidle, rfl⟩, ControlPlane.handleHandshakeMessage, hphase]
    rw [ControlPlane.onHello, hcheck, hsent]
    exact awaitsAnswer_advance hidle

theorem serves_ready (id : String) {state : ServerState} (h : AwaitsAnswer cid last state s)
    (hsent : turn.sent = true) :
    s.reply cid (createHandshake .ready id (some last) none) turn =
        some (ControlPlane.replyTo (createHandshake .ready id (some last) none) turn "startup"
          { message := some "Startup", acqMode := some state.acqMode }) ∧
      AwaitsAnswer cid turn.requestId state
        (s.step (.receive cid (createHandshake .ready id (some last) none) turn)) := by
  obtain ⟨hidle, rfl, session, hsession, rfl⟩ := h
  have hcheck : checkHandshakeMessage
      (createHandshake .ready id (some session.lastSentRequestId) none) .ready
        (some session.lastSentRequestId) = true := check_createHandshake (.inr rfl)
  have hphase : HandshakePhase.ofText
      (createHandshake .ready id (some session.lastSentRequestId) none).phase = some .ready :=
    ofText_phase .ready
  constructor
  · rw [ControlPlane.reply, if_neg (reply_createHandshake hidle hsent), hphase, hsession]
    exact if_pos hcheck
  · rw [ControlPlane.step, if_pos ⟨hidle, rfl⟩, ControlPlane.handleHandshakeMessage, hphase,
      hsession]
    dsimp only
    rw [ControlPlane.onReady, hcheck, hsent]
    exact awaitsAnswer_advance hidle

theorem serves_startupAck (id : String) {state : ServerState} {identity : Identity}
    (h : AwaitsAnswer cid last state s) (hsent : turn.sent = true)
    (hidentity : state.validateHandshakeIdentity cid (some identity) = true)
    (hmac : turn.macClientId ≠ none) :
    s.reply cid (createHandshake .startupAck id (some last) (some identity)) turn =
        some (ControlPlane.replyTo (createHandshake .startupAck id (some last) (some identity)) turn
          "end" { message := some "End", macClientId := turn.macClientId }) ∧
      AwaitsAnswer cid turn.requestId state
        (s.step (.receive cid (createHandshake .startupAck id (some last) (some identity)) turn)) := by
  obtain ⟨hidle, rfl, session, hsession, rfl⟩ := h
  have hcheck : checkHandshakeMessage
      (createHandshake .startupAck id (some session.lastSentRequestId) (some identity)) .startupAck
        (some session.lastSentRequestId) = true := check_createHandshake (.inr rfl)
  have hphase : HandshakePhase.ofText (createHandshake .startupAck id
      (some session.lastSentRequestId) (some identity)).phase = some .startupAck :=
    ofText_phase .startupAck
  constructor
  · rw [ControlPlane.reply, if_neg (reply_createHandshake hidle hsent), hphase, hsession]
    exact if_pos ⟨hcheck, hidentity, hmac⟩
  · rw [ControlPlane.step, if_pos ⟨hidle, rfl⟩, ControlPlane.handleHandshakeMessage, hphase,
      hsession]
    dsimp only
    rw [ControlPlane.onStartupAck, hcheck]
    have hvalid : s.serverState.validateHandshakeIdentity cid (createHandshake .startupAck id
        (some session.lastSentRequestId) (some identity)).payload.identity = true := hidentity
    simp only [hvalid, Bool.not_true, Bool.false_eq_true, if_false]
    rw [if_neg (by simp [hmac, hsent])]
    exact awaitsAnswer_advance hidle

end Server

/-! ## The control plane -/

section Control

variable {link : ControlLink} {cid : ClientId} {a : ControlAttempt} {ids : List String}

open ControlLink

/-- Everything is sent, and the server has no objection to the identity. -/
structure ControlAttempt.Served (cid : ClientId) (a : ControlAttempt) : Prop where
  idle : a.server.io = .idle
  helloSent : a.hello.sent = true ∧ a.hello.turn.sent = true
  readySent : a.ready.sent = true ∧ a.ready.turn.sent = true
  startupAckSent : a.startupAck.sent = true ∧ a.startupAck.turn.sent = true
  conclusionSent : a.conclusion.sent = true
  mode : a.server.serverState.acqMode ∈ acquisitionModes
  identity : ∃ identity, a.identity = some identity ∧
    a.server.serverState.validateHandshakeIdentity cid (some identity) = true
  registered : a.startupAck.turn.macClientId ≠ none

/-- The answer is the only message that waits. -/
theorem expect_answer (phase text inReplyTo : String)
    {frames : List (SocketFrame ControlReplyPayload)} {m : ControlReply} (hwait : waiting frames = 0)
    (hframes : link.frames = frames ++ [.message m]) (htype : m.msgType = .handshake)
    (hphase : m.phase = some phase) (htext : m.payload.message = some text)
    (hreply : m.inReplyTo = some inReplyTo) :
    link.expect phase text inReplyTo = (some m, { link with frames := [] }) := by
  have hreceive : receiveMessage link.frames = (some m, []) := by
    rw [hframes, receiveMessage_append_of_waiting_zero hwait]
    rfl
  rw [expect, hreceive]
  exact if_pos ⟨htype, hphase, htext, hreply⟩

/-- What waits is taken for the answer. -/
theorem expect_stale (phase text : String) {frames : List (SocketFrame ControlReplyPayload)}
    {m : ControlReply} {inReplyTo : String} (hwait : waiting frames ≠ 0)
    (hframes : link.frames = frames ++ [.message m])
    (hstale : ∀ m, .message m ∈ frames → m.inReplyTo ≠ some inReplyTo) :
    ∃ rest, link.expect phase text inReplyTo =
        (none, { link with frames := rest ++ [.message m] }) ∧
      waiting rest + 1 = waiting frames ∧ rest ⊆ frames := by
  obtain ⟨o, rest, hreceive, hless, hsub, ho⟩ :=
    receiveMessage_append_of_waiting hwait [.message m]
  refine ⟨rest, ?_, hless, hsub⟩
  rw [expect, hframes, hreceive]
  cases o with
  | none => rfl
  | some m' => exact if_neg fun h => hstale m' (ho m' rfl) h.2.2.2

theorem send_answered (link : ControlLink) {message : HandshakeMessage} {turn : HandshakeTurn}
    {m : ControlReply} (h : link.server.reply cid message turn = some m) :
    (link.send cid message turn).frames = link.frames ++ [.message m] := by
  rw [send, h]
  rfl

/-- A frame that waits is taken for the answer to the hello, and the answer takes its place. -/
theorem handshakeCore_of_waiting (hserved : a.Served cid)
    (hfresh : Fresh (a.hello.requestId :: ids) link.frames) (hwait : waiting link.frames ≠ 0) :
    (handshakeCore link cid a).1 = false ∧
      waiting (handshakeCore link cid a).2.frames = waiting link.frames ∧
      Fresh ids (handshakeCore link cid a).2.frames := by
  obtain ⟨hreply, -⟩ := serves_hello cid a.hello.requestId hserved.idle hserved.helloSent.2
  have hframes := send_answered { link with server := a.server } hreply
  obtain ⟨rest, hexpect, hless, hsub⟩ := expect_stale "hello_ack" "Alive" hwait hframes
    fun m hm => hfresh.2 m hm _ List.mem_cons_self
  unfold handshakeCore
  dsimp only
  rw [hserved.helloSent.1, hexpect]
  refine ⟨rfl, ?_, hfresh.next hsub rfl⟩
  rw [← hless]
  exact waiting_append

theorem afterAlive_succeeds {alive : ControlReply} (hserved : a.Served cid)
    (hawaits : AwaitsAnswer cid alive.requestId a.server.serverState link.server)
    (hframes : link.frames = []) : (link.afterAlive cid a alive).1 = true := by
  obtain ⟨identity, hidentity, hvalid⟩ := hserved.identity
  obtain ⟨hreply₁, hawaits₁⟩ := serves_ready a.ready.requestId hawaits hserved.readySent.2
  obtain ⟨hreply₂, -⟩ := serves_startupAck a.startupAck.requestId hawaits₁
    hserved.startupAckSent.2 hvalid hserved.registered
  have hframes₁ := send_answered link hreply₁
  rw [hframes] at hframes₁
  have hexpect₁ := expect_answer "startup" "Startup" a.ready.requestId rfl hframes₁ rfl rfl rfl rfl
  have hmode : ¬ ((some a.server.serverState.acqMode).all fun acqMode =>
      acqMode ∉ acquisitionModes) = true := by
    simp [hserved.mode]
  have hack : ¬ (a.identity = none ∨ (!a.startupAck.sent) = true) := by
    simp [hidentity, hserved.startupAckSent.1]
  unfold afterAlive
  dsimp only
  rw [hserved.readySent.1, hexpect₁]
  dsimp only [ControlPlane.replyTo]
  rw [Bool.not_true, if_neg Bool.false_ne_true, if_neg hmode, if_neg hack, hidentity]
  let link₁ := link.send cid
    (createHandshake .ready a.ready.requestId (some alive.requestId) none) a.ready.turn
  have hframes₂ := send_answered
    { link₁ with frames := [], acqMode := some a.server.serverState.acqMode } hreply₂
  rw [expect_answer "end" "End" a.startupAck.requestId rfl hframes₂ rfl rfl rfl rfl]
  dsimp only [ControlPlane.replyTo]
  rw [if_neg hserved.registered, hserved.conclusionSent]
  rfl

/-- With nothing on the socket the attempt succeeds. -/
theorem handshakeCore_of_idle (hserved : a.Served cid) (hwait : waiting link.frames = 0) :
    (handshakeCore link cid a).1 = true := by
  obtain ⟨hreply, hawaits⟩ := serves_hello cid a.hello.requestId hserved.idle hserved.helloSent.2
  have hframes := send_answered { link with server := a.server } hreply
  have hexpect := expect_answer "hello_ack" "Alive" a.hello.requestId hwait hframes rfl rfl rfl rfl
  unfold handshakeCore
  dsimp only
  rw [hserved.helloSent.1, hexpect]
  exact afterAlive_succeeds hserved hawaits rfl

/-- So many frames wait, and none of them is an answer to an attempt that is still to come. -/
structure Stuck (cid : ClientId) (n : Nat) (attempts : List ControlAttempt) (link : ControlLink) :
    Prop where
  served : ∀ a ∈ attempts, a.Served cid
  fresh : Fresh (attempts.map fun a => a.hello.requestId) link.frames
  waits : waiting link.frames = n

theorem Stuck.step {n : Nat} {attempts : List ControlAttempt} (hn : n ≠ 0)
    (h : Stuck cid n (a :: attempts) link) : (handshakeCore link cid a).1 = false ∧
      Stuck cid n attempts (handshakeCore link cid a).2 := by
  obtain ⟨hserved, hfresh, rfl⟩ := h
  rw [List.forall_mem_cons] at hserved
  obtain ⟨hfails, hsame, hnext⟩ := handshakeCore_of_waiting hserved.1 hfresh hn
  exact ⟨hfails, hserved.2, hnext, hsame⟩

end Control

/-- The handshake on the control plane succeeds, in its first attempt, exactly if no frame waits on the
socket; otherwise no attempt succeeds, however many there are, and as many frames wait as before. -/
theorem control_handshake_iff {link : ControlLink} {cid : ClientId}
    {attempts : List ControlAttempt} (hserved : ∀ a ∈ attempts, a.Served cid)
    (hfresh : Fresh (attempts.map fun a => a.hello.requestId) link.frames) :
    ((link.handshake cid attempts).1 = true ↔ waiting link.frames = 0 ∧ attempts ≠ []) ∧
      (waiting link.frames ≠ 0 →
        waiting (link.handshake cid attempts).2.frames = waiting link.frames) := by
  by_cases hwait : waiting link.frames = 0
  · refine ⟨?_, fun hne => absurd hwait hne⟩
    cases attempts with
    | nil => simp [ControlLink.handshake, retry]
    | cons a attempts =>
      have hsuccess := handshakeCore_of_idle (hserved a List.mem_cons_self) hwait
      rw [ControlLink.handshake, retry, if_pos hsuccess, hsuccess]
      simp [hwait]
  · obtain ⟨hfailure, -, -, hsame⟩ :=
      retry_fails (fun _ _ _ => Stuck.step hwait) (⟨hserved, hfresh, rfl⟩ : Stuck cid _ _ _)
    refine ⟨⟨fun h => ?_, fun h => absurd h.1 hwait⟩, fun _ => hsame⟩
    exact absurd (hfailure.symm.trans h) Bool.false_ne_true

/-- An attempt that a server which has just been started serves. -/
def firstAttempt : ControlAttempt where
  server := .started "test"
  hello := { requestId := "c1", turn := { requestId := "s1" } }
  ready := { requestId := "c2", turn := { requestId := "s2" } }
  startupAck := { requestId := "c3", turn := { requestId := "s3", macClientId := some 1 } }
  conclusion := { requestId := "c4", turn := { requestId := "s4" } }
  identity := some {
    multipmtId := some ⟨"7", true⟩
    batchId := some ⟨"B1", true⟩
    macAddress := some ⟨"02:00:00:00:00:01", true⟩ }

theorem firstAttempt_served : firstAttempt.Served [1] where
  idle := rfl
  helloSent := ⟨rfl, rfl⟩
  readySent := ⟨rfl, rfl⟩
  startupAckSent := ⟨rfl, rfl⟩
  conclusionSent := rfl
  mode := by decide
  identity := ⟨_, rfl, by decide⟩
  registered := by decide

/-- The answer to a hello of an attempt that was given up. -/
def lateAlive : ControlReply where
  msgType := .handshake
  requestId := "s0"
  payload := { message := some "Alive" }
  phase := some "hello_ack"
  inReplyTo := some "c0"

theorem control_handshake_lateAlive :
    let link : ControlLink := { frames := [.probe, .message lateAlive], server := .started "test" }
    ((link.handshake [1] [firstAttempt]).1 = true ↔
        waiting link.frames = 0 ∧ [firstAttempt] ≠ []) ∧
      (waiting link.frames ≠ 0 →
        waiting (link.handshake [1] [firstAttempt]).2.frames = waiting link.frames) :=
  control_handshake_iff (List.forall_mem_singleton.2 firstAttempt_served)
    ⟨List.nodup_singleton _, fun m hm id hid => by
      have hlate : m = lateAlive := by simpa using hm
      obtain rfl := List.mem_singleton.1 hid
      rw [hlate]
      decide⟩

/-! ## The data planes -/

section DataPlanes

variable {plane : DataPlane} {frames more : PlaneFrames} {helloId : String}

/-- What ends an attempt: neither a probe nor a `ready` of the plane. -/
def SocketFrame.isObstacle (plane : DataPlane) : SocketFrame (Option String) → Bool
  | .probe => false
  | .unreadable => true
  | .message m => !(m.msgType = .handshake ∧ m.phase = some plane.readyPhase)

def obstacles (plane : DataPlane) (frames : PlaneFrames) : Nat :=
  frames.countP (SocketFrame.isObstacle plane)

theorem obstacles_cons_of_obstacle {f : SocketFrame (Option String)}
    (h : f.isObstacle plane = true) : obstacles plane (f :: frames) = obstacles plane frames + 1 :=
  List.countP_cons_of_pos h

theorem obstacles_cons_of_not {f : SocketFrame (Option String)}
    (h : f.isObstacle plane = false) : obstacles plane (f :: frames) = obstacles plane frames :=
  List.countP_cons_of_neg (by rw [h]; exact Bool.false_ne_true)

theorem isObstacle_message {m : PlaneMessage} : (SocketFrame.message m).isObstacle plane = false ↔
    m.msgType = .handshake ∧ m.phase = some plane.readyPhase := by
  simp [SocketFrame.isObstacle]

/-- The `ready` of the server for a hello. -/
def IsReadyFor (plane : DataPlane) (helloId : String) (m : PlaneMessage) : Prop :=
  m.msgType = .handshake ∧ m.phase = some plane.readyPhase ∧ m.payload = some plane.readyText ∧
    m.inReplyTo = some helloId

theorem awaitReady_ready {m : PlaneMessage} (hm : IsReadyFor plane helloId m) :
    awaitReady plane helloId [.message m] = (true, []) := by
  obtain ⟨htype, hphase, hpayload, hreply⟩ := hm
  simp [awaitReady, isLateReady, htype, hphase, hpayload, hreply]

/-- Without an obstacle the `ready` is found behind all that waits. -/
theorem awaitReady_of_no_obstacle (h : obstacles plane frames = 0)
    (hstale : ∀ m, .message m ∈ frames → m.inReplyTo ≠ some helloId) {m : PlaneMessage}
    (hm : IsReadyFor plane helloId m) :
    awaitReady plane helloId (frames ++ [.message m]) = (true, []) := by
  induction frames with
  | nil => exact awaitReady_ready hm
  | cons f frames ih =>
    have hrest : ∀ m, .message m ∈ frames → m.inReplyTo ≠ some helloId :=
      fun m hm => hstale m (List.mem_cons_of_mem _ hm)
    cases f with
    | probe => exact ih h hrest
    | unreadable =>
      rw [obstacles_cons_of_obstacle rfl] at h
      cases h
    | message m' =>
      cases hfirst : (SocketFrame.message m').isObstacle plane with
      | true =>
        rw [obstacles_cons_of_obstacle hfirst] at h
        cases h
      | false =>
        rw [obstacles_cons_of_not hfirst] at h
        obtain ⟨htype, hphase⟩ := isObstacle_message.1 hfirst
        have hlate : isLateReady plane m' helloId = true := by
          simp [isLateReady, htype, hphase, hstale m' List.mem_cons_self]
        rw [List.cons_append, awaitReady, if_pos hlate]
        exact ih h hrest

/-- The first obstacle ends the attempt, and is taken away. -/
theorem awaitReady_of_obstacle (h : obstacles plane frames ≠ 0)
    (hstale : ∀ m, .message m ∈ frames → m.inReplyTo ≠ some helloId) :
    ∃ rest, awaitReady plane helloId (frames ++ more) = (false, rest ++ more) ∧
      obstacles plane rest + 1 = obstacles plane frames ∧ rest ⊆ frames := by
  induction frames with
  | nil => exact absurd rfl h
  | cons f frames ih =>
    have hrest : ∀ m, .message m ∈ frames → m.inReplyTo ≠ some helloId :=
      fun m hm => hstale m (List.mem_cons_of_mem _ hm)
    have hself : frames ⊆ f :: frames := List.subset_cons_self _ _
    cases f with
    | probe =>
      obtain ⟨rest, hawait, hcount, hsub⟩ := ih h hrest
      exact ⟨rest, hawait, hcount, List.Subset.trans hsub hself⟩
    | unreadable => exact ⟨frames, rfl, (obstacles_cons_of_obstacle rfl).symm, hself⟩
    | message m =>
      have hne := hstale m List.mem_cons_self
      cases hfirst : (SocketFrame.message m).isObstacle plane with
      | false =>
        obtain ⟨htype, hphase⟩ := isObstacle_message.1 hfirst
        have hlate : isLateReady plane m helloId = true := by
          simp [isLateReady, htype, hphase, hne]
        rw [obstacles_cons_of_not hfirst] at h ⊢
        obtain ⟨rest, hawait, hless, hsub⟩ := ih h hrest
        refine ⟨rest, ?_, hless, List.Subset.trans hsub hself⟩
        rw [List.cons_append, awaitReady, if_pos hlate, hawait]
      | true =>
        have hready : ¬ (m.msgType = .handshake ∧ m.phase = some plane.readyPhase) := by
          rw [← isObstacle_message, hfirst]
          exact Bool.noConfusion
        have hlate : isLateReady plane m helloId = false :=
          decide_eq_false fun hall => hready ⟨hall.1, hall.2.1⟩
        refine ⟨frames, ?_, (obstacles_cons_of_obstacle hfirst).symm, hself⟩
        rw [List.cons_append, awaitReady, hlate, if_neg Bool.false_ne_true]
        exact Prod.ext (decide_eq_false fun hall => hready ⟨hall.1, hall.2.1⟩) rfl

/-- The hello can be sent, and the server can answer it. -/
structure PlaneAttempt.Served (a : PlaneAttempt) : Prop where
  onControl : a.server.onControl = true
  sent : a.sent = true
  readySent : a.readySent = true

theorem PlaneAttempt.Served.reply {a : PlaneAttempt} (h : a.Served) (plane : DataPlane) :
    ∃ m, a.server.reply plane (a.hello plane) a.readyId a.readySent = some m ∧
      IsReadyFor plane a.requestId m := by
  have hhello : plane.isHello (a.hello plane) = true := by simp [DataPlane.isHello, PlaneAttempt.hello]
  refine ⟨plane.ready (a.hello plane) a.readyId, ?_, rfl, rfl, rfl, rfl⟩
  simp [PlaneHello.reply, h.onControl, h.readySent, hhello]

/-- One attempt. -/
theorem planeHandshakeCore_step (plane : DataPlane) {a : PlaneAttempt} {ids : List String}
    (hserved : a.Served) (hfresh : Fresh (a.requestId :: ids) frames) :
    ((planeHandshakeCore plane a frames).1 = true ↔ obstacles plane frames = 0) ∧
      (obstacles plane frames ≠ 0 →
        obstacles plane (planeHandshakeCore plane a frames).2 + 1 = obstacles plane frames ∧
          Fresh ids (planeHandshakeCore plane a frames).2) := by
  obtain ⟨m, hm, hready⟩ := hserved.reply plane
  have hstale : ∀ m, .message m ∈ frames → m.inReplyTo ≠ some a.requestId :=
    fun m hm => hfresh.2 m hm _ List.mem_cons_self
  have hcore : planeHandshakeCore plane a frames =
      awaitReady plane a.requestId (frames ++ [.message m]) := by
    simp [planeHandshakeCore, hserved.sent, hm]
  rw [hcore]
  by_cases hzero : obstacles plane frames = 0
  · rw [awaitReady_of_no_obstacle hzero hstale hready]
    exact ⟨⟨fun _ => hzero, fun _ => rfl⟩, fun hne => absurd hzero hne⟩
  · obtain ⟨rest, hawait, hless, hsub⟩ := awaitReady_of_obstacle hzero hstale
    rw [hawait]
    refine ⟨⟨fun h => absurd h Bool.false_ne_true, fun h => absurd h hzero⟩, fun _ => ⟨?_, ?_⟩⟩
    · rw [← hless, obstacles, List.countP_append, obstacles]
      simp [SocketFrame.isObstacle, hready.1, hready.2.1]
    · exact hfresh.next hsub hready.2.2.2

end DataPlanes

/-- On a data plane the handshake takes one attempt more than there are frames that are neither probes nor a
`ready`; how many late `ready` wait makes no difference. -/
theorem plane_handshake_iff (plane : DataPlane) {attempts : List PlaneAttempt}
    {frames : PlaneFrames} (hserved : ∀ a ∈ attempts, a.Served)
    (hfresh : Fresh (attempts.map PlaneAttempt.requestId) frames) :
    (planeHandshake plane attempts frames).1 = true ↔
      obstacles plane frames < attempts.length := by
  refine retry_iff (I := fun as frames => (∀ a ∈ as, a.Served) ∧
    Fresh (as.map PlaneAttempt.requestId) frames) (obstacles plane) ?_ ⟨hserved, hfresh⟩
  rintro a as frames ⟨hserved, hfresh⟩
  rw [List.forall_mem_cons] at hserved
  obtain ⟨hsucceeds, hfails⟩ := planeHandshakeCore_step plane hserved.1 hfresh
  exact ⟨hsucceeds, fun hne => ⟨(hfails hne).1, hserved.2, (hfails hne).2⟩⟩

def firstPlaneAttempt : PlaneAttempt where
  server := { onControl := true }
  requestId := "c1"
  readyId := "s1"

/-- The `ready` for a hello of an attempt that was given up. -/
def lateReady : PlaneMessage where
  msgType := .handshake
  requestId := "s0"
  payload := some DataPlane.acquisition.readyText
  phase := some DataPlane.acquisition.readyPhase
  inReplyTo := some "c0"

theorem plane_handshake_lateReady :
    (planeHandshake .acquisition [firstPlaneAttempt] [.probe, .message lateReady]).1 = true ↔
      obstacles .acquisition [.probe, .message lateReady] < 1 :=
  plane_handshake_iff .acquisition (List.forall_mem_singleton.2 ⟨rfl, rfl, rfl⟩)
    ⟨List.nodup_singleton _, fun m hm id hid => by
      have hlate : m = lateReady := by simpa using hm
      obtain rfl := List.mem_singleton.1 hid
      rw [hlate]
      decide⟩

end MultiDAQ.Client
