import MultiDAQ.Server.ControlHandshake

/-!
# The order of the control handshake

A handshake is in order (`Underway`, `Concluded`) when the client has sent hello, ready, startup_ack
and end, each in reply to what the server sent for the one before. The handlers compare the id that
a message replies to with the last one they sent in the session, and not the phase of the session
with the phase of the message. So an admission is in order if no message that is accepted comes out
of turn.
-/

namespace MultiDAQ.Server

open MultiDAQ.Lib MultiDAQ.Common

variable {path : HandshakePath} {cid : ClientId} {e : HandshakeEvent} {past : List HandshakeEvent}

/-! ## Handshakes in order -/

/-- The event belongs to a handshake of this client on this path. -/
def HandshakeEvent.concerns (path : HandshakePath) (cid : ClientId) : HandshakeEvent → Bool
  | .accepted p c _ _ _ | .dropped p c | .admitted p c => p = path ∧ c = cid
  | .restarted => true

/-- A handshake of the client is open: it has come to `phase`, in order, and `id` is the id of the
last message of the server. -/
inductive Underway (path : HandshakePath) (cid : ClientId) :
    List HandshakeEvent → HandshakePhase → String → Prop
  | hello {past : List HandshakeEvent} {inReplyTo : Option String} {id : String} :
      Underway path cid (.accepted path cid .hello inReplyTo (some id) :: past) .hello id
  | ready {past : List HandshakeEvent} {id id' : String} :
      Underway path cid past .hello id →
      Underway path cid (.accepted path cid .ready (some id) (some id') :: past) .ready id'
  | startupAck {past : List HandshakeEvent} {id id' : String} :
      Underway path cid past .ready id →
      Underway path cid (.accepted path cid .startupAck (some id) (some id') :: past) .startupAck id'
  | other {past : List HandshakeEvent} {e : HandshakeEvent} {phase : HandshakePhase} {id : String} :
      Underway path cid past phase id → e.concerns path cid = false →
      Underway path cid (e :: past) phase id

/-- A handshake has come to its end in order, and the client is still to be admitted. -/
inductive Concluded (path : HandshakePath) (cid : ClientId) : List HandshakeEvent → Prop
  | conclusion {past : List HandshakeEvent} {id : String} :
      Underway path cid past .startupAck id →
      Concluded path cid (.accepted path cid .conclusion (some id) none :: past)
  | other {past : List HandshakeEvent} {e : HandshakeEvent} :
      Concluded path cid past → e.concerns path cid = false ∨ e = .dropped path cid →
      Concluded path cid (e :: past)

/-- Every admission is the end of a handshake in order. -/
def AdmittedInOrder : List HandshakeEvent → Prop
  | [] => True
  | .admitted path cid :: past => Concluded path cid past ∧ AdmittedInOrder past
  | .accepted .. :: past | .dropped .. :: past | .restarted :: past => AdmittedInOrder past

theorem accepted_concerns_of_ne {path' : HandshakePath} {cid' : ClientId} {phase : HandshakePhase}
    {inReplyTo answer : Option String} (h : path ≠ path' ∨ cid ≠ cid') :
    (HandshakeEvent.accepted path cid phase inReplyTo answer).concerns path' cid' = false := by
  simpa [HandshakeEvent.concerns, ← imp_iff_not_or] using h

theorem dropped_concerns_of_ne {path' : HandshakePath} {cid' : ClientId}
    (h : path ≠ path' ∨ cid ≠ cid') :
    (HandshakeEvent.dropped path cid).concerns path' cid' = false := by
  simpa [HandshakeEvent.concerns, ← imp_iff_not_or] using h

theorem admitted_concerns_of_ne {path' : HandshakePath} {cid' : ClientId}
    (h : path ≠ path' ∨ cid ≠ cid') :
    (HandshakeEvent.admitted path cid).concerns path' cid' = false := by
  simpa [HandshakeEvent.concerns, ← imp_iff_not_or] using h

theorem reply_of_check {message : HandshakeMessage} {phase : HandshakePhase} {id : String}
    (h : checkHandshakeMessage message phase (some id) = true) : message.inReplyTo = some id := by
  unfold checkHandshakeMessage at h
  rw [decide_eq_true_eq] at h
  exact h.1.resolve_left nofun

/-- The message before this one. -/
def HandshakePhase.previous : HandshakePhase → Option HandshakePhase
  | .hello => none
  | .ready => some .hello
  | .startupAck => some .ready
  | .conclusion => some .startupAck

namespace ControlPlane

variable {s : ControlPlane}

/-- A message that its handler accepts for the open session of the client is the one that comes after
the phase of the session. -/
def InTurn (s : ControlPlane) : ControlAction → Prop
  | .receive cid message _ =>
    ∀ session ∈ s.handshakeSessions.get? cid, ∀ phase ∈ [.ready, .startupAck, .conclusion],
      checkHandshakeMessage message phase (some session.lastSentRequestId) = true →
        phase.previous = some session.phase
  | _ => True

instance (s : ControlPlane) : (a : ControlAction) → Decidable (InTurn s a)
  | .receive cid _ _ => inferInstanceAs (Decidable (∀ session ∈ s.handshakeSessions.get? cid, _))
  | .admitClient _ | .expire _ | .clearSessions | .receiveBlocking .. | .admitBlocking _
  | .other _ | .restart _ => .isTrue trivial

/-! ## The invariant -/

/-- Where `handshake_core` is, is where the handshake is. -/
def BlockingTracked (history : List HandshakeEvent) : BlockingHandshake → Prop
  | .idle => True
  | .sentAlive cid id => Underway .blocking cid history .hello id
  | .sentStartup cid id => Underway .blocking cid history .ready id
  | .sentEnd cid _ id => Underway .blocking cid history .startupAck id
  | .admitting cid _ => Concluded .blocking cid history

/-- The sessions, the I/O loop and `handshake_core` are where the history says, and every admission
was in order. The session of the client that the I/O loop is about to admit is not used again. -/
structure Tracked (s : ControlPlane) : Prop where
  sessions : ∀ cid session, s.handshakeSessions.get? cid = some session →
    (∀ identity, s.io ≠ .admitting cid identity) →
      Underway .session cid s.history session.phase session.lastSentRequestId
  io : ∀ cid identity, s.io = .admitting cid identity → Concluded .session cid s.history
  blocking : BlockingTracked s.history s.blocking
  admitted : AdmittedInOrder s.history

theorem BlockingTracked.cons {history : List HandshakeEvent} {b : BlockingHandshake}
    (h : BlockingTracked history b) (he : ∀ cid, e.concerns .blocking cid = false) :
    BlockingTracked (e :: history) b := by
  cases b with
  | idle => trivial
  | sentAlive cid id => exact .other h (he cid)
  | sentStartup cid id => exact .other h (he cid)
  | sentEnd cid identity id => exact .other h (he cid)
  | admitting cid identity => exact .other h (.inl (he cid))

theorem Tracked.drop (h : Tracked s) (cid : ClientId) : Tracked (s.drop cid) where
  sessions := fun other session hget hio => by
    have hget : (s.handshakeSessions.erase cid).get? other = some session := hget
    rw [Dict.get?_erase] at hget
    split at hget
    next => cases hget
    next hne =>
      exact .other (h.sessions other session hget hio)
        (dropped_concerns_of_ne (.inr (Ne.symm hne)))
  io := fun other identity hio => by
    by_cases heq : cid = other
    · exact .other (h.io other identity hio) (.inr (heq ▸ rfl))
    · exact .other (h.io other identity hio) (.inl (dropped_concerns_of_ne (.inr heq)))
  blocking := h.blocking.cons fun _ => dropped_concerns_of_ne (.inl nofun)
  admitted := h.admitted

theorem Tracked.dropWhere (h : Tracked s) (p : ControlHandshakeSession → Bool) :
    Tracked (s.dropWhere p) :=
  List.foldlRecOn _ ControlPlane.drop h fun _ h cid _ => h.drop cid

/-! ## The handlers -/

theorem Tracked.sessions_of_idle (h : Tracked s) (hio : s.io = .idle)
    {session : ControlHandshakeSession} (hs : s.handshakeSessions.get? cid = some session) :
    Underway .session cid s.history session.phase session.lastSentRequestId :=
  h.sessions cid session hs fun _ hother => absurd (hio.symm.trans hother) nofun

theorem Tracked.advance (h : Tracked s) (hio : s.io = .idle) {session : ControlHandshakeSession}
    {message : HandshakeMessage} {turn : HandshakeTurn} {phase : HandshakePhase}
    (hnew : Underway .session cid
      (.accepted .session cid phase message.inReplyTo (some turn.requestId) :: s.history)
      phase turn.requestId) :
    Tracked (s.advance cid session message turn phase) where
  sessions := fun other session' hget _ => by
    have hget : (s.handshakeSessions.set cid { session with
        phase, lastSentRequestId := turn.requestId,
        deadline := turn.now + handshakeStepTimeout }).get? other = some session' := hget
    rw [Dict.get?_set] at hget
    split at hget
    next heq =>
      obtain rfl := Option.some.inj hget
      exact heq ▸ hnew
    next hne =>
      exact .other (h.sessions_of_idle hio hget) (accepted_concerns_of_ne (.inr (Ne.symm hne)))
  io := fun other identity hother => absurd (hio.symm.trans hother) nofun
  blocking := h.blocking.cons fun _ => accepted_concerns_of_ne (.inl nofun)
  admitted := h.admitted

theorem Tracked.onHello (h : Tracked s) (hio : s.io = .idle) (message : HandshakeMessage)
    (turn : HandshakeTurn) : Tracked (s.onHello cid message turn) := by
  unfold ControlPlane.onHello
  split
  · exact h.drop cid
  · split
    · exact h.drop cid
    · exact h.advance hio .hello

section Answers

variable {session : ControlHandshakeSession} {message : HandshakeMessage} {turn : HandshakeTurn}

theorem Tracked.onReady (h : Tracked s) (hio : s.io = .idle)
    (hs : s.handshakeSessions.get? cid = some session)
    (hturn : checkHandshakeMessage message .ready (some session.lastSentRequestId) = true →
      session.phase = .hello) : Tracked (s.onReady cid session message turn) := by
  unfold ControlPlane.onReady
  split
  · exact h.drop cid
  next hcheck =>
    have hcheck : checkHandshakeMessage message .ready (some session.lastSentRequestId) = true := by
      simpa using hcheck
    split
    · exact h.drop cid
    · refine h.advance hio ?_
      rw [reply_of_check hcheck]
      exact .ready (hturn hcheck ▸ h.sessions_of_idle hio hs)

theorem Tracked.onStartupAck (h : Tracked s) (hio : s.io = .idle)
    (hs : s.handshakeSessions.get? cid = some session)
    (hturn : checkHandshakeMessage message .startupAck (some session.lastSentRequestId) = true →
      session.phase = .ready) : Tracked (s.onStartupAck cid session message turn) := by
  unfold ControlPlane.onStartupAck
  split
  · exact h.drop cid
  next hcheck =>
    have hcheck : checkHandshakeMessage message .startupAck (some session.lastSentRequestId) =
        true := by simpa using hcheck
    split
    · exact h.drop cid
    · split
      · exact h.drop cid
      · refine h.advance hio ?_
        rw [reply_of_check hcheck]
        exact .startupAck (hturn hcheck ▸ h.sessions_of_idle hio hs)

theorem Tracked.onEnd (h : Tracked s) (hio : s.io = .idle)
    (hs : s.handshakeSessions.get? cid = some session)
    (hturn : checkHandshakeMessage message .conclusion (some session.lastSentRequestId) = true →
      session.phase = .startupAck) : Tracked (s.onEnd cid session message) := by
  unfold ControlPlane.onEnd
  split
  · exact h.drop cid
  next hcheck =>
    have hcheck : checkHandshakeMessage message .conclusion (some session.lastSentRequestId) =
        true := by simpa using hcheck
    split
    · exact h.drop cid
    · split
      · exact h.drop cid
      next identity _ =>
        have hend : Underway .session cid s.history .startupAck session.lastSentRequestId :=
          hturn hcheck ▸ h.sessions_of_idle hio hs
        rw [reply_of_check hcheck]
        refine ⟨fun other session' hget hother => ?_, fun other identity' hother => ?_, ?_,
          h.admitted⟩
        · have hne : cid ≠ other := fun heq => hother identity (heq ▸ rfl)
          exact .other (h.sessions_of_idle hio hget) (accepted_concerns_of_ne (.inr hne))
        · obtain ⟨rfl, rfl⟩ := ControlIo.admitting.inj hother
          exact .conclusion hend
        · exact h.blocking.cons fun _ => accepted_concerns_of_ne (.inl nofun)

end Answers

theorem Tracked.handleHandshakeMessage (h : Tracked s) (hio : s.io = .idle)
    {message : HandshakeMessage} {turn : HandshakeTurn}
    (hturn : InTurn s (.receive cid message turn)) :
    Tracked (s.handleHandshakeMessage cid message turn) := by
  unfold ControlPlane.handleHandshakeMessage
  split
  next => exact h
  next => exact h.onHello hio message turn
  next session _ hs =>
    refine h.onReady hio hs fun hcheck => ?_
    have hprevious := hturn session hs .ready (by simp) hcheck
    exact (Option.some.inj hprevious).symm
  next session _ hs =>
    refine h.onStartupAck hio hs fun hcheck => ?_
    have hprevious := hturn session hs .startupAck (by simp) hcheck
    exact (Option.some.inj hprevious).symm
  next session _ hs =>
    refine h.onEnd hio hs fun hcheck => ?_
    have hprevious := hturn session hs .conclusion (by simp) hcheck
    exact (Option.some.inj hprevious).symm
  next => exact h

/-- The sessions of the other clients, while one is admitted. -/
theorem Tracked.sessions_of_erase (h : Tracked s) {identity : Identity} {other : ClientId}
    {session : ControlHandshakeSession} (hio : s.io = .admitting cid identity)
    (hget : (s.handshakeSessions.erase cid).get? other = some session) :
    cid ≠ other ∧
      Underway .session other s.history session.phase session.lastSentRequestId := by
  rw [Dict.get?_erase] at hget
  split at hget
  next => cases hget
  next hne =>
    refine ⟨Ne.symm hne, h.sessions other session hget fun identity' hother => ?_⟩
    exact hne (ControlIo.admitting.inj (hio.symm.trans hother)).1.symm

theorem Tracked.admitSession (h : Tracked s) (now : Nat) : Tracked (s.admitSession now) := by
  unfold ControlPlane.admitSession
  split
  next => exact h
  next cid identity hio =>
    split
    · refine ⟨fun other session hget _ => ?_, fun _ _ hother => (nomatch hother),
        (h.drop cid).blocking, h.admitted⟩
      obtain ⟨hne, hs⟩ := h.sessions_of_erase hio hget
      exact .other hs (dropped_concerns_of_ne (.inr hne))
    · refine ⟨fun other session hget _ => ?_, fun _ _ hother => (nomatch hother), ?_,
        h.io cid identity hio, h.admitted⟩
      · obtain ⟨hne, hs⟩ := h.sessions_of_erase hio hget
        exact .other hs (admitted_concerns_of_ne (.inr hne))
      · exact h.blocking.cons fun _ => admitted_concerns_of_ne (.inl nofun)

/-! ## `handshake_core` -/

/-- What `handshake_core` notes is no event of a session. -/
theorem Tracked.note (h : Tracked s) {b : BlockingHandshake}
    (he : ∀ cid, e.concerns .session cid = false) (hb : BlockingTracked (e :: s.history) b)
    (hadmitted : AdmittedInOrder (e :: s.history)) :
    Tracked { s with blocking := b, history := e :: s.history } where
  sessions := fun cid session hget hio => .other (h.sessions cid session hget hio) (he cid)
  io := fun cid identity hio => .other (h.io cid identity hio) (.inl (he cid))
  blocking := hb
  admitted := hadmitted

theorem Tracked.abort (h : Tracked s) (cid : ClientId) : Tracked (s.abort cid) :=
  h.note (fun _ => dropped_concerns_of_ne (.inl nofun)) trivial h.admitted

theorem Tracked.goOn (h : Tracked s) {message : HandshakeMessage} {phase : HandshakePhase}
    {answer : Option String} {b : BlockingHandshake}
    (hb : BlockingTracked (.accepted .blocking cid phase message.inReplyTo answer :: s.history) b) :
    Tracked (s.goOn cid message phase answer b) :=
  h.note (fun _ => accepted_concerns_of_ne (.inl nofun)) hb h.admitted

theorem Tracked.receiveBlocking (h : Tracked s) (received : Option (ClientId × HandshakeMessage))
    (turn : HandshakeTurn) : Tracked (s.receiveBlocking received turn) := by
  have hblocking := h.blocking
  unfold ControlPlane.receiveBlocking
  split
  next => exact h
  next =>
    split
    · exact h.goOn .hello
    · exact h
  next cid _ _ => exact h.abort cid
  next cid _ _ => exact h.abort cid
  next cid _ _ _ => exact h.abort cid
  next cid requestId sender message hb =>
    split
    next hc =>
      rw [hb] at hblocking
      refine h.goOn ?_
      rw [reply_of_check hc.2.1]
      exact .ready hblocking
    next => exact h.abort cid
  next cid requestId sender message hb =>
    split
    · exact h.abort cid
    · split
      next hc =>
        rw [hb] at hblocking
        refine h.goOn ?_
        rw [reply_of_check hc.2.1]
        exact .startupAck hblocking
      next => exact h.abort cid
  next cid identity requestId sender message hb =>
    split
    next hc =>
      rw [hb] at hblocking
      refine h.goOn ?_
      rw [reply_of_check hc.2]
      exact .conclusion hblocking
    next => exact h.abort cid
  next => exact h

theorem Tracked.admitBlocking (h : Tracked s) (now : Nat) : Tracked (s.admitBlocking now) := by
  unfold ControlPlane.admitBlocking
  split
  next cid identity hb =>
    have hblocking := h.blocking
    rw [hb] at hblocking
    split
    · exact h.abort cid
    · have hnote := h.note (b := .idle) (e := .admitted .blocking cid)
        (fun _ => admitted_concerns_of_ne (.inl nofun)) trivial ⟨hblocking, h.admitted⟩
      exact ⟨hnote.sessions, hnote.io, hnote.blocking, hnote.admitted⟩
  next => exact h

/-! ## Runs -/

theorem Tracked.step (h : Tracked s) {a : ControlAction} (ha : InTurn s a) :
    Tracked (s.step a) := by
  cases a with
  | receive cid message turn =>
    show Tracked (if s.io = .idle ∧ message.msgType = .handshake then _ else s)
    split
    next hc => exact h.handleHandshakeMessage hc.1 ha
    next => exact h
  | admitClient now => exact h.admitSession now
  | expire now =>
    show Tracked (if s.io = .idle then _ else s)
    split
    · exact h.dropWhere _
    · exact h
  | clearSessions => exact h.dropWhere _
  | receiveBlocking received turn => exact h.receiveBlocking received turn
  | admitBlocking now => exact h.admitBlocking now
  | other op =>
    cases op with
    | addControlClient => exact h
    | _ => exact ⟨h.sessions, h.io, h.blocking, h.admitted⟩
  | restart mode =>
    exact ⟨fun _ _ hget => (nomatch hget), fun _ _ hio => (nomatch hio), trivial, h.admitted⟩

/-- If every message that is accepted comes in turn, every client that is admitted has sent hello,
ready, startup_ack and end in one handshake, each in reply to the last message of the server. -/
theorem admitted_in_order (mode : String) (as : List ControlAction)
    (has : Meets step InTurn (started mode) as) :
    AdmittedInOrder (run step (started mode) as).history := by
  have hstart : Tracked (started mode) :=
    ⟨fun _ _ hget => (nomatch hget), fun _ _ hio => (nomatch hio), trivial, trivial⟩
  exact (run_invariant (fun _ _ h ha => h.step ha) hstart has).admitted

/-! ## A handshake without ready -/

def exampleIdentity : Identity where
  macAddress := some ⟨"02:00:00:00:00:01", true⟩
  multipmtId := some ⟨"7", true⟩
  batchId := some ⟨"B1", true⟩

/-- A message of the handshake as the client sends it. -/
def handshakeMessage (phase : HandshakePhase) (inReplyTo : Option String) : HandshakeMessage where
  msgType := .handshake
  requestId := "client"
  payload := {
    message := some phase.expectedMessage
    identity := if phase = .startupAck then some exampleIdentity else none }
  phase := some phase.text
  inReplyTo := inReplyTo

/-- The client leaves ready out. -/
def withoutReady : List ControlAction := [
  .receive [1] (handshakeMessage .hello none) { requestId := "s1" },
  .receive [1] (handshakeMessage .startupAck (some "s1")) { requestId := "s2", macClientId := some 0 },
  .receive [1] (handshakeMessage .conclusion (some "s2")) { requestId := "s3" },
  .admitClient 0]

/-- The client answers the reply to its hello by startup_ack, and is admitted. -/
theorem admitted_without_ready :
    (run step (started "test") withoutReady).serverState.controlClientIds = [[1]] ∧
      ¬ AdmittedInOrder (run step (started "test") withoutReady).history := by
  refine ⟨by decide +kernel, fun h => ?_⟩
  have hhistory : (run step (started "test") withoutReady).history = [
      .admitted .session [1], .accepted .session [1] .conclusion (some "s2") none,
      .accepted .session [1] .startupAck (some "s1") (some "s2"),
      .accepted .session [1] .hello none (some "s1")] := by decide +kernel
  rw [hhistory] at h
  obtain ⟨hconcluded, -⟩ := h
  cases hconcluded with
  | other _ he => exact he.elim (by decide) (by decide)
  | conclusion hended =>
    cases hended with
    | other _ he => exact absurd he (by decide)
    | startupAck hready =>
      cases hready with
      | other _ he => exact absurd he (by decide)

/-- The whole handshake. -/
def wholeHandshake : List ControlAction := [
  .receive [1] (handshakeMessage .hello none) { requestId := "s1" },
  .receive [1] (handshakeMessage .ready (some "s1")) { requestId := "s2" },
  .receive [1] (handshakeMessage .startupAck (some "s2")) { requestId := "s3", macClientId := some 0 },
  .receive [1] (handshakeMessage .conclusion (some "s3")) { requestId := "s4" },
  .admitClient 0]

theorem admitted_whole :
    (run step (started "test") wholeHandshake).serverState.controlClientIds = [[1]] ∧
      AdmittedInOrder (run step (started "test") wholeHandshake).history :=
  ⟨by decide +kernel, admitted_in_order "test" wholeHandshake (by decide +kernel)⟩

end ControlPlane

end MultiDAQ.Server
