import MultiDAQ.Server.SessionControl
import MultiDAQ.Server.Verify.Finalization

/-!
# The active session and the run state

An active session is one that the operator can stop: the server acquires or finalizes, so that
`stop` finds something to stop, or the stop has been requested already. What breaks this is an event
that takes the server out of the run under a session that has not been told to stop, `FATAL_ERROR`
first of all, and a session that begins where the run is over or after a quit.
-/

namespace MultiDAQ.Server

open MultiDAQ.Lib

/-! ## The run state -/

namespace Fleet

variable {ι : Type} [DecidableEq ι] {f : Fleet ι} {a : Act ι}

/-- The fleet acquires or finalizes. -/
def InRun (f : Fleet ι) : Prop := f.runState = .acquiring ∨ f.runState = .finalizing

/-- The actions that can end a run. -/
def Act.EndsRun : Act ι → Prop
  | .fatal | .finalized | .reset => True
  | _ => False

theorem inRun_after (he : f.Enabled a) (h : f.InRun) (hends : ¬a.EndsRun) : (f.after a).InRun := by
  have hne {r : ServerFSM} (hr : f.runState = r) (h₁ : r ≠ .acquiring) (h₂ : r ≠ .finalizing) :
      (f.after a).InRun := by
    rcases h with h | h
    · exact absurd (hr.symm.trans h) h₁
    · exact absurd (hr.symm.trans h) h₂
  cases a with
  | move event next =>
    rcases h with hrun | hrun
    · obtain ⟨ht, hnext, -, -, -, -, hfatal, -⟩ := he
      rw [hrun] at ht
      cases event <;> simp_all [transitionTable]
    · exact absurd he (not_move_of_finalizing hrun)
  | configure targets isPartial =>
    rcases he.1 with hr | hr <;> exact hne hr (by decide) (by decide)
  | configured successful failed => exact hne he.1 (by decide) (by decide)
  | configurationFailed => exact hne he (by decide) (by decide)
  | acquire active => exact .inl rfl
  | finalize event terminal => exact .inr rfl
  | fatal | finalized | reset => exact absurd trivial hends
  | _ => exact h

end Fleet

/-- The operations that can end a run. -/
def ServerOp.EndsRun : ServerOp → Prop
  | .processEvent c => c.event = some .fatalError ∨ c.event = some .finalizationSucceeded ∨
      c.event = some .finalizationFailed
  | .resetToDisconnected _ _ _ => True
  | _ => False

namespace ServerState

variable {s : ServerState}

theorem endsRun_of_acts {op : ServerOp} {a : Fleet.Act ClientId} (ha : op.Acts a)
    (hends : a.EndsRun) : op.EndsRun := by
  cases a with
  | fatal | finalized | reset =>
    cases op <;> simp_all [ServerOp.Acts, Fleet.Act.OfEvent, ServerOp.EndsRun]
  | _ => exact hends.elim

theorem inRun_step (hreach : s.IsReachable) {op : ServerOp} (h : s.fleet.InRun)
    (hop : ¬op.EndsRun) : (s.step op).fleet.InRun := by
  obtain ⟨a, ha, he, hf⟩ := s.step_act op hreach.pendingAllowed
  rw [hf]
  exact Fleet.inRun_after he h fun hends => hop (endsRun_of_acts ha hends)

end ServerState

namespace SessionControl

variable {s : SessionControl} {t : Nat}

/-! ## Statement -/

/-- The server is in a run or the stop is requested, as long as a session is active; after a quit
the stop is requested. -/
structure Agrees (s : SessionControl) : Prop where
  running : s.sessionActive = true → s.server.runState = .acquiring ∨
    s.server.runState = .finalizing ∨ s.stopRequested = true
  quit : ∀ t, s.tasks t = .quit → s.sessionActive = true → s.stopRequested = true

/-- A session is active that has not been told to stop. -/
def Unstopped (s : SessionControl) : Prop := s.sessionActive = true ∧ s.stopRequested = false

/-- The server is in a run, and no quit has been carried out. -/
def Stoppable (s : SessionControl) : Prop :=
  (s.server.runState = .acquiring ∨ s.server.runState = .finalizing) ∧ ∀ t, s.tasks t ≠ .quit

/-- Under an active session that has not been told to stop, no command fails with an exception, no
finalization is reported, and the `stop` of a quit is not overtaken by another end of the run. A
session begins while it can be stopped. -/
def Orderly (s : SessionControl) : SessionAction → Prop
  | .server op => s.Unstopped → ¬op.EndsRun
  | .advance t _ _ _ =>
    match s.tasks t with
    | .closeFinalizing _ _ => ¬s.Unstopped
    | .stopSending true => s.Unstopped → s.server.runState = .acquiring
    | .activating _ => s.stopRequested = false → s.Stoppable
    | .clearing _ => s.sessionActive = true → s.Stoppable
    | _ => True
  | _ => True

/-! ## Invariant -/

structure Inv (s : SessionControl) : Prop where
  reachable : s.server.IsReachable
  stoppable : s.Unstopped → s.Stoppable

theorem Inv.agrees (h : Inv s) : Agrees s where
  running hactive := by
    cases hstop : s.stopRequested with
    | true => exact .inr (.inr rfl)
    | false =>
      rcases (h.stoppable ⟨hactive, hstop⟩).1 with hrun | hrun
      · exact .inl hrun
      · exact .inr (.inl hrun)
  quit t ht hactive := by
    cases hstop : s.stopRequested with
    | true => rfl
    | false => exact absurd ht ((h.stoppable ⟨hactive, hstop⟩).2 t)

theorem inv_init (mode : String) : Inv { server := .init mode } :=
  ⟨⟨mode, [], rfl⟩, nofun⟩

theorem goto_ne_quit {task : SessionTask} (h : ∀ u, s.tasks u ≠ .quit) (hne : task ≠ .quit)
    (u : Nat) : (s.goto t task).tasks u ≠ .quit := by
  show Function.update s.tasks t task u ≠ .quit
  by_cases hu : u = t
  · rw [hu, Function.update_self]
    exact hne
  · rw [Function.update_of_ne hu]
    exact h u

/-- A thread that does not come to `quit` keeps the invariant where the flags do. -/
theorem Inv.goto {task : SessionTask} (h : Inv s) (hne : task ≠ .quit) : Inv (s.goto t task) :=
  ⟨h.reachable, fun hu => ⟨(h.stoppable hu).1, goto_ne_quit (h.stoppable hu).2 hne⟩⟩

/-- A quit is carried out when no session is left that has not been told to stop. -/
theorem Inv.goto_of_stopped {task : SessionTask} (h : s.server.IsReachable)
    (hstop : ¬s.Unstopped) : Inv (s.goto t task) :=
  ⟨h, fun hu => absurd hu hstop⟩

theorem Inv.server {op : ServerOp} (h : Inv s) (hop : s.Unstopped → ¬op.EndsRun) :
    Inv { s with server := s.server.step op } where
  reachable := h.reachable.step op
  stoppable hu :=
    ⟨ServerState.inRun_step h.reachable (h.stoppable hu).1 (hop hu), (h.stoppable hu).2⟩

theorem send_eq (s : SessionControl) (t : Nat) (c : EventCall) (accepted rejected : SessionTask) :
    s.send t c accepted rejected =
      { s with server := s.server.step (.processEvent c) }.goto t
        (if (s.server.processEvent c).1 then accepted else rejected) := by
  unfold send
  rcases h : s.server.processEvent c with ⟨ok, server⟩
  have hstep : s.server.step (.processEvent c) = server := congrArg Prod.snd h
  rw [hstep]
  cases ok <;> rfl

theorem Inv.send {c : EventCall} {accepted rejected : SessionTask} (h : Inv s)
    (hc : s.Unstopped → ¬(ServerOp.processEvent c).EndsRun) (haccepted : accepted ≠ .quit)
    (hrejected : rejected ≠ .quit) : Inv (s.send t c accepted rejected) := by
  rw [send_eq]
  refine (h.server hc).goto ?_
  split
  · exact haccepted
  · exact hrejected

/-! ## Steps -/

/-- A server that acquires accepts the stop. -/
theorem stopCall_accepted (h : s.server.runState = .acquiring) (now : Nat) :
    (s.server.processEvent (stopCall now)).1 = true := by
  have hvalid : (stopCall now).validated = some (.stopRequested,
      { event := .inl .stopRequested, reason := "Manual stop command"
        source := "acquisition_orchestrator", clientId := none, error := none, metadata := {}
        timestamp := now }) := by
    rfl
  unfold ServerState.processEvent
  rw [hvalid]
  simp [h, transitionTable, ServerState.dropLostClients, ServerState.transition,
    ServerState.notePending, ServerState.noteSource, ServerState.applyEvent,
    ServerState.resolveNext]

theorem Inv.stopSending {quit : Bool} {now : Nat} (h : Inv s)
    (hquit : quit = true → s.Unstopped → s.server.runState = .acquiring) :
    Inv (s.send t (stopCall now) (.stopRequesting quit) (afterStop quit)) := by
  have hevent : ¬(ServerOp.processEvent (stopCall now)).EndsRun := by
    rintro (h | h | h) <;> cases h
  cases quit with
  | false => exact h.send (fun _ => hevent) nofun nofun
  | true =>
    rw [send_eq]
    split
    · exact (h.server fun _ => hevent).goto nofun
    next hrejected =>
      refine Inv.goto_of_stopped (h.server fun _ => hevent).reachable fun hu => ?_
      exact hrejected (stopCall_accepted (hquit rfl hu) now)

theorem Inv.advance {now : Nat} {owner : Option Nat} {ending : SessionEnd} (h : Inv s)
    (hc : s.Orderly (.advance t now owner ending)) : Inv (s.advance t now owner ending) := by
  unfold SessionControl.advance
  unfold Orderly at hc
  dsimp only at hc
  cases htask : s.tasks t with
  | idle | quit => exact h
  | starting kind active =>
    exact h.send (fun _ => by rintro (h | h | h) <;> cases h) nofun nofun
  | activating kind =>
    rw [htask] at hc
    refine Inv.goto ⟨h.reachable, fun hu => ?_⟩ nofun
    exact hc hu.2
  | reopening kind => exact Inv.goto ⟨h.reachable, h.stoppable⟩ nofun
  | clearing kind =>
    rw [htask] at hc
    refine Inv.goto ⟨h.reachable, fun hu => ?_⟩ nofun
    exact hc hu.1
  | launching kind =>
    show Inv (s.advanceLaunching t kind owner)
    unfold advanceLaunching
    split
    · split
      · have hidle : Inv (s.goto t .idle) := h.goto nofun
        exact hidle.goto nofun
      · exact h
    · split <;> exact h.goto nofun
  | running kind =>
    show Inv (s.advanceRunning t kind ending)
    unfold advanceRunning
    split
    · split
      · exact h.goto nofun
      · exact h
    · split <;> exact h.goto nofun
    · split <;> exact h.goto nofun
  | elapsed kind =>
    exact h.send (fun _ => by rintro (h | h | h) <;> cases h) nofun nofun
  | scanEnded kind success | closing kind success | closeReading kind success =>
    dsimp only
    split <;> exact h.goto nofun
  | scanStopping kind success | closeStopping kind success =>
    exact h.send (fun _ => by rintro (h | h | h) <;> cases h) nofun nofun
  | closeFinalizing kind success =>
    rw [htask] at hc
    exact h.send (fun hu => absurd hu hc) nofun nofun
  | deactivating => exact Inv.goto ⟨h.reachable, fun hu => nomatch hu.1⟩ nofun
  | completing => exact Inv.goto ⟨h.reachable, h.stoppable⟩ nofun
  | stopping quit =>
    dsimp only
    split
    · exact h.goto nofun
    next hfinalizing =>
      split
      · exact h.goto nofun
      next hacquiring =>
        -- nothing to stop: the run is over, so the session has been told to stop
        refine Inv.goto_of_stopped h.reachable fun hu => ?_
        exact (h.stoppable hu).1.elim hacquiring hfinalizing
  | stopSending quit =>
    rw [htask] at hc
    refine h.stopSending ?_
    rintro rfl
    exact hc
  | stopRequesting quit => exact Inv.goto_of_stopped h.reachable fun hu => nomatch hu.2
  | quitting =>
    exact h.send (fun _ => by rintro (h | h | h) <;> cases h) nofun nofun

theorem Inv.step (h : Inv s) (a : SessionAction) (hc : s.Orderly a) : Inv (s.step a) := by
  cases a with
  | command t command =>
    show Inv (if s.tasks t = .idle then s.goto t command.task else s)
    split
    · cases command <;> exact h.goto nofun
    · exact h
  | advance t now owner ending => exact h.advance hc
  | server op =>
    show Inv (if op.elsewhere then { s with server := s.server.step op } else s)
    split
    · exact h.server hc
    · exact h
  | clientsLost => exact ⟨h.reachable, fun hu => nomatch hu.2⟩

/-! ## Runs -/

/-- In a run of orderly steps, an active session is one that can be stopped, or has been told to. -/
theorem agrees_along {mode : String} {as : List SessionAction}
    (h : Meets step Orderly { server := .init mode } as) (pre : List SessionAction)
    (hpre : pre <+: as) : Agrees (run step { server := .init mode } pre) :=
  (run_invariant_along (fun _ a hs hc => hs.step a hc) (inv_init mode) h hpre).agrees

/-- A server that is ready. -/
def readyOps : List SessionAction := (ServerState.acquiringOps.take 6).map .server

/-- An acquisition is started in thread 0, and its session runs in thread 1. -/
def startOps : List SessionAction :=
  [.command 0 (.start .acquisition (.ids [.bytes [65]])), .advance 0 0 none .raised,
    .advance 0 0 none .raised, .advance 0 0 none .raised, .advance 0 0 none .raised,
    .advance 0 0 (some 1) .raised]

/-- A quit sends its event, and calls `stop`. -/
def quitOps : List SessionAction :=
  [.command 0 .quit, .advance 0 0 none .raised, .advance 0 0 none .raised,
    .advance 0 0 none .raised]

/-- The threads that an action can move. -/
def threadsOf : SessionAction → List Nat
  | .command t _ => [t]
  | .advance t _ owner _ => t :: owner.toList
  | .server _ | .clientsLost => []

theorem tasks_goto_of_ne {u : Nat} (hu : u ≠ t) (task : SessionTask) :
    (s.goto t task).tasks u = s.tasks u := by
  show Function.update s.tasks t task u = s.tasks u
  rw [Function.update_of_ne hu]

theorem tasks_send_of_ne {u : Nat} (hu : u ≠ t) (c : EventCall) (accepted rejected : SessionTask) :
    (s.send t c accepted rejected).tasks u = s.tasks u := by
  rw [send_eq]
  exact tasks_goto_of_ne hu _

/-- The other threads stay where they are. -/
theorem tasks_step_of_notMem {a : SessionAction} {u : Nat} (hu : u ∉ threadsOf a) :
    (s.step a).tasks u = s.tasks u := by
  cases a with
  | clientsLost => rfl
  | server op =>
    show (if op.elsewhere then { s with server := s.server.step op } else s).tasks u = s.tasks u
    split <;> rfl
  | command t command =>
    show (if s.tasks t = .idle then s.goto t command.task else s).tasks u = s.tasks u
    split
    · exact tasks_goto_of_ne (List.ne_of_not_mem_cons hu) _
    · rfl
  | advance t now owner ending =>
    have ht : u ≠ t := List.ne_of_not_mem_cons hu
    have howner : ∀ o, owner = some o → u ≠ o := by
      rintro o rfl rfl
      exact hu (by simp [threadsOf])
    show (s.advance t now owner ending).tasks u = s.tasks u
    unfold SessionControl.advance
    cases s.tasks t with
    | idle | quit => rfl
    | starting | elapsed | scanStopping | closeStopping | closeFinalizing | stopSending
    | quitting =>
      dsimp only
      exact tasks_send_of_ne ht _ _ _
    | activating | reopening | clearing | deactivating | completing | stopRequesting =>
      dsimp only
      rw [tasks_goto_of_ne ht]
    | scanEnded | closing | closeReading =>
      dsimp only
      split <;> exact tasks_goto_of_ne ht _
    | stopping quit =>
      dsimp only
      split
      · exact tasks_goto_of_ne ht _
      · split <;> exact tasks_goto_of_ne ht _
    | running kind =>
      show (s.advanceRunning t kind ending).tasks u = s.tasks u
      unfold advanceRunning
      split <;> split <;> first | exact tasks_goto_of_ne ht _ | rfl
    | launching kind =>
      show (s.advanceLaunching t kind owner).tasks u = s.tasks u
      unfold advanceLaunching
      split
      next o =>
        split
        · exact (tasks_goto_of_ne (howner o rfl) _).trans (tasks_goto_of_ne ht _)
        · rfl
      · split <;> exact tasks_goto_of_ne ht _

theorem tasks_run_of_notMem {as : List SessionAction} {u : Nat}
    (hu : ∀ a ∈ as, u ∉ threadsOf a) : (run step s as).tasks u = s.tasks u := by
  induction as generalizing s with
  | nil => rfl
  | cons a as ih =>
    exact (ih fun b hb => hu b (List.mem_cons_of_mem a hb)).trans
      (tasks_step_of_notMem (hu a List.mem_cons_self))

/-- Where only thread 0 has moved, the server acquires, and thread 0 is not a quit. -/
theorem stoppable_of_run (as : List SessionAction) (hthreads : ∀ a ∈ as, ∀ u ∈ threadsOf a, u = 0)
    (hrun : (run step { server := .init "test" } as).server.runState = .acquiring)
    (hquit : (run step { server := .init "test" } as).tasks 0 ≠ .quit) :
    (run step { server := .init "test" } as).Stoppable := by
  refine ⟨.inl hrun, fun u => ?_⟩
  by_cases hu : u = 0
  · rw [hu]
    exact hquit
  · rw [tasks_run_of_notMem fun a ha hmem => hu (hthreads a ha u hmem)]
    exact nofun

/-- A session that is started, and stopped by a quit. -/
theorem agrees_along_quit :
    Agrees (run step { server := .init "test" } (readyOps ++ startOps ++ quitOps)) := by
  have hready : Meets step Orderly { server := .init "test" } readyOps := by
    refine ⟨?_, ?_, ?_, ?_, ?_, ?_, trivial⟩ <;>
    exact fun hu => absurd hu.1 (by decide +kernel)
  refine agrees_along ?_ _ List.prefix_rfl
  rw [meets_append, meets_append]
  have hbegun := stoppable_of_run (readyOps ++ startOps.take 2) (by decide) (by decide +kernel)
    (by decide +kernel)
  have hopened := stoppable_of_run (readyOps ++ startOps.take 4) (by decide) (by decide +kernel)
    (by decide +kernel)
  rw [run_append] at hbegun hopened
  exact ⟨⟨hready, trivial, trivial, fun _ => hbegun, trivial, fun _ => hopened, trivial, trivial⟩,
    trivial, trivial, trivial, trivial, trivial⟩

/-- A command fails with an exception while a session is active. -/
def failOps : List SessionAction :=
  readyOps ++ startOps ++ [.server (.processEvent
    { event := some .fatalError, reason := some "Unhandled exception during command execution"
      source := some "command_dispatch" })]

/-- The server is then in `ERROR`, and the quit that follows stops nothing. -/
theorem session_unstoppable :
    ¬Agrees (run step { server := .init "test" } failOps) ∧
      ¬Agrees (run step { server := .init "test" } (failOps ++ quitOps)) := by
  have hfailed : (run step { server := .init "test" } failOps).sessionActive = true ∧
      (run step { server := .init "test" } failOps).stopRequested = false ∧
      (run step { server := .init "test" } failOps).server.runState = .error := by
    decide +kernel
  have hquit : (run step { server := .init "test" } (failOps ++ quitOps)).tasks 0 = .quit ∧
      (run step { server := .init "test" } (failOps ++ quitOps)).sessionActive = true ∧
      (run step { server := .init "test" } (failOps ++ quitOps)).stopRequested = false := by
    decide +kernel
  obtain ⟨hactive, hstop, hstate⟩ := hfailed
  obtain ⟨htask, hactive', hstop'⟩ := hquit
  constructor
  · intro h
    rcases h.running hactive with hrun | hrun | hrun
    · exact absurd (hstate.symm.trans hrun) (by decide)
    · exact absurd (hstate.symm.trans hrun) (by decide)
    · exact absurd (hstop.symm.trans hrun) (by decide)
  · intro h
    exact absurd (hstop'.symm.trans (h.quit 0 htask hactive')) (by decide)

end SessionControl

end MultiDAQ.Server
