import MultiDAQ.Server.StreamReconciliation

/-!
# The requests of a reconciliation

A request is served by a pass that begins after it and ends. A worker serves every request made so
far if it is to begin a pass, if it has begun one after the last request, or if it finds its client
marked when the pass ends. Every worker is in one of these cases until a pass raises: the mark is
then discarded with the client.
-/

namespace MultiDAQ.Server.StreamReconciliation

open MultiDAQ.Lib

variable {s : StreamReconciliation}

/-! ## Requests and passes -/

/-- What the code does not keep: the requests that were made, and those that the passes follow. -/
structure PassLog where
  /-- How many requests have been made for a client. -/
  requests : ClientId → Nat := fun _ => 0
  /-- How many of them had been made when the pass of this worker began. -/
  since : Nat → Nat := fun _ => 0
  /-- How many of them had been made when the last pass that has ended began. -/
  served : ClientId → Nat := fun _ => 0

namespace PassLog

variable (log : PassLog)

def request (clientId : ClientId) : PassLog :=
  { log with requests := Function.update log.requests clientId (log.requests clientId + 1) }

def beginPass (clientId : ClientId) (worker : Nat) : PassLog :=
  { log with since := Function.update log.since worker (log.requests clientId) }

def endPass (clientId : ClientId) (worker : Nat) : PassLog :=
  { log with served := Function.update log.served clientId (log.since worker) }

section Fields

variable (clientId c : ClientId) (worker w : Nat)

@[simp] theorem requests_request : (log.request clientId).requests c =
    if c = clientId then log.requests clientId + 1 else log.requests c := Function.update_apply ..

@[simp] theorem since_request : (log.request clientId).since = log.since := rfl
@[simp] theorem served_request : (log.request clientId).served = log.served := rfl

@[simp] theorem since_beginPass : (log.beginPass clientId worker).since w =
    if w = worker then log.requests clientId else log.since w := Function.update_apply ..

@[simp] theorem requests_beginPass : (log.beginPass clientId worker).requests = log.requests := rfl
@[simp] theorem served_beginPass : (log.beginPass clientId worker).served = log.served := rfl

@[simp] theorem served_endPass : (log.endPass clientId worker).served c =
    if c = clientId then log.since worker else log.served c := Function.update_apply ..

@[simp] theorem requests_endPass : (log.endPass clientId worker).requests = log.requests := rfl
@[simp] theorem since_endPass : (log.endPass clientId worker).since = log.since := rfl

end Fields

/-- The pass that a worker begins, or ends, when it goes on to `after`. -/
def noteTask (worker : Nat) (before after : ReconcileTask) : PassLog :=
  match before, after with
  | .launched clientId, _ => log.beginPass clientId worker
  | _, .passed clientId _ => log.endPass clientId worker
  | _, _ => log

end PassLog

/-- No worker is made from a thread that is not idle. -/
def refuses (s : StreamReconciliation) (clientId : ClientId) : Option Nat → Bool
  | none => false
  | some worker => !s.running clientId && decide (s.tasks worker ≠ .idle)

/-- What an action adds to the log. -/
def note (s : StreamReconciliation) (log : PassLog) : ReconcileAction → PassLog
  | .request clientId worker => if s.refuses clientId worker then log else log.request clientId
  | .advance worker connected reply =>
    log.noteTask worker (s.tasks worker) ((s.advance worker connected reply).tasks worker)

def watch (x : StreamReconciliation × PassLog) (a : ReconcileAction) :
    StreamReconciliation × PassLog :=
  (x.1.step a, x.1.note x.2 a)

/-! ## The step of a worker -/

section Fields

variable (worker w : Nat) (clientId c : ClientId) (task : ReconcileTask) (value : Bool)

@[simp] theorem tasks_goto :
    (s.goto worker task).tasks w = if w = worker then task else s.tasks w :=
  Function.update_apply ..

@[simp] theorem running_goto : (s.goto worker task).running = s.running := rfl
@[simp] theorem again_goto : (s.goto worker task).again = s.again := rfl
@[simp] theorem tasks_setRunning : (s.setRunning clientId value).tasks = s.tasks := rfl
@[simp] theorem again_setRunning : (s.setRunning clientId value).again = s.again := rfl
@[simp] theorem tasks_setAgain : (s.setAgain clientId value).tasks = s.tasks := rfl
@[simp] theorem running_setAgain : (s.setAgain clientId value).running = s.running := rfl

@[simp] theorem running_setRunning :
    (s.setRunning clientId value).running c = if c = clientId then value else s.running c :=
  Function.update_apply ..

@[simp] theorem again_setAgain :
    (s.setAgain clientId value).again c = if c = clientId then value else s.again c :=
  Function.update_apply ..

end Fields

/-- A pass for this client has begun, and has not ended. -/
def Underway (clientId : ClientId) : ReconcileTask → Prop
  | .attempting client _ | .reconciling client _ => client = clientId
  | _ => False

theorem Underway.client {clientId : ClientId} {task : ReconcileTask} (h : Underway clientId task) :
    task.client = some clientId := by
  cases task with
  | attempting | reconciling => exact congrArg some h
  | _ => exact h.elim

/-- What a worker does next for its client. -/
inductive WorkerStep (worker : Nat) (clientId : ClientId) (s : StreamReconciliation)
    (log : PassLog) (reply : StreamOutcome) : StreamReconciliation × PassLog → Prop
  | begins : s.tasks worker = .launched clientId →
    WorkerStep worker clientId s log reply
      (s.goto worker (.attempting clientId 1), log.beginPass clientId worker)
  | continues {task : ReconcileTask} : Underway clientId (s.tasks worker) →
    Underway clientId task → WorkerStep worker clientId s log reply (s.goto worker task, log)
  | ends (success : Bool) : Underway clientId (s.tasks worker) →
    WorkerStep worker clientId s log reply
      (s.goto worker (.passed clientId success), log.endPass clientId worker)
  | raises {attempt : Nat} : s.tasks worker = .reconciling clientId attempt → reply = .raised →
    WorkerStep worker clientId s log reply (s.goto worker (.crashed clientId), log)
  | repeats {success : Bool} : s.tasks worker = .passed clientId success →
    s.again clientId = true →
    WorkerStep worker clientId s log reply
      ((s.setAgain clientId false).goto worker (.launched clientId), log)
  | leaves {success : Bool} : s.tasks worker = .passed clientId success →
    s.again clientId = false →
    WorkerStep worker clientId s log reply
      ((s.setRunning clientId false).goto worker (.reporting clientId success), log)
  | givesUp : s.tasks worker = .crashed clientId →
    WorkerStep worker clientId s log reply
      (((s.setRunning clientId false).setAgain clientId false).goto worker
        (.reporting clientId false), log)

theorem watch_advance {worker : Nat} {clientId : ClientId} (log : PassLog)
    (h : (s.tasks worker).client = some clientId) (connected : Bool) (reply : StreamOutcome) :
    WorkerStep worker clientId s log reply (watch (s, log) (.advance worker connected reply)) := by
  show WorkerStep worker clientId s log reply
    (s.advance worker connected reply, log.noteTask worker (s.tasks worker) _)
  unfold advance
  cases ht : s.tasks worker with
  | idle | reporting => rw [ht] at h; cases h
  | launched client =>
    rw [ht] at h
    cases h
    exact .begins ht
  | attempting client attempt =>
    rw [ht] at h
    cases h
    have hunder : Underway clientId (s.tasks worker) := by rw [ht]; rfl
    dsimp only
    split
    · rw [tasks_goto, if_pos rfl]
      exact .continues hunder rfl
    · rw [tasks_goto, if_pos rfl]
      exact .ends false hunder
  | reconciling client attempt =>
    rw [ht] at h
    cases h
    have hunder : Underway clientId (s.tasks worker) := by rw [ht]; rfl
    cases reply with
    | success =>
      dsimp only
      rw [tasks_goto, if_pos rfl]
      exact .ends true hunder
    | failure =>
      dsimp only
      split
      · rw [tasks_goto, if_pos rfl]
        exact .continues hunder rfl
      · rw [tasks_goto, if_pos rfl]
        exact .ends false hunder
    | raised =>
      dsimp only
      rw [tasks_goto, if_pos rfl]
      exact .raises ht rfl
  | passed client success =>
    rw [ht] at h
    cases h
    dsimp only
    split
    · next hagain =>
      rw [tasks_goto, if_pos rfl]
      exact .repeats ht hagain
    · next hagain =>
      rw [tasks_goto, if_pos rfl]
      exact .leaves ht (Bool.eq_false_iff.2 hagain)
  | crashed client =>
    rw [ht] at h
    cases h
    dsimp only
    rw [tasks_goto, if_pos rfl]
    exact .givesUp ht

section WorkerStep

variable {log : PassLog} {worker : Nat} {clientId : ClientId} {reply : StreamOutcome}
  {x : StreamReconciliation × PassLog}

theorem WorkerStep.client (h : WorkerStep worker clientId s log reply x) :
    (s.tasks worker).client = some clientId := by
  cases h with
  | begins ht | raises ht | repeats ht | leaves ht | givesUp ht => rw [ht]; rfl
  | continues ht | ends _ ht => exact ht.client

/-- Only what belongs to this worker and its client changes. -/
structure StepsFor (worker : Nat) (clientId : ClientId) (s : StreamReconciliation) (log : PassLog)
    (x : StreamReconciliation × PassLog) : Prop where
  tasks : ∀ w, w ≠ worker → x.1.tasks w = s.tasks w
  /-- The worker gives up its client, or keeps it. -/
  client : ∀ c, (x.1.tasks worker).client = some c →
    clientId = c ∧ x.1.running clientId = s.running clientId
  running : ∀ c, c ≠ clientId → x.1.running c = s.running c
  again : ∀ c, c ≠ clientId → x.1.again c = s.again c
  requests : x.2.requests = log.requests
  since : ∀ w, w ≠ worker → x.2.since w = log.since w
  served : ∀ c, c ≠ clientId → x.2.served c = log.served c

theorem WorkerStep.stepsFor (h : WorkerStep worker clientId s log reply x) :
    StepsFor worker clientId s log x := by
  cases h with
  | begins ht | raises ht | repeats ht | leaves ht | givesUp ht | ends b ht =>
    constructor <;> simp +contextual [ReconcileTask.client]
  | continues ht ht' => constructor <;> simp +contextual [ht'.client]

end WorkerStep

/-! ## The invariant -/

variable {log : PassLog}

structure Inv (s : StreamReconciliation) (log : PassLog) : Prop where
  running : ∀ worker clientId, (s.tasks worker).client = some clientId →
    s.running clientId = true
  one : ∀ worker worker' clientId, (s.tasks worker).client = some clientId →
    (s.tasks worker').client = some clientId → worker = worker'
  /-- A request that comes while a pass is underway marks its client. -/
  fresh : ∀ worker clientId, Underway clientId (s.tasks worker) →
    log.since worker = log.requests clientId ∨ s.again clientId = true

/-- The worker is to begin a pass for its client, or has begun it after the last request, or is to
begin another one. -/
def Owes (s : StreamReconciliation) (worker : Nat) (clientId : ClientId) : Prop :=
  s.tasks worker = .launched clientId ∨ Underway clientId (s.tasks worker) ∨
    ∃ success, s.tasks worker = .passed clientId success ∧ s.again clientId = true

theorem inv_init : Inv {} {} where
  running _ _ h := by cases h
  one _ _ _ h := by cases h
  fresh _ _ h := h.elim

section WorkerStep

variable {worker : Nat} {clientId : ClientId} {reply : StreamOutcome}
  {x : StreamReconciliation × PassLog}

/-- The client of another worker is another one. -/
theorem Inv.client_ne (h : Inv s log) (hstep : WorkerStep worker clientId s log reply x) {w : Nat}
    (hw : w ≠ worker) {c : ClientId} (hc : (s.tasks w).client = some c) : c ≠ clientId := by
  rintro rfl
  exact hw (h.one w worker c hc hstep.client)

theorem Inv.workerStep (h : Inv s log) (hstep : WorkerStep worker clientId s log reply x) :
    Inv x.1 x.2 where
  running w c hc := by
    by_cases hw : w = worker
    · subst hw
      obtain ⟨rfl, hrunning⟩ := hstep.stepsFor.client c hc
      rw [hrunning]
      exact h.running w clientId hstep.client
    · rw [hstep.stepsFor.tasks w hw] at hc
      rw [hstep.stepsFor.running c (h.client_ne hstep hw hc)]
      exact h.running w c hc
  one w w' c hc hc' := by
    by_cases hw : w = worker
    · by_cases hw' : w' = worker
      · rw [hw, hw']
      · subst hw
        rw [hstep.stepsFor.tasks w' hw'] at hc'
        exact absurd (hstep.stepsFor.client c hc).1.symm (h.client_ne hstep hw' hc')
    · rw [hstep.stepsFor.tasks w hw] at hc
      by_cases hw' : w' = worker
      · subst hw'
        exact absurd (hstep.stepsFor.client c hc').1.symm (h.client_ne hstep hw hc)
      · rw [hstep.stepsFor.tasks w' hw'] at hc'
        exact h.one w w' c hc hc'
  fresh w c hc := by
    rw [hstep.stepsFor.requests]
    by_cases hw : w = worker
    · subst hw
      obtain ⟨rfl, _⟩ := hstep.stepsFor.client c hc.client
      cases hstep with
      | begins => exact .inl (by simp)
      | continues ht => exact h.fresh w clientId ht
      | ends | raises | repeats | leaves | givesUp => simp [Underway] at hc
    · rw [hstep.stepsFor.tasks w hw] at hc
      rw [hstep.stepsFor.since w hw, hstep.stepsFor.again c (h.client_ne hstep hw hc.client)]
      exact h.fresh w c hc

end WorkerStep

/-- A worker without a client changes nothing. -/
theorem watch_of_client_none {worker : Nat} (h : (s.tasks worker).client = none)
    (connected : Bool) (reply : StreamOutcome) :
    watch (s, log) (.advance worker connected reply) = (s.goto worker .idle, log) := by
  show (s.advance worker connected reply, log.noteTask worker (s.tasks worker) _) = _
  unfold advance
  cases ht : s.tasks worker with
  | idle =>
    have hgoto : s.goto worker .idle = s := by
      unfold goto
      rw [← ht, Function.update_eq_self]
    dsimp only
    rw [hgoto, ht]
    rfl
  | reporting =>
    dsimp only
    rw [tasks_goto, if_pos rfl]
    rfl
  | launched | attempting | reconciling | passed | crashed => rw [ht] at h; cases h

/-- What a request does. -/
inductive RequestStep (clientId : ClientId) (worker : Option Nat) (s : StreamReconciliation)
    (log : PassLog) : StreamReconciliation × PassLog → Prop
  | marks : s.running clientId = true →
    RequestStep clientId worker s log (s.setAgain clientId true, log.request clientId)
  | fails : s.running clientId = false → worker = none →
    RequestStep clientId worker s log (s.setRunning clientId true, log.request clientId)
  | launches {w : Nat} : s.running clientId = false → worker = some w → s.tasks w = .idle →
    RequestStep clientId worker s log
      ((s.setRunning clientId true).goto w (.launched clientId), log.request clientId)
  | refused : RequestStep clientId worker s log (s, log)

theorem watch_request (s : StreamReconciliation) (log : PassLog) (clientId : ClientId)
    (worker : Option Nat) :
    RequestStep clientId worker s log (watch (s, log) (.request clientId worker)) := by
  show RequestStep clientId worker s log (s.request clientId worker,
    if s.refuses clientId worker then log else log.request clientId)
  unfold request
  split
  · next hrunning =>
    rw [if_neg (by cases worker <;> simp [refuses, hrunning])]
    exact .marks hrunning
  · next hrunning =>
    rw [Bool.not_eq_true] at hrunning
    cases worker with
    | none => exact .fails hrunning rfl
    | some w =>
      dsimp only
      split
      · next hidle =>
        rw [if_neg (by simp [refuses, hidle])]
        exact .launches hrunning rfl hidle
      · next hbusy =>
        rw [if_pos (by simp [refuses, hrunning, hbusy])]
        exact .refused

theorem Inv.requestStep (h : Inv s log) {clientId : ClientId} {worker : Option Nat}
    {x : StreamReconciliation × PassLog} (hstep : RequestStep clientId worker s log x) :
    Inv x.1 x.2 := by
  cases hstep with
  | refused => exact h
  | marks hrunning =>
    refine ⟨h.running, h.one, fun w c hc => ?_⟩
    simp only [tasks_setAgain] at hc
    simp only [PassLog.since_request, PassLog.requests_request, again_setAgain]
    split
    · exact .inr rfl
    · exact h.fresh w c hc
  | fails hrunning =>
    refine ⟨fun w c hc => ?_, h.one, fun w c hc => ?_⟩
    · simp only [running_setRunning]
      split
      · rfl
      · exact h.running w c hc
    · have hne : c ≠ clientId := by
        rintro rfl
        exact absurd (h.running w c hc.client) (by simp [hrunning])
      simp only [PassLog.since_request, PassLog.requests_request, again_setRunning, if_neg hne]
      exact h.fresh w c hc
  | @launches v hrunning _ hidle =>
    have hne {w : Nat} {c : ClientId} (hc : (s.tasks w).client = some c) : c ≠ clientId := by
      rintro rfl
      exact absurd (h.running w c hc) (by simp [hrunning])
    refine ⟨fun w c hc => ?_, fun w w' c hc hc' => ?_, fun w c hc => ?_⟩
    · simp only [tasks_goto, tasks_setRunning] at hc
      simp only [running_goto, running_setRunning]
      split
      · rfl
      · split at hc
        · cases hc
          contradiction
        · exact h.running w c hc
    · simp only [tasks_goto, tasks_setRunning] at hc hc'
      split at hc <;> split at hc'
      · next hw hw' => rw [hw, hw']
      · cases hc
        exact absurd rfl (hne hc')
      · cases hc'
        exact absurd rfl (hne hc)
      · exact h.one w w' c hc hc'
    · simp only [tasks_goto, tasks_setRunning] at hc
      split at hc
      · exact hc.elim
      · simp only [PassLog.since_request, PassLog.requests_request, if_neg (hne hc.client)]
        exact h.fresh w c hc

/-! ## Every request is served -/

/-- No pass raises, and the thread of a worker can be made. -/
def Orderly (s : StreamReconciliation) : ReconcileAction → Prop
  | .request clientId none => s.running clientId = true
  | .request _ (some _) => True
  | .advance worker _ reply =>
    reply = .raised → ∀ clientId attempt, s.tasks worker ≠ .reconciling clientId attempt

/-- Every request so far is followed by a pass that has ended, or a worker owes it one. -/
structure Kept (s : StreamReconciliation) (log : PassLog) : Prop where
  staffed : ∀ clientId, s.running clientId = true →
    ∃ worker, (s.tasks worker).client = some clientId
  owed : ∀ clientId, log.served clientId = log.requests clientId ∨
    ∃ worker, Owes s worker clientId
  alive : ∀ worker clientId, s.tasks worker ≠ .crashed clientId

theorem kept_init : Kept {} {} where
  staffed _ h := by cases h
  alive _ _ h := by cases h
  owed _ := .inl rfl

theorem Owes.client {worker : Nat} {clientId : ClientId} (h : Owes s worker clientId) :
    (s.tasks worker).client = some clientId := by
  rcases h with h | h | ⟨success, h, _⟩
  · rw [h]; rfl
  · exact h.client
  · rw [h]; rfl

/-- A worker owes the same where its task and the mark of its client stay. -/
theorem Owes.congr {s' : StreamReconciliation} {worker : Nat} {clientId : ClientId}
    (h : Owes s worker clientId) (htask : s'.tasks worker = s.tasks worker)
    (hagain : s'.again clientId = s.again clientId) : Owes s' worker clientId := by
  unfold Owes at h ⊢
  rwa [htask, hagain]

/-- A worker that has a client owes it a pass, unless its pass has ended, or raised. -/
theorem owes_of_marked {worker : Nat} {clientId : ClientId}
    (hclient : (s.tasks worker).client = some clientId) (hagain : s.again clientId = true)
    (hcrashed : s.tasks worker ≠ .crashed clientId) : Owes s worker clientId := by
  unfold Owes
  cases ht : s.tasks worker with
  | idle | reporting => rw [ht] at hclient; cases hclient
  | launched => rw [ht] at hclient; cases hclient; exact .inl rfl
  | attempting | reconciling => rw [ht] at hclient; cases hclient; exact .inr (.inl rfl)
  | passed => rw [ht] at hclient; cases hclient; exact .inr (.inr ⟨_, rfl, hagain⟩)
  | crashed => rw [ht] at hclient; cases hclient; exact absurd ht hcrashed

section WorkerStep

variable {worker : Nat} {clientId : ClientId} {reply : StreamOutcome}
  {x : StreamReconciliation × PassLog}

/-- What a step of a worker leaves to its own client. -/
theorem Kept.own_client (h : Kept s log) (hinv : Inv s log)
    (hstep : WorkerStep worker clientId s log reply x)
    (horderly : reply = .raised → ∀ c attempt, s.tasks worker ≠ .reconciling c attempt) :
    (x.2.served clientId = x.2.requests clientId ∧ x.1.running clientId = false) ∨
      (x.1.tasks worker).client = some clientId ∧
        (x.2.served clientId = x.2.requests clientId ∨ Owes x.1 worker clientId) ∧
        x.1.tasks worker ≠ .crashed clientId := by
  cases hstep with
  | begins ht => exact .inr (by simp [ReconcileTask.client, Owes, Underway])
  | @continues task ht ht' =>
    have hne : task ≠ .crashed clientId := by rintro rfl; exact ht'
    exact .inr (by simp [ht'.client, Owes, ht', hne])
  | ends success ht =>
    refine .inr ⟨by simp [ReconcileTask.client], ?_, by simp⟩
    rcases hinv.fresh worker clientId ht with hsince | hagain
    · exact .inl (by simp [hsince])
    · exact .inr (.inr (.inr ⟨success, by simp, hagain⟩))
  | raises ht hraised => exact absurd ht (horderly hraised _ _)
  | repeats ht hagain => exact .inr (by simp [ReconcileTask.client, Owes])
  | leaves ht hagain =>
    refine .inl ⟨?_, by simp⟩
    rcases h.owed clientId with hserved | ⟨w, howes⟩
    · exact hserved
    · -- no other worker has this client, and this one owes it nothing
      obtain rfl := hinv.one w worker clientId howes.client (by rw [ht]; rfl)
      simp [Owes, ht, hagain, Underway] at howes
  | givesUp ht => exact absurd ht (h.alive worker clientId)

theorem Kept.workerStep (h : Kept s log) (hinv : Inv s log)
    (hstep : WorkerStep worker clientId s log reply x)
    (horderly : reply = .raised → ∀ c attempt, s.tasks worker ≠ .reconciling c attempt) :
    Kept x.1 x.2 := by
  have hframe := hstep.stepsFor
  have hown := h.own_client hinv hstep horderly
  refine ⟨fun c hc => ?_, fun c => ?_, fun w c hw => ?_⟩
  · by_cases hcc : c = clientId
    · subst hcc
      rcases hown with ⟨_, hrunning⟩ | ⟨hclient, _⟩
      · rw [hrunning] at hc
        cases hc
      · exact ⟨worker, hclient⟩
    · rw [hframe.running c hcc] at hc
      obtain ⟨w, hw⟩ := h.staffed c hc
      have hne : w ≠ worker := by
        rintro rfl
        rw [hstep.client] at hw
        exact hcc (Option.some.inj hw).symm
      exact ⟨w, by rw [hframe.tasks w hne, hw]⟩
  · by_cases hcc : c = clientId
    · subst hcc
      rcases hown with ⟨hserved, _⟩ | ⟨_, hserved | howes, _⟩
      · exact .inl hserved
      · exact .inl hserved
      · exact .inr ⟨worker, howes⟩
    · rw [hframe.served c hcc, hframe.requests]
      rcases h.owed c with hserved | ⟨w, howes⟩
      · exact .inl hserved
      · have hne : w ≠ worker := by
          rintro rfl
          have hclient := howes.client
          rw [hstep.client] at hclient
          exact hcc (Option.some.inj hclient).symm
        exact .inr ⟨w, howes.congr (hframe.tasks w hne) (hframe.again c hcc)⟩
  · by_cases hne : w = worker
    · subst hne
      obtain ⟨rfl, _⟩ := hframe.client c (by rw [hw]; rfl)
      rcases hown with ⟨_, hrunning⟩ | ⟨_, _, hcrashed⟩
      · have := (hinv.workerStep hstep).running w clientId (by rw [hw]; rfl)
        rw [hrunning] at this
        cases this
      · exact hcrashed hw
    · rw [hframe.tasks w hne] at hw
      exact h.alive w c hw

end WorkerStep

theorem Kept.requestStep (h : Kept s log) {clientId : ClientId} {worker : Option Nat}
    {x : StreamReconciliation × PassLog} (hstep : RequestStep clientId worker s log x)
    (horderly : worker = none → s.running clientId = true) : Kept x.1 x.2 := by
  cases hstep with
  | refused => exact h
  | fails hrunning hnone => exact absurd (horderly hnone) (by simp [hrunning])
  | marks hrunning =>
    refine ⟨h.staffed, fun c => ?_, h.alive⟩
    by_cases hcc : c = clientId
    · subst hcc
      -- the worker of the client finds it marked
      obtain ⟨w, hw⟩ := h.staffed c hrunning
      refine .inr ⟨w, owes_of_marked ?_ ?_ ?_⟩
      · exact hw
      · simp
      · exact h.alive w c
    · rcases h.owed c with hserved | ⟨w, howes⟩
      · exact .inl (by simpa [hcc] using hserved)
      · exact .inr ⟨w, howes.congr rfl (by simp [hcc])⟩
  | @launches v hrunning _ hidle =>
    have hne {w : Nat} {c : ClientId} (hc : (s.tasks w).client = some c) : w ≠ v := by
      rintro rfl
      rw [hidle] at hc
      cases hc
    refine ⟨fun c hc => ?_, fun c => ?_, fun w c hw => ?_⟩
    · by_cases hcc : c = clientId
      · subst hcc
        exact ⟨v, by simp [ReconcileTask.client]⟩
      · obtain ⟨w, hw⟩ := h.staffed c (by simpa [hcc] using hc)
        exact ⟨w, by simpa [hne hw] using hw⟩
    · by_cases hcc : c = clientId
      · subst hcc
        exact .inr ⟨v, .inl (by simp)⟩
      · rcases h.owed c with hserved | ⟨w, howes⟩
        · exact .inl (by simpa [hcc] using hserved)
        · exact .inr ⟨w, howes.congr (by simp [hne howes.client]) rfl⟩
    · simp only [tasks_goto, tasks_setRunning] at hw
      split at hw
      · cases hw
      · exact h.alive w c hw

theorem Inv.step (h : Inv s log) (a : ReconcileAction) :
    Inv (watch (s, log) a).1 (watch (s, log) a).2 := by
  cases a with
  | request clientId worker => exact h.requestStep (watch_request s log clientId worker)
  | advance worker connected reply =>
    cases hclient : (s.tasks worker).client with
    | some clientId => exact h.workerStep (watch_advance log hclient connected reply)
    | none =>
      rw [watch_of_client_none hclient]
      refine ⟨fun w c hc => ?_, fun w w' c hc hc' => ?_, fun w c hc => ?_⟩
      · simp only [tasks_goto] at hc
        split at hc
        · cases hc
        · exact h.running w c hc
      · simp only [tasks_goto] at hc hc'
        split at hc
        · cases hc
        · split at hc'
          · cases hc'
          · exact h.one w w' c hc hc'
      · simp only [tasks_goto] at hc
        split at hc
        · exact hc.elim
        · exact h.fresh w c hc

theorem Kept.step (h : Kept s log) (hinv : Inv s log) {a : ReconcileAction}
    (horderly : s.Orderly a) : Kept (watch (s, log) a).1 (watch (s, log) a).2 := by
  cases a with
  | request clientId worker =>
    refine h.requestStep (watch_request s log clientId worker) ?_
    rintro rfl
    exact horderly
  | advance worker connected reply =>
    cases hclient : (s.tasks worker).client with
    | some clientId => exact h.workerStep hinv (watch_advance log hclient connected reply) horderly
    | none =>
      rw [watch_of_client_none hclient]
      have hne {w : Nat} {c : ClientId} (hc : (s.tasks w).client = some c) : w ≠ worker := by
        rintro rfl
        rw [hclient] at hc
        cases hc
      refine ⟨fun c hc => ?_, fun c => ?_, fun w c hw => ?_⟩
      · obtain ⟨w, hw⟩ := h.staffed c hc
        exact ⟨w, by simpa [hne hw] using hw⟩
      · rcases h.owed c with hserved | ⟨w, howes⟩
        · exact .inl hserved
        · exact .inr ⟨w, howes.congr (by simp [hne howes.client]) rfl⟩
      · simp only [tasks_goto] at hw
        split at hw
        · cases hw
        · exact h.alive w c hw

/-! ## A worker comes to its end -/

/-- How many steps a worker takes at most until it leaves the lock with its pass ended. -/
def passWork : ReconcileTask → Nat
  | .idle | .reporting _ _ => 0
  | .passed _ _ | .crashed _ => 1
  | .reconciling _ attempt => 2 * (streamReconcileAttempts - attempt) + 2
  | .attempting _ attempt => 2 * (streamReconcileAttempts - attempt) + 3
  | .launched _ => 2 * streamReconcileAttempts + 2

/-- A pass more if the client is marked. -/
def markWork : Bool → Nat
  | true => 2 * streamReconcileAttempts + 2
  | false => 0

def work (s : StreamReconciliation) (worker : Nat) (clientId : ClientId) : Nat :=
  passWork (s.tasks worker) + markWork (s.again clientId)

theorem work_le (s : StreamReconciliation) (worker : Nat) (clientId : ClientId) :
    s.work worker clientId ≤ 4 * streamReconcileAttempts + 5 := by
  have hpass : passWork (s.tasks worker) ≤ 2 * streamReconcileAttempts + 3 := by
    unfold passWork
    split <;> omega
  unfold work
  cases s.again clientId with
  | true => simp only [markWork]; omega
  | false => simp only [markWork]; omega

theorem work_advance_lt {worker : Nat} {clientId : ClientId}
    (hclient : (s.tasks worker).client = some clientId) (connected : Bool)
    (reply : StreamOutcome) :
    (s.advance worker connected reply).work worker clientId < s.work worker clientId := by
  unfold work advance
  cases ht : s.tasks worker with
  | idle | reporting => rw [ht] at hclient; cases hclient
  | launched client =>
    simp only [tasks_goto, if_pos, again_goto, passWork]
    have hpos : 0 < streamReconcileAttempts := by decide
    omega
  | attempting client attempt =>
    dsimp only
    split
    · simp only [tasks_goto, if_pos, again_goto, passWork]
      omega
    · simp only [tasks_goto, if_pos, again_goto, passWork]
      omega
  | reconciling client attempt =>
    dsimp only
    split
    · simp only [tasks_goto, if_pos, again_goto, passWork]
      omega
    · split
      · simp only [tasks_goto, if_pos, again_goto, passWork]
        omega
      · simp only [tasks_goto, if_pos, again_goto, passWork]
        omega
    · simp only [tasks_goto, if_pos, again_goto, passWork]
      omega
  | passed client success =>
    rw [ht] at hclient
    cases hclient
    dsimp only
    split
    · next hagain =>
      simp only [tasks_goto, if_pos, again_goto, again_setAgain, passWork, hagain, markWork]
      omega
    · next hagain =>
      simp only [tasks_goto, if_pos, again_goto, again_setRunning, passWork]
      omega
  | crashed client =>
    rw [ht] at hclient
    cases hclient
    simp only [tasks_goto, if_pos, again_goto, again_setAgain, passWork, markWork]
    omega

section Alone

variable {worker : Nat} {clientId : ClientId}

/-- The steps of a worker that nobody interrupts. -/
def alone (worker : Nat) (answers : List (Bool × StreamOutcome)) : List ReconcileAction :=
  answers.map fun a => .advance worker a.1 a.2

theorem tasks_watch_of_ne {w : Nat} (hne : w ≠ worker) (x : StreamReconciliation × PassLog)
    (connected : Bool) (reply : StreamOutcome) :
    (watch x (.advance worker connected reply)).1.tasks w = x.1.tasks w := by
  cases hclient : (x.1.tasks worker).client with
  | some clientId => exact (watch_advance x.2 hclient connected reply).stepsFor.tasks w hne
  | none =>
    rw [watch_of_client_none hclient]
    simp [hne]

theorem tasks_alone_of_ne {w : Nat} (hne : w ≠ worker) (answers : List (Bool × StreamOutcome))
    (x : StreamReconciliation × PassLog) :
    (run watch x (alone worker answers)).1.tasks w = x.1.tasks w := by
  induction answers generalizing x with
  | nil => rfl
  | cons a answers ih => exact (ih _).trans (tasks_watch_of_ne hne x a.1 a.2)

theorem work_pos (h : (s.tasks worker).client = some clientId) (c : ClientId) :
    0 < s.work worker c := by
  unfold work passWork
  cases ht : s.tasks worker with
  | idle | reporting => rw [ht] at h; cases h
  | launched | attempting | reconciling | passed | crashed => dsimp only; omega

variable (worker) in
/-- A worker leaves its client after a bounded number of steps. -/
theorem client_alone (answers : List (Bool × StreamOutcome)) (x : StreamReconciliation × PassLog)
    (hwork : ∀ c, (x.1.tasks worker).client = some c → x.1.work worker c ≤ answers.length) :
    ((run watch x (alone worker answers)).1.tasks worker).client = none := by
  induction answers generalizing x with
  | nil =>
    cases hclient : (x.1.tasks worker).client with
    | none => exact hclient
    | some c => exact absurd (hwork c hclient) (by have := work_pos hclient c; simp; omega)
  | cons a answers ih =>
    refine ih (watch x (.advance worker a.1 a.2)) fun c hc => ?_
    cases hclient : (x.1.tasks worker).client with
    | none =>
      rw [watch_of_client_none hclient] at hc
      simp [ReconcileTask.client] at hc
    | some c' =>
      have hstep := watch_advance x.2 hclient a.1 a.2
      obtain ⟨rfl, _⟩ := hstep.stepsFor.client c hc
      have hlt := work_advance_lt hclient a.1 a.2
      have hle := hwork c' hclient
      simp only [List.length_cons] at hle
      exact Nat.le_of_lt_succ (Nat.lt_of_lt_of_le hlt hle)

/-- What an orderly run keeps. -/
theorem inv_kept_run {x : StreamReconciliation × PassLog} {as : List ReconcileAction}
    (hinv : Inv x.1 x.2) (hkept : Kept x.1 x.2)
    (h : Meets watch (fun x a => x.1.Orderly a) x as) :
    Inv (run watch x as).1 (run watch x as).2 ∧ Kept (run watch x as).1 (run watch x as).2 := by
  have hstep (x : StreamReconciliation × PassLog) (a : ReconcileAction)
      (h : Inv x.1 x.2 ∧ Kept x.1 x.2) (horderly : x.1.Orderly a) :
      Inv (watch x a).1 (watch x a).2 ∧ Kept (watch x a).1 (watch x a).2 :=
    ⟨h.1.step a, h.2.step h.1 horderly⟩
  exact run_invariant (I := fun x => Inv x.1 x.2 ∧ Kept x.1 x.2) hstep ⟨hinv, hkept⟩ h

/-- A worker whose passes do not raise serves every request made so far. -/
theorem served_alone (hinv : Inv s log) (hkept : Kept s log)
    (hclient : (s.tasks worker).client = some clientId) (answers : List (Bool × StreamOutcome))
    (hlength : 4 * streamReconcileAttempts + 5 ≤ answers.length)
    (hanswers : ∀ a ∈ answers, a.2 ≠ .raised) :
    (run watch (s, log) (alone worker answers)).2.served clientId =
      (run watch (s, log) (alone worker answers)).2.requests clientId := by
  have horderly : Meets watch (fun x a => x.1.Orderly a) (s, log) (alone worker answers) := by
    refine meets_iff_forall.2 fun pre a post heq => ?_
    have ha : a ∈ alone worker answers := by rw [heq]; simp
    obtain ⟨answer, hmem, rfl⟩ := List.mem_map.1 ha
    exact fun hraised => absurd hraised (hanswers answer hmem)
  obtain ⟨_, hkept'⟩ := inv_kept_run hinv hkept horderly
  have hleft := client_alone worker answers (s, log) fun c _ =>
    Nat.le_trans (work_le s worker c) hlength
  rcases hkept'.owed clientId with hserved | ⟨w, howes⟩
  · exact hserved
  · -- whoever owes the client a pass has had it from the start
    have hne : w ≠ worker := by
      rintro rfl
      have hclient' := howes.client
      rw [hleft] at hclient'
      cases hclient'
    have hclient' := howes.client
    rw [tasks_alone_of_ne hne] at hclient'
    exact absurd (hinv.one w worker clientId hclient' hclient) hne

end Alone

/-! ## The requests of a run -/

/-- At most one worker runs for a client. Every request is followed by a pass that begins after it
and ends, or a worker is to see to it; and this worker does so. -/
structure NoneLost (x : StreamReconciliation × PassLog) : Prop where
  one : ∀ worker worker' clientId, (x.1.tasks worker).client = some clientId →
    (x.1.tasks worker').client = some clientId → worker = worker'
  owed : ∀ clientId, x.2.served clientId = x.2.requests clientId ∨
    ∃ worker, Owes x.1 worker clientId
  served : ∀ worker clientId, (x.1.tasks worker).client = some clientId →
    ∀ answers : List (Bool × StreamOutcome), 4 * streamReconcileAttempts + 5 ≤ answers.length →
      (∀ a ∈ answers, a.2 ≠ .raised) →
      (run watch x (alone worker answers)).2.served clientId =
        (run watch x (alone worker answers)).2.requests clientId

/-- In a run in which no pass raises no request is lost. -/
theorem requests_not_lost {as : List ReconcileAction}
    (h : Meets watch (fun x a => x.1.Orderly a) ({}, {}) as) {pre : List ReconcileAction}
    (hpre : pre <+: as) : NoneLost (run watch ({}, {}) pre) := by
  obtain ⟨post, rfl⟩ := hpre
  obtain ⟨hinv, hkept⟩ := inv_kept_run inv_init kept_init ((meets_append _ pre post).1 h).1
  exact ⟨hinv.one, hkept.owed, fun _ _ hclient answers hlength hanswers =>
    served_alone hinv hkept hclient answers hlength hanswers⟩

/-- A client comes back, and restarts while its streams are gone through. -/
def restartOps (reply : StreamOutcome) : List ReconcileAction :=
  [.request [1] (some 0), .advance 0 true .success, .advance 0 true .success,
    .request [1] (some 1), .advance 0 true reply, .advance 0 true .success,
    .advance 0 true .success]

theorem requests_not_lost_restart :
    Meets watch (fun x a => x.1.Orderly a) ({}, {}) (restartOps .failure) ∧
      NoneLost (run watch ({}, {}) (restartOps .failure)) := by
  have horderly : Meets watch (fun x a => x.1.Orderly a) ({}, {}) (restartOps .failure) := by
    simp [restartOps, Meets, Orderly]
  exact ⟨horderly, requests_not_lost horderly (List.prefix_refl _)⟩

/-- The pass raises: the second request is never followed by another, and no worker is left. -/
theorem request_lost : ¬NoneLost (run watch ({}, {}) (restartOps .raised)) := by
  have hidle (worker : Nat) : (run watch ({}, {}) (restartOps .raised)).1.tasks worker = .idle := by
    match worker with
    | 0 => rfl
    | worker + 1 => rfl
  intro h
  rcases h.owed [1] with hserved | ⟨worker, howes⟩
  · exact absurd hserved (by decide)
  · have hclient := howes.client
    rw [hidle] at hclient
    cases hclient

end MultiDAQ.Server.StreamReconciliation
