import MultiDAQ.Client.EvService

/-!
# One event producer

`start` stores the process only after the startup check, and nothing keeps `stop` out meanwhile:
`stop` finds no process and returns `True`, and the process stays. In the runs in which no call of
`start` overlaps another call there is at most one process, the service or the running `start` holds
it, and `stop` leaves none (`one_producer`).
-/

namespace MultiDAQ.Client

open MultiDAQ.Lib

/-- A call of `start` that is running. -/
def EvCall.inStart : EvCall → Bool
  | .start _ | .running _ | .runningPid | .spawn _ _ | .check _ _ _ | .store _ _ _ | .started _ _
  | .failed _ _ | .loadModule _ => true
  | _ => false

/-- The process that a call of `start` checks and has not stored yet. -/
def EvCall.checked : EvCall → Option EvProcess
  | .check _ _ p | .store _ _ p => some p
  | _ => none

namespace EvService

/-- At most one process runs, the service remembers it or a call of `start` that goes on to store it
does, and it is not from a call of `start` that had begun when `stop` returned `True`. -/
structure OneProducer (s : EvService) : Prop where
  one : s.alive.length ≤ 1
  remembered : ∀ p ∈ s.alive, s.process = some p ∨ ∃ t, (s.calls t).checked = some p
  stopped : ∀ p ∈ s.alive, s.stopped ≤ p.call

/-- No call of `start` overlaps another call. -/
def Exclusive (s : EvService) : EvAction → Prop
  | .start thread _ => ∀ u, u ≠ thread → s.calls u = .idle
  | .stop thread => ∀ u, u ≠ thread → (s.calls u).inStart = false
  | _ => True

/-- The service remembers every process that runs. -/
def Remembered (s : EvService) : Prop := ∀ p ∈ s.alive, s.process = some p

/-- What holds while a thread is in a call. -/
def Fits (s : EvService) : EvCall → Prop
  | .start call | .running call => s.Remembered ∧ s.stopped ≤ call
  | .runningPid => s.Remembered
  | .spawn call _ | .failed call _ | .loadModule call => s.alive = [] ∧ s.stopped ≤ call
  | .check call _ p | .store call _ p => (∀ q ∈ s.alive, q = p) ∧ s.stopped ≤ call
  | .started _ _ => s.Remembered ∧ s.process.isSome
  | .reaping p | .waiting p | .waitingKilled p => s.alive = [] ∨ s.process = some p
  | .clear => s.alive = []
  | _ => True

structure Inv (s : EvService) : Prop where
  one : s.alive.length ≤ 1
  stopped : ∀ p ∈ s.alive, s.stopped ≤ p.call
  stoppedLe : s.stopped ≤ s.begun
  alone : ∀ t, (s.calls t).inStart = true → ∀ u, u ≠ t → s.calls u = .idle
  quiet : (∀ t, (s.calls t).inStart = false) → s.Remembered
  fits : ∀ t, s.Fits (s.calls t)

variable {s s' : EvService} {t u : EvThread} {c : EvCall}

/-- A step of a call of `start`: the other thread has nothing to do with the service. -/
theorem Inv.of_start (hidle : ∀ u, u ≠ t → s.calls u = .idle)
    (hcalls : s'.calls = Function.update s.calls t c) (hone : s'.alive.length ≤ 1)
    (hstopped : ∀ p ∈ s'.alive, s'.stopped ≤ p.call) (hle : s'.stopped ≤ s'.begun)
    (hquiet : c.inStart = false → s'.Remembered) (hfits : s'.Fits c) : s'.Inv where
  one := hone
  stopped := hstopped
  stoppedLe := hle
  alone v hv u hu := by
    rw [hcalls] at hv ⊢
    have hvt : v = t := by
      by_contra hne
      rw [Function.update_of_ne hne, hidle v hne] at hv
      cases hv
    rw [hvt] at hu
    rw [Function.update_of_ne hu, hidle u hu]
  quiet h := hquiet (by
    have ht := h t
    rwa [hcalls, Function.update_self] at ht)
  fits u := by
    rw [hcalls]
    by_cases hu : u = t
    · rwa [hu, Function.update_self]
    · rw [Function.update_of_ne hu, hidle u hu]
      trivial

/-- A step while no call of `start` runs. -/
theorem Inv.of_stop (h : s.Inv) (hnone : ∀ u, (s.calls u).inStart = false)
    (hcalls : s'.calls = Function.update s.calls t c) (hc : c.inStart = false)
    (halive : s'.alive = s.alive)
    (hprocess : s'.process = s.process ∨ s.alive = [])
    (hstopped : s'.stopped = s.stopped ∨ s.alive = [] ∧ s'.stopped = s.begun)
    (hbegun : s'.begun = s.begun) (hfits : s'.Fits c) : s'.Inv where
  one := halive ▸ h.one
  stopped p hp := by
    rw [halive] at hp
    rcases hstopped with heq | ⟨hnil, -⟩
    · rw [heq]
      exact h.stopped p hp
    · rw [hnil] at hp
      cases hp
  stoppedLe := by
    have := h.stoppedLe
    rcases hstopped with heq | ⟨-, heq⟩ <;> omega
  alone v hv := by
    rw [hcalls] at hv
    by_cases hvt : v = t
    · rw [hvt, Function.update_self, hc] at hv
      cases hv
    · rw [Function.update_of_ne hvt, hnone v] at hv
      cases hv
  quiet _ p hp := by
    rw [halive] at hp
    rcases hprocess with heq | hnil
    · rw [heq]
      exact h.quiet hnone p hp
    · rw [hnil] at hp
      cases hp
  fits u := by
    rw [hcalls]
    by_cases hu : u = t
    · rwa [hu, Function.update_self]
    · rw [Function.update_of_ne hu]
      have hold := h.fits u
      have hnot := hnone u
      cases hcu : s.calls u with
      | reaping p | waiting p | waitingKilled p =>
        rw [hcu] at hold
        have hold : s.alive = [] ∨ s.process = some p := hold
        show s'.alive = [] ∨ s'.process = some p
        rw [halive]
        rcases hprocess with heq | hnil
        · rwa [heq]
        · exact .inl hnil
      | clear =>
        rw [hcu] at hold
        have hold : s.alive = [] := hold
        show s'.alive = []
        rwa [halive]
      | idle | stop | poll | reap | signal | wait | kill | waitKilled => trivial
      | _ =>
        rw [hcu] at hnot
        cases hnot

/-! ## The steps of `start` -/

theorem Inv.goto_start (h : s.Inv) (hidle : ∀ u, u ≠ t → s.calls u = .idle)
    (hquiet : c.inStart = false → s.Remembered) (hfits : (s.goto t c).Fits c) :
    (s.goto t c).Inv :=
  .of_start hidle rfl h.one h.stopped h.stoppedLe hquiet hfits

theorem remembered_nil (h : s.alive = []) : s.Remembered := fun p hp => by
  rw [h] at hp
  cases hp

theorem nil_of_none (h : s.Remembered) (hnone : s.process = none) : s.alive = [] := by
  rw [List.eq_nil_iff_forall_not_mem]
  intro p hp
  cases hnone.symm.trans (h p hp)

/-- The remembered process has exited. -/
theorem nil_of_exited {p : EvProcess} (h : s.Remembered) (hp : s.process = some p)
    (hnot : p ∉ s.alive) : s.alive = [] := by
  rw [List.eq_nil_iff_forall_not_mem]
  intro q hq
  obtain rfl := Option.some.inj (hp.symm.trans (h q hq))
  exact hnot hq

theorem Inv.next_start (h : s.Inv) (ok : Bool) (hstart : (s.calls t).inStart = true) :
    (s.next t ok).Inv := by
  have hidle := h.alone t hstart
  have hfits := h.fits t
  unfold EvService.next
  cases hc : s.calls t with
  | start call =>
    rw [hc] at hfits
    obtain ⟨hremembered, hcall⟩ := hfits
    dsimp only
    split
    next hnone =>
      exact h.goto_start hidle nofun ⟨nil_of_none hremembered hnone, hcall⟩
    next => exact h.goto_start hidle nofun ⟨hremembered, hcall⟩
  | running call =>
    rw [hc] at hfits
    obtain ⟨hremembered, hcall⟩ := hfits
    dsimp only
    unfold withProcess
    split
    · exact h.goto_start hidle (fun _ => hremembered) trivial
    next p hp =>
      dsimp only
      split
      · exact h.goto_start hidle nofun hremembered
      next hnot => exact h.goto_start hidle nofun ⟨nil_of_exited hremembered hp hnot, hcall⟩
  | runningPid =>
    rw [hc] at hfits
    exact h.goto_start hidle (fun _ => hfits) trivial
  | spawn call attempt =>
    rw [hc] at hfits
    obtain ⟨hnil, hcall⟩ := hfits
    dsimp only
    unfold EvService.spawn
    split
    · have honly : ∀ q ∈ { pid := s.spawned, call := call } :: s.alive,
          q = { pid := s.spawned, call := call } := fun q hq => by
        rw [hnil] at hq
        exact List.mem_singleton.1 hq
      refine .of_start hidle rfl ?_ (fun q hq => ?_) h.stoppedLe nofun ⟨honly, hcall⟩
      · show (_ :: s.alive).length ≤ 1
        rw [hnil]
        exact Nat.le_refl 1
      · rw [honly q hq]
        exact hcall
    · exact h.goto_start hidle nofun ⟨hnil, hcall⟩
  | check call attempt p =>
    rw [hc] at hfits
    obtain ⟨honly, hcall⟩ := hfits
    dsimp only
    split
    · split
      · exact h.goto_start hidle nofun ⟨honly, hcall⟩
      · exact h
    next hnot =>
      refine h.goto_start hidle nofun ⟨List.eq_nil_iff_forall_not_mem.2 fun q hq => ?_, hcall⟩
      exact hnot (honly q hq ▸ hq)
  | store call attempt p =>
    rw [hc] at hfits
    obtain ⟨honly, hcall⟩ := hfits
    refine .of_start hidle rfl h.one h.stopped h.stoppedLe nofun ⟨fun q hq => ?_, rfl⟩
    exact congrArg some (honly q hq).symm
  | started call attempt =>
    rw [hc] at hfits
    obtain ⟨hremembered, hsome⟩ := hfits
    dsimp only
    split
    next hnone =>
      rw [hnone] at hsome
      cases hsome
    next => exact h.goto_start hidle (fun _ => hremembered) trivial
  | failed call attempt =>
    rw [hc] at hfits
    obtain ⟨hnil, hcall⟩ := hfits
    refine .of_start hidle rfl h.one h.stopped h.stoppedLe (fun _ => remembered_nil hnil) ?_
    by_cases hfirst : attempt = 0
    · rw [if_pos hfirst]
      exact ⟨hnil, hcall⟩
    · rw [if_neg hfirst]
      trivial
  | loadModule call =>
    rw [hc] at hfits
    obtain ⟨hnil, hcall⟩ := hfits
    refine h.goto_start hidle (fun _ => remembered_nil hnil) ?_
    cases ok with
    | true => exact ⟨hnil, hcall⟩
    | false => trivial
  | _ =>
    rw [hc] at hstart
    cases hstart

/-! ## The steps of `stop` -/

section Stop

variable (h : s.Inv) (hnone : ∀ u, (s.calls u).inStart = false)

include h hnone

theorem Inv.goto_stop (hc : c.inStart = false) (hfits : (s.goto t c).Fits c) : (s.goto t c).Inv :=
  h.of_stop hnone rfl hc rfl (.inl rfl) (.inl rfl) rfl hfits

theorem Inv.withProcess_stop {next : EvProcess → EvCall} (hnext : ∀ p, (next p).inStart = false)
    (hfits : ∀ p, s.process = some p → (s.goto t (next p)).Fits (next p)) :
    (s.withProcess t next).Inv := by
  unfold withProcess
  split
  · exact h.goto_stop hnone rfl trivial
  next p hp => exact h.goto_stop hnone (hnext p) (hfits p hp)

theorem Inv.await_stop {p : EvProcess} {timedOut : Option EvCall}
    (hp : s.alive = [] ∨ s.process = some p)
    (hcall : ∀ c, timedOut = some c → c.inStart = false ∧ (s.goto t c).Fits c) :
    (s.await t p timedOut).Inv := by
  unfold await
  split
  next halive =>
    cases timedOut with
    | none => exact h
    | some call => exact h.goto_stop hnone (hcall call rfl).1 (hcall call rfl).2
  next hnot =>
    refine h.goto_stop hnone rfl ?_
    rcases hp with hnil | hp
    · exact hnil
    · exact nil_of_exited (h.quiet hnone) hp hnot

/-- `stop` returns `True` when no process runs. -/
theorem Inv.returnStopped_stop (hnil : s.alive = []) {q : Option EvProcess} :
    ({ s with process := q }.returnStopped t).Inv :=
  h.of_stop hnone rfl rfl rfl (.inr hnil) (.inr ⟨hnil, rfl⟩) rfl trivial

theorem Inv.next_stop (ok : Bool) : (s.next t ok).Inv := by
  have hfits := h.fits t
  have hquiet := h.quiet hnone
  unfold EvService.next
  cases hc : s.calls t with
  | idle => exact h
  | stop =>
    dsimp only
    split
    next hprocess => exact h.returnStopped_stop hnone (nil_of_none hquiet hprocess)
    next => exact h.goto_stop hnone rfl trivial
  | poll =>
    refine h.withProcess_stop hnone (fun p => ?_) fun p _ => ?_
    · split <;> rfl
    · split <;> trivial
  | reap => exact h.withProcess_stop hnone (fun _ => rfl) fun _ hp => .inr hp
  | signal => exact h.withProcess_stop hnone (fun _ => rfl) fun _ _ => trivial
  | wait => exact h.withProcess_stop hnone (fun _ => rfl) fun _ hp => .inr hp
  | kill => exact h.withProcess_stop hnone (fun _ => rfl) fun _ _ => trivial
  | waitKilled => exact h.withProcess_stop hnone (fun _ => rfl) fun _ hp => .inr hp
  | reaping p =>
    rw [hc] at hfits
    exact h.await_stop hnone hfits nofun
  | waitingKilled p =>
    rw [hc] at hfits
    exact h.await_stop hnone hfits nofun
  | waiting p =>
    rw [hc] at hfits
    refine h.await_stop hnone hfits fun c hcall => ?_
    split at hcall
    · cases hcall
    · cases hcall
      exact ⟨rfl, trivial⟩
  | clear =>
    rw [hc] at hfits
    exact h.returnStopped_stop hnone hfits
  | _ =>
    have hnot := hnone t
    rw [hc] at hnot
    cases hnot

end Stop

/-! ## Runs -/

theorem inv_init : Inv {} where
  one := Nat.zero_le 1
  stopped _ h := nomatch h
  stoppedLe := Nat.le_refl 0
  alone _ h := nomatch h
  quiet _ _ h := nomatch h
  fits _ := trivial

theorem Inv.exit (h : s.Inv) (p : EvProcess) :
    ({ s with alive := s.alive.filter (· ≠ p) } : EvService).Inv := by
  have hsub : ∀ q ∈ s.alive.filter (· ≠ p), q ∈ s.alive := fun q hq => (List.mem_filter.1 hq).1
  have hnil : s.alive = [] → s.alive.filter (· ≠ p) = [] := fun hnil => by rw [hnil]; rfl
  exact {
    one := Nat.le_trans (List.length_filter_le _ _) h.one
    stopped := fun q hq => h.stopped q (hsub q hq)
    stoppedLe := h.stoppedLe
    alone := h.alone
    quiet := fun hnone q hq => h.quiet hnone q (hsub q hq)
    fits := fun t => by
      have hfits := h.fits t
      show Fits _ (s.calls t)
      cases hc : s.calls t with
      | start | running =>
        rw [hc] at hfits
        exact ⟨fun q hq => hfits.1 q (hsub q hq), hfits.2⟩
      | runningPid =>
        rw [hc] at hfits
        exact fun q hq => hfits q (hsub q hq)
      | spawn | failed | loadModule =>
        rw [hc] at hfits
        exact ⟨hnil hfits.1, hfits.2⟩
      | check | store | started =>
        rw [hc] at hfits
        exact ⟨fun q hq => hfits.1 q (hsub q hq), hfits.2⟩
      | reaping | waiting | waitingKilled =>
        rw [hc] at hfits
        exact Or.imp_left hnil hfits
      | clear =>
        rw [hc] at hfits
        exact hnil hfits
      | _ => trivial }

theorem Inv.step (h : s.Inv) {a : EvAction} (ha : s.Exclusive a) : (s.step a).Inv := by
  cases a with
  | exit p => exact h.exit p
  | next t ok =>
    cases hstart : (s.calls t).inStart with
    | true => exact h.next_start ok hstart
    | false =>
      by_cases hnone : ∀ u, (s.calls u).inStart = false
      · exact h.next_stop hnone ok
      · -- another thread is in `start`, so this one is idle
        obtain ⟨u, hu⟩ := not_forall.1 hnone
        have hu : (s.calls u).inStart = true := Bool.not_eq_false _ ▸ hu
        have hne : t ≠ u := fun heq => by
          rw [heq, hu] at hstart
          cases hstart
        have hidle := h.alone u hu t hne
        show (s.next t ok).Inv
        unfold EvService.next
        rw [hidle]
        exact h
  | start t clientId =>
    show (s.beginStart t clientId).Inv
    unfold beginStart
    split
    next hidle =>
      have hall : ∀ u, s.calls u = .idle := fun u => by
        by_cases hu : u = t
        · rw [hu, hidle]
        · exact ha u hu
      have hnone : ∀ u, (s.calls u).inStart = false := fun u => by rw [hall u]; rfl
      have hself : Function.update s.calls t .idle = s.calls := by
        rw [← hidle]
        exact Function.update_eq_self t s.calls
      have hle := h.stoppedLe
      dsimp only
      split
      · exact .of_start (c := .idle) (fun u _ => hall u) hself.symm h.one h.stopped
          (Nat.le_succ_of_le hle) (fun _ => h.quiet hnone) trivial
      · exact .of_start (fun u _ => hall u) rfl h.one h.stopped (Nat.le_succ_of_le hle) nofun
          ⟨h.quiet hnone, hle⟩
    next => exact h
  | stop t =>
    show (s.beginStop t).Inv
    unfold beginStop
    split
    next hidle =>
      refine h.goto_stop (fun u => ?_) rfl trivial
      by_cases hu : u = t
      · rw [hu, hidle]
        rfl
      · exact ha u hu
    next => exact h

theorem Inv.oneProducer (h : s.Inv) : s.OneProducer where
  one := h.one
  stopped := h.stopped
  remembered p hp := by
    by_cases hnone : ∀ u, (s.calls u).inStart = false
    · exact .inl (h.quiet hnone p hp)
    · obtain ⟨t, ht⟩ := not_forall.1 hnone
      have hfits := h.fits t
      cases hc : s.calls t with
      | start | running | started =>
        rw [hc] at hfits
        exact .inl (hfits.1 p hp)
      | runningPid =>
        rw [hc] at hfits
        exact .inl (hfits p hp)
      | spawn | failed | loadModule =>
        rw [hc] at hfits
        rw [hfits.1] at hp
        cases hp
      | check call attempt q | store call attempt q =>
        rw [hc] at hfits
        refine .inr ⟨t, ?_⟩
        rw [hc, hfits.1 p hp]
        rfl
      | _ =>
        rw [hc] at ht
        exact absurd rfl ht

/-- In every run in which no call of `start` overlaps another call, there is one producer at most, it
is remembered, and `stop` leaves none. -/
theorem one_producer (as : List EvAction) (h : Meets step Exclusive {} as) :
    (run step {} as).OneProducer :=
  (run_invariant (I := Inv) (fun _ _ hi ha => Inv.step hi ha) inv_init h).oneProducer

/-- The control thread starts a producer, whose first attempt fails, and then the safe state stops
it. -/
def startThenStop : List EvAction :=
  [.start .control (some 7), .next .control true, .next .control true, .exit ⟨0, 0⟩,
    .next .control true, .next .control true, .next .control true, .next .control true,
    .next .control true, .next .control true, .next .control true, .stop .recovery,
    .next .recovery true, .next .recovery true, .next .recovery true]

theorem one_producer_startThenStop : (run step {} startThenStop).OneProducer := by
  refine one_producer startThenStop ⟨fun u _ => rfl, trivial, trivial, trivial, trivial, trivial,
    trivial, trivial, trivial, trivial, trivial, fun u hu => ?_, trivial, trivial, trivial, trivial⟩
  cases u with
  | control => rfl
  | recovery => exact absurd rfl hu

/-- The safe state stops the producer during its startup check: `stop` finds no process and returns
`True`, and then `start` stores the process. -/
theorem one_producer_missed : ¬ (run step {}
    [.start .control (some 7), .next .control true, .next .control true, .stop .recovery,
      .next .recovery true, .next .control true, .next .control true]).OneProducer :=
  fun h => absurd (h.stopped ⟨0, 0⟩ (by decide)) (by decide)

end EvService

end MultiDAQ.Client
