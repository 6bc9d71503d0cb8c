import MultiDAQ.Common.ReplyHandler
import Mathlib.Data.List.Basic

/-!
# What a wait for a reply returns

`Faithful` is what every step of the threads should do: a wait returns a reply that its client sent
to its request or an error, it returns the reply when one was delivered before, and a registration
is removed by a cancel or by the end of a wait of its own. A wait is ended by a pop of its key, which
may be registered anew by then, and a cancel drops a reply that no wait has come for yet; the steps
of a run are faithful exactly when neither happens (`faithful_iff_orderly`).
-/

namespace MultiDAQ.Common

open MultiDAQ.Lib

/-! ## The handler -/

namespace ReplyHandler

section Registrations

variable {Client Payload : Type} {h h' h'' : ReplyHandler Client Payload} {clientId : Client} {k key : ReplyKey Client}
  {n : Nat} {p : PendingReply Payload} {reason : String}

/-- The `n`-th registration was made for the key and is now `p`. -/
def Registered (h : ReplyHandler Client Payload) (n : Nat) (key : ReplyKey Client)
    (p : PendingReply Payload) : Prop :=
  h.registrations[n]? = some (key, p)

theorem registered_update {f : PendingReply Payload → PendingReply Payload} {m : Nat} :
    (h.update m f).Registered n key p ↔
      ∃ q, h.Registered n key q ∧ p = if m = n then f q else q := by
  unfold Registered update
  rw [List.getElem?_modify]
  cases hr : h.registrations[n]? with
  | none => simp
  | some r =>
    obtain ⟨key', q⟩ := r
    split <;> simp [*, Prod.ext_iff, eq_comm, and_comm]

theorem Registered.unique {p' : PendingReply Payload} {key' : ReplyKey Client}
    (hp : h.Registered n key p) (hp' : h.Registered n key' p') : key' = key ∧ p' = p := by
  have heq := Option.some.inj (hp'.symm.trans hp)
  exact ⟨congrArg Prod.fst heq, congrArg Prod.snd heq⟩

theorem registered_append {r : ReplyKey Client × PendingReply Payload} :
    ({ h with registrations := h.registrations ++ [r] } :
      ReplyHandler Client Payload).Registered n key p ↔
      h.Registered n key p ∨ n = h.registrations.length ∧ r = (key, p) := by
  unfold Registered
  rw [List.getElem?_append]
  split
  next hlt => simp [Nat.ne_of_lt hlt]
  next hle =>
    rw [List.getElem?_eq_none (Nat.le_of_not_lt hle)]
    by_cases hn : n = h.registrations.length
    · simp [hn]
    · have : n - h.registrations.length ≠ 0 := by omega
      simp [hn, this]

end Registrations

section Operations

variable {Client Payload : Type} [DecidableEq Client] {h h' h'' : ReplyHandler Client Payload}
  {clientId : Client} {k key : ReplyKey Client} {n : Nat} {p : PendingReply Payload}
  {reason : String}

/-- The dictionary has uncancelled registrations, under their keys, and an event is set when there is
something to return. -/
structure WellFormed (h : ReplyHandler Client Payload) : Prop where
  registered : ∀ key n, h.replyWaiters.get? key = some n →
    ∃ p, h.Registered n key p ∧ p.error = none
  event : ∀ n key p, h.Registered n key p →
    (p.event = true ↔ p.message.isSome ∨ p.error.isSome)

/-- What the operations other than the pop do to the registrations. -/
structure Extends (h h' : ReplyHandler Client Payload) : Prop where
  grows : ∀ n key p, h.Registered n key p → ∃ p', h'.Registered n key p' ∧
    (p.message.isSome → p'.message.isSome) ∧ (p.error.isSome → p'.error.isSome)
  new : ∀ n key p', h'.Registered n key p' →
    (∃ p, h.Registered n key p) ∨ h'.replyWaiters.get? key = some n ∨ p'.error.isSome
  kept : ∀ key n, h.replyWaiters.get? key = some n → h'.replyWaiters.get? key = some n ∨
    ∃ p', h'.Registered n key p' ∧ p'.error.isSome

theorem Extends.refl : h.Extends h :=
  ⟨fun _ _ p hp => ⟨p, hp, id, id⟩, fun _ _ p hp => .inl ⟨p, hp⟩, fun _ _ hk => .inl hk⟩

theorem Extends.trans (h₁ : h.Extends h') (h₂ : h'.Extends h'') : h.Extends h'' where
  grows n key p hp := by
    obtain ⟨p', hp', hm, he⟩ := h₁.grows n key p hp
    obtain ⟨p'', hp'', hm', he'⟩ := h₂.grows n key p' hp'
    exact ⟨p'', hp'', hm' ∘ hm, he' ∘ he⟩
  new n key p'' hp'' := by
    rcases h₂.new n key p'' hp'' with ⟨p', hp'⟩ | hk
    · obtain ⟨q, hq, -, he⟩ := h₂.grows n key p' hp'
      obtain ⟨-, rfl⟩ := hp''.unique hq
      rcases h₁.new n key p' hp' with hp | hk | hc
      · exact .inl hp
      · rcases h₂.kept key n hk with hk' | ⟨q', hq', he'⟩
        · exact .inr (.inl hk')
        · obtain ⟨-, rfl⟩ := hp''.unique hq'
          exact .inr (.inr he')
      · exact .inr (.inr (he hc))
    · exact .inr hk
  kept key n hk := by
    rcases h₁.kept key n hk with hk' | ⟨p', hp', he⟩
    · exact h₂.kept key n hk'
    · obtain ⟨p'', hp'', -, he'⟩ := h₂.grows n key p' hp'
      exact .inr ⟨p'', hp'', he' he⟩

/-- A change of the `n`-th registration that keeps what it has. -/
theorem extends_update {f : PendingReply Payload → PendingReply Payload}
    (hm : ∀ p, p.message.isSome → (f p).message.isSome)
    (he : ∀ p, p.error.isSome → (f p).error.isSome) : h.Extends (h.update n f) where
  grows m key p hp := by
    refine ⟨_, registered_update.2 ⟨p, hp, rfl⟩, ?_, ?_⟩
    · split
      · exact hm p
      · exact id
    · split
      · exact he p
      · exact id
  new m key p' hp' := by
    obtain ⟨q, hq, -⟩ := registered_update.1 hp'
    exact .inl ⟨q, hq⟩
  kept _ _ hk := .inl hk

/-! ### Registering and delivering -/

theorem registerPendingReply_cases (clientId : Client) (requestId : String) :
    (h.registerPendingReply clientId requestId).2 = h ∨
      h.replyWaiters.get? (clientId, requestId) = none ∧
      (h.registerPendingReply clientId requestId).2 = {
        replyWaiters := h.replyWaiters.set (clientId, requestId) h.registrations.length
        registrations := h.registrations ++ [((clientId, requestId), {})] } := by
  unfold registerPendingReply
  split
  next => exact .inl rfl
  next hk => exact .inr ⟨Option.not_isSome_iff_eq_none.1 hk, rfl⟩

theorem extends_registerPendingReply {requestId : String} :
    h.Extends (h.registerPendingReply clientId requestId).2 := by
  rcases h.registerPendingReply_cases clientId requestId with heq | ⟨hk, heq⟩
  · rw [heq]
    exact .refl
  · rw [heq]
    refine ⟨fun n key p hp => ⟨p, registered_append.2 (.inl hp), id, id⟩, fun n key p' hp' => ?_,
      fun key n hkey => .inl ?_⟩
    · rcases registered_append.1 hp' with hp | ⟨rfl, heq⟩
      · exact .inl ⟨p', hp⟩
      · refine .inr (.inl ?_)
        rw [Dict.get?_set, if_pos (congrArg Prod.fst heq).symm]
    · have hne : key ≠ (clientId, requestId) := by
        rintro rfl
        exact nomatch hk.symm.trans hkey
      rw [Dict.get?_set, if_neg hne]
      exact hkey

theorem WellFormed.registerPendingReply (hw : h.WellFormed) {requestId : String} :
    (h.registerPendingReply clientId requestId).2.WellFormed := by
  rcases h.registerPendingReply_cases clientId requestId with heq | ⟨-, heq⟩
  · rw [heq]
    exact hw
  · rw [heq]
    refine ⟨fun key n hkey => ?_, fun n key p hp => ?_⟩
    · rw [Dict.get?_set] at hkey
      split at hkey
      next hk =>
        obtain rfl := Option.some.inj hkey
        exact ⟨{}, registered_append.2 (.inr ⟨rfl, by rw [hk]⟩), rfl⟩
      next =>
        obtain ⟨p, hp, he⟩ := hw.registered key n hkey
        exact ⟨p, registered_append.2 (.inl hp), he⟩
    · rcases registered_append.1 hp with hp | ⟨-, heq⟩
      · exact hw.event n key p hp
      · obtain rfl := congrArg Prod.snd heq
        simp

theorem deliverPendingReply_cases (clientId : Client) (message : ProtocolMessage Payload) :
    (h.deliverPendingReply clientId message).2 = h ∨
      ∃ requestId n, message.inReplyTo = some requestId ∧
        h.replyWaiters.get? (clientId, requestId) = some n ∧
        (h.deliverPendingReply clientId message).2 = h.update n (·.delivered message) := by
  unfold deliverPendingReply
  split
  next => exact .inl rfl
  next n hn =>
    obtain ⟨requestId, hr, hk⟩ := Option.bind_eq_some_iff.1 hn
    exact .inr ⟨requestId, n, hr, hk, rfl⟩

theorem extends_deliverPendingReply {message : ProtocolMessage Payload} :
    h.Extends (h.deliverPendingReply clientId message).2 := by
  rcases h.deliverPendingReply_cases clientId message with heq | ⟨_, n, -, -, heq⟩
  · rw [heq]
    exact .refl
  · rw [heq]
    exact extends_update (fun _ _ => rfl) fun _ he => he

theorem WellFormed.deliverPendingReply (hw : h.WellFormed) {message : ProtocolMessage Payload} :
    (h.deliverPendingReply clientId message).2.WellFormed := by
  rcases h.deliverPendingReply_cases clientId message with heq | ⟨_, n, -, -, heq⟩
  · rw [heq]
    exact hw
  · rw [heq]
    refine ⟨fun key m hkey => ?_, fun m key p hp => ?_⟩
    · obtain ⟨p, hp, he⟩ := hw.registered key m hkey
      refine ⟨_, registered_update.2 ⟨p, hp, rfl⟩, ?_⟩
      split
      · exact he
      · exact he
    · obtain ⟨q, hq, rfl⟩ := registered_update.1 hp
      split
      · simp [PendingReply.delivered]
      · exact hw.event m key q hq

/-! ### Cancelling -/

theorem cancelKey_cases (k : ReplyKey Client) (reason : String) :
    h.cancelKey k reason = h ∨ ∃ n, h.replyWaiters.get? k = some n ∧
      h.cancelKey k reason = (h.pop k).update n (·.cancelled reason) := by
  unfold cancelKey
  split
  next => exact .inl rfl
  next n hn => exact .inr ⟨n, hn, rfl⟩

theorem WellFormed.extends_cancelKey (hw : h.WellFormed) : h.Extends (h.cancelKey k reason) := by
  rcases h.cancelKey_cases k reason with heq | ⟨n, hn, heq⟩
  · rw [heq]
    exact .refl
  · have hupdate : (h.pop k).Extends ((h.pop k).update n (·.cancelled reason)) :=
      extends_update (fun _ hm => hm) fun _ _ => rfl
    rw [heq]
    refine ⟨hupdate.grows, fun m key p' hp' => ?_, fun key m hkey => ?_⟩
    · obtain ⟨q, hq, -⟩ := registered_update.1 hp'
      exact .inl ⟨q, hq⟩
    · by_cases hk : key = k
      · subst hk
        obtain rfl := Option.some.inj (hn.symm.trans hkey)
        obtain ⟨p, hp, -⟩ := hw.registered key n hn
        exact .inr ⟨_, registered_update.2 ⟨p, hp, (if_pos rfl).symm⟩, rfl⟩
      · left
        show (h.replyWaiters.erase k).get? key = some m
        rw [Dict.get?_erase, if_neg hk]
        exact hkey

theorem WellFormed.cancelKey (hw : h.WellFormed) : (h.cancelKey k reason).WellFormed := by
  rcases h.cancelKey_cases k reason with heq | ⟨n, hn, heq⟩
  · rw [heq]
    exact hw
  · rw [heq]
    refine ⟨fun key m hkey => ?_, fun m key p hp => ?_⟩
    · have hkey' : (h.replyWaiters.erase k).get? key = some m := hkey
      rw [Dict.get?_erase] at hkey'
      split at hkey'
      · cases hkey'
      next hne =>
        obtain ⟨p, hp, he⟩ := hw.registered key m hkey'
        obtain ⟨q, hq, -⟩ := hw.registered k n hn
        have hnm : n ≠ m := by
          rintro rfl
          exact hne (hq.unique hp).1
        exact ⟨p, registered_update.2 ⟨p, hp, (if_neg hnm).symm⟩, he⟩
    · obtain ⟨q, hq, rfl⟩ := registered_update.1 hp
      split
      · simp [PendingReply.cancelled]
      · exact hw.event m key q hq

theorem WellFormed.cancelLocked (reason : String) : ∀ (keys : List (ReplyKey Client))
    {h : ReplyHandler Client Payload}, h.WellFormed →
    h.Extends (h.cancelLocked keys reason) ∧ (h.cancelLocked keys reason).WellFormed
  | [], _, hw => ⟨.refl, hw⟩
  | key :: keys, _, hw => by
    obtain ⟨hext, hw'⟩ := WellFormed.cancelLocked reason keys (hw.cancelKey (k := key))
    exact ⟨hw.extends_cancelKey.trans hext, hw'⟩

/-! ### Where the messages come from -/

/-- The messages of the registrations are replies of their clients to their requests. -/
def Genuine (arrived : List (Client × ProtocolMessage Payload)) (h : ReplyHandler Client Payload) :
    Prop :=
  ∀ n key p m, h.Registered n key p → p.message = some m →
    (key.1, m) ∈ arrived ∧ m.inReplyTo = some key.2

variable {arrived : List (Client × ProtocolMessage Payload)}

theorem Genuine.registerPendingReply (hg : h.Genuine arrived) {requestId : String} :
    (h.registerPendingReply clientId requestId).2.Genuine arrived := by
  rcases h.registerPendingReply_cases clientId requestId with heq | ⟨-, heq⟩
  · rw [heq]
    exact hg
  · rw [heq]
    intro n key p m hp hm
    rcases registered_append.1 hp with hp | ⟨-, heq⟩
    · exact hg n key p m hp hm
    · obtain rfl := congrArg Prod.snd heq
      cases hm

theorem Genuine.deliverPendingReply (hw : h.WellFormed) (hg : h.Genuine arrived)
    {message : ProtocolMessage Payload} :
    (h.deliverPendingReply clientId message).2.Genuine (arrived ++ [(clientId, message)]) := by
  have hgrow : h.Genuine (arrived ++ [(clientId, message)]) := fun n key p m hp hm =>
    ⟨List.mem_append_left _ (hg n key p m hp hm).1, (hg n key p m hp hm).2⟩
  rcases h.deliverPendingReply_cases clientId message with
    heq | ⟨requestId, n, hr, hk, heq⟩
  · rw [heq]
    exact hgrow
  · rw [heq]
    intro m key p msg hp hmsg
    obtain ⟨q, hq, rfl⟩ := registered_update.1 hp
    split at hmsg
    next hnm =>
      subst hnm
      obtain ⟨q', hq', -⟩ := hw.registered _ n hk
      obtain ⟨rfl, -⟩ := hq'.unique hq
      obtain rfl := Option.some.inj hmsg
      exact ⟨List.mem_append_right _ (List.mem_singleton.2 rfl), hr⟩
    next => exact hgrow m key q msg hq hmsg

theorem Genuine.cancelLocked : ∀ (keys : List (ReplyKey Client))
    {h : ReplyHandler Client Payload}, h.Genuine arrived →
    (h.cancelLocked keys reason).Genuine arrived
  | [], _, hg => hg
  | key :: keys, h, hg => by
    refine Genuine.cancelLocked keys ?_
    show (h.cancelKey key reason).Genuine arrived
    rcases h.cancelKey_cases key reason with heq | ⟨n, -, heq⟩
    · rw [heq]
      exact hg
    · rw [heq]
      intro m key' p msg hp hmsg
      obtain ⟨q, hq, rfl⟩ := registered_update.1 hp
      refine hg m key' q msg hq ?_
      split at hmsg
      · exact hmsg
      · exact hmsg

end Operations

end ReplyHandler

/-! ## The threads -/

namespace ReplySystem

section Waits

variable {Client Payload : Type} {s s' t : ReplySystem Client Payload} {i : Nat}
  {w w' : Wait Client Payload}

/-- A wait has come for the `n`-th registration. -/
def Taken (s : ReplySystem Client Payload) (n : Nat) : Prop := ∃ w ∈ s.waits, w.pending = some n

/-- A wait is replaced by one on the same registration. -/
theorem Taken.of_set (hw : s.waits[i]? = some w) (ht : t.waits = s.waits.set i w')
    (hpending : w'.pending = w.pending) {n : Nat} (h : s.Taken n) : t.Taken n := by
  obtain ⟨v, hv, hvn⟩ := h
  obtain ⟨j, hj⟩ := List.mem_iff_getElem?.1 hv
  unfold Taken
  rw [ht]
  by_cases hij : i = j
  · subst hij
    obtain rfl := Option.some.inj (hw.symm.trans hj)
    exact ⟨w', List.mem_set (List.getElem?_eq_some_iff.1 hj).1 _, hpending.trans hvn⟩
  · exact ⟨v, List.mem_iff_getElem?.2 ⟨j, by rw [List.getElem?_set_ne hij]; exact hj⟩, hvn⟩

theorem settled_of_set (hw : s.waits[i]? = some w) (hkey : w'.key = w.key)
    (hpending : w'.pending = w.pending) (hresult : w.result.isSome → w'.result = w.result) :
    ∀ (j : Nat) (v : Wait Client Payload), s.waits[j]? = some v →
      ∃ v', (s.waits.set i w')[j]? = some v' ∧ v'.key = v.key ∧ v'.pending = v.pending ∧
        (v.result.isSome → v'.result = v.result) := by
  intro j v hj
  by_cases hij : i = j
  · subst hij
    obtain rfl := Option.some.inj (hw.symm.trans hj)
    refine ⟨w', ?_, hkey, hpending, hresult⟩
    rw [List.getElem?_set_self (List.getElem?_eq_some_iff.1 hj).1]
  · exact ⟨v, by rw [List.getElem?_set_ne hij]; exact hj, rfl, rfl, fun _ => rfl⟩

theorem decide_cases (i : Nat) (event : Bool)
    (result : PendingReply Payload → Except String (ProtocolMessage Payload)) :
    s.decide i event result = s ∨ ∃ (w : Wait Client Payload) (n : Nat) (key : ReplyKey Client)
      (p : PendingReply Payload), s.waits[i]? = some w ∧ w.result = none ∧ w.pending = some n ∧
        s.handler.Registered n key p ∧ p.event = event ∧
        s.decide i event result =
          { s with waits := s.waits.set i { w with result := some (result p) } } := by
  unfold decide
  split
  next => exact .inl rfl
  next w hw =>
    split
    next => exact .inl rfl
    next p hp =>
      split
      next hev =>
        unfold waitingOn at hp
        split at hp
        · cases hp
        next hnone =>
          obtain ⟨n, hn, hreg⟩ := Option.bind_eq_some_iff.1 hp
          obtain ⟨⟨key, q⟩, hq, rfl⟩ := Option.map_eq_some_iff.1 hreg
          exact .inr ⟨w, n, key, q, hw, Option.not_isSome_iff_eq_none.1 hnone, hn, hq, hev, rfl⟩
      next => exact .inl rfl

end Waits

section Steps

variable {Client Payload : Type} [DecidableEq Client] {s s' : ReplySystem Client Payload}

/-- A wait on the `n`-th registration ends from `s` to `s'`, and no other one waits for it. -/
def EndsWait (s s' : ReplySystem Client Payload) (n : Nat) : Prop :=
  ∃ (i : Nat) (w w' : Wait Client Payload), s.waits[i]? = some w ∧ s'.waits[i]? = some w' ∧
    w.ended = false ∧ w'.ended = true ∧ w.pending = some n ∧
    ∀ (j : Nat) (v : Wait Client Payload), s.waits[j]? = some v → j ≠ i → v.pending = some n →
      v.result.isSome

/-- What a step from `s` to `s'` should do. -/
structure Faithful (s s' : ReplySystem Client Payload) : Prop where
  /-- What a wait returns is a reply that its client sent to its request, or an error. -/
  genuine : ∀ w ∈ s'.waits, ∀ m, w.result = some (.ok m) →
    (w.clientId, m) ∈ s'.arrived ∧ m.inReplyTo = some w.requestId
  /-- A wait that gets its result after a reply was delivered to its registration returns it. -/
  returned : ∀ (i : Nat) (w w' : Wait Client Payload) n p m r, s.waits[i]? = some w → s'.waits[i]? = some w' →
    w.result = none → w'.result = some r → w.pending = some n →
    s.handler.Registered n w.key p → p.message = some m → r = .ok m
  /-- A wait that begins finds the reply to its request, unless another wait has come for it. -/
  found : ∀ (w : Wait Client Payload) n p, s'.waits[s.waits.length]? = some w → s.handler.Registered n w.key p →
    p.message.isSome → w.pending = some n ∨ s.Taken n
  /-- A registration is removed by a cancel or by the end of the last wait on it. -/
  kept : ∀ key n, s.handler.replyWaiters.get? key = some n →
    s'.handler.replyWaiters.get? key = some n ∨
    (∃ p, s'.handler.Registered n key p ∧ p.error.isSome) ∨ EndsWait s s' n
  /-- The other waits keep their registrations and their results. -/
  settled : ∀ (i : Nat) (w : Wait Client Payload), s.waits[i]? = some w → ∃ w', s'.waits[i]? = some w' ∧ w'.key = w.key ∧
    w'.pending = w.pending ∧ (w.result.isSome → w'.result = w.result)

/-- A wait begins for a request whose reply was not cancelled before a wait came for it, and when a
wait ends its request is not registered anew and no other wait is on its registration. -/
def Orderly (s : ReplySystem Client Payload) : ReplyAction Client Payload → Prop
  | .beginWait clientId requestId => ∀ n p, s.handler.Registered n (clientId, requestId) p →
      p.message.isSome → p.error.isSome → s.Taken n
  | .endWait i => ∀ (w : Wait Client Payload) n, s.waits[i]? = some w → w.result.isSome → w.ended = false →
      s.handler.replyWaiters.get? w.key = some n → w.pending = some n ∧
        ∀ (j : Nat) (v : Wait Client Payload), s.waits[j]? = some v → j ≠ i → v.pending = some n → v.result.isSome
  | _ => True

/-- What holds as long as the steps are faithful. -/
structure Inv (s : ReplySystem Client Payload) : Prop where
  handler : s.handler.WellFormed
  messages : s.handler.Genuine s.arrived
  results : ∀ w ∈ s.waits, ∀ m, w.result = some (.ok m) →
    (w.clientId, m) ∈ s.arrived ∧ m.inReplyTo = some w.requestId
  /-- A wait is on a registration of its key, or it has ended without one. -/
  pending : ∀ w ∈ s.waits, (∃ n p, w.pending = some n ∧ s.handler.Registered n w.key p) ∨
    w.pending = none ∧ w.ended = true
  /-- A registration that was removed was cancelled or taken. -/
  removed : ∀ n key p, s.handler.Registered n key p →
    s.handler.replyWaiters.get? key = some n ∨ p.error.isSome ∨ s.Taken n

theorem inv_init : Inv ({} : ReplySystem Client Payload) where
  handler := ⟨fun _ _ => nofun, fun _ _ _ => nofun⟩
  messages _ _ _ _ := nofun
  results _ := nofun
  pending _ := nofun
  removed _ _ _ := nofun

/-- A step of the handler alone. -/
theorem Inv.of_handler {h' : ReplyHandler Client Payload}
    {arrived' : List (Client × ProtocolMessage Payload)} (hs : s.Inv) (hext : s.handler.Extends h')
    (hw : h'.WellFormed) (hg : h'.Genuine arrived') (harr : s.arrived ⊆ arrived') :
    Inv { s with handler := h', arrived := arrived' } ∧
      Faithful s { s with handler := h', arrived := arrived' } := by
  have hresults : ∀ w ∈ s.waits, ∀ m, w.result = some (.ok m) →
      (w.clientId, m) ∈ arrived' ∧ m.inReplyTo = some w.requestId := fun w hmem m hm =>
    ⟨harr (hs.results w hmem m hm).1, (hs.results w hmem m hm).2⟩
  refine ⟨⟨hw, hg, hresults, fun w hmem => ?_, fun n key p' hp' => ?_⟩,
    ⟨hresults, ?_, ?_, fun key n hk => ?_, fun i w hw => ⟨w, hw, rfl, rfl, fun _ => rfl⟩⟩⟩
  · rcases hs.pending w hmem with ⟨n, p, hn, hp⟩ | hnone
    · obtain ⟨p', hp', -, -⟩ := hext.grows n _ p hp
      exact .inl ⟨n, p', hn, hp'⟩
    · exact .inr hnone
  · rcases hext.new n key p' hp' with ⟨p, hp⟩ | hk | he
    · obtain ⟨q, hq, -, he⟩ := hext.grows n key p hp
      obtain ⟨-, rfl⟩ := hp'.unique hq
      rcases hs.removed n key p hp with hk | herr | ht
      · rcases hext.kept key n hk with hk' | ⟨q, hq, hc⟩
        · exact .inl hk'
        · obtain ⟨-, rfl⟩ := hp'.unique hq
          exact .inr (.inl hc)
      · exact .inr (.inl (he herr))
      · exact .inr (.inr ht)
    · exact .inl hk
    · exact .inr (.inl he)
  · intro i w w' n p m r hi hi' hnone hr
    obtain rfl := Option.some.inj (hi.symm.trans hi')
    exact nomatch hnone.symm.trans hr
  · intro w n p hi
    rw [List.getElem?_eq_none (Nat.le_refl _)] at hi
    cases hi
  · rcases hext.kept key n hk with hk' | hc
    · exact .inl hk'
    · exact .inr (.inl hc)

/-- Nothing happens. -/
theorem Inv.faithful_refl (hs : s.Inv) : Faithful s s :=
  (hs.of_handler .refl hs.handler hs.messages (List.Subset.refl _)).2

/-- A wait gets its result, which is the message when there is one. -/
theorem Inv.decide (hs : s.Inv) {i : Nat} {event : Bool}
    {result : PendingReply Payload → Except String (ProtocolMessage Payload)}
    (hresult : ∀ p m, p.event = event → (p.event = true ↔ p.message.isSome ∨ p.error.isSome) →
      (result p = .ok m ↔ p.message = some m)) :
    (s.decide i event result).Inv ∧ Faithful s (s.decide i event result) := by
  rcases s.decide_cases i event result with heq | ⟨w, n, key, p, hw, hnone, hn, hp, hev, heq⟩
  · rw [heq]
    exact ⟨hs, hs.faithful_refl⟩
  · rw [heq]
    have hmem : w ∈ s.waits := List.mem_of_getElem? hw
    have hkey : w.key = key := by
      rcases hs.pending w hmem with ⟨n', q, hn', hq⟩ | ⟨hnot, -⟩
      · obtain rfl := Option.some.inj (hn.symm.trans hn')
        exact (hp.unique hq).1
      · exact nomatch hnot.symm.trans hn
    have hres := fun m => hresult p m hev (hs.handler.event n key p hp)
    have hresults : ∀ v ∈ s.waits.set i { w with result := some (result p) }, ∀ m,
        v.result = some (.ok m) → (v.clientId, m) ∈ s.arrived ∧ m.inReplyTo = some v.requestId := by
      intro v hv m hm
      rcases List.mem_or_eq_of_mem_set hv with hv | rfl
      · exact hs.results v hv m hm
      · have hmsg := (hres m).1 (Option.some.inj hm)
        have hgen := hs.messages n key p m hp hmsg
        rw [← hkey] at hgen
        exact hgen
    refine ⟨⟨hs.handler, hs.messages, hresults, fun v hv => ?_, fun m key' q hq => ?_⟩,
      ⟨hresults, ?_, ?_, fun _ _ hk => .inl hk, ?_⟩⟩
    · rcases List.mem_or_eq_of_mem_set hv with hv | rfl
      · exact hs.pending v hv
      · exact .inl ⟨n, p, hn, hkey ▸ hp⟩
    · rcases hs.removed m key' q hq with hk | he | ht
      · exact .inl hk
      · exact .inr (.inl he)
      · refine .inr (.inr (ht.of_set hw rfl ?_))
        rfl
    · intro j v v' m q msg r hj hj' hvnone hr hvm hq hmsg
      by_cases hij : i = j
      · subst hij
        obtain rfl := Option.some.inj (hw.symm.trans hj)
        obtain rfl := Option.some.inj (hn.symm.trans hvm)
        obtain ⟨-, rfl⟩ := hp.unique hq
        rw [List.getElem?_set_self (List.getElem?_eq_some_iff.1 hw).1] at hj'
        obtain rfl := Option.some.inj hj'
        exact (Option.some.inj hr).symm.trans ((hres msg).2 hmsg)
      · rw [List.getElem?_set_ne hij] at hj'
        obtain rfl := Option.some.inj (hj.symm.trans hj')
        exact nomatch hvnone.symm.trans hr
    · intro v m q hv
      rw [List.getElem?_eq_none (Nat.le_of_eq List.length_set)] at hv
      cases hv
    · exact settled_of_set hw rfl rfl fun h => nomatch hnone ▸ h

/-- What a wait that begins finds is registered for its key, and it returns no message yet. -/
theorem Inv.start (hs : s.Inv) (clientId : Client) (requestId : String) :
    let w := Wait.start s.handler clientId requestId
    w.key = (clientId, requestId) ∧ w.pending = s.handler.replyWaiters.get? w.key ∧
      (∀ m, w.result ≠ some (.ok m)) ∧
      ((∃ n p, w.pending = some n ∧ s.handler.Registered n w.key p) ∨
        w.pending = none ∧ w.ended = true) := by
  unfold Wait.start
  split
  next n hn =>
    obtain ⟨p, hp, -⟩ := hs.handler.registered _ n hn
    exact ⟨rfl, hn.symm, fun m hm => (by cases hm), .inl ⟨n, p, rfl, hp⟩⟩
  next hn => exact ⟨rfl, hn.symm, fun m hm => (by cases hm), .inr ⟨rfl, rfl⟩⟩

theorem Inv.beginWait (hs : s.Inv) (clientId : Client) (requestId : String) :
    (s.step (.beginWait clientId requestId)).Inv ∧
      (Faithful s (s.step (.beginWait clientId requestId)) ↔
        Orderly s (.beginWait clientId requestId)) := by
  obtain ⟨hkey, hpending, hnot, hreg⟩ := hs.start clientId requestId
  have hresults : ∀ v ∈ s.waits ++ [.start s.handler clientId requestId], ∀ m,
      v.result = some (.ok m) → (v.clientId, m) ∈ s.arrived ∧ m.inReplyTo = some v.requestId := by
    intro v hv m hm
    rcases List.mem_append.1 hv with hv | hv
    · exact hs.results v hv m hm
    · obtain rfl := List.mem_singleton.1 hv
      exact absurd hm (hnot m)
  have hold {j : Nat} {v : Wait Client Payload} (hj : s.waits[j]? = some v) :
      (s.waits ++ [.start s.handler clientId requestId])[j]? = some v := by
    rw [List.getElem?_append_left (List.getElem?_eq_some_iff.1 hj).1]
    exact hj
  have hlast : (s.waits ++ [.start s.handler clientId requestId])[s.waits.length]? =
      some (.start s.handler clientId requestId) := List.getElem?_concat_length
  refine ⟨⟨hs.handler, hs.messages, hresults, fun v hv => ?_, fun n key p hp => ?_⟩, ?_⟩
  · rcases List.mem_append.1 hv with hv | hv
    · exact hs.pending v hv
    · obtain rfl := List.mem_singleton.1 hv
      exact hreg
  · rcases hs.removed n key p hp with hk | he | ⟨v, hv, hvn⟩
    · exact .inl hk
    · exact .inr (.inl he)
    · exact .inr (.inr ⟨v, List.mem_append_left _ hv, hvn⟩)
  · constructor
    · intro hd n p hp hm he
      rcases hd.found _ n p hlast (hkey ▸ hp) hm with hfound | ht
      · rw [hpending, hkey] at hfound
        obtain ⟨q, hq, hnone⟩ := hs.handler.registered _ n hfound
        obtain ⟨-, rfl⟩ := hp.unique hq
        rw [hnone] at he
        cases he
      · exact ht
    · intro hc
      refine ⟨hresults, ?_, fun w n p hw hp hm => ?_, fun _ _ hk => .inl hk,
        fun j v hj => ⟨v, hold hj, rfl, rfl, fun _ => rfl⟩⟩
      · intro j v v' n p m r hj hj' hnone hr
        obtain rfl := Option.some.inj ((hold hj).symm.trans hj')
        exact nomatch hnone.symm.trans hr
      · obtain rfl := Option.some.inj (hlast.symm.trans hw)
        rcases hs.removed n _ p hp with hk | he | ht
        · exact .inl (hpending.trans hk)
        · exact .inr (hc n p (hkey ▸ hp) hm he)
        · exact .inr ht

theorem endWait_cases (i : Nat) :
    s.endWait i = s ∧ (∀ w : Wait Client Payload, s.waits[i]? = some w → w.result.isSome →
      w.ended ≠ false) ∨
    ∃ w : Wait Client Payload, s.waits[i]? = some w ∧ w.result.isSome ∧ w.ended = false ∧
      s.endWait i = { s with
        handler := s.handler.pop w.key, waits := s.waits.set i { w with ended := true } } := by
  unfold endWait
  split
  next hnone => exact .inl ⟨rfl, fun w hw => nomatch hnone.symm.trans hw⟩
  next w hw =>
    split
    next h => exact .inr ⟨w, hw, h.1, h.2, rfl⟩
    next h =>
      refine .inl ⟨rfl, fun v hv hres hend => h ?_⟩
      obtain rfl := Option.some.inj (hw.symm.trans hv)
      exact ⟨hres, hend⟩

/-- The end of a wait that nothing else depends on. -/
theorem Inv.endWait (hs : s.Inv) {i : Nat} (hc : Orderly s (.endWait i)) :
    (s.endWait i).Inv ∧ Faithful s (s.endWait i) := by
  rcases s.endWait_cases i with ⟨heq, -⟩ | ⟨w, hw, hres, hend, heq⟩
  · rw [heq]
    exact ⟨hs, hs.faithful_refl⟩
  · rw [heq]
    have hc := hc w
    have hmem : w ∈ s.waits := List.mem_of_getElem? hw
    have hresults : ∀ v ∈ s.waits.set i { w with ended := true }, ∀ m,
        v.result = some (.ok m) → (v.clientId, m) ∈ s.arrived ∧ m.inReplyTo = some v.requestId := by
      intro v hv m hm
      rcases List.mem_or_eq_of_mem_set hv with hv | rfl
      · exact hs.results v hv m hm
      · exact hs.results w hmem m hm
    refine ⟨⟨⟨fun key n hk => ?_, hs.handler.event⟩, hs.messages, hresults, fun v hv => ?_,
      fun n key p hp => ?_⟩, ⟨hresults, ?_, ?_, fun key n hk => ?_, ?_⟩⟩
    · have hk' : (s.handler.replyWaiters.erase w.key).get? key = some n := hk
      rw [Dict.get?_erase] at hk'
      split at hk'
      · cases hk'
      · exact hs.handler.registered key n hk'
    · rcases List.mem_or_eq_of_mem_set hv with hv | rfl
      · exact hs.pending v hv
      · rcases hs.pending w hmem with hreg | ⟨hnone, -⟩
        · exact .inl hreg
        · exact .inr ⟨hnone, rfl⟩
    · rcases hs.removed n key p hp with hk | he | ht
      · by_cases hkey : key = w.key
        · obtain ⟨hn, -⟩ := hc n hw hres hend (hkey ▸ hk)
          exact .inr (.inr ⟨_, List.mem_set (List.getElem?_eq_some_iff.1 hw).1 _, hn⟩)
        · left
          show (s.handler.replyWaiters.erase w.key).get? key = some n
          rw [Dict.get?_erase, if_neg hkey]
          exact hk
      · exact .inr (.inl he)
      · refine .inr (.inr (ht.of_set hw rfl ?_))
        rfl
    · intro j v v' n p m r hj hj' hnone hr
      by_cases hij : i = j
      · subst hij
        obtain rfl := Option.some.inj (hw.symm.trans hj)
        rw [hnone] at hres
        cases hres
      · rw [List.getElem?_set_ne hij] at hj'
        obtain rfl := Option.some.inj (hj.symm.trans hj')
        rw [hnone] at hr
        cases hr
    · intro v n p hv
      rw [List.getElem?_eq_none (Nat.le_of_eq List.length_set)] at hv
      cases hv
    · by_cases hkey : key = w.key
      · obtain ⟨hn, hothers⟩ := hc n hw hres hend (hkey ▸ hk)
        exact .inr (.inr ⟨i, w, _, hw, List.getElem?_set_self (List.getElem?_eq_some_iff.1 hw).1,
          hend, rfl, hn, hothers⟩)
      · left
        show (s.handler.replyWaiters.erase w.key).get? key = some n
        rw [Dict.get?_erase, if_neg hkey]
        exact hk
    · exact settled_of_set hw rfl rfl fun _ => rfl

theorem orderly_endWait (hs : s.Inv) {i : Nat} (hd : Faithful s (s.endWait i)) :
    Orderly s (.endWait i) := by
  intro w n hw hres hend hk
  rcases s.endWait_cases i with ⟨-, hno⟩ | ⟨w', hw', -, -, heq⟩
  · exact absurd hend (hno w hw hres)
  · obtain rfl := Option.some.inj (hw.symm.trans hw')
    rw [heq] at hd
    rcases hd.kept w.key n hk with hk' | ⟨p, hp, he⟩ | ⟨j, v, v', hv, hv', hvend, hvend', hvn, hall⟩
    · have hgone : (s.handler.replyWaiters.erase w.key).get? w.key = some n := hk'
      rw [Dict.get?_erase, if_pos rfl] at hgone
      cases hgone
    · obtain ⟨q, hq, hnone⟩ := hs.handler.registered _ n hk
      have hpq := (ReplyHandler.Registered.unique hq hp).2
      rw [hpq, hnone] at he
      cases he
    · by_cases hij : i = j
      · subst hij
        obtain rfl := Option.some.inj (hw.symm.trans hv)
        exact ⟨hvn, hall⟩
      · have hsame : v' = v := by
          rw [List.getElem?_set_ne hij] at hv'
          exact Option.some.inj (hv'.symm.trans hv)
        rw [hsame, hvend] at hvend'
        cases hvend'

/-- Every step that the condition allows is faithful, and keeps the invariant. -/
theorem Inv.step (hs : s.Inv) (a : ReplyAction Client Payload) (hc : Orderly s a) :
    (s.step a).Inv ∧ Faithful s (s.step a) := by
  have hsub : s.arrived ⊆ s.arrived := List.Subset.refl _
  cases a with
  | register clientId requestId =>
    exact hs.of_handler ReplyHandler.extends_registerPendingReply hs.handler.registerPendingReply
      hs.messages.registerPendingReply hsub
  | deliver clientId message =>
    exact hs.of_handler ReplyHandler.extends_deliverPendingReply hs.handler.deliverPendingReply
      (ReplyHandler.Genuine.deliverPendingReply hs.handler hs.messages) (List.subset_append_left _ _)
  | cancelClient clientId reason =>
    obtain ⟨hext, hw⟩ := ReplyHandler.WellFormed.cancelLocked reason _ hs.handler
    exact hs.of_handler hext hw (hs.messages.cancelLocked _) hsub
  | cancelAll reason =>
    obtain ⟨hext, hw⟩ := ReplyHandler.WellFormed.cancelLocked reason _ hs.handler
    exact hs.of_handler hext hw (hs.messages.cancelLocked _) hsub
  | beginWait clientId requestId =>
    obtain ⟨hinv, hiff⟩ := hs.beginWait clientId requestId
    exact ⟨hinv, hiff.2 hc⟩
  | wake i =>
    refine hs.decide fun p m hev hset => ?_
    unfold PendingReply.reply
    split
    next msg hmsg => simp [hmsg]
    next hnone => split <;> simp [hnone]
  | timeOut i =>
    refine hs.decide fun p m hev hset => ⟨nofun, fun hm => ?_⟩
    have := hset.2 (.inl (Option.isSome_iff_exists.2 ⟨m, hm⟩))
    rw [hev] at this
    cases this
  | endWait i => exact hs.endWait hc

theorem Inv.faithful_iff (hs : s.Inv) (a : ReplyAction Client Payload) :
    Faithful s (s.step a) ↔ Orderly s a := by
  refine ⟨fun hd => ?_, fun hc => (hs.step a hc).2⟩
  cases a with
  | beginWait clientId requestId => exact (hs.beginWait clientId requestId).2.1 hd
  | endWait i => exact orderly_endWait hs hd
  | _ => trivial

/-- The steps of a run are faithful exactly when they are orderly. -/
theorem faithful_iff_orderly (as : List (ReplyAction Client Payload)) :
    (∀ pre a post, as = pre ++ a :: post →
      Faithful (run ReplySystem.step {} pre) (run ReplySystem.step {} (pre ++ [a]))) ↔
    Meets ReplySystem.step Orderly {} as := by
  have hcongr : Meets ReplySystem.step (fun s a => Faithful s (s.step a)) {} as ↔
      Meets ReplySystem.step Orderly {} as := meets_congr
    (fun s a (hs : s.Inv) hd => (hs.step a ((hs.faithful_iff a).1 hd)).1)
    (fun s a hs => hs.faithful_iff a) inv_init
  rw [← hcongr, meets_iff_forall]
  simp only [run_append, run_cons, run_nil]

end Steps

/-! ## Two runs that lose a reply -/

/-- A reply to the request "r1". -/
def replyToR1 : ProtocolMessage Unit :=
  { msgType := .reply, requestId := "r2", payload := (), inReplyTo := some "r1" }

/-- The reply of client 7 is there, and the client is lost before the wait for it begins. -/
def repliedThenLost : List (ReplyAction Nat Unit) :=
  [.register 7 "r1", .deliver 7 replyToR1, .cancelClient 7 "client disconnected", .beginWait 7 "r1"]

/-- A wait is cancelled, its request is registered again, and the end of the wait removes that
registration: the reply has no waiter. -/
def registeredAgain : List (ReplyAction Nat Unit) :=
  [.register 7 "r1", .beginWait 7 "r1", .cancelClient 7 "client disconnected", .wake 0,
    .register 7 "r1", .endWait 0]

theorem reply_lost :
    (((run ReplySystem.step {} repliedThenLost).waits.map (·.result)) =
        [some (.error "reply not found")] ∧
      ¬ ∀ pre a post, repliedThenLost = pre ++ a :: post →
        Faithful (run ReplySystem.step {} pre) (run ReplySystem.step {} (pre ++ [a]))) ∧
    (((run ReplySystem.step {} registeredAgain).handler.replyWaiters.get? (7, "r1")) = none ∧
      ¬ ∀ pre a post, registeredAgain = pre ++ a :: post →
        Faithful (run ReplySystem.step {} pre) (run ReplySystem.step {} (pre ++ [a]))) := by
  refine ⟨⟨by decide +kernel, fun h => ?_⟩, by decide +kernel, fun h => ?_⟩
  · have hstep := (h (repliedThenLost.take 3) _ [] rfl).found
    rcases hstep _ 0 (.cancelled (.delivered {} replyToR1) "client disconnected") rfl rfl rfl with
      hfound | ⟨w, hw, -⟩
    · cases hfound
    · cases hw
  · have hstep := (h (registeredAgain.take 5) _ [] rfl).kept (7, "r1") 1 (by decide +kernel)
    rcases hstep with hk | ⟨p, hp, he⟩ | ⟨i, w, w', hw, -, -, -, hn, -⟩
    · exact absurd hk (by decide +kernel)
    · have hfresh : (run ReplySystem.step {} registeredAgain).handler.Registered 1 (7, "r1") {} :=
        rfl
      obtain ⟨-, rfl⟩ := hfresh.unique hp
      cases he
    · have hnone : ∀ w ∈ (run ReplySystem.step {} (registeredAgain.take 5)).waits,
          w.pending ≠ some 1 := by decide +kernel
      exact hnone w (List.mem_of_getElem? hw) hn

end ReplySystem

end MultiDAQ.Common
