import MultiDAQ.Server.ClientMetadata

/-!
# The history of the metadata

A change of the metadata of a client is made by one thread at a time, from the copy to the
publication. What is published is what has been written, and is made of what was published before
it, so that no change is lost; and the changes of a register follow each other.
-/

namespace MultiDAQ.Server

open MultiDAQ.Lib

variable {V : Type}

/-! ## The changes of a register -/

/-- The changes lead from one value to another, each from where the one before it has led. -/
def ChangesLead (value : Option V) : List (ConfigurationChange V) → Option V → Prop
  | [], last => value = last
  | change :: changes, last =>
    change.oldValue = value ∧ ChangesLead change.newValue changes last

theorem ChangesLead.append {changes : List (ConfigurationChange V)} {value last : Option V}
    (h : ChangesLead value changes last) {change : ConfigurationChange V}
    (hold : change.oldValue = last) : ChangesLead value (changes ++ [change]) change.newValue := by
  induction changes generalizing value with
  | nil =>
    cases h
    exact ⟨hold, rfl⟩
  | cons first changes ih => exact ⟨h.1, ih h.2⟩

namespace ClientMetadata

def changesOf (m : ClientMetadata V) (register : Nat) : List (ConfigurationChange V) :=
  m.configurationHistory.filter fun change => change.register = register

/-- The changes of every register lead from its initial value to its current one. -/
def Chained (m : ClientMetadata V) : Prop :=
  ∀ register, ChangesLead (m.initialValue register) (m.changesOf register) (m.currentValue register)

theorem chained_build (rc31 rc39 : Option V) : Chained (build rc31 rc39) := fun _ => rfl

theorem Chained.setSection {m : ClientMetadata V} (h : m.Chained) (name : MetadataSection)
    (data : SectionMetadata) : (m.setSection name data).Chained := h

theorem currentValue_recordChange (m : ClientMetadata V) (timestampUtcNs : Int) (register r : Nat)
    (newValue : Option V) : (m.recordChange timestampUtcNs register newValue).currentValue r =
      if r = register then newValue else m.currentValue r := by
  unfold currentValue recordChange
  dsimp only
  rw [Dict.get?_set]
  split
  · rfl
  · rfl

theorem changesOf_recordChange_of_ne {m : ClientMetadata V} {timestampUtcNs : Int}
    {register r : Nat} (hne : register ≠ r) (newValue : Option V) :
    (m.recordChange timestampUtcNs register newValue).changesOf r = m.changesOf r := by
  unfold changesOf recordChange
  simp [List.filter_append, hne]

theorem changesOf_recordChange_self (m : ClientMetadata V) (timestampUtcNs : Int) (register : Nat)
    (newValue : Option V) :
    (m.recordChange timestampUtcNs register newValue).changesOf register =
      m.changesOf register ++
        [{ timestampUtcNs, register, oldValue := m.currentValue register, newValue }] := by
  unfold changesOf recordChange
  simp [List.filter_append]

theorem Chained.recordChange {m : ClientMetadata V} (h : m.Chained) (timestampUtcNs : Int)
    (register : Nat) (newValue : Option V) :
    (m.recordChange timestampUtcNs register newValue).Chained := by
  intro r
  show ChangesLead (m.initialValue r) _ _
  rw [currentValue_recordChange]
  by_cases hr : r = register
  · subst hr
    rw [if_pos rfl, changesOf_recordChange_self]
    exact (h r).append rfl
  · rw [if_neg hr, changesOf_recordChange_of_ne (Ne.symm hr)]
    exact h r

end ClientMetadata

/-- A call makes chained metadata of chained metadata. -/
theorem MetadataCall.chained_update [DecidableEq V] {call : MetadataCall V} {nowNs : Int}
    {current : Option (ClientMetadata V)} {metadata : ClientMetadata V}
    (h : ∀ m, current = some m → m.Chained) (hupdate : call.update nowNs current = .ok metadata) :
    metadata.Chained := by
  cases call with
  | initializeClientMetadata rc31 rc39 =>
    cases current with
    | some => cases hupdate
    | none =>
      cases hupdate
      exact ClientMetadata.chained_build rc31 rc39
  | updateStreamMetadata | updateEventMetadata =>
    cases current with
    | none => cases hupdate
    | some m =>
      cases hupdate
      exact (h m rfl).setSection _ _
  | recordConfigurationChange register newValue timestampUtcNs =>
    dsimp only [update] at hupdate
    split at hupdate
    · split at hupdate
      · cases hupdate
      · next m =>
        split at hupdate
        · cases hupdate
        · cases hupdate
          exact (h m rfl).recordChange timestampUtcNs register newValue
    · cases hupdate

namespace MetadataService

variable {s : MetadataService V}

/-! ## Tasks -/

section Tasks

variable (thread t : Nat) (task : MetadataTask V) (clientId c : ClientId) (holder : Option Nat)

@[simp] theorem tasks_goto :
    (s.goto thread task).tasks t = if t = thread then task else s.tasks t :=
  Function.update_apply ..

@[simp] theorem tasks_setLock : (s.setLock clientId holder).tasks = s.tasks := rfl

@[simp] theorem transactionLocks_setLock : (s.setLock clientId holder).transactionLocks c =
    if c = clientId then holder else s.transactionLocks c := Function.update_apply ..

end Tasks

/-- The thread holds the transaction lock of this client. -/
def Transacts (clientId : ClientId) : MetadataTask V → Prop
  | .writing c _ _ _ | .publishing c _ _ _ => c = clientId
  | _ => False

theorem transacts_writing {clientId : ClientId} {call : MetadataCall V} {nowNs : Int}
    {metadata : ClientMetadata V} {task : MetadataTask V}
    (h : task = .writing clientId call nowNs metadata) : Transacts clientId task := by
  rw [h]; rfl

theorem transacts_publishing {clientId : ClientId} {call : MetadataCall V} {nowNs : Int}
    {metadata : ClientMetadata V} {task : MetadataTask V}
    (h : task = .publishing clientId call nowNs metadata) : Transacts clientId task := by
  rw [h]; rfl

variable [DecidableEq V]

/-! ## The published changes -/

/-- What the code does not keep: the calls that have been published for a client, and when. -/
abbrev PublishLog (V : Type) := ClientId → List (MetadataCall V × Int)

/-- The metadata that the calls make, one after the other. -/
def replay : List (MetadataCall V × Int) → Option (ClientMetadata V) → Option (ClientMetadata V)
  | [], current => current
  | (call, nowNs) :: calls, current =>
    replay calls (match call.update nowNs current with
      | .ok metadata => some metadata
      | .error _ => current)

theorem replay_append (calls calls' : List (MetadataCall V × Int))
    (current : Option (ClientMetadata V)) :
    replay (calls ++ calls') current = replay calls' (replay calls current) := by
  induction calls generalizing current with
  | nil => rfl
  | cons call calls ih => exact ih _

def noteTask (log : PublishLog V) : MetadataTask V → PublishLog V
  | .publishing clientId call nowNs _ =>
    Function.update log clientId (log clientId ++ [(call, nowNs)])
  | _ => log

def note (s : MetadataService V) (log : PublishLog V) : MetadataAction V → PublishLog V
  | .call _ _ _ => log
  | .advance thread _ _ => noteTask log (s.tasks thread)

def watch (x : MetadataService V × PublishLog V) (a : MetadataAction V) :
    MetadataService V × PublishLog V :=
  (x.1.step a, x.1.note x.2 a)

/-! ## The invariant -/

variable {log : PublishLog V}

structure Inv (s : MetadataService V) (log : PublishLog V) : Prop where
  /-- Only the thread that holds the lock is in a transaction. -/
  locked : ∀ thread clientId, Transacts clientId (s.tasks thread) →
    s.transactionLocks clientId = some thread
  writing : ∀ thread clientId call nowNs metadata,
    s.tasks thread = .writing clientId call nowNs metadata →
      call.update nowNs (s.clientMetadata.get? clientId) = .ok metadata
  publishing : ∀ thread clientId call nowNs metadata,
    s.tasks thread = .publishing clientId call nowNs metadata →
      call.update nowNs (s.clientMetadata.get? clientId) = .ok metadata ∧
        s.files clientId = some metadata
  settled : ∀ clientId, (∀ thread call nowNs metadata,
      s.tasks thread ≠ .publishing clientId call nowNs metadata) →
    s.clientMetadata.get? clientId = s.files clientId
  chained : ∀ clientId metadata, s.clientMetadata.get? clientId = some metadata →
    metadata.Chained
  replayed : ∀ clientId, s.clientMetadata.get? clientId = replay (log clientId) none

theorem inv_init : Inv ({} : MetadataService V) (fun _ => []) where
  locked _ _ h := h.elim
  writing _ _ _ _ _ h := by cases h
  publishing _ _ _ _ _ h := by cases h
  settled _ _ := rfl
  chained _ _ h := by cases h
  replayed _ := rfl

/-- Two threads are not in transactions of one client. -/
theorem Inv.transacts_unique (h : Inv s log) {thread t : Nat} {clientId : ClientId}
    (ht : Transacts clientId (s.tasks t)) (hthread : Transacts clientId (s.tasks thread)) :
    t = thread := by
  have hlock := h.locked t clientId ht
  rw [h.locked thread clientId hthread] at hlock
  exact (Option.some.inj hlock).symm

/-- A thread outside every transaction goes on outside of them. -/
theorem Inv.goto (h : Inv s log) {thread : Nat} {task : MetadataTask V}
    (hold : ∀ c, ¬Transacts c (s.tasks thread)) (hnew : ∀ c, ¬Transacts c task) :
    Inv (s.goto thread task) log where
  locked t c ht := by
    rw [tasks_goto] at ht
    split at ht
    · exact absurd ht (hnew c)
    · exact h.locked t c ht
  writing t c call nowNs metadata ht := by
    rw [tasks_goto] at ht
    split at ht
    · exact absurd (transacts_writing ht) (hnew c)
    · exact h.writing t c call nowNs metadata ht
  publishing t c call nowNs metadata ht := by
    rw [tasks_goto] at ht
    split at ht
    · exact absurd (transacts_publishing ht) (hnew c)
    · exact h.publishing t c call nowNs metadata ht
  settled c hc := by
    refine h.settled c fun t call nowNs metadata ht => ?_
    by_cases heq : t = thread
    · subst heq
      exact hold c (transacts_publishing ht)
    · exact hc t call nowNs metadata (by rw [tasks_goto, if_neg heq]; exact ht)
  chained := h.chained
  replayed := h.replayed

/-- The lock is taken by a thread that writes what it has made of the metadata. -/
theorem Inv.goto_writing (h : Inv s log) {thread : Nat} {clientId : ClientId}
    {call : MetadataCall V} {nowNs : Int} {metadata : ClientMetadata V}
    (hold : ∀ c, ¬Transacts c (s.tasks thread)) (hfree : s.transactionLocks clientId = none)
    (hupdate : call.update nowNs (s.clientMetadata.get? clientId) = .ok metadata) :
    Inv ((s.setLock clientId (some thread)).goto thread (.writing clientId call nowNs metadata))
      log where
  locked t c ht := by
    rw [tasks_goto, tasks_setLock] at ht
    show (s.setLock clientId (some thread)).transactionLocks c = some t
    rw [transactionLocks_setLock]
    split at ht
    · next heq =>
      obtain rfl : clientId = c := ht
      rw [if_pos rfl, heq]
    · have hlock := h.locked t c ht
      rw [if_neg]
      · exact hlock
      · rintro rfl
        rw [hfree] at hlock
        cases hlock
  writing t c call' nowNs' metadata' ht := by
    rw [tasks_goto, tasks_setLock] at ht
    split at ht
    · cases ht
      exact hupdate
    · exact h.writing t c call' nowNs' metadata' ht
  publishing t c call' nowNs' metadata' ht := by
    rw [tasks_goto, tasks_setLock] at ht
    split at ht
    · cases ht
    · exact h.publishing t c call' nowNs' metadata' ht
  settled c hc := by
    refine h.settled c fun t call' nowNs' metadata' ht => ?_
    by_cases heq : t = thread
    · subst heq
      exact hold c (transacts_publishing ht)
    · exact hc t call' nowNs' metadata' (by rw [tasks_goto, if_neg heq]; exact ht)
  chained := h.chained
  replayed := h.replayed

/-- A transaction is left without a change. -/
theorem Inv.leave (h : Inv s log) {thread : Nat} {clientId : ClientId} {success : Bool}
    (hthread : ∀ c, Transacts c (s.tasks thread) → c = clientId)
    (htransacts : Transacts clientId (s.tasks thread))
    (hsettled : s.clientMetadata.get? clientId = s.files clientId) :
    Inv (s.leave thread clientId success) log where
  locked t c ht := by
    rw [MetadataService.leave, tasks_goto, tasks_setLock] at ht
    show (s.setLock clientId none).transactionLocks c = some t
    rw [transactionLocks_setLock]
    split at ht
    · exact ht.elim
    · next hne =>
      rw [if_neg]
      · exact h.locked t c ht
      · rintro rfl
        exact hne (h.transacts_unique ht htransacts)
  writing t c call nowNs metadata ht := by
    rw [MetadataService.leave, tasks_goto, tasks_setLock] at ht
    split at ht
    · cases ht
    · exact h.writing t c call nowNs metadata ht
  publishing t c call nowNs metadata ht := by
    rw [MetadataService.leave, tasks_goto, tasks_setLock] at ht
    split at ht
    · cases ht
    · exact h.publishing t c call nowNs metadata ht
  settled c hc := by
    by_cases hcc : c = clientId
    · subst hcc
      exact hsettled
    · refine h.settled c fun t call nowNs metadata ht => ?_
      by_cases heq : t = thread
      · subst heq
        exact hcc (hthread c (transacts_publishing ht))
      · exact hc t call nowNs metadata
          (by rw [MetadataService.leave, tasks_goto, if_neg heq]; exact ht)
  chained := h.chained
  replayed := h.replayed

theorem Inv.write (h : Inv s log) {thread : Nat} {clientId : ClientId} {call : MetadataCall V}
    {nowNs : Int} {metadata : ClientMetadata V}
    (htask : s.tasks thread = .writing clientId call nowNs metadata) (writeOk : Bool) :
    Inv (s.write thread clientId call nowNs metadata writeOk) log := by
  have htransacts : Transacts clientId (s.tasks thread) := transacts_writing htask
  -- nobody else publishes metadata of this client
  have hsettled : s.clientMetadata.get? clientId = s.files clientId := by
    refine h.settled clientId fun t call' nowNs' metadata' ht => ?_
    obtain rfl := h.transacts_unique (transacts_publishing ht) htransacts
    rw [htask] at ht
    cases ht
  unfold MetadataService.write
  split
  · refine ⟨fun t c ht => ?_, fun t c call' nowNs' metadata' ht => ?_,
      fun t c call' nowNs' metadata' ht => ?_, fun c hc => ?_, h.chained, h.replayed⟩
    · rw [tasks_goto] at ht
      split at ht
      · next heq =>
        obtain rfl : clientId = c := ht
        rw [heq]
        exact h.locked thread clientId htransacts
      · exact h.locked t c ht
    · rw [tasks_goto] at ht
      split at ht
      · cases ht
      · exact h.writing t c call' nowNs' metadata' ht
    · show _ ∧ Function.update s.files clientId (some metadata) c = some metadata'
      rw [tasks_goto] at ht
      split at ht
      · cases ht
        exact ⟨h.writing thread clientId call nowNs metadata htask, Function.update_self ..⟩
      · next hne =>
        have hcc : c ≠ clientId := by
          rintro rfl
          exact hne (h.transacts_unique (transacts_publishing ht) htransacts)
        rw [Function.update_of_ne hcc]
        exact h.publishing t c call' nowNs' metadata' ht
    · have hcc : c ≠ clientId := by
        rintro rfl
        exact hc thread call nowNs metadata (by rw [tasks_goto, if_pos rfl])
      show s.clientMetadata.get? c = Function.update s.files clientId (some metadata) c
      rw [Function.update_of_ne hcc]
      refine h.settled c fun t call' nowNs' metadata' ht => ?_
      by_cases heq : t = thread
      · rw [heq, htask] at ht
        cases ht
      · exact hc t call' nowNs' metadata' (by rw [tasks_goto, if_neg heq]; exact ht)
  · refine h.leave (fun c ht => ?_) htransacts hsettled
    rw [htask] at ht
    exact ht.symm

theorem Inv.publish (h : Inv s log) {thread : Nat} {clientId : ClientId} {call : MetadataCall V}
    {nowNs : Int} {metadata : ClientMetadata V}
    (htask : s.tasks thread = .publishing clientId call nowNs metadata) :
    Inv (s.publish thread clientId metadata)
      (Function.update log clientId (log clientId ++ [(call, nowNs)])) := by
  have htransacts : Transacts clientId (s.tasks thread) := transacts_publishing htask
  obtain ⟨hupdate, hfile⟩ := h.publishing thread clientId call nowNs metadata htask
  have hget (c : ClientId) : (s.publish thread clientId metadata).clientMetadata.get? c =
      if c = clientId then some metadata else s.clientMetadata.get? c := Dict.get?_set ..
  have htasks (t : Nat) : (s.publish thread clientId metadata).tasks t =
      if t = thread then .returned true else s.tasks t := tasks_goto ..
  have hother {t : Nat} {c : ClientId} (hne : t ≠ thread) (ht : Transacts c (s.tasks t)) :
      c ≠ clientId := by
    rintro rfl
    exact hne (h.transacts_unique ht htransacts)
  refine ⟨fun t c ht => ?_, fun t c call' nowNs' metadata' ht => ?_,
    fun t c call' nowNs' metadata' ht => ?_, fun c hc => ?_, fun c metadata' hc => ?_,
    fun c => ?_⟩
  · rw [htasks] at ht
    show (s.setLock clientId none).transactionLocks c = some t
    rw [transactionLocks_setLock]
    split at ht
    · exact ht.elim
    · next hne =>
      rw [if_neg (hother hne ht)]
      exact h.locked t c ht
  · rw [htasks] at ht
    split at ht
    · cases ht
    · next hne =>
      rw [hget, if_neg (hother hne (transacts_writing ht))]
      exact h.writing t c call' nowNs' metadata' ht
  · rw [htasks] at ht
    split at ht
    · cases ht
    · next hne =>
      rw [hget, if_neg (hother hne (transacts_publishing ht))]
      exact h.publishing t c call' nowNs' metadata' ht
  · rw [hget]
    split
    · next heq => rw [heq]; exact hfile.symm
    · next hcc =>
      refine h.settled c fun t call' nowNs' metadata' ht => ?_
      by_cases heq : t = thread
      · subst heq
        rw [htask] at ht
        cases ht
        exact hcc rfl
      · exact hc t call' nowNs' metadata' (by rw [htasks, if_neg heq]; exact ht)
  · rw [hget] at hc
    split at hc
    · cases hc
      exact MetadataCall.chained_update (h.chained clientId) hupdate
    · exact h.chained c metadata' hc
  · rw [hget]
    split
    · next heq =>
      rw [heq, Function.update_self, replay_append, ← h.replayed clientId]
      simp only [replay, hupdate]
    · next hcc =>
      rw [Function.update_of_ne hcc]
      exact h.replayed c

theorem Inv.step (h : Inv s log) (a : MetadataAction V) : Inv (s.step a) (s.note log a) := by
  cases a with
  | call thread clientId call =>
    dsimp only [MetadataService.step, note]
    cases htask : s.tasks thread with
    | idle | returned =>
      exact h.goto (fun c ht => by rw [htask] at ht; exact ht) fun c ht => ht
    | called | writing | publishing => exact h
  | advance thread writeOk nowNs =>
    dsimp only [MetadataService.step, note]
    unfold MetadataService.advance
    cases htask : s.tasks thread with
    | idle | returned => exact h
    | called clientId call =>
      have hold (c : ClientId) : ¬Transacts c (s.tasks thread) := by rw [htask]; exact id
      dsimp only [noteTask]
      unfold MetadataService.begin
      split
      · exact h
      · next hfree =>
        split
        · exact h.goto hold fun c ht => ht
        · next hupdate => exact h.goto_writing hold hfree hupdate
    | writing clientId call nowNs metadata => exact h.write htask writeOk
    | publishing clientId call nowNs metadata => exact h.publish htask

/-! ## The metadata of a client -/

/-- What holds of the metadata of every client, for the calls published so far. -/
structure Consistent (s : MetadataService V) (log : PublishLog V) : Prop where
  /-- The file holds what is published, unless a transaction is between its write and its
  publication: then it holds what is to be published. -/
  file : ∀ clientId, s.clientMetadata.get? clientId = s.files clientId ∨
    ∃ thread call nowNs metadata, s.tasks thread = .publishing clientId call nowNs metadata ∧
      s.files clientId = some metadata
  /-- A write that fails changes neither. -/
  failed : ∀ thread clientId call nowNs metadata,
    s.tasks thread = .writing clientId call nowNs metadata → ∀ now,
      (s.step (.advance thread false now)).clientMetadata = s.clientMetadata ∧
        (s.step (.advance thread false now)).files = s.files
  /-- What is published is made by every published call, one after the other. -/
  updates : ∀ clientId, s.clientMetadata.get? clientId = replay (log clientId) none
  chained : ∀ clientId metadata, s.clientMetadata.get? clientId = some metadata →
    metadata.Chained

theorem Inv.consistent (h : Inv s log) : Consistent s log where
  file clientId := by
    by_cases hpublishing : ∃ thread call nowNs metadata,
        s.tasks thread = .publishing clientId call nowNs metadata
    · obtain ⟨thread, call, nowNs, metadata, ht⟩ := hpublishing
      exact .inr ⟨thread, call, nowNs, metadata, ht, (h.publishing _ _ _ _ _ ht).2⟩
    · refine .inl (h.settled clientId fun thread call nowNs metadata ht => ?_)
      exact hpublishing ⟨thread, call, nowNs, metadata, ht⟩
  failed thread clientId call nowNs metadata ht now := by
    dsimp only [MetadataService.step]
    unfold MetadataService.advance
    rw [ht]
    exact ⟨rfl, rfl⟩
  updates := h.replayed
  chained := h.chained

theorem metadata_consistent (as : List (MetadataAction V)) :
    Consistent (run watch ({}, fun _ => []) as).1 (run watch ({}, fun _ => []) as).2 := by
  have hstep (x : MetadataService V × PublishLog V) (a : MetadataAction V) (h : Inv x.1 x.2)
      (_ : True) : Inv (watch x a).1 (watch x a).2 := h.step a
  have hmeets : Meets watch (fun _ _ => True) ({}, fun _ => []) as :=
    meets_of_forall (fun _ _ => trivial) _
  have hinv := run_invariant (I := fun x => Inv x.1 x.2) hstep inv_init hmeets
  exact hinv.consistent

/-- The metadata of a client is written for the first time. -/
def firstWrite : List (MetadataAction Nat) :=
  [.call 0 [1] (.initializeClientMetadata none none), .advance 0 true 0, .advance 0 true 0]

/-- It is not yet published. -/
theorem file_ahead :
    ¬(run watch ({}, fun _ => []) firstWrite).1.clientMetadata.get? [1] =
      (run watch ({}, fun _ => []) firstWrite).1.files [1] := by
  decide

end MetadataService

end MultiDAQ.Server
