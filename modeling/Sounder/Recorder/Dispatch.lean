import Sounder.Recorder.Construct

/-!
# Sounder - The dispatch loop of the recorder

{lit}`Recorder::do_it` creates {lit}`task_thread_num_` recorder threads, each
owning {lit}`thread_antennas` consecutive antennas, and then loops: it dequeues
a bulk of events from the receive threads and hands each {lit}`RxSymbol` event,
as a record task, to the recorder owning its antenna.  The recorder threads are
not in the source; they are modelled from the spec as a shard and a bounded
input queue.

Main results:

- Theorem {lit}`threadAntennas_eq`: with at least one recorder thread,
  {lit}`thread_antennas` is the ceiling of the antennas over the threads.
- Theorem {lit}`dispatchEvent_eq_ok`: one dispatched event appends its task, if
  any, to its recorder's queue and to no other.
- Theorem {lit}`dispatchEvents_eq_ok`: a successful run over a sequence of events
  appends to each recorder's queue the tasks of its events, in order.
-/

namespace Sounder

/-! ## Events and recorder threads -/

/-- The event types of {lit}`Event_data` the dispatcher distinguishes:
{lit}`kEventRxSymbol` and any other. -/
inductive EventType
  | rxSymbol
  | other
  deriving DecidableEq, Repr

/-- {lit}`Event_data`: the type, the antenna and the slot offset of a captured
packet, the slot counted over all rings. -/
structure EventData where
  eventType : EventType
  antId : Nat
  data : Nat
  deriving DecidableEq, Repr

/-- {lit}`RecorderThread::RecordEventType`. -/
inductive RecordEventType
  | kTaskRecord
  | kStop
  deriving DecidableEq, Repr

/-- {lit}`RecorderThread::RecordEventData`: a task with the slot offset, the
rings and the slots per ring. -/
structure RecordEventData where
  eventType : RecordEventType
  data : Nat
  rxBuffer : List SampleBuffer
  rxBuffSize : Nat
  deriving DecidableEq, Repr

/-- Modelled from the spec: {lit}`RecorderThread` is not in the source.  A
recorder thread as the dispatcher sees it: its index, its antenna shard and its
bounded input queue. -/
structure RecorderThread where
  id : Nat
  antennaOffset : Nat
  numAntennas : Nat
  queueCapacity : Nat
  queue : List RecordEventData
  deriving DecidableEq, Repr

/-- A recorder thread with {lean}`tasks` appended to its queue. -/
def RecorderThread.enqueue (r : RecorderThread) (tasks : List RecordEventData) :
    RecorderThread :=
  { r with queue := r.queue ++ tasks }

@[simp]
theorem RecorderThread.enqueue_queue (r : RecorderThread) (tasks : List RecordEventData) :
    (r.enqueue tasks).queue = r.queue ++ tasks :=
  rfl

@[simp]
theorem RecorderThread.enqueue_queueCapacity (r : RecorderThread) (tasks : List RecordEventData) :
    (r.enqueue tasks).queueCapacity = r.queueCapacity :=
  rfl

@[simp]
theorem RecorderThread.enqueue_nil (r : RecorderThread) : r.enqueue [] = r := by
  simp [RecorderThread.enqueue]

@[simp]
theorem RecorderThread.enqueue_enqueue (r : RecorderThread) (a b : List RecordEventData) :
    (r.enqueue a).enqueue b = r.enqueue (a ++ b) := by
  simp [RecorderThread.enqueue]

/-- Modelled from the spec: {lit}`RecorderThread::DispatchWork` is not in the
source.  A non-blocking enqueue onto the bounded input queue, which fails
({lean}`none`) when the queue is full. -/
def RecorderThread.dispatchWork (r : RecorderThread) (task : RecordEventData) :
    Option RecorderThread :=
  if r.queue.length < r.queueCapacity then some (r.enqueue [task]) else none

theorem RecorderThread.dispatchWork_eq_some {r r' : RecorderThread} {task : RecordEventData}
    (h : r.dispatchWork task = some r') : r' = r.enqueue [task] := by
  unfold RecorderThread.dispatchWork at h
  split at h
  · exact (Option.some.inj h).symm
  · cases h

/-! ## Recorder set-up -/

/-- {lit}`thread_antennas`: the quotient of the antennas by the recorder
threads, plus one when there is a remainder; no recorder thread is a division by
zero. -/
def threadAntennas (totalAntennas recorderThreads : Nat) : Except Failure Nat :=
  if recorderThreads = 0 then .error .undefined
  else
    let threadAntennas := totalAntennas / recorderThreads
    .ok (if totalAntennas % recorderThreads ≠ 0 then threadAntennas + 1 else threadAntennas)

/-- The recorder threads the loop of {lit}`do_it` creates: recorder {lit}`i`
owns the antennas from {lit}`i · thread_antennas`, {lit}`thread_antennas` of
them, and starts with an empty queue of {lean}`queueCapacity` entries. -/
def recorderThreads (recorderThreads threadAntennas queueCapacity : Nat) :
    List RecorderThread :=
  (List.range recorderThreads).map fun i =>
    ⟨i, i * threadAntennas, threadAntennas, queueCapacity, []⟩

/-- A recorder thread starts with an empty queue of the given capacity. -/
theorem mem_recorderThreads {m a q : Nat} {r : RecorderThread} (hr : r ∈ recorderThreads m a q) :
    r.queue = [] ∧ r.queueCapacity = q := by
  obtain ⟨_, -, rfl⟩ := List.mem_map.mp hr
  exact ⟨rfl, rfl⟩

/-- The set-up of {lit}`Recorder::do_it`: the total antenna count and, with
receive threads, {lit}`thread_antennas` and the recorder threads; without
receive threads no recorder is created and {lit}`thread_antennas` stays
{lit}`0`. -/
def startRecorders (cfg : Config) (rec : Recorder) :
    Except Failure (Nat × List RecorderThread) := do
  let totalAntennas ← cfg.getTotNumAntennas
  if cfg.rxThreadNum > 0 then
    let a ← threadAntennas totalAntennas cfg.taskThreadNum
    pure (a, recorderThreads cfg.taskThreadNum a (rec.rxThreadBuffSize * kQueueSize))
  else pure (0, [])

/-- With receive threads, the set-up computes {lit}`thread_antennas` from the
total antenna count and starts the recorder threads with it. -/
theorem startRecorders_eq {cfg : Config} {rec : Recorder} {t a : Nat}
    (ht : cfg.getTotNumAntennas = .ok t) (hrx : 0 < cfg.rxThreadNum)
    (ha : threadAntennas t cfg.taskThreadNum = .ok a) :
    startRecorders cfg rec =
      .ok (a, recorderThreads cfg.taskThreadNum a (rec.rxThreadBuffSize * kQueueSize)) := by
  simp only [startRecorders, ht, bind, Except.bind, if_pos hrx, ha]
  rfl

/-- Every recorder thread the set-up starts has an empty queue. -/
theorem startRecorders_queue_eq_nil {cfg : Config} {rec : Recorder} {a : Nat}
    {rs : List RecorderThread} (h : startRecorders cfg rec = .ok (a, rs)) :
    ∀ r ∈ rs, r.queue = [] := by
  simp only [startRecorders, bind_eq_ok] at h
  obtain ⟨t, -, h⟩ := h
  split at h
  · simp only [bind_eq_ok, pure, Except.pure, Except.ok.injEq, Prod.mk.injEq] at h
    obtain ⟨_, -, -, rfl⟩ := h
    exact fun r hr => (mem_recorderThreads hr).1
  · simp only [pure, Except.pure, Except.ok.injEq, Prod.mk.injEq] at h
    obtain ⟨-, rfl⟩ := h
    exact fun r hr => absurd hr (List.not_mem_nil _)

/-- {lit}`⌈t / m⌉` as the quotient plus one on a remainder. -/
theorem ceil_div_eq {t m : Nat} (hm : 0 < m) :
    (t + m - 1) / m = if t % m ≠ 0 then t / m + 1 else t / m := by
  have hdm := Nat.div_add_mod t m
  have hlt := Nat.mod_lt t hm
  have hsplit : t + m - 1 = (t % m + m - 1) + m * (t / m) := by omega
  rw [hsplit, Nat.add_mul_div_left _ _ hm]
  split_ifs with hr
  · have hone : t % m + m - 1 = (t % m - 1) + 1 * m := by omega
    rw [hone, Nat.add_mul_div_right _ _ hm, Nat.div_eq_of_lt (by omega)]
    omega
  · rw [Nat.div_eq_of_lt (by omega)]
    omega

/-- With at least one recorder thread, {lit}`thread_antennas` is the ceiling of
the antennas over the threads. -/
theorem threadAntennas_eq {t m : Nat} (hm : 0 < m) :
    threadAntennas t m = .ok ((t + m - 1) / m) := by
  rw [threadAntennas, if_neg (by omega), ceil_div_eq hm]

/-- The ceiling times the threads covers every antenna. -/
theorem lt_mul_ceil_div {ant t m : Nat} (hm : 0 < m) (hant : ant < t) :
    ant < m * ((t + m - 1) / m) := by
  have := Nat.div_add_mod (t + m - 1) m
  have := Nat.mod_lt (t + m - 1) hm
  omega

/-- Below {lit}`m` shards of {lit}`a` antennas, the dispatcher's index
{lit}`ant / a` names a recorder thread, that thread's shard holds the antenna,
and no other shard does. -/
theorem recorderThreads_owner {m a q ant : Nat} (hlt : ant < m * a) :
    ∃ r, checkedAt (recorderThreads m a q) (ant / a) = .ok r ∧ r.antennaOffset ≤ ant ∧
      ant < r.antennaOffset + r.numAntennas ∧
      ∀ r' ∈ recorderThreads m a q, r'.antennaOffset ≤ ant →
        ant < r'.antennaOffset + r'.numAntennas → r' = r := by
  have ha : 0 < a := Nat.pos_of_ne_zero (by rintro rfl; simp at hlt)
  have hidx : ant / a < m := (Nat.div_lt_iff_lt_mul ha).mpr hlt
  refine ⟨⟨ant / a, ant / a * a, a, q, []⟩, ?_, Nat.div_mul_le_self ant a,
    Nat.lt_div_mul_add ha, ?_⟩
  · exact checkedAt_eq_ok.mpr (by simp [recorderThreads, hidx])
  · intro r' hr' hlo hhi
    obtain ⟨j, -, rfl⟩ := List.mem_map.mp hr'
    have hj : ant / a = j := Nat.div_eq_of_lt_le hlo (by rw [Nat.succ_mul]; exact hhi)
    rw [hj]

/-! ## Dispatch -/

/-- The record task the dispatcher makes of an event. -/
def recordTask (rec : Recorder) (event : EventData) : RecordEventData :=
  { eventType := .kTaskRecord, data := event.data, rxBuffer := rec.rxBuffer
    rxBuffSize := rec.rxThreadBuffSize }

/-- The tasks of recorder {lean}`k` among {lean}`events`: one per {lit}`RxSymbol`
event whose antenna the recorder owns, in order. -/
def tasksFor (rec : Recorder) (threadAntennas k : Nat) (events : List EventData) :
    List RecordEventData :=
  (events.filter fun e => e.eventType = .rxSymbol ∧ e.antId / threadAntennas = k).map
    (recordTask rec)

@[simp]
theorem tasksFor_nil (rec : Recorder) (a k : Nat) : tasksFor rec a k [] = [] :=
  rfl

theorem tasksFor_append (rec : Recorder) (a k : Nat) (l₁ l₂ : List EventData) :
    tasksFor rec a k (l₁ ++ l₂) = tasksFor rec a k l₁ ++ tasksFor rec a k l₂ := by
  simp [tasksFor]

/-- One event of a dequeued bulk: an {lit}`RxSymbol` event becomes a record task
for the recorder {lit}`ant_id / thread_antennas`, read through {lit}`at`, and a
failed enqueue is fatal; other events are skipped. -/
def dispatchEvent (rec : Recorder) (threadAntennas : Nat) (recorders : List RecorderThread)
    (event : EventData) : Except Failure (List RecorderThread) :=
  match event.eventType with
  | .rxSymbol =>
    if threadAntennas = 0 then .error .undefined
    else do
      let threadIndex := event.antId / threadAntennas
      let recorder ← checkedAt recorders threadIndex
      match recorder.dispatchWork (recordTask rec event) with
      | some recorder => pure (recorders.set threadIndex recorder)
      | none => throw (.runtimeError "Record task enqueue failed")
  | .other => pure recorders

/-- The events of one bulk, in order. -/
def dispatchEvents (rec : Recorder) (threadAntennas : Nat) (recorders : List RecorderThread)
    (events : List EventData) : Except Failure (List RecorderThread) :=
  events.foldlM (dispatchEvent rec threadAntennas) recorders

/-- The dispatch loop of {lit}`do_it` over the bulks it dequeued, in order. -/
def dispatchBulks (rec : Recorder) (threadAntennas : Nat) (recorders : List RecorderThread)
    (bulks : List (List EventData)) : Except Failure (List RecorderThread) :=
  bulks.foldlM (dispatchEvents rec threadAntennas) recorders

/-- Dispatching the bulks one after another is dispatching their events in
order. -/
theorem dispatchBulks_eq (rec : Recorder) (a : Nat) (bulks : List (List EventData)) :
    ∀ recorders, dispatchBulks rec a recorders bulks =
      dispatchEvents rec a recorders bulks.flatten := by
  induction bulks with
  | nil => intro _; rfl
  | cons bulk bulks ih =>
    intro recorders
    simp only [dispatchBulks, dispatchEvents, List.foldlM_cons, List.flatten_cons,
      List.foldlM_append] at ih ⊢
    congr 1
    funext rs
    exact ih rs

/-- One dispatched event appends its task, if it has one, to the queue of the
recorder owning its antenna and to no other. -/
theorem dispatchEvent_eq_ok {rec : Recorder} {a : Nat} {rs rs' : List RecorderThread}
    {e : EventData} (h : dispatchEvent rec a rs e = .ok rs') (k : Nat) :
    rs'[k]? = rs[k]?.map (RecorderThread.enqueue · (tasksFor rec a k [e])) := by
  unfold dispatchEvent at h
  cases hty : e.eventType with
  | other =>
    simp only [hty, pure, Except.pure, Except.ok.injEq] at h
    subst h
    cases rs[k]? <;> simp [tasksFor, hty]
  | rxSymbol =>
    simp only [hty] at h
    split at h
    · cases h
    simp only [bind_eq_ok] at h
    obtain ⟨r, hr, hfin⟩ := h
    have hget : rs[e.antId / a]? = some r := checkedAt_eq_ok.mp hr
    split at hfin
    · rename_i r' hw
      simp only [pure, Except.pure, Except.ok.injEq] at hfin
      subst hfin
      rw [RecorderThread.dispatchWork_eq_some hw]
      by_cases hk : e.antId / a = k
      · subst hk
        simp [List.getElem?_set, hget, tasksFor, hty, (List.getElem?_eq_some_iff.mp hget).1]
      · simp [List.getElem?_set, hk, tasksFor, hty]
    · cases hfin

/-- An {lit}`RxSymbol` event is dispatched exactly by appending its task to the
recorder the index names. -/
theorem dispatchEvent_rxSymbol_eq_ok {rec : Recorder} {a : Nat} {rs rs' : List RecorderThread}
    {e : EventData} (hty : e.eventType = .rxSymbol) (h : dispatchEvent rec a rs e = .ok rs') :
    ∃ r, rs[e.antId / a]? = some r ∧ rs' = rs.set (e.antId / a) (r.enqueue [recordTask rec e]) := by
  unfold dispatchEvent at h
  simp only [hty] at h
  split at h
  · cases h
  simp only [bind_eq_ok] at h
  obtain ⟨r, hr, hfin⟩ := h
  refine ⟨r, checkedAt_eq_ok.mp hr, ?_⟩
  split at hfin
  · rename_i r' hw
    simp only [pure, Except.pure, Except.ok.injEq] at hfin
    rw [← hfin, RecorderThread.dispatchWork_eq_some hw]
  · cases hfin

/-- An {lit}`RxSymbol` event whose recorder exists and has room is dispatched. -/
theorem dispatchEvent_rxSymbol_isOk {rec : Recorder} {a : Nat} {rs : List RecorderThread}
    {e : EventData} {r : RecorderThread} (hty : e.eventType = .rxSymbol) (ha : 0 < a)
    (hr : rs[e.antId / a]? = some r) (hroom : r.queue.length < r.queueCapacity) :
    dispatchEvent rec a rs e = .ok (rs.set (e.antId / a) (r.enqueue [recordTask rec e])) := by
  unfold dispatchEvent
  simp only [hty, if_neg (Nat.pos_iff_ne_zero.mp ha), bind, Except.bind,
    checkedAt_eq_ok.mpr hr, RecorderThread.dispatchWork, if_pos hroom]
  rfl

/-- A successful run over a sequence of events appends to each recorder's queue
exactly the tasks of its events, in order. -/
theorem dispatchEvents_eq_ok {rec : Recorder} {a : Nat} (events : List EventData) :
    ∀ {rs rs' : List RecorderThread}, dispatchEvents rec a rs events = .ok rs' →
      ∀ k : Nat, rs'[k]? = rs[k]?.map (RecorderThread.enqueue · (tasksFor rec a k events)) := by
  induction events with
  | nil =>
    intro rs rs' h k
    cases h
    cases rs[k]? <;> simp
  | cons e events ih =>
    intro rs rs' h k
    simp only [dispatchEvents, List.foldlM_cons, bind_eq_ok] at h
    obtain ⟨rs₁, h₁, h₂⟩ := h
    have hsplit :
        tasksFor rec a k (e :: events) = tasksFor rec a k [e] ++ tasksFor rec a k events :=
      tasksFor_append rec a k [e] events
    rw [ih h₂ k, dispatchEvent_eq_ok h₁ k, hsplit]
    cases rs[k]? <;> simp

/-- Over any bulks the dispatch loop dequeues, a run in which every dispatch
succeeds appends to each recorder's queue exactly the record tasks of the
{lit}`RxSymbol` events of its antennas, in dequeue order, each with the event's
offset and the recorder's rings. -/
theorem dispatch_loop_routes_tasks {rec : Recorder} {a : Nat} {rs rs' : List RecorderThread}
    {bulks : List (List EventData)} (h : dispatchBulks rec a rs bulks = .ok rs') (k : Nat) :
    rs'[k]? = rs[k]?.map (RecorderThread.enqueue · (tasksFor rec a k bulks.flatten)) := by
  rw [dispatchBulks_eq] at h
  exact dispatchEvents_eq_ok _ h k

theorem dispatch_loop_routes_tasks_sample :
    ∃ rs', dispatchBulks ⟨4, 144, []⟩ 2 (recorderThreads 2 2 144)
        [[⟨.rxSymbol, 3, 7⟩, ⟨.other, 0, 0⟩], [⟨.rxSymbol, 0, 1⟩, ⟨.rxSymbol, 2, 5⟩]] = .ok rs' ∧
      ∀ k, rs'[k]? = (recorderThreads 2 2 144)[k]?.map (RecorderThread.enqueue ·
        (tasksFor ⟨4, 144, []⟩ 2 k
          [⟨.rxSymbol, 3, 7⟩, ⟨.other, 0, 0⟩, ⟨.rxSymbol, 0, 1⟩, ⟨.rxSymbol, 2, 5⟩])) :=
  have h := @eq_ok_of_isSome _ _ (dispatchBulks ⟨4, 144, []⟩ 2 (recorderThreads 2 2 144)
    [[⟨.rxSymbol, 3, 7⟩, ⟨.other, 0, 0⟩], [⟨.rxSymbol, 0, 1⟩, ⟨.rxSymbol, 2, 5⟩]]) (by decide)
  ⟨_, h, dispatch_loop_routes_tasks h⟩

/-! ## Recorder shards of accepted configurations -/

namespace Recorder

open Config

variable {env : Platform} {input : ConfInput} {numCores : Nat} {cfg : Config}

/-- On an accepted configuration with receive threads and at least one recorder
thread, {lit}`do_it` sets up {lit}`⌈T / M⌉` antennas a recorder for the total
antenna count {lit}`T` and the {lit}`M` recorder threads, gives recorder
{lit}`i` the shard from {lit}`i · ⌈T / M⌉`, and routes every antenna below
{lit}`T` to a recorder that exists and is the one owner of the antenna. -/
theorem recorder_shards (h : Config.new env input numCores = .ok cfg) (hrx : 0 < cfg.rxThreadNum)
    (htask : 0 < cfg.taskThreadNum) (rec : Recorder) :
    ∃ t a rs, cfg.getTotNumAntennas = .ok t ∧ startRecorders cfg rec = .ok (a, rs) ∧
      a = (t + cfg.taskThreadNum - 1) / cfg.taskThreadNum ∧
      rs.map (fun r => (r.antennaOffset, r.numAntennas)) =
        (List.range cfg.taskThreadNum).map (fun i => (i * a, a)) ∧
      ∀ ant < t, ∃ r, checkedAt rs (ant / a) = .ok r ∧ r.antennaOffset ≤ ant ∧
        ant < r.antennaOffset + r.numAntennas ∧
        ∀ r' ∈ rs, r'.antennaOffset ≤ ant → ant < r'.antennaOffset + r'.numAntennas → r' = r := by
  obtain ⟨t, ht⟩ := new_getTotNumAntennas_isOk h
  refine ⟨t, _, _, ht, startRecorders_eq ht hrx (threadAntennas_eq htask), rfl,
    by simp [recorderThreads], fun ant hant => ?_⟩
  exact recorderThreads_owner (lt_mul_ceil_div htask hant)

/-- One cell of one SDR whose {lit}`"task_thread"` is {lit}`0`. -/
def zeroTaskThreadInput : ConfInput where
  baseStations := some
    { phy := { fftSize := some 64, cpSize := some 16, ofdmSymbolPerSubframe := some 7 }
      sdrId := [["S1"]]
      frameSchedule := ["BPUG"]
      taskThread := some 0 }

/-- The document with no recorder thread is accepted on an eight-core host of the
sample platform with one receive thread, and the set-up of {lit}`do_it` divides
by zero. -/
theorem zeroTaskThreadInput_accepted :
    ∃ cfg, Config.new Platform.sample zeroTaskThreadInput 8 = .ok cfg ∧ cfg.rxThreadNum = 1 ∧
      ∀ rec, startRecorders cfg rec = .error .undefined := by
  have hr := @eq_ok_of_isSome _ _ (readConf zeroTaskThreadInput) (by decide)
  obtain ⟨p, hp⟩ := @composePilot_lts_isOk Platform.sample 64 16 7 0 0 64 "lts" rfl (by decide)
    Platform.sample_insertCompletes
  exact ⟨_, new_eq_of_readConf hr (by decide) hp, rfl, fun _ => rfl⟩

theorem recorder_shards_calib :
    ∃ cfg, Config.new Platform.sample calibInput 8 = .ok cfg ∧ 0 < cfg.rxThreadNum ∧
      0 < cfg.taskThreadNum ∧
      ∃ t a rs, cfg.getTotNumAntennas = .ok t ∧ startRecorders cfg ⟨0, 0, []⟩ = .ok (a, rs) ∧
        a = (t + cfg.taskThreadNum - 1) / cfg.taskThreadNum ∧
        rs.map (fun r => (r.antennaOffset, r.numAntennas)) =
          (List.range cfg.taskThreadNum).map (fun i => (i * a, a)) ∧
        ∀ ant < t, ∃ r, checkedAt rs (ant / a) = .ok r ∧ r.antennaOffset ≤ ant ∧
          ant < r.antennaOffset + r.numAntennas ∧
          ∀ r' ∈ rs, r'.antennaOffset ≤ ant → ant < r'.antennaOffset + r'.numAntennas → r' = r :=
  let ⟨cfg, _, h, hrx, htask, _⟩ := calibInput_rings Platform.sample 8 Platform.sample_insertCompletes
  have hrx' : 0 < cfg.rxThreadNum := by omega
  have htask : 0 < cfg.taskThreadNum := by rw [htask]; decide
  ⟨cfg, h, hrx', htask, recorder_shards h hrx' htask ⟨0, 0, []⟩⟩

/-- The set-up does not always compute the shards: a {lit}`"task_thread"` of
{lit}`0` is accepted, and {lit}`do_it` then divides by zero. -/
theorem recorder_shards_not_total :
    ¬ ∀ (env : Platform) (input : ConfInput) (numCores : Nat) (cfg : Config) (rec : Recorder),
      Config.new env input numCores = .ok cfg → 0 < cfg.rxThreadNum →
      ∃ t a rs, cfg.getTotNumAntennas = .ok t ∧ startRecorders cfg rec = .ok (a, rs) ∧
        a = (t + cfg.taskThreadNum - 1) / cfg.taskThreadNum ∧
        rs.map (fun r => (r.antennaOffset, r.numAntennas)) =
          (List.range cfg.taskThreadNum).map (fun i => (i * a, a)) ∧
        ∀ ant < t, ∃ r, checkedAt rs (ant / a) = .ok r ∧ r.antennaOffset ≤ ant ∧
          ant < r.antennaOffset + r.numAntennas ∧
          ∀ r' ∈ rs, r'.antennaOffset ≤ ant → ant < r'.antennaOffset + r'.numAntennas → r' = r := by
  intro H
  obtain ⟨cfg, h, hrx, hstart⟩ := zeroTaskThreadInput_accepted
  obtain ⟨_, _, _, -, hok, -⟩ := H _ _ _ cfg ⟨0, 0, []⟩ h (by omega)
  rw [hstart] at hok
  cases hok

end Recorder

end Sounder
