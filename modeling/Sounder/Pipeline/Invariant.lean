import Sounder.Pipeline.Step
import Sounder.Config.Sizes

/-!
# Sounder - Slot accounting of the record pipeline

Every set flag of a ring stands for exactly one packet in flight, wherever it
is: captured by a receive worker and not yet published, waiting in the message
queue, in the bulk the dispatcher holds, queued as a task of its recorder, or
being recorded.  The accounting holds in every reachable state of every
interleaving.  Since a flag is a slot of one of the rings, it bounds the entries
in flight by the slots of the rings; with the capacities the code allocates and
at most {lit}`kQueueSize` rings, no enqueue on the message queue and no
{lit}`DispatchWork` fails.

Main results:

- Theorem {lit}`reachable_slotInv`: the slot accounting holds in every
  reachable state.
- Theorem {lit}`setFlagCount_eq`: the set flags count the packets in flight.
- Theorems {lit}`publish_room` and {lit}`dispatchEvent_isOk`: with the capacities
  the code allocates, a published event always has room and a dispatched event
  is always accepted by its recorder.
- Theorem {lit}`reachable_phase_ne_failed`: {lit}`do_it` never fails.
- Theorem {lit}`flags_count_packets_in_flight`: the accounting and the absence of
  failures on every accepted configuration with at most {lit}`kQueueSize` rings.
-/

namespace Sounder
namespace Pipeline

/-! ## Slots in flight -/

/-- The slot of the event a receive worker holds, if it holds one. -/
def eventSlot (c : Option EventData) : List Nat :=
  (c.map EventData.data).toList

/-- The slot of the task a recorder is recording, if it records one. -/
def recordingSlot (t : Option RecordEventData) : List Nat :=
  (t.map RecordEventData.data).toList

/-- The slots of the record tasks of a recorder queue; {lit}`Stop` has none. -/
def taskSlots (q : List RecordEventData) : List Nat :=
  (q.filter fun t => decide (t.eventType = .kTaskRecord)).map RecordEventData.data

@[simp]
theorem eventSlot_none : eventSlot none = [] := rfl
@[simp]
theorem eventSlot_some (e : EventData) : eventSlot (some e) = [e.data] := rfl
@[simp]
theorem recordingSlot_none : recordingSlot none = [] := rfl
@[simp]
theorem recordingSlot_some (t : RecordEventData) : recordingSlot (some t) = [t.data] := rfl

@[simp]
theorem taskSlots_append (p q : List RecordEventData) :
    taskSlots (p ++ q) = taskSlots p ++ taskSlots q := by
  simp [taskSlots]

@[simp]
theorem taskSlots_recordTask (rec : Recorder) (e : EventData) :
    taskSlots [recordTask rec e] = [e.data] := rfl

@[simp]
theorem taskSlots_stopTask : taskSlots [stopTask] = [] := rfl

theorem taskSlots_cons (t : RecordEventData) (q : List RecordEventData) :
    taskSlots (t :: q) = (if t.eventType = .kTaskRecord then [t.data] else []) ++ taskSlots q := by
  by_cases ht : t.eventType = .kTaskRecord <;> simp [taskSlots, ht]

/-- A queue of tasks only has a slot per entry. -/
theorem taskSlots_length {q : List RecordEventData} (h : ∀ t ∈ q, t.eventType = .kTaskRecord) :
    (taskSlots q).length = q.length := by
  have hq : q.filter (fun t => decide (t.eventType = .kTaskRecord)) = q :=
    List.filter_eq_self.mpr fun t ht => decide_eq_true (h t ht)
  rw [taskSlots, hq, List.length_map]

/-- The slots of the events the receive workers hold. -/
def capturedSlots (s : State) : List Nat :=
  s.captured.flatMap eventSlot

/-- The slots of the tasks queued at the recorders. -/
def queuedSlots (s : State) : List Nat :=
  s.recorders.flatMap fun r => taskSlots r.queue

/-- The slots of the tasks being recorded. -/
def recordingSlots (s : State) : List Nat :=
  s.recording.flatMap recordingSlot

/-- Every slot in flight, wherever its event or task is. -/
def inflight (s : State) : List Nat :=
  capturedSlots s ++ s.messageQueue.map EventData.data ++ s.held.map EventData.data ++
    queuedSlots s ++ recordingSlots s

/-- The set flags over all rings. -/
def setFlagCount (S : Setup) (s : State) : Nat :=
  ((List.range (S.rxThreadNum * S.recorder.rxThreadBuffSize)).filter s.inuse).length

theorem count_inflight (s : State) (j : Nat) :
    (inflight s).count j = (capturedSlots s).count j +
      (s.messageQueue.map EventData.data).count j + (s.held.map EventData.data).count j +
      (queuedSlots s).count j + (recordingSlots s).count j := by
  simp only [inflight, List.count_append]

/-- Replacing one entry of a list replaces its part of a {lean}`List.flatMap`. -/
theorem count_flatMap_set {α β : Type} [BEq β] (f : α → List β) (b : β) {l : List α} {i : Nat}
    {x : α} (y : α) (h : l[i]? = some x) :
    ((l.set i y).flatMap f).count b + (f x).count b = (l.flatMap f).count b + (f y).count b := by
  induction l generalizing i with
  | nil => simp at h
  | cons z zs ih =>
    cases i with
    | zero =>
      obtain rfl : z = x := by simpa using h
      simp only [List.set_cons_zero, List.flatMap_cons, List.count_append]
      omega
    | succ i =>
      simp only [List.set_cons_succ, List.flatMap_cons, List.count_append]
      have := ih (by simpa using h)
      omega

/-- Replacing one entry by one with the same image leaves the map unchanged. -/
theorem map_set_of_getElem? {α β : Type} (f : α → β) {l : List α} {i : Nat} {x : α}
    (h : l[i]? = some x) (y : α) (hf : f y = f x) : (l.set i y).map f = l.map f := by
  apply List.ext_getElem?
  intro n
  simp only [List.getElem?_map, List.getElem?_set]
  split
  · subst_vars
    simp [h, hf, (List.getElem?_eq_some_iff.mp h).1]
  · rfl

theorem flatMap_replicate_none {α β : Type} (n : Nat) {f : Option α → List β} (hf : f none = []) :
    (List.replicate n none).flatMap f = [] := by
  induction n with
  | zero => rfl
  | succ n ih => simp [List.replicate_succ, hf, ih]

/-- An event published at any position of a queue adds its slot to the queue's. -/
theorem count_insert (q : List EventData) (pos : Nat) (e : EventData) (j : Nat) :
    ((q.take pos ++ e :: q.drop pos).map EventData.data).count j =
      (q.map EventData.data).count j + if e.data = j then 1 else 0 := by
  conv_rhs => rw [← List.take_append_drop pos q]
  simp only [List.map_append, List.map_cons, List.count_append, List.count_cons, beq_iff_eq]
  omega

/-- The slot of event {lean}`w` of ring {lean}`w` lies among the rings' slots. -/
theorem ringSlot_lt {w W B c : Nat} (hw : w < W) (hc : c < B) : w * B + c < W * B :=
  calc w * B + c < (w + 1) * B := by rw [Nat.succ_mul]; omega
    _ ≤ W * B := Nat.mul_le_mul_right B hw

/-! ## The dispatcher's bulk -/

/-- The dispatcher holds events only while it hands them out, or after it
failed. -/
def HeldClear (s : State) : Prop :=
  s.phase ≠ .dispatching → s.phase ≠ .failed → s.held = []

theorem step_heldClear {S : Setup} {s s' : State} (a : Action) (hc : HeldClear s)
    (h : step S s a = some s') : HeldClear s' := by
  cases a with
  | check =>
    obtain ⟨hp, ⟨-, -, rfl⟩ | ⟨-, rfl⟩⟩ := check_eq_some h <;>
      exact fun _ _ => hc (by simp [hp]) (by simp [hp])
  | dequeue n => obtain ⟨-, -, rfl⟩ := dequeue_eq_some h; exact fun h' => absurd rfl h'
  | dispatch =>
    obtain ⟨hp, ⟨hh, rfl⟩ | ⟨_, _, -, ⟨_, -, rfl⟩ | ⟨_, -, rfl⟩⟩⟩ := dispatch_eq_some h
    · exact fun _ _ => hh
    · exact fun h' => absurd hp h'
    · exact fun _ h' => absurd rfl h'
  | join =>
    obtain ⟨hp, -, rfl⟩ := join_eq_some h
    exact fun _ _ => hc (by simp [hp]) (by simp [hp])
  | stop =>
    obtain ⟨hp, rfl⟩ := stop_eq_some h
    exact fun _ _ => hc (by simp [hp]) (by simp [hp])
  | capture _ _ | publish _ _ | take _ | record _ | clearRunning | raiseSignal =>
    obtain ⟨hp, hh, -, -⟩ := (step_dispatcher_or_frame h).resolve_left (by simp)
    exact fun h₁ h₂ => hh.trans (hc (hp ▸ h₁) (hp ▸ h₂))

/-! ## The slot invariant -/

/-- An event of the pipeline is a packet of an antenna of the run. -/
def EventOk (S : Setup) (e : EventData) : Prop :=
  e.eventType = .rxSymbol ∧ e.antId < S.totalAntennas

/-- The slot accounting of a run: the receive workers and recorders keep their
places, every flag is a slot of a ring, every set flag has exactly one packet in
flight and every clear flag none, the events in flight are packets of the run's
antennas, and until {lit}`Stop` the recorder queues hold only tasks. -/
structure SlotInv (S : Setup) (s : State) : Prop where
  captured_length : s.captured.length = S.rxThreadNum
  recording_length : s.recording.length = s.recorders.length
  capacities : s.recorders.map RecorderThread.queueCapacity =
    S.recorders.map RecorderThread.queueCapacity
  cursor_lt : 0 < S.recorder.rxThreadBuffSize → ∀ w, s.cursor w < S.recorder.rxThreadBuffSize
  inuse_lt : ∀ j, s.inuse j = true → j < S.rxThreadNum * S.recorder.rxThreadBuffSize
  count_eq : ∀ j, (inflight s).count j = if s.inuse j then 1 else 0
  captured_ok : ∀ e, some e ∈ s.captured → EventOk S e
  queue_ok : ∀ e ∈ s.messageQueue, EventOk S e
  held_ok : ∀ e ∈ s.held, EventOk S e
  tasks : s.phase ≠ .stopped → ∀ r ∈ s.recorders, ∀ t ∈ r.queue, t.eventType = .kTaskRecord

section Accounting

variable {S : Setup} {s s' : State}

/-- The count field for a successor that claims a free slot. -/
theorem count_eq_claim {j₀ : Nat} (hc : ∀ j, (inflight s).count j = if s.inuse j then 1 else 0)
    (hfree : s.inuse j₀ = false)
    (hs' : ∀ j, (inflight s').count j = (inflight s).count j + if j₀ = j then 1 else 0)
    (hinuse : s'.inuse = Function.update s.inuse j₀ true) :
    ∀ j, (inflight s').count j = if s'.inuse j then 1 else 0 := by
  intro j
  rw [hs', hc, hinuse]
  by_cases hj : j = j₀
  · subst hj
    simp [hfree]
  · simp [Function.update_noteq hj, Ne.symm hj]

/-- The count field for a successor that releases a slot in flight. -/
theorem count_eq_release {j₀ : Nat} (hc : ∀ j, (inflight s).count j = if s.inuse j then 1 else 0)
    (hs' : ∀ j, (inflight s').count j + (if j₀ = j then 1 else 0) = (inflight s).count j)
    (hinuse : s'.inuse = Function.update s.inuse j₀ false) :
    ∀ j, (inflight s').count j = if s'.inuse j then 1 else 0 := by
  intro j
  have h₁ := hs' j
  rw [hc] at h₁
  rw [hinuse]
  by_cases hj : j = j₀
  · subst hj
    simp only [ite_true, Function.update_same, Bool.false_eq_true, ite_false] at h₁ ⊢
    split at h₁ <;> omega
  · simpa [Function.update_noteq hj, Ne.symm hj] using h₁

/-- The count field for a successor that moves packets without touching a
flag. -/
theorem count_eq_move (hc : ∀ j, (inflight s).count j = if s.inuse j then 1 else 0)
    (hs' : ∀ j, (inflight s').count j = (inflight s).count j) (hinuse : s'.inuse = s.inuse) :
    ∀ j, (inflight s').count j = if s'.inuse j then 1 else 0 := fun j => by
  rw [hs', hc, hinuse]

/-- The accounting reads only the flags, the cursors, where the packets are and the
recorder queues: an action that keeps them, and does not undo {lit}`Stop`, keeps
it. -/
theorem SlotInv.frame (hi : SlotInv S s) (h₁ : s'.inuse = s.inuse) (h₂ : s'.cursor = s.cursor)
    (h₃ : s'.captured = s.captured) (h₄ : s'.messageQueue = s.messageQueue)
    (h₅ : s'.held = s.held) (h₆ : s'.recorders = s.recorders) (h₇ : s'.recording = s.recording)
    (hp : s'.phase ≠ .stopped → s.phase ≠ .stopped) : SlotInv S s' := by
  obtain ⟨⟩ := s'
  dsimp only at h₁ h₂ h₃ h₄ h₅ h₆ h₇ hp
  subst h₁ h₂ h₃ h₄ h₅ h₆ h₇
  exact ⟨hi.1, hi.2, hi.3, hi.4, hi.5, hi.6, hi.7, hi.8, hi.9, fun h => hi.tasks (hp h)⟩

/-- A released flag is still a slot of a ring. -/
theorem SlotInv.inuse_lt_release (hi : SlotInv S s) (j₀ : Nat) (j : Nat)
    (hj : Function.update s.inuse j₀ false j = true) :
    j < S.rxThreadNum * S.recorder.rxThreadBuffSize := by
  by_cases hj' : j = j₀
  · subst hj'
    simp at hj
  · rw [Function.update_noteq hj'] at hj
    exact hi.inuse_lt j hj

theorem capturedSlots_initial (S : Setup) : capturedSlots S.initial = [] :=
  flatMap_replicate_none _ rfl

theorem recordingSlots_initial (S : Setup) : recordingSlots S.initial = [] :=
  flatMap_replicate_none _ rfl

theorem queuedSlots_initial (hq : ∀ r ∈ S.recorders, r.queue = []) : queuedSlots S.initial = [] :=
  List.eq_nil_iff_forall_not_mem.mpr fun j hj => by
    obtain ⟨r, hr, hj⟩ := List.mem_flatMap.mp hj
    simp [hq r hr, taskSlots] at hj

theorem slotInv_initial (hq : ∀ r ∈ S.recorders, r.queue = []) : SlotInv S S.initial where
  captured_length := List.length_replicate _ _
  recording_length := List.length_replicate _ _
  capacities := rfl
  cursor_lt hB _ := hB
  inuse_lt _ h := absurd h (by simp [Setup.initial])
  count_eq j := by
    rw [count_inflight, capturedSlots_initial, queuedSlots_initial hq, recordingSlots_initial]
    rfl
  captured_ok _ h := absurd (List.eq_of_mem_replicate h) (by simp)
  queue_ok _ h := absurd h (List.not_mem_nil _)
  held_ok _ h := absurd h (List.not_mem_nil _)
  tasks _ r hr t ht := absurd ht (by simp [hq r hr])

theorem capture_slotInv {w ant : Nat} (hi : SlotInv S s) (h : capture S s w ant = some s') :
    SlotInv S s' := by
  obtain ⟨-, hw, hant, hB, hfree, rfl⟩ := capture_eq_some h
  have hwlt : w < S.rxThreadNum := hi.captured_length ▸ (List.getElem?_eq_some_iff.mp hw).1
  refine ⟨by simp [hi.captured_length], hi.recording_length, hi.capacities, fun _ w' => ?_,
    fun j hj => ?_, count_eq_claim hi.count_eq hfree (fun j => ?_) rfl, fun e he => ?_,
    hi.queue_ok, hi.held_ok, hi.tasks⟩
  · by_cases hw' : w' = w
    · subst hw'
      simp [Nat.mod_lt _ hB]
    · simp [Function.update_noteq hw', hi.cursor_lt hB w']
  · by_cases hj' : j = w * S.recorder.rxThreadBuffSize + s.cursor w
    · exact hj' ▸ ringSlot_lt hwlt (hi.cursor_lt hB w)
    · simp only [Function.update_noteq hj'] at hj
      exact hi.inuse_lt j hj
  · have hC := count_flatMap_set eventSlot j
      (some ⟨.rxSymbol, ant, w * S.recorder.rxThreadBuffSize + s.cursor w⟩) hw
    simp only [eventSlot_none, eventSlot_some, List.count_nil, List.count_singleton,
      beq_iff_eq] at hC
    simp only [count_inflight, capturedSlots, queuedSlots, recordingSlots]
    omega
  · rcases List.mem_or_eq_of_mem_set he with he | he
    · exact hi.captured_ok e he
    · cases he
      exact ⟨rfl, hant⟩

theorem publish_slotInv {w pos : Nat} (hi : SlotInv S s) (h : publish S s w pos = some s') :
    SlotInv S s' := by
  obtain ⟨e, he, hcases⟩ := publish_eq_some h
  have hC := fun j => count_flatMap_set eventSlot j none he
  simp only [eventSlot_none, eventSlot_some, List.count_nil, List.count_singleton,
    beq_iff_eq] at hC
  have hcap : ∀ e', some e' ∈ s.captured.set w none → EventOk S e' := fun e' he' =>
    (List.mem_or_eq_of_mem_set he').elim (hi.captured_ok e') (by simp)
  rcases hcases with ⟨-, rfl⟩ | ⟨-, rfl⟩
  · -- the queue has room: the event moves to the message queue
    refine ⟨by simp [hi.captured_length], hi.recording_length, hi.capacities, hi.cursor_lt,
      hi.inuse_lt, count_eq_move hi.count_eq (fun j => ?_) rfl, hcap, fun e' he' => ?_,
      hi.held_ok, hi.tasks⟩
    · have := hC j
      simp only [count_inflight, capturedSlots, queuedSlots, recordingSlots, count_insert]
      omega
    · rcases List.mem_append.mp he' with he' | he'
      · exact hi.queue_ok e' (List.mem_of_mem_take he')
      · rcases List.mem_cons.mp he' with rfl | he'
        · exact hi.captured_ok e' (List.getElem?_mem he)
        · exact hi.queue_ok e' (List.mem_of_mem_drop he')
  · -- the queue is full: the capture is dropped and its slot released
    refine ⟨by simp [hi.captured_length], hi.recording_length, hi.capacities, hi.cursor_lt,
      hi.inuse_lt_release e.data, count_eq_release hi.count_eq (fun j => ?_) rfl, hcap,
      hi.queue_ok, hi.held_ok, hi.tasks⟩
    have := hC j
    simp only [count_inflight, capturedSlots, queuedSlots, recordingSlots]
    omega

theorem dequeue_slotInv {n : Nat} (hi : SlotInv S s) (hc : HeldClear s)
    (h : dequeue s n = some s') : SlotInv S s' := by
  obtain ⟨hp, -, rfl⟩ := dequeue_eq_some h
  have hheld : s.held = [] := hc (by simp [hp]) (by simp [hp])
  refine ⟨hi.captured_length, hi.recording_length, hi.capacities, hi.cursor_lt, hi.inuse_lt,
    count_eq_move hi.count_eq (fun j => ?_) rfl, hi.captured_ok,
    fun e he => hi.queue_ok e (List.mem_of_mem_drop he),
    fun e he => hi.queue_ok e (List.mem_of_mem_take he), fun _ => hi.tasks (by simp [hp])⟩
  have := congrArg (fun q => (q.map EventData.data).count j)
    (List.take_append_drop n s.messageQueue)
  simp only [List.map_append, List.count_append] at this
  simp only [count_inflight, capturedSlots, queuedSlots, recordingSlots, hheld, List.map_nil,
    List.count_nil]
  omega

theorem dispatch_slotInv (hi : SlotInv S s) (h : dispatch S s = some s') : SlotInv S s' := by
  obtain ⟨hp, ⟨-, rfl⟩ | ⟨e, rest, hheld, ⟨rs, hrs, rfl⟩ | ⟨_, -, rfl⟩⟩⟩ := dispatch_eq_some h
  · exact hi.frame rfl rfl rfl rfl rfl rfl rfl fun _ => by simp [hp]
  · -- the event becomes a task of the recorder that owns its antenna
    have he : EventOk S e := hi.held_ok e (by simp [hheld])
    obtain ⟨r, hr, rfl⟩ := dispatchEvent_rxSymbol_eq_ok he.1 hrs
    have hQ := fun j => count_flatMap_set (fun r => taskSlots r.queue) j
      (r.enqueue [recordTask S.recorder e]) hr
    simp only [RecorderThread.enqueue_queue, taskSlots_append, taskSlots_recordTask,
      List.count_append, List.count_singleton, beq_iff_eq] at hQ
    refine ⟨hi.captured_length, by simp [hi.recording_length],
      (map_set_of_getElem? RecorderThread.queueCapacity hr (r.enqueue [recordTask S.recorder e])
        rfl).trans hi.capacities,
      hi.cursor_lt, hi.inuse_lt, count_eq_move hi.count_eq (fun j => ?_) rfl, hi.captured_ok,
      hi.queue_ok, fun e' he' => hi.held_ok e' (by simp [hheld, he']), fun _ r' hr' t ht => ?_⟩
    · have := hQ j
      simp only [count_inflight, capturedSlots, queuedSlots, recordingSlots, hheld, List.map_cons,
        List.count_cons, beq_iff_eq]
      omega
    · have hs : s.phase ≠ .stopped := by simp [hp]
      rcases List.mem_or_eq_of_mem_set hr' with hr' | rfl
      · exact hi.tasks hs r' hr' t ht
      · rcases (by simpa using ht : t ∈ r.queue ∨ t = recordTask S.recorder e) with ht | rfl
        · exact hi.tasks hs r (List.getElem?_mem hr) t ht
        · rfl
  · exact hi.frame rfl rfl rfl rfl rfl rfl rfl fun _ => by simp [hp]

theorem stop_slotInv (hi : SlotInv S s) (h : stop s = some s') : SlotInv S s' := by
  obtain ⟨-, rfl⟩ := stop_eq_some h
  have hQ : (s.recorders.map (RecorderThread.enqueue · [stopTask])).flatMap
      (fun r => taskSlots r.queue) = s.recorders.flatMap fun r => taskSlots r.queue := by
    simp [List.flatMap_map]
  refine ⟨hi.captured_length, by simp [hi.recording_length], ?_, hi.cursor_lt, hi.inuse_lt,
    count_eq_move hi.count_eq (fun j => ?_) rfl, hi.captured_ok, hi.queue_ok, hi.held_ok,
    fun h' => absurd rfl h'⟩
  · rw [List.map_map]
    exact hi.capacities
  · simp only [count_inflight, capturedSlots, queuedSlots, recordingSlots, hQ]

theorem take_slotInv {k : Nat} (hi : SlotInv S s) (h : take s k = some s') : SlotInv S s' := by
  obtain ⟨r, t, rest, hr, hrec, hq, -, hcases⟩ := take_eq_some h
  have hQ := fun j => count_flatMap_set (fun r => taskSlots r.queue) j { r with queue := rest } hr
  simp only [hq, taskSlots_cons, List.count_append] at hQ
  have htasks : s.phase ≠ .stopped → ∀ r' ∈ s.recorders.set k { r with queue := rest },
      ∀ t' ∈ r'.queue, t'.eventType = .kTaskRecord := fun hs r' hr' t' ht' => by
    rcases List.mem_or_eq_of_mem_set hr' with hr' | rfl
    · exact hi.tasks hs r' hr' t' ht'
    · exact hi.tasks hs r (List.getElem?_mem hr) t' (hq ▸ List.mem_cons_of_mem t ht')
  have hcap := (map_set_of_getElem? RecorderThread.queueCapacity hr { r with queue := rest }
    rfl).trans hi.capacities
  rcases hcases with ⟨ht, rfl⟩ | ⟨ht, rfl⟩
  · -- a task: its slot moves from the queue to the recording
    have hR := fun j => count_flatMap_set recordingSlot j (some t) hrec
    simp only [recordingSlot_none, recordingSlot_some, List.count_nil, List.count_singleton,
      beq_iff_eq] at hR
    refine ⟨hi.captured_length, by simp [hi.recording_length], hcap, hi.cursor_lt, hi.inuse_lt,
      count_eq_move hi.count_eq (fun j => ?_) rfl, hi.captured_ok, hi.queue_ok, hi.held_ok, htasks⟩
    have h₁ := hQ j
    have h₂ := hR j
    simp only [ht, if_true, List.count_singleton, beq_iff_eq] at h₁
    simp only [count_inflight, capturedSlots, queuedSlots, recordingSlots]
    omega
  · -- Stop: the recorder finishes and no slot moves
    refine ⟨hi.captured_length, by simp [hi.recording_length], hcap, hi.cursor_lt, hi.inuse_lt,
      count_eq_move hi.count_eq (fun j => ?_) rfl, hi.captured_ok, hi.queue_ok, hi.held_ok, htasks⟩
    have h₁ := hQ j
    simp only [ht, reduceCtorEq, if_false, List.count_nil] at h₁
    simp only [count_inflight, capturedSlots, queuedSlots, recordingSlots]
    omega

theorem record_slotInv {k : Nat} (hi : SlotInv S s) (h : record s k = some s') :
    SlotInv S s' := by
  obtain ⟨t, hrec, rfl⟩ := record_eq_some h
  have hR := fun j => count_flatMap_set recordingSlot j none hrec
  simp only [recordingSlot_none, recordingSlot_some, List.count_nil, List.count_singleton,
    beq_iff_eq] at hR
  refine ⟨hi.captured_length, by simp [hi.recording_length], hi.capacities, hi.cursor_lt,
    hi.inuse_lt_release t.data, count_eq_release hi.count_eq (fun j => ?_) rfl, hi.captured_ok,
    hi.queue_ok, hi.held_ok, hi.tasks⟩
  have := hR j
  simp only [count_inflight, capturedSlots, queuedSlots, recordingSlots]
  omega

/-- Every action keeps the accounting. -/
theorem step_slotInv {a : Action} (hi : SlotInv S s) (hc : HeldClear s)
    (h : step S s a = some s') : SlotInv S s' := by
  cases a with
  | capture w ant => exact capture_slotInv hi h
  | publish w pos => exact publish_slotInv hi h
  | check =>
    obtain ⟨hp, ⟨-, -, rfl⟩ | ⟨-, rfl⟩⟩ := check_eq_some h <;>
      exact hi.frame rfl rfl rfl rfl rfl rfl rfl fun _ => by simp [hp]
  | dequeue n => exact dequeue_slotInv hi hc h
  | dispatch => exact dispatch_slotInv hi h
  | join =>
    obtain ⟨hp, -, rfl⟩ := join_eq_some h
    exact hi.frame rfl rfl rfl rfl rfl rfl rfl fun _ => by simp [hp]
  | stop => exact stop_slotInv hi h
  | take k => exact take_slotInv hi h
  | record k => exact record_slotInv hi h
  | clearRunning => cases h; exact hi.frame rfl rfl rfl rfl rfl rfl rfl id
  | raiseSignal => cases h; exact hi.frame rfl rfl rfl rfl rfl rfl rfl id

/-- The accounting holds in every state of every run of a set-up whose recorders
start with empty queues. -/
theorem reachable_slotInv (hq : ∀ r ∈ S.recorders, r.queue = []) (hs : Reachable S s) :
    HeldClear s ∧ SlotInv S s :=
  @Reach.invariant S (fun s => HeldClear s ∧ SlotInv S s)
    (fun a hi h => ⟨step_heldClear a hi.1 h, step_slotInv hi.2 hi.1 h⟩) _ _ hs
    ⟨fun _ _ => rfl, slotInv_initial hq⟩
end Accounting

/-! ## Consequences -/

section Consequences

variable {S : Setup} {s : State}

theorem inflight_length (s : State) :
    (inflight s).length = (capturedSlots s).length + s.messageQueue.length + s.held.length +
      (queuedSlots s).length + (recordingSlots s).length := by
  simp only [inflight, List.length_append, List.length_map]

/-- A slot is in flight exactly when its flag is set. -/
theorem SlotInv.mem_inflight_iff (hi : SlotInv S s) (j : Nat) :
    j ∈ inflight s ↔ s.inuse j = true := by
  rw [← List.count_pos_iff, hi.count_eq j]
  split <;> simp_all

theorem mem_inflight_of_mem_messageQueue {e : EventData} (he : e ∈ s.messageQueue) :
    e.data ∈ inflight s := by
  simp only [inflight, List.mem_append]
  exact .inl (.inl (.inl (.inr (List.mem_map_of_mem _ he))))

/-- The set flags are exactly the slots in flight. -/
theorem setFlagCount_eq (hi : SlotInv S s) : setFlagCount S s = (inflight s).length := by
  have hnd : (inflight s).Nodup :=
    List.nodup_iff_count_le_one.mpr fun j => by rw [hi.count_eq j]; split <;> omega
  refine List.Perm.length_eq
    ((List.perm_ext_iff_of_nodup ((List.nodup_range _).filter _) hnd).mpr fun j => ?_)
  simp only [List.mem_filter, List.mem_range, hi.mem_inflight_iff]
  exact ⟨fun h => h.2, fun h => ⟨hi.inuse_lt j h, h⟩⟩

theorem setFlagCount_le (S : Setup) (s : State) :
    setFlagCount S s ≤ S.rxThreadNum * S.recorder.rxThreadBuffSize :=
  (List.length_filter_le _ _).trans (List.length_range _).le

/-- The packets in flight fit in {lit}`kQueueSize` rings. -/
theorem inflight_length_le (hwf : S.WellFormed) (hi : SlotInv S s) :
    (inflight s).length ≤ S.recorder.rxThreadBuffSize * kQueueSize :=
  calc (inflight s).length = setFlagCount S s := (setFlagCount_eq hi).symm
    _ ≤ S.rxThreadNum * S.recorder.rxThreadBuffSize := setFlagCount_le S s
    _ ≤ kQueueSize * S.recorder.rxThreadBuffSize := Nat.mul_le_mul_right _ hwf.rxThreadNum_le
    _ = S.recorder.rxThreadBuffSize * kQueueSize := Nat.mul_comm _ _

/-- A receive worker's event always finds room in the message queue. -/
theorem publish_room (hwf : S.WellFormed) (hi : SlotInv S s) {w : Nat} {e : EventData}
    (he : s.captured[w]? = some (some e)) :
    s.messageQueue.length < S.recorder.messageQueueCapacity := by
  have h₁ : 0 < (capturedSlots s).length := List.length_pos_of_mem
    (List.mem_flatMap.mpr ⟨some e, List.getElem?_mem he, List.mem_singleton_self e.data⟩ :
      e.data ∈ capturedSlots s)
  have h₂ := inflight_length_le hwf hi
  rw [inflight_length] at h₂
  rw [hwf.messageQueueCapacity_eq]
  omega

/-- Until {lit}`Stop`, the recorder that owns a held event's antenna always has
room for its task. -/
theorem dispatchEvent_isOk (hwf : S.WellFormed) (hi : SlotInv S s) (hs : s.phase ≠ .stopped)
    {e : EventData} {rest : List EventData} (hheld : s.held = e :: rest) :
    ∃ rs, dispatchEvent S.recorder S.threadAntennas s.recorders e = .ok rs := by
  have he := hi.held_ok e (by simp [hheld])
  have hlen : s.recorders.length = S.recorders.length := by
    simpa using congrArg List.length hi.capacities
  obtain ⟨r, hr⟩ : ∃ r, s.recorders[e.antId / S.threadAntennas]? = some r :=
    ⟨_, List.getElem?_eq_getElem (hlen ▸ hwf.owner_lt _ he.2)⟩
  have hcap : r.queueCapacity = S.recorder.rxThreadBuffSize * kQueueSize := by
    have hmem : r.queueCapacity ∈ S.recorders.map RecorderThread.queueCapacity := by
      rw [← hi.capacities]
      exact List.mem_map_of_mem _ (List.getElem?_mem hr)
    obtain ⟨r₀, hr₀, heq⟩ := List.mem_map.mp hmem
    rw [← heq, hwf.queueCapacity_eq r₀ hr₀]
  have hq : r.queue.length ≤ (queuedSlots s).length := by
    rw [← taskSlots_length (hi.tasks hs r (List.getElem?_mem hr))]
    exact (List.sublist_flatten_of_mem
      (List.mem_map_of_mem (fun r => taskSlots r.queue) (List.getElem?_mem hr))).length_le
  have h₂ := inflight_length_le hwf hi
  rw [inflight_length, hheld, List.length_cons] at h₂
  exact ⟨_, dispatchEvent_rxSymbol_isOk he.1
    (hwf.threadAntennas_pos (Nat.lt_of_le_of_lt (Nat.zero_le _) he.2)) hr (by omega)⟩

/-- Only a failed hand-out fails {lit}`do_it`. -/
theorem step_failed {s' : State} {a : Action} (h : step S s a = some s')
    (hf : s'.phase = .failed) :
    s.phase = .failed ∨ ∃ e rest err, s.held = e :: rest ∧
      dispatchEvent S.recorder S.threadAntennas s.recorders e = .error err := by
  cases a with
  | check => obtain ⟨-, ⟨-, -, rfl⟩ | ⟨-, rfl⟩⟩ := check_eq_some h <;> simp at hf
  | dequeue n => obtain ⟨-, -, rfl⟩ := dequeue_eq_some h; simp at hf
  | dispatch =>
    obtain ⟨-, ⟨-, rfl⟩ | ⟨e, rest, hheld, ⟨_, -, rfl⟩ | ⟨err, herr, rfl⟩⟩⟩ := dispatch_eq_some h
    · simp at hf
    · exact .inl hf
    · exact .inr ⟨e, rest, err, hheld, herr⟩
  | join => obtain ⟨-, -, rfl⟩ := join_eq_some h; simp at hf
  | stop => obtain ⟨-, rfl⟩ := stop_eq_some h; simp at hf
  | capture _ _ | publish _ _ | take _ | record _ | clearRunning | raiseSignal =>
    exact .inl (((step_dispatcher_or_frame h).resolve_left (by simp)).1 ▸ hf)

/-- A held event is being handed out, or {lit}`do_it` failed: either way the
recorders have not been sent {lit}`Stop`. -/
theorem HeldClear.phase_ne_stopped (hc : HeldClear s) {e : EventData} {rest : List EventData}
    (hheld : s.held = e :: rest) : s.phase ≠ .stopped := fun hp =>
  absurd (hc (by simp [hp]) (by simp [hp])) (by simp [hheld])

/-- With the capacities the code allocates, {lit}`do_it` never fails. -/
theorem reachable_phase_ne_failed (hwf : S.WellFormed) (hs : Reachable S s) :
    s.phase ≠ .failed :=
  @Reachable.invariant S (fun s => s.phase ≠ .failed) (by simp [Setup.initial])
    (fun _ hr hnf h hf => by
      rcases step_failed h hf with hf' | ⟨e, rest, err, hheld, herr⟩
      · exact hnf hf'
      · obtain ⟨hc, hi⟩ := reachable_slotInv hwf.queue_eq_nil hr
        obtain ⟨rs, hrs⟩ := dispatchEvent_isOk hwf hi (hc.phase_ne_stopped hheld) hheld
        rw [hrs] at herr
        cases herr) _ hs

end Consequences

/-! ## The accounting on an accepted configuration -/

section Accepted

variable {env : Platform} {input : ConfInput} {numCores : Nat} {cfg : Config}

theorem flags_count_packets_in_flight (h : Config.new env input numCores = .ok cfg)
    (hrx : 0 < cfg.rxThreadNum) (htask : 0 < cfg.taskThreadNum)
    (henv : env.rxThreadNum ≤ kQueueSize) :
    ∃ S, Setup.build env cfg = .ok S ∧ ∀ s, Reachable S s →
      setFlagCount S s = (capturedSlots s).length + s.messageQueue.length + s.held.length +
        (queuedSlots s).length + (recordingSlots s).length ∧
      s.phase ≠ .failed ∧
      (∀ (w : Nat) (e : EventData), s.captured[w]? = some (some e) →
        s.messageQueue.length < S.recorder.messageQueueCapacity) ∧
      (∀ (e : EventData) (rest : List EventData), s.held = e :: rest →
        ∃ rs, dispatchEvent S.recorder S.threadAntennas s.recorders e = .ok rs) := by
  have hq : cfg.rxThreadNum ≤ kQueueSize := by
    have := Config.rxThreadNum_le h
    simp only [kQueueSize] at henv ⊢
    omega
  obtain ⟨S, hS, hwf⟩ := Setup.build_wellFormed h hrx htask hq
  refine ⟨S, hS, fun s hs => ?_⟩
  obtain ⟨hc, hi⟩ := reachable_slotInv hwf.queue_eq_nil hs
  exact ⟨(setFlagCount_eq hi).trans (inflight_length s), reachable_phase_ne_failed hwf hs,
    fun _ _ he => publish_room hwf hi he,
    fun _ _ hheld => dispatchEvent_isOk hwf hi (hc.phase_ne_stopped hheld) hheld⟩

/-- The run of the two-cell configuration on eight cores: two rings of
{lit}`160` slots feed one recorder that owns both antennas. -/
theorem unevenFramesInput_setup :
    ∃ cfg S, Config.new Platform.sample Config.unevenFramesInput 8 = .ok cfg ∧
      Setup.build Platform.sample cfg = .ok S ∧ 0 < cfg.rxThreadNum ∧ 0 < cfg.taskThreadNum ∧
      S.rxThreadNum = 2 ∧ S.totalAntennas = 2 ∧ S.recorder.rxThreadBuffSize = 160 ∧
      S.recorder.messageQueueCapacity = 160 * kQueueSize := by
  have hr := @eq_ok_of_isSome _ _ (Config.readConf Config.unevenFramesInput) (by decide)
  obtain ⟨p, hp⟩ :=
    @composePilot_lts_isOk Platform.sample 64 16 7 0 0 64 "lts" rfl (by decide)
      Platform.sample_insertCompletes
  have ht : ((Config.readConf Config.unevenFramesInput).toOption.get
      (by decide)).getTotNumAntennas = .ok 2 :=
    eq_ok_of_toOption (by decide)
  obtain ⟨cfg, h, hbs, hspf, hrx, htask, ht⟩ : ∃ cfg,
      Config.new Platform.sample Config.unevenFramesInput 8 = .ok cfg ∧ cfg.bsPresent = true ∧
        cfg.schedule.symbolsPerFrame = 2 ∧ cfg.rxThreadNum = 2 ∧ cfg.taskThreadNum = 1 ∧
        cfg.getTotNumAntennas = .ok 2 :=
    ⟨_, Config.new_eq_of_readConf hr (by decide) hp, rfl, rfl, rfl, rfl,
      (Config.getTotNumAntennas_congr rfl rfl).trans ht⟩
  have hrec := @Recorder.new_eq_ok Platform.sample cfg _ (antPerRxThread_of_pos hbs (by omega) ht)
  refine ⟨cfg, _, h, Setup.build_eq hrec ht (by omega) (by omega), by omega, by omega, hrx, rfl,
    ?_, ?_⟩
  · show kSampleBufferFrameNum * cfg.schedule.symbolsPerFrame * (2 / cfg.rxThreadNum) = 160
    rw [hspf, hrx]
    rfl
  · show kSampleBufferFrameNum * cfg.schedule.symbolsPerFrame * (2 / cfg.rxThreadNum) *
      kQueueSize = 160 * kQueueSize
    rw [hspf, hrx]
    rfl

theorem flags_count_packets_in_flight_uneven :
    ∃ cfg, Config.new Platform.sample Config.unevenFramesInput 8 = .ok cfg ∧
      ∃ S, Setup.build Platform.sample cfg = .ok S ∧ ∀ s, Reachable S s →
        setFlagCount S s = (capturedSlots s).length + s.messageQueue.length + s.held.length +
          (queuedSlots s).length + (recordingSlots s).length ∧
        s.phase ≠ .failed ∧
        (∀ (w : Nat) (e : EventData), s.captured[w]? = some (some e) →
          s.messageQueue.length < S.recorder.messageQueueCapacity) ∧
        (∀ (e : EventData) (rest : List EventData), s.held = e :: rest →
          ∃ rs, dispatchEvent S.recorder S.threadAntennas s.recorders e = .ok rs) :=
  let ⟨cfg, _, h, _, hrx, htask, _⟩ := unevenFramesInput_setup
  ⟨cfg, h, flags_count_packets_in_flight h hrx htask (by decide)⟩

/-- The first capture of a run sets a flag while nothing is queued, held or
recorded. -/
theorem first_capture {S : Setup} (hq : ∀ r ∈ S.recorders, r.queue = [])
    (hw : 0 < S.rxThreadNum) (hT : 0 < S.totalAntennas) (hB : 0 < S.recorder.rxThreadBuffSize) :
    ∃ s, Reachable S s ∧ setFlagCount S s = 1 ∧ s.messageQueue = [] ∧ queuedSlots s = [] ∧
      recordingSlots s = [] := by
  obtain ⟨n, hn⟩ : ∃ n, S.rxThreadNum = n + 1 := ⟨_, (Nat.succ_pred_eq_of_pos hw).symm⟩
  obtain ⟨s, hs⟩ : ∃ s, capture S S.initial 0 0 = some s := by
    unfold capture
    rw [if_pos ⟨rfl, by simp [Setup.initial, hn], hT, hB, rfl⟩]
    exact ⟨_, rfl⟩
  have hr : Reachable S s := .tail (.capture 0 0) (.refl _) hs
  obtain ⟨-, -, -, -, -, hs'⟩ := capture_eq_some hs
  have hQ : queuedSlots s = [] := by rw [hs']; exact queuedSlots_initial hq
  have hR : recordingSlots s = [] := by rw [hs']; exact recordingSlots_initial S
  have hC : (capturedSlots s).length = 1 := by
    rw [hs']
    simp [capturedSlots, Setup.initial, hn, List.replicate_succ, flatMap_replicate_none]
  refine ⟨s, hr, ?_, by rw [hs']; rfl, hQ, hR⟩
  rw [setFlagCount_eq (reachable_slotInv hq hr).2, inflight_length, hC, hQ, hR, hs']
  rfl

/-- The flags do not count only the queued and recorded packets: after the
first capture of a run one flag is set and nothing is queued or recorded. -/
theorem flags_not_only_queued :
    ¬ ∀ (env : Platform) (input : ConfInput) (numCores : Nat) (cfg : Config) (S : Setup),
      Config.new env input numCores = .ok cfg → 0 < cfg.rxThreadNum → 0 < cfg.taskThreadNum →
      Setup.build env cfg = .ok S → ∀ s, Reachable S s →
        setFlagCount S s = s.messageQueue.length + (queuedSlots s).length +
          (recordingSlots s).length := by
  intro H
  obtain ⟨cfg, S, h, hb, hrx, htask, hW, hT, hB, -⟩ := unevenFramesInput_setup
  obtain ⟨s, hs, hflags, hmq, hq, hrec⟩ :=
    first_capture (Setup.build_queue_eq_nil hb) (by omega) (by omega) (by omega)
  have := H _ _ _ _ _ h hrx htask hb s hs
  rw [hflags, hmq, hq, hrec] at this
  cases this

end Accepted

end Pipeline

end Sounder
