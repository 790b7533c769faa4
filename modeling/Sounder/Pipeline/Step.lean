import Sounder.Recorder.Dispatch

/-!
# Sounder - The record pipeline as a transition system

A run of the recorder has three kinds of threads.  Each receive worker claims
the next slot of its ring, captures a packet into it, sets its flag and
publishes an {lit}`RxSymbol` event on the message queue.  The dispatcher of
{lit}`Recorder::do_it` loops while the configuration is running and no exit
signal was raised: it dequeues up to {lit}`KDequeueBulkSize` events and hands
each to its recorder; after the loop it clears {lit}`running`, joins the receive
workers and sends {lit}`Stop` to every recorder.  Each recorder takes its tasks
in order, records the packet and clears the slot's flag.

The receive workers and the recorder threads are not in the source; they are
modelled from the spec.  Their interleaving is free: a state steps by any
enabled action of any thread, and {lit}`running` and the exit signal may be
cleared or raised at any moment.  The message queue guarantees no order across
producers, so an event may be published at any position.

Main results:

- Definition {lean}`step`: the one-action transition of the pipeline.
- Theorems {lit}`capture_eq_some` to {lit}`record_eq_some`: the guard and the
  successor of each action, so that no invariant unfolds an action.
- Theorem {lit}`step_dispatcher_or_frame`: only the dispatcher's own actions move
  its phase, its bulk and its logs.
- Theorems {lit}`Reach.invariant` and {lit}`Reachable.invariant`: a property every
  action preserves holds along every run.
- Definition {lean}`Setup.build`: the parameters of a run, computed by the
  recorder's constructor and the set-up of {lit}`do_it` from a configuration.
- Theorem {lit}`Setup.build_wellFormed`: on an accepted configuration with
  receive and recorder threads and at most {lit}`kQueueSize` rings, the
  parameters have the capacities the code allocates and route every antenna.
-/

namespace Sounder
namespace Pipeline

/-! ## States and actions -/

/-- The parameters of a run: the recorder's rings and sizes, the number of
receive workers, the antennas, {lit}`thread_antennas` and the recorder threads
{lit}`do_it` starts. -/
structure Setup where
  recorder : Recorder
  rxThreadNum : Nat
  totalAntennas : Nat
  threadAntennas : Nat
  recorders : List RecorderThread

/-- Where the dispatcher thread of {lit}`do_it` is. -/
inductive Phase
  /-- About to test the loop condition. -/
  | checking
  /-- The condition held; about to dequeue a bulk. -/
  | dequeuing
  /-- Handing out the events of the dequeued bulk. -/
  | dispatching
  /-- Left the loop and cleared {lit}`running`; joining the receive workers. -/
  | exited
  /-- The receive workers are joined and the receiver released. -/
  | joined
  /-- {lit}`Stop` was sent to every recorder. -/
  | stopped
  /-- An exception left {lit}`do_it`. -/
  | failed
  deriving DecidableEq, Repr

/-- The receive workers run until {lit}`completeRecvThreads` joins them. -/
def Phase.receiving : Phase → Bool
  | .checking | .dequeuing | .dispatching | .exited => true
  | _ => false

/-- The state of a run.  Slots are numbered over all rings, slot {lit}`i` of
ring {lit}`w` being {lit}`w · rx_thread_buff_size_ + i`, as the event offsets
are.  {lean}`State.dequeued`, {lean}`State.sent` and {lean}`State.taken` are
logs the code does not keep: every event the dispatcher dequeued, every entry it
queued for each recorder, and every entry each recorder took from its queue. -/
structure State where
  inuse : Nat → Bool
  cursor : Nat → Nat
  /-- The event each receive worker has captured and not yet published. -/
  captured : List (Option EventData)
  messageQueue : List EventData
  /-- The events of the dequeued bulk not yet handed out. -/
  held : List EventData
  recorders : List RecorderThread
  /-- The task each recorder is recording. -/
  recording : List (Option RecordEventData)
  finished : Nat → Bool
  running : Bool
  exitSignal : Bool
  phase : Phase
  dequeued : List EventData
  sent : Nat → List RecordEventData
  taken : Nat → List RecordEventData

/-- The state when the dispatcher starts: every flag clear, every queue empty,
{lit}`running` set by the configuration. -/
def Setup.initial (S : Setup) : State where
  inuse _ := false
  cursor _ := 0
  captured := List.replicate S.rxThreadNum none
  messageQueue := []
  held := []
  recorders := S.recorders
  recording := List.replicate S.recorders.length none
  finished _ := false
  running := true
  exitSignal := false
  phase := .checking
  dequeued := []
  sent _ := []
  taken _ := []

/-- The actions of the threads of a run. -/
inductive Action
  | capture (w ant : Nat)
  | publish (w pos : Nat)
  | check
  | dequeue (n : Nat)
  | dispatch
  | join
  | stop
  | take (k : Nat)
  | record (k : Nat)
  | clearRunning
  | raiseSignal
  deriving DecidableEq, Repr

/-! ## Receive workers -/

/-- A receive worker with no unpublished event claims its next slot, when the
slot's flag is clear, and captures a packet of an antenna into it. -/
def capture (S : Setup) (s : State) (w ant : Nat) : Option State :=
  let slot := w * S.recorder.rxThreadBuffSize + s.cursor w
  if s.phase.receiving ∧ s.captured[w]? = some none ∧ ant < S.totalAntennas ∧
      0 < S.recorder.rxThreadBuffSize ∧ s.inuse slot = false then
    some { s with
      inuse := Function.update s.inuse slot true
      cursor := Function.update s.cursor w ((s.cursor w + 1) % S.recorder.rxThreadBuffSize)
      captured := s.captured.set w (some ⟨.rxSymbol, ant, slot⟩) }
  else none

/-- A receive worker publishes its event at position {lean}`pos` of the message
queue; on a full queue the capture is dropped and its slot released. -/
def publish (S : Setup) (s : State) (w pos : Nat) : Option State :=
  match s.captured[w]? with
  | some (some e) =>
    if s.messageQueue.length < S.recorder.messageQueueCapacity then
      some { s with
        captured := s.captured.set w none
        messageQueue := s.messageQueue.take pos ++ e :: s.messageQueue.drop pos }
    else
      some { s with
        captured := s.captured.set w none
        inuse := Function.update s.inuse e.data false }
  | _ => none

/-! ## The dispatcher -/

/-- The loop condition: {lit}`running` and no exit signal.  Leaving the loop
clears {lit}`running`. -/
def check (s : State) : Option State :=
  if s.phase = .checking then
    if s.running ∧ ¬s.exitSignal then some { s with phase := .dequeuing }
    else some { s with running := false, phase := .exited }
  else none

/-- {lit}`try_dequeue_bulk`: up to {lit}`KDequeueBulkSize` events from the front
of the message queue. -/
def dequeue (s : State) (n : Nat) : Option State :=
  if s.phase = .dequeuing ∧ n ≤ kDequeueBulkSize then
    some { s with
      held := s.messageQueue.take n
      messageQueue := s.messageQueue.drop n
      dequeued := s.dequeued ++ s.messageQueue.take n
      phase := .dispatching }
  else none

/-- The next event of the bulk goes through {lean}`dispatchEvent`; an exception
ends {lit}`do_it`.  An exhausted bulk returns to the loop condition. -/
def dispatch (S : Setup) (s : State) : Option State :=
  if s.phase = .dispatching then
    match s.held with
    | [] => some { s with phase := .checking }
    | e :: rest =>
      match dispatchEvent S.recorder S.threadAntennas s.recorders e with
      | .ok recorders =>
        some { s with
          recorders, held := rest
          sent := fun k => s.sent k ++ tasksFor S.recorder S.threadAntennas k [e] }
      | .error _ => some { s with phase := .failed }
  else none

/-- {lit}`completeRecvThreads`: once every receive worker has published its last
event, the workers are joined. -/
def join (s : State) : Option State :=
  if s.phase = .exited ∧ ∀ c ∈ s.captured, c = none then some { s with phase := .joined }
  else none

/-- Modelled from the spec: {lit}`RecorderThread::Stop` is not in the source.
The {lit}`kStop` event it hands the recorder after the queued tasks. -/
def stopTask : RecordEventData :=
  ⟨.kStop, 0, [], 0⟩

/-- {lit}`Stop` to every recorder. -/
def stop (s : State) : Option State :=
  if s.phase = .joined then
    some { s with
      recorders := s.recorders.map (RecorderThread.enqueue · [stopTask])
      sent := fun k => s.sent k ++ [stopTask]
      phase := .stopped }
  else none

/-! ## Recorders -/

/-- An idle recorder takes the first entry of its queue: a task to record, or
{lit}`Stop`, after which it takes nothing more. -/
def take (s : State) (k : Nat) : Option State :=
  match s.recorders[k]?, s.recording[k]? with
  | some r, some none =>
    match r.queue with
    | t :: rest =>
      if s.finished k = false then
        match t.eventType with
        | .kTaskRecord =>
          some { s with
            recorders := s.recorders.set k { r with queue := rest }
            recording := s.recording.set k (some t)
            taken := Function.update s.taken k (s.taken k ++ [t]) }
        | .kStop =>
          some { s with
            recorders := s.recorders.set k { r with queue := rest }
            finished := Function.update s.finished k true
            taken := Function.update s.taken k (s.taken k ++ [t]) }
      else none
    | [] => none
  | _, _ => none

/-- A recorder finishes its task and clears the slot's flag. -/
def record (s : State) (k : Nat) : Option State :=
  match s.recording[k]? with
  | some (some t) =>
    some { s with
      inuse := Function.update s.inuse t.data false
      recording := s.recording.set k none }
  | _ => none

/-- One action of one thread, or the configuration's {lit}`running` cleared, or
the exit signal raised. -/
def step (S : Setup) (s : State) : Action → Option State
  | .capture w ant => capture S s w ant
  | .publish w pos => publish S s w pos
  | .check => check s
  | .dequeue n => dequeue s n
  | .dispatch => dispatch S s
  | .join => join s
  | .stop => stop s
  | .take k => take s k
  | .record k => record s k
  | .clearRunning => some { s with running := false }
  | .raiseSignal => some { s with exitSignal := true }

/-! ## What each action does

One lemma per action gives its guard and its successor, so that the invariants
below never unfold an action. -/

section Inversion

variable {S : Setup} {s s' : State}

theorem capture_eq_some {w ant : Nat} (h : capture S s w ant = some s') :
    s.phase.receiving ∧ s.captured[w]? = some none ∧ ant < S.totalAntennas ∧
      0 < S.recorder.rxThreadBuffSize ∧
      s.inuse (w * S.recorder.rxThreadBuffSize + s.cursor w) = false ∧
      s' = { s with
        inuse := Function.update s.inuse (w * S.recorder.rxThreadBuffSize + s.cursor w) true
        cursor := Function.update s.cursor w ((s.cursor w + 1) % S.recorder.rxThreadBuffSize)
        captured := s.captured.set w
          (some ⟨.rxSymbol, ant, w * S.recorder.rxThreadBuffSize + s.cursor w⟩) } := by
  unfold capture at h
  dsimp only at h
  split at h
  · rename_i hg
    obtain ⟨h₁, h₂, h₃, h₄, h₅⟩ := hg
    cases h
    exact ⟨h₁, h₂, h₃, h₄, h₅, rfl⟩
  · cases h

theorem publish_eq_some {w pos : Nat} (h : publish S s w pos = some s') :
    ∃ e, s.captured[w]? = some (some e) ∧
      (s.messageQueue.length < S.recorder.messageQueueCapacity ∧
          s' = { s with
            captured := s.captured.set w none
            messageQueue := s.messageQueue.take pos ++ e :: s.messageQueue.drop pos } ∨
        S.recorder.messageQueueCapacity ≤ s.messageQueue.length ∧
          s' = { s with
            captured := s.captured.set w none
            inuse := Function.update s.inuse e.data false }) := by
  unfold publish at h
  split at h
  · rename_i e he
    refine ⟨e, he, ?_⟩
    split at h
    · cases h
      exact .inl ⟨‹_›, rfl⟩
    · cases h
      exact .inr ⟨Nat.le_of_not_lt ‹_›, rfl⟩
  · cases h

theorem check_eq_some (h : check s = some s') :
    s.phase = .checking ∧
      (s.running = true ∧ s.exitSignal = false ∧ s' = { s with phase := .dequeuing } ∨
        (s.running = false ∨ s.exitSignal = true) ∧
          s' = { s with running := false, phase := .exited }) := by
  unfold check at h
  split at h
  · refine ⟨‹_›, ?_⟩
    split at h
    · rename_i hc
      cases h
      exact .inl ⟨hc.1, by simpa using hc.2, rfl⟩
    · rename_i hc
      cases h
      have hc' : s.running = true → s.exitSignal = true := by simpa using hc
      cases hr : s.running
      · exact .inr ⟨.inl rfl, rfl⟩
      · exact .inr ⟨.inr (hc' hr), rfl⟩
  · cases h

theorem dequeue_eq_some {n : Nat} (h : dequeue s n = some s') :
    s.phase = .dequeuing ∧ n ≤ kDequeueBulkSize ∧
      s' = { s with
        held := s.messageQueue.take n
        messageQueue := s.messageQueue.drop n
        dequeued := s.dequeued ++ s.messageQueue.take n
        phase := .dispatching } := by
  unfold dequeue at h
  split at h
  · cases h
    exact ⟨‹_ ∧ _›.1, ‹_ ∧ _›.2, rfl⟩
  · cases h

theorem dispatch_eq_some (h : dispatch S s = some s') :
    s.phase = .dispatching ∧
      (s.held = [] ∧ s' = { s with phase := .checking } ∨
        ∃ e rest, s.held = e :: rest ∧
          ((∃ recorders, dispatchEvent S.recorder S.threadAntennas s.recorders e = .ok recorders ∧
              s' = { s with
                recorders, held := rest
                sent := fun k => s.sent k ++ tasksFor S.recorder S.threadAntennas k [e] }) ∨
            (∃ err, dispatchEvent S.recorder S.threadAntennas s.recorders e = .error err ∧
              s' = { s with phase := .failed }))) := by
  unfold dispatch at h
  split at h
  · refine ⟨‹_›, ?_⟩
    split at h
    · cases h
      exact .inl ⟨‹_›, rfl⟩
    · rename_i e rest hheld
      refine .inr ⟨e, rest, hheld, ?_⟩
      split at h
      · cases h
        exact .inl ⟨_, ‹_›, rfl⟩
      · cases h
        exact .inr ⟨_, ‹_›, rfl⟩
  · cases h

theorem join_eq_some (h : join s = some s') :
    s.phase = .exited ∧ (∀ c ∈ s.captured, c = none) ∧ s' = { s with phase := .joined } := by
  unfold join at h
  split at h
  · cases h
    exact ⟨‹_ ∧ _›.1, ‹_ ∧ _›.2, rfl⟩
  · cases h

theorem stop_eq_some (h : stop s = some s') :
    s.phase = .joined ∧
      s' = { s with
        recorders := s.recorders.map (RecorderThread.enqueue · [stopTask])
        sent := fun k => s.sent k ++ [stopTask]
        phase := .stopped } := by
  unfold stop at h
  split at h
  · cases h
    exact ⟨‹_›, rfl⟩
  · cases h

theorem take_eq_some {k : Nat} (h : take s k = some s') :
    ∃ r t rest, s.recorders[k]? = some r ∧ s.recording[k]? = some none ∧ r.queue = t :: rest ∧
      s.finished k = false ∧
      (t.eventType = .kTaskRecord ∧
          s' = { s with
            recorders := s.recorders.set k { r with queue := rest }
            recording := s.recording.set k (some t)
            taken := Function.update s.taken k (s.taken k ++ [t]) } ∨
        t.eventType = .kStop ∧
          s' = { s with
            recorders := s.recorders.set k { r with queue := rest }
            finished := Function.update s.finished k true
            taken := Function.update s.taken k (s.taken k ++ [t]) }) := by
  unfold take at h
  split at h
  · rename_i r hr hrec
    split at h
    · rename_i t rest hq
      split at h
      · refine ⟨r, t, rest, hr, hrec, hq, ‹_›, ?_⟩
        split at h
        · cases h
          exact .inl ⟨‹_›, rfl⟩
        · cases h
          exact .inr ⟨‹_›, rfl⟩
      · cases h
    · cases h
  · cases h

theorem record_eq_some {k : Nat} (h : record s k = some s') :
    ∃ t, s.recording[k]? = some (some t) ∧
      s' = { s with
        inuse := Function.update s.inuse t.data false
        recording := s.recording.set k none } := by
  unfold record at h
  split at h
  · cases h
    exact ⟨_, ‹_›, rfl⟩
  · cases h

/-- Only the dispatcher's own actions move it: every other action keeps its phase,
its bulk and its logs. -/
theorem step_dispatcher_or_frame {a : Action} (h : step S s a = some s') :
    (a = .check ∨ a = .dispatch ∨ a = .join ∨ a = .stop ∨ ∃ n, a = .dequeue n) ∨
      s'.phase = s.phase ∧ s'.held = s.held ∧ s'.dequeued = s.dequeued ∧ s'.sent = s.sent := by
  cases a with
  | capture w ant =>
    obtain ⟨-, -, -, -, -, rfl⟩ := capture_eq_some h
    exact .inr ⟨rfl, rfl, rfl, rfl⟩
  | publish w pos =>
    obtain ⟨_, -, ⟨-, rfl⟩ | ⟨-, rfl⟩⟩ := publish_eq_some h <;> exact .inr ⟨rfl, rfl, rfl, rfl⟩
  | take k =>
    obtain ⟨_, _, _, -, -, -, -, ⟨-, rfl⟩ | ⟨-, rfl⟩⟩ := take_eq_some h <;>
      exact .inr ⟨rfl, rfl, rfl, rfl⟩
  | record k =>
    obtain ⟨_, -, rfl⟩ := record_eq_some h
    exact .inr ⟨rfl, rfl, rfl, rfl⟩
  | clearRunning | raiseSignal => cases h; exact .inr ⟨rfl, rfl, rfl, rfl⟩
  | check | dispatch | join | stop | dequeue n => simp

end Inversion

/-- The states a run reaches from {lean}`s` by any interleaving of actions. -/
inductive Reach (S : Setup) : State → State → Prop
  | refl (s : State) : Reach S s s
  | tail {s s' s'' : State} (a : Action) : Reach S s s' → step S s' a = some s'' → Reach S s s''

/-- The states a run reaches from its start. -/
def Reachable (S : Setup) (s : State) : Prop :=
  Reach S S.initial s

/-- A property that holds at the start and that every action from a reachable
state preserves holds in every reachable state. -/
theorem Reachable.invariant {S : Setup} {P : State → Prop} (h0 : P S.initial)
    (hstep : ∀ {s s' : State} (a : Action), Reachable S s → P s → step S s a = some s' → P s')
    {s : State} (hs : Reachable S s) : P s := by
  unfold Reachable at hs
  induction hs with
  | refl => exact h0
  | tail a hr hst ih => exact hstep a hr ih hst

/-- A property every action preserves holds along every run. -/
theorem Reach.invariant {S : Setup} {P : State → Prop}
    (hstep : ∀ {s s' : State} (a : Action), P s → step S s a = some s' → P s')
    {s s' : State} (h : Reach S s s') (hs : P s) : P s' := by
  induction h with
  | refl => exact hs
  | tail a _ hst ih => exact hstep a ih hst

theorem Reach.trans {S : Setup} {s₁ s₂ s₃ : State} (h₁ : Reach S s₁ s₂) (h₂ : Reach S s₂ s₃) :
    Reach S s₁ s₃ := by
  induction h₂ with
  | refl => exact h₁
  | tail a _ hst ih => exact .tail a ih hst

/-- The state after a sequence of actions, when each is enabled in turn. -/
def run (S : Setup) (s : State) (as : List Action) : Option State :=
  as.foldlM (step S) s

/-- Running two sequences is running the second from where the first ends. -/
theorem run_append (S : Setup) (s : State) (as bs : List Action) :
    run S s (as ++ bs) = (run S s as).bind fun s' => run S s' bs := by
  simp only [run, List.foldlM_append]
  rfl

/-- A sequence of enabled actions is a run. -/
theorem Reach.of_run {S : Setup} {as : List Action} :
    ∀ {s s' : State}, run S s as = some s' → Reach S s s' := by
  induction as with
  | nil => intro s s' h; cases h; exact .refl s
  | cons a as ih =>
    intro s s' h
    simp only [run, List.foldlM_cons, Option.bind_eq_bind, Option.bind_eq_some] at h
    obtain ⟨s₁, h₁, h⟩ := h
    exact Reach.trans (.tail a (.refl s) h₁) (ih h)

/-! ## Parameters from a configuration -/

/-- The parameters of a run on a configuration: the recorder the constructor
builds (with its receiver built), the total antenna count, and the set-up of
{lit}`do_it`. -/
def Setup.build (env : Platform) (cfg : Config) : Except Failure Setup := do
  let rec ← Recorder.new env cfg (.ok ())
  let totalAntennas ← cfg.getTotNumAntennas
  let (threadAntennas, recorders) ← startRecorders cfg rec
  pure ⟨rec, cfg.rxThreadNum, totalAntennas, threadAntennas, recorders⟩

/-- The capacities the code allocates and the routing the set-up computes: the
message queue and every recorder queue hold {lit}`kQueueSize` rings' worth of
entries, at most {lit}`kQueueSize` rings feed them, and every antenna is routed
to an existing recorder. -/
structure Setup.WellFormed (S : Setup) : Prop where
  messageQueueCapacity_eq :
    S.recorder.messageQueueCapacity = S.recorder.rxThreadBuffSize * kQueueSize
  queueCapacity_eq : ∀ r ∈ S.recorders, r.queueCapacity = S.recorder.rxThreadBuffSize * kQueueSize
  queue_eq_nil : ∀ r ∈ S.recorders, r.queue = []
  rxThreadNum_le : S.rxThreadNum ≤ kQueueSize
  threadAntennas_pos : 0 < S.totalAntennas → 0 < S.threadAntennas
  owner_lt : ∀ ant < S.totalAntennas, ant / S.threadAntennas < S.recorders.length

/-- With its recorder built and its antennas counted, the set-up of a run with
receive and recorder threads. -/
theorem Setup.build_eq {env : Platform} {cfg : Config} {rec : Recorder} {t : Nat}
    (hrec : Recorder.new env cfg (.ok ()) = .ok rec) (ht : cfg.getTotNumAntennas = .ok t)
    (hrx : 0 < cfg.rxThreadNum) (htask : 0 < cfg.taskThreadNum) :
    Setup.build env cfg = .ok ⟨rec, cfg.rxThreadNum, t,
      (t + cfg.taskThreadNum - 1) / cfg.taskThreadNum,
      recorderThreads cfg.taskThreadNum ((t + cfg.taskThreadNum - 1) / cfg.taskThreadNum)
        (rec.rxThreadBuffSize * kQueueSize)⟩ := by
  simp only [Setup.build, hrec, ht, startRecorders_eq ht hrx (threadAntennas_eq htask), bind,
    Except.bind]
  rfl

/-- Every run starts with empty recorder queues. -/
theorem Setup.build_queue_eq_nil {env : Platform} {cfg : Config} {S : Setup}
    (h : Setup.build env cfg = .ok S) : ∀ r ∈ S.recorders, r.queue = [] := by
  simp only [Setup.build, bind_eq_ok] at h
  obtain ⟨_, -, _, -, ⟨_, _⟩, hs, h⟩ := h
  simp only [pure, Except.pure, Except.ok.injEq] at h
  subst h
  exact startRecorders_queue_eq_nil hs

/-- On an accepted configuration with receive and recorder threads and at most
{lit}`kQueueSize` rings, the run's parameters are computed and have the
capacities the code allocates. -/
theorem Setup.build_wellFormed {env : Platform} {input : ConfInput} {numCores : Nat}
    {cfg : Config} (h : Config.new env input numCores = .ok cfg) (hrx : 0 < cfg.rxThreadNum)
    (htask : 0 < cfg.taskThreadNum) (hq : cfg.rxThreadNum ≤ kQueueSize) :
    ∃ S, Setup.build env cfg = .ok S ∧ S.WellFormed := by
  obtain ⟨t, ht⟩ := Config.new_getTotNumAntennas_isOk h
  have hbuild := Setup.build_eq (@Recorder.new_eq_ok env cfg _
    (antPerRxThread_of_pos (Config.bsPresent_of_rxThreadNum_pos h hrx) hrx ht)) ht hrx htask
  refine ⟨_, hbuild, rfl, fun r hr => (mem_recorderThreads hr).2,
    Setup.build_queue_eq_nil hbuild, hq, fun ht0 => Nat.div_pos (by dsimp only at ht0; omega) htask,
    fun ant hant => ?_⟩
  dsimp only at hant ⊢
  have hpos : 0 < (t + cfg.taskThreadNum - 1) / cfg.taskThreadNum :=
    Nat.div_pos (by omega) htask
  simpa [recorderThreads] using
    (Nat.div_lt_iff_lt_mul hpos).mpr (by simpa [Nat.mul_comm] using lt_mul_ceil_div htask hant)

end Pipeline

end Sounder
