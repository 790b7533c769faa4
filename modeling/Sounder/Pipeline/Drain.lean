import Sounder.Pipeline.Shutdown

/-!
# Sounder - The recorders after Stop

{lit}`do_it` sends {lit}`Stop` to every recorder behind the tasks it handed
out.  A recorder takes the entries of its queue in order, records each task and
clears its slot's flag, and takes nothing after {lit}`Stop`.  No task a recorder
was handed is lost: after {lit}`Stop` the recorders can record everything
queued and take {lit}`Stop`, and then a slot's flag is set exactly when its
event is still in the message queue, which {lit}`do_it` never drains.

Main results:

- Theorem {lit}`reachable_stopQueued`: before {lit}`Stop` no recorder has
  finished; after it each recorder's queue is tasks followed by {lit}`Stop`
  until it takes {lit}`Stop`, and empty afterwards.
- Theorem {lit}`drained_or_step`: after {lit}`Stop` either every queue and
  every hand is empty, or some recorder can move, and the move lowers the work
  left.
- Theorem {lit}`reach_drained`: after {lit}`Stop` the recorders can finish.
- Theorem {lit}`recorders_finish`: on every accepted configuration, from every
  reachable state the run can complete its shutdown with every recorder
  finished, leaving claimed only the slots of the events in the message queue.
-/

namespace Sounder
namespace Pipeline

variable {S : Setup} {s s' : State}

/-! ## Stop at the end of every queue -/

/-- Where {lit}`Stop` is.  Before it is sent no recorder has finished; after
it, each recorder still has it at the end of its queue, behind tasks only, or
has taken it and has an empty queue. -/
structure StopQueued (s : State) : Prop where
  unfinished : s.phase ≠ .stopped → ∀ k, s.finished k = false
  queued : s.phase = .stopped → ∀ k r, s.recorders[k]? = some r →
    (s.finished k = false ∧ ∃ ts, r.queue = ts ++ [stopTask] ∧
        ∀ t ∈ ts, t.eventType = .kTaskRecord) ∨
      (s.finished k = true ∧ r.queue = [])

/-- The shape reads only the phase, the finished flags and the recorders. -/
theorem StopQueued.frame (hq : StopQueued s) (hp : s'.phase = s.phase)
    (hf : s'.finished = s.finished) (hr : s'.recorders = s.recorders) : StopQueued s' :=
  ⟨fun h => hf ▸ hq.unfinished (hp ▸ h), fun h => by rw [hf, hr]; exact hq.queued (hp ▸ h)⟩

/-- Before {lit}`Stop` the shape only asks that the finished flags be kept. -/
theorem StopQueued.unstopped (hq : StopQueued s) (hp : s.phase ≠ .stopped)
    (hp' : s'.phase ≠ .stopped) (hf : s'.finished = s.finished) : StopQueued s' :=
  ⟨fun _ => hf ▸ hq.unfinished hp, fun h => absurd h hp'⟩

/-- The head of a queue of tasks followed by {lit}`Stop` is a task, with tasks
and {lit}`Stop` behind it, or {lit}`Stop` itself, with nothing behind it. -/
theorem head_of_stop_last {t : RecordEventData} {rest ts : List RecordEventData}
    (hq : t :: rest = ts ++ [stopTask]) (hts : ∀ u ∈ ts, u.eventType = .kTaskRecord) :
    t.eventType = .kTaskRecord ∧
        (∃ ts', rest = ts' ++ [stopTask] ∧ ∀ u ∈ ts', u.eventType = .kTaskRecord) ∨
      t = stopTask ∧ rest = [] := by
  cases ts with
  | nil => exact .inr (List.cons.inj hq)
  | cons u ts' =>
    obtain ⟨rfl, rfl⟩ := List.cons.inj hq
    exact .inl ⟨hts _ (.head _), ts', rfl, fun v hv => hts v (.tail _ hv)⟩

theorem step_stopQueued {a : Action} (hi : SlotInv S s) (hq : StopQueued s)
    (h : step S s a = some s') : StopQueued s' := by
  cases a with
  | capture w ant => obtain ⟨-, -, -, -, -, rfl⟩ := capture_eq_some h; exact hq.frame rfl rfl rfl
  | publish w pos =>
    obtain ⟨_, -, ⟨-, rfl⟩ | ⟨-, rfl⟩⟩ := publish_eq_some h <;> exact hq.frame rfl rfl rfl
  | check =>
    obtain ⟨hp, ⟨-, -, rfl⟩ | ⟨-, rfl⟩⟩ := check_eq_some h <;>
      exact hq.unstopped (by simp [hp]) (by simp) rfl
  | dequeue n =>
    obtain ⟨hp, -, rfl⟩ := dequeue_eq_some h
    exact hq.unstopped (by simp [hp]) (by simp) rfl
  | dispatch =>
    obtain ⟨hp, ⟨-, rfl⟩ | ⟨_, _, -, ⟨_, -, rfl⟩ | ⟨_, -, rfl⟩⟩⟩ := dispatch_eq_some h <;>
      exact hq.unstopped (by simp [hp]) (by simp [hp]) rfl
  | join =>
    obtain ⟨hp, -, rfl⟩ := join_eq_some h
    exact hq.unstopped (by simp [hp]) (by simp) rfl
  | stop =>
    -- Stop goes behind the tasks of every queue
    obtain ⟨hp, rfl⟩ := stop_eq_some h
    refine ⟨fun h => absurd rfl h, fun _ k r' hr' => ?_⟩
    rw [List.getElem?_map, Option.map_eq_some'] at hr'
    obtain ⟨r, hr, rfl⟩ := hr'
    exact .inl ⟨hq.unfinished (by simp [hp]) k, r.queue, rfl,
      hi.tasks (by simp [hp]) r (List.getElem?_mem hr)⟩
  | take k =>
    obtain ⟨r, t, rest, hr, -, hqueue, hfin, hcase⟩ := take_eq_some h
    by_cases hp : s.phase = .stopped
    · obtain ⟨-, ts, hts, htasks⟩ := (hq.queued hp k r hr).resolve_right (by simp [hfin])
      have hhead := head_of_stop_last (hqueue.symm.trans hts) htasks
      rcases hcase with ⟨htask, rfl⟩ | ⟨hstop, rfl⟩
      · -- a task leaves the queue for the recorder's hand
        obtain ⟨-, ts', hrest, htasks'⟩ :=
          hhead.resolve_right fun ⟨ht, _⟩ => by simp [ht, stopTask] at htask
        refine ⟨fun h => absurd hp h, fun _ k' r' hr' => ?_⟩
        rcases getElem?_set_eq_some hr hr' with ⟨rfl, rfl⟩ | ⟨-, hr'⟩
        · exact .inl ⟨hfin, ts', hrest, htasks'⟩
        · exact hq.queued hp k' r' hr'
      · -- Stop is the last entry
        obtain ⟨-, hrest⟩ := hhead.resolve_left fun ⟨ht, _⟩ => by simp [ht] at hstop
        refine ⟨fun h => absurd hp h, fun _ k' r' hr' => ?_⟩
        rcases getElem?_set_eq_some hr hr' with ⟨rfl, rfl⟩ | ⟨hk, hr'⟩
        · exact .inr ⟨Function.update_same _ _ _, hrest⟩
        · dsimp only
          rw [Function.update_noteq (Ne.symm hk)]
          exact hq.queued hp k' r' hr'
    · -- before Stop every queued entry is a task
      have htask : t.eventType = .kTaskRecord :=
        hi.tasks hp r (List.getElem?_mem hr) t (by simp [hqueue])
      rcases hcase with ⟨-, rfl⟩ | ⟨hstop, -⟩
      · exact hq.unstopped hp hp rfl
      · simp [htask] at hstop
  | record k => obtain ⟨_, -, rfl⟩ := record_eq_some h; exact hq.frame rfl rfl rfl
  | clearRunning | raiseSignal => cases h; exact hq.frame rfl rfl rfl

theorem reachable_stopQueued (hq0 : ∀ r ∈ S.recorders, r.queue = []) (hs : Reachable S s) :
    StopQueued s :=
  @Reachable.invariant S StopQueued ⟨fun _ _ => rfl, fun h => by simp [Setup.initial] at h⟩
    (fun _ hr hsq h => step_stopQueued (reachable_slotInv hq0 hr).2 hsq h) _ hs

/-! ## The work left to the recorders -/

/-- What the recorders have left to do: at most two moves for each queued
entry (a take, then a record for a task) and one for each task in hand. -/
def pending (s : State) : Nat :=
  2 * (s.recorders.map fun r => r.queue.length).sum + s.recording.countP Option.isSome

/-- Every recorder has an empty queue and nothing in hand. -/
def Drained (s : State) : Prop :=
  (∀ r ∈ s.recorders, r.queue = []) ∧ ∀ t ∈ s.recording, t = none

theorem sum_set_add {l : List Nat} {k x y : Nat} (h : l[k]? = some y) :
    (l.set k x).sum + y = l.sum + x := by
  induction l generalizing k with
  | nil => simp at h
  | cons a l ih =>
    cases k with
    | zero =>
      obtain rfl : a = y := by simpa using h
      simp only [List.set_cons_zero, List.sum_cons]
      omega
    | succ k =>
      have := ih (by simpa using h)
      simp only [List.set_cons_succ, List.sum_cons]
      omega

theorem countP_set_add {α : Type} (p : α → Bool) {l : List α} {k : Nat} {a b : α}
    (h : l[k]? = some a) :
    (l.set k b).countP p + (if p a then 1 else 0) = l.countP p + (if p b then 1 else 0) := by
  obtain ⟨hk, rfl⟩ := List.getElem?_eq_some_iff.mp h
  have := List.boole_getElem_le_countP p l k hk
  rw [List.countP_set p l k b hk]
  omega

/-- A take moves a queued task into the recorder's hand, or drops {lit}`Stop`:
either way the work left falls. -/
theorem pending_take {k : Nat} (h : step S s (.take k) = some s') : pending s' < pending s := by
  obtain ⟨r, t, rest, hr, hrec, hqueue, -, hcase⟩ := take_eq_some h
  have hsum := @sum_set_add (s.recorders.map fun r => r.queue.length) k rest.length
    r.queue.length (by simp [hr])
  have hlen : r.queue.length = rest.length + 1 := by simp [hqueue]
  have hcount := @countP_set_add _ Option.isSome _ _ _ (some t) hrec
  simp only [Option.isSome_none, Option.isSome_some, if_true, Bool.false_eq_true, if_false,
    Nat.add_zero] at hcount
  rcases hcase with ⟨-, rfl⟩ | ⟨-, rfl⟩ <;>
    simp only [pending, List.map_set] <;> omega

/-- A record empties the recorder's hand. -/
theorem pending_record {k : Nat} (h : step S s (.record k) = some s') :
    pending s' < pending s := by
  obtain ⟨t, hrec, rfl⟩ := record_eq_some h
  have hcount := @countP_set_add _ Option.isSome _ _ _ none hrec
  simp only [Option.isSome_none, Option.isSome_some, if_true, Bool.false_eq_true, if_false,
    Nat.add_zero] at hcount
  simp only [pending]
  omega

/-- After {lit}`Stop`, either every recorder is drained, or one of them can take
the first entry of its queue or record the task in its hand. -/
theorem drained_or_step (hi : SlotInv S s) (hq : StopQueued s) (hp : s.phase = .stopped) :
    Drained s ∨ ∃ a s₁, step S s a = some s₁ ∧ pending s₁ < pending s := by
  by_cases hrec : ∃ (k : Nat) (t : RecordEventData), s.recording[k]? = some (some t)
  · -- a recorder records the task in its hand
    obtain ⟨k, t, hk⟩ := hrec
    obtain ⟨s₁, h⟩ : ∃ s₁, step S s (.record k) = some s₁ := by
      simp only [step, record, hk]
      exact ⟨_, rfl⟩
    exact .inr ⟨_, _, h, pending_record h⟩
  push_neg at hrec
  by_cases hqueue : ∃ r ∈ s.recorders, r.queue ≠ []
  · -- a recorder with an empty hand takes the first entry of its queue
    obtain ⟨r, hr, hne⟩ := hqueue
    obtain ⟨k, hk⟩ := List.mem_iff_getElem?.mp hr
    obtain ⟨hfin, -⟩ := (hq.queued hp k r hk).resolve_right fun h => hne h.2
    have hlt : k < s.recording.length :=
      hi.recording_length ▸ (List.getElem?_eq_some_iff.mp hk).1
    have hnone : s.recording[k]? = some none := by
      rw [List.getElem?_eq_getElem hlt]
      cases hx : s.recording[k] with
      | none => rfl
      | some t => exact absurd (hx ▸ List.getElem?_eq_getElem hlt) (hrec k t)
    obtain ⟨t, rest, hqr⟩ := List.exists_cons_of_ne_nil hne
    obtain ⟨s₁, h⟩ : ∃ s₁, step S s (.take k) = some s₁ := by
      simp only [step, take, hk, hnone, hqr, hfin, if_true]
      split <;> exact ⟨_, rfl⟩
    exact .inr ⟨_, _, h, pending_take h⟩
  · -- nothing is queued and nothing is in hand
    push_neg at hqueue
    refine .inl ⟨hqueue, fun c hc => ?_⟩
    obtain ⟨k, hk⟩ := List.mem_iff_getElem?.mp hc
    cases c with
    | none => rfl
    | some t => exact absurd hk (hrec k t)

/-- After {lit}`Stop` the recorders can take and record everything queued. -/
theorem reach_drained (hq0 : ∀ r ∈ S.recorders, r.queue = []) :
    ∀ n s, Reachable S s → s.phase = .stopped → pending s < n → ∃ s', Reach S s s' ∧ Drained s'
  | 0, _, _, _, hn => absurd hn (Nat.not_lt_zero _)
  | n + 1, s, hs, hp, hn => by
    rcases drained_or_step (reachable_slotInv hq0 hs).2 (reachable_stopQueued hq0 hs) hp with
      hd | ⟨a, s₁, h, hlt⟩
    · exact ⟨s, .refl s, hd⟩
    · have hp₁ : s₁.phase = .stopped := (stopped_step hp (reachable_workersIdle hs (.inr hp)) h).1
      obtain ⟨s', h', hd⟩ := reach_drained hq0 n s₁ (.tail _ hs h) hp₁ (by omega)
      exact ⟨s', Reach.trans (.tail _ (.refl s) h) h', hd⟩

/-- Once the recorders are drained after {lit}`Stop`, each has taken
{lit}`Stop`, and the claimed slots are those of the events left in the message
queue, one event each. -/
theorem drained_final (hq0 : ∀ r ∈ S.recorders, r.queue = []) (hs : Reachable S s)
    (hp : s.phase = .stopped) (hd : Drained s) :
    (∀ k < S.recorders.length, s.finished k = true) ∧
      ∀ j, (s.messageQueue.map EventData.data).count j = if s.inuse j then 1 else 0 := by
  obtain ⟨hc, hi⟩ := reachable_slotInv hq0 hs
  have hlen : s.recorders.length = S.recorders.length := by
    simpa using congrArg List.length hi.capacities
  refine ⟨fun k hk => ?_, fun j => ?_⟩
  · obtain ⟨r, hr⟩ : ∃ r, s.recorders[k]? = some r := ⟨_, List.getElem?_eq_getElem (by omega)⟩
    rcases (reachable_stopQueued hq0 hs).queued hp k r hr with ⟨-, ts, hts, -⟩ | ⟨hf, -⟩
    · simp [hd.1 r (List.getElem?_mem hr)] at hts
    · exact hf
  · have hw := reachable_workersIdle hs (.inr hp)
    have h₁ : capturedSlots s = [] := List.flatMap_eq_nil_iff.mpr fun c hc => by rw [hw c hc]; rfl
    have h₂ : queuedSlots s = [] := List.flatMap_eq_nil_iff.mpr fun r hr => by rw [hd.1 r hr]; rfl
    have h₃ : recordingSlots s = [] :=
      List.flatMap_eq_nil_iff.mpr fun t ht => by rw [hd.2 t ht]; rfl
    have h₄ : s.held = [] := hc (by simp [hp]) (by simp [hp])
    rw [← hi.count_eq j, count_inflight, h₁, h₂, h₃, h₄]
    simp

/-! ## The recorders finish on every accepted configuration -/

/-- On an accepted configuration with receive and recorder threads and at most
{lit}`kQueueSize` rings, from every reachable state the run can go on until
{lit}`Stop` is sent and every recorder has taken it, with an empty queue and
nothing in hand: every task handed to a recorder is recorded and its slot
released.  The slots still claimed are then those of the events left in the
message queue, one event each. -/
theorem recorders_finish {env : Platform} {input : ConfInput} {numCores : Nat} {cfg : Config}
    (h : Config.new env input numCores = .ok cfg) (hrx : 0 < cfg.rxThreadNum)
    (htask : 0 < cfg.taskThreadNum) (henv : env.rxThreadNum ≤ kQueueSize) :
    ∃ S, Setup.build env cfg = .ok S ∧ ∀ s, Reachable S s →
      ∃ s', Reach S s s' ∧ s'.phase = .stopped ∧ Drained s' ∧
        (∀ k < S.recorders.length, s'.finished k = true) ∧
        ∀ j, (s'.messageQueue.map EventData.data).count j = if s'.inuse j then 1 else 0 := by
  obtain ⟨S, hS, hwf⟩ := Setup.build_wellFormed_of_platform h hrx htask henv
  refine ⟨S, hS, fun s hs => ?_⟩
  obtain ⟨s₁, h₁, hp₁⟩ := shutdown_completes hwf hs
  have hs₁ : Reachable S s₁ := Reach.trans hs h₁
  obtain ⟨s', h', hd⟩ := reach_drained hwf.queue_eq_nil _ s₁ hs₁ hp₁ (Nat.lt_succ_self _)
  have hp' : s'.phase = .stopped :=
    (stopped_reach hp₁ (reachable_workersIdle hs₁ (.inr hp₁)) h').1
  exact ⟨s', Reach.trans h₁ h', hp', hd, drained_final hwf.queue_eq_nil (Reach.trans hs₁ h') hp' hd⟩

theorem recorders_finish_uneven :
    ∃ cfg, Config.new Platform.sample Config.unevenFramesInput 8 = .ok cfg ∧
      ∃ S, Setup.build Platform.sample cfg = .ok S ∧ ∀ s, Reachable S s →
        ∃ s', Reach S s s' ∧ s'.phase = .stopped ∧ Drained s' ∧
          (∀ k < S.recorders.length, s'.finished k = true) ∧
          ∀ j, (s'.messageQueue.map EventData.data).count j = if s'.inuse j then 1 else 0 :=
  let ⟨cfg, _, h, _, hrx, htask, _⟩ := unevenFramesInput_setup
  ⟨cfg, h, recorders_finish h hrx htask (by decide)⟩

end Pipeline

end Sounder
