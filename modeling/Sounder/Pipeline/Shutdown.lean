import Sounder.Pipeline.Invariant

/-!
# Sounder - Shutdown of the record pipeline

{lit}`do_it` leaves its loop when {lit}`running` is cleared or the exit signal is
raised, clears {lit}`running`, joins the receive workers and sends {lit}`Stop` to
every recorder.  It does not drain the message queue.  What each recorder is
sent before {lit}`Stop` is exactly the tasks of the events the dispatcher
dequeued that it owns; the events still in the queue at that point are never
dequeued, and their slots stay claimed for the rest of the run.

Main results:

- Theorem {lit}`reachable_handedOut`: in every reachable state each recorder
  was sent the tasks of the dequeued events it owns, then {lit}`Stop` once sent.
- Theorem {lit}`reachable_received`: what was sent to each recorder is what it
  has taken followed by its queue.
- Theorem {lit}`stopped_reach`: after {lit}`Stop` only the recorders move.
- Theorem {lit}`stop_follows_dequeued_tasks`: what shutdown hands out, and what
  it leaves behind.
- Theorem {lit}`queued_at_stop`: a run can stop with an event in the queue.
- Theorem {lit}`shutdown_can_complete`: with the capacities the code allocates,
  every reachable state of a run can still reach {lit}`Stop`: the dispatcher
  hands out its bulk without failing and leaves its loop, and the join does not
  wait forever, since each receive worker can always publish its last capture.
-/

namespace Sounder
namespace Pipeline

variable {S : Setup} {s s' : State}

/-! ## The dispatcher's logs -/

/-- The logs agree with what the dispatcher handed out: the dequeued events are
the handed-out ones followed by the held bulk, and each recorder was sent the
tasks of the handed-out events it owns, followed by {lit}`Stop` once sent. -/
def HandedOut (S : Setup) (s : State) : Prop :=
  ∃ done, s.dequeued = done ++ s.held ∧
    ∀ k, s.sent k = tasksFor S.recorder S.threadAntennas k done ++
      if s.phase = .stopped then [stopTask] else []

/-- The logs read only the dequeued events, the bulk, what was sent and whether
{lit}`Stop` was sent. -/
theorem HandedOut.frame (hh : HandedOut S s) (h₁ : s'.dequeued = s.dequeued)
    (h₂ : s'.held = s.held) (h₃ : s'.sent = s.sent)
    (h₄ : s'.phase = .stopped ↔ s.phase = .stopped) :
    HandedOut S s' := by
  obtain ⟨done, hd, hsent⟩ := hh
  exact ⟨done, by rw [h₁, h₂, hd], fun k => by rw [h₃, hsent k]; simp only [h₄]⟩

theorem step_handedOut {a : Action} (hc : HeldClear s) (hh : HandedOut S s)
    (h : step S s a = some s') : HandedOut S s' := by
  cases a with
  | check =>
    obtain ⟨hp, ⟨-, -, rfl⟩ | ⟨-, rfl⟩⟩ := check_eq_some h <;>
      exact hh.frame rfl rfl rfl (by simp [hp])
  | dequeue n =>
    -- the bulk is taken from the front of the queue
    obtain ⟨hp, -, rfl⟩ := dequeue_eq_some h
    obtain ⟨done, hd, hsent⟩ := hh
    have hheld : s.held = [] := hc (by simp [hp]) (by simp [hp])
    exact ⟨done, by simp [hd, hheld], fun k => by simpa [hp] using hsent k⟩
  | dispatch =>
    obtain ⟨hp, ⟨-, rfl⟩ | ⟨e, rest, hheld, ⟨_, -, rfl⟩ | ⟨_, -, rfl⟩⟩⟩ := dispatch_eq_some h
    · exact hh.frame rfl rfl rfl (by simp [hp])
    · -- the first event of the bulk is handed out
      obtain ⟨done, hd, hsent⟩ := hh
      refine ⟨done ++ [e], by simp [hd, hheld], fun k => ?_⟩
      simpa [hp, tasksFor_append] using hsent k
    · exact hh.frame rfl rfl rfl (by simp [hp])
  | join =>
    obtain ⟨hp, -, rfl⟩ := join_eq_some h
    exact hh.frame rfl rfl rfl (by simp [hp])
  | stop =>
    -- the bulk is empty, and every recorder is sent Stop
    obtain ⟨hp, rfl⟩ := stop_eq_some h
    obtain ⟨done, hd, hsent⟩ := hh
    have hheld : s.held = [] := hc (by simp [hp]) (by simp [hp])
    refine ⟨done, by simpa [hheld] using hd, fun k => ?_⟩
    simpa [hp] using congrArg (· ++ [stopTask]) (hsent k)
  | capture _ _ | publish _ _ | take _ | record _ | clearRunning | raiseSignal =>
    obtain ⟨hp, hheld, hd, hsent⟩ := (step_dispatcher_or_frame h).resolve_left (by simp)
    exact hh.frame hd hheld hsent (by rw [hp])

theorem reachable_handedOut (hs : Reachable S s) : HeldClear s ∧ HandedOut S s :=
  @Reach.invariant S (fun s => HeldClear s ∧ HandedOut S s)
    (fun a hi h => ⟨step_heldClear a hi.1 h, step_handedOut hi.1 hi.2 h⟩) _ _ hs
    ⟨fun _ _ => rfl, [], rfl, fun _ => rfl⟩

/-! ## What each recorder received -/

/-- What the dispatcher queued for each recorder is what the recorder has taken
from its queue followed by what is still queued. -/
def Received (s : State) : Prop :=
  ∀ k r, s.recorders[k]? = some r → s.sent k = s.taken k ++ r.queue

theorem Received.frame (hr : Received s) (h₁ : s'.recorders = s.recorders)
    (h₂ : s'.sent = s.sent) (h₃ : s'.taken = s.taken) : Received s' := by
  intro k r hk
  rw [h₂, h₃]
  exact hr k r (h₁ ▸ hk)

/-- The entry at {lean}`k'` after the one at {lean}`k` is replaced. -/
theorem getElem?_set_eq_some {α : Type} {l : List α} {k k' : Nat} {a b c : α}
    (h : l[k]? = some a) (h' : (l.set k b)[k']? = some c) :
    k = k' ∧ c = b ∨ k ≠ k' ∧ l[k']? = some c := by
  by_cases hk : k = k'
  · subst hk
    simp only [List.getElem?_set', if_true, h, Option.map_eq_map, Option.map_some',
      Function.const_apply, Option.some.injEq] at h'
    exact .inl ⟨rfl, h'.symm⟩
  · exact .inr ⟨hk, by rwa [List.getElem?_set_ne hk] at h'⟩

theorem step_received {a : Action} (hr : Received s) (h : step S s a = some s') :
    Received s' := by
  cases a with
  | capture w ant => obtain ⟨-, -, -, -, -, rfl⟩ := capture_eq_some h; exact hr.frame rfl rfl rfl
  | publish w pos =>
    obtain ⟨_, -, ⟨-, rfl⟩ | ⟨-, rfl⟩⟩ := publish_eq_some h <;> exact hr.frame rfl rfl rfl
  | check =>
    obtain ⟨-, ⟨-, -, rfl⟩ | ⟨-, rfl⟩⟩ := check_eq_some h <;> exact hr.frame rfl rfl rfl
  | dequeue n => obtain ⟨-, -, rfl⟩ := dequeue_eq_some h; exact hr.frame rfl rfl rfl
  | dispatch =>
    obtain ⟨-, ⟨-, rfl⟩ | ⟨e, -, -, ⟨rs, hd, rfl⟩ | ⟨_, -, rfl⟩⟩⟩ := dispatch_eq_some h
    · exact hr.frame rfl rfl rfl
    · -- the event's tasks join the queues and the log alike
      intro k r' hk
      rw [dispatchEvent_eq_ok hd k, Option.map_eq_some'] at hk
      obtain ⟨r, hr₀, rfl⟩ := hk
      simp [hr k r hr₀, RecorderThread.enqueue_queue]
    · exact hr.frame rfl rfl rfl
  | join => obtain ⟨-, -, rfl⟩ := join_eq_some h; exact hr.frame rfl rfl rfl
  | stop =>
    obtain ⟨-, rfl⟩ := stop_eq_some h
    intro k r' hk
    rw [List.getElem?_map, Option.map_eq_some'] at hk
    obtain ⟨r, hr₀, rfl⟩ := hk
    simp [hr k r hr₀, RecorderThread.enqueue_queue]
  | take k =>
    -- the head of the queue moves to the taken entries
    obtain ⟨r, t, rest, hrk, -, hq, -, hcase⟩ := take_eq_some h
    have hmove : ∀ j r', (s.recorders.set k { r with queue := rest })[j]? = some r' →
        s.sent j = Function.update s.taken k (s.taken k ++ [t]) j ++ r'.queue := by
      intro j r' hj
      rcases getElem?_set_eq_some hrk hj with ⟨rfl, rfl⟩ | ⟨hk, hj⟩
      · simp [hr _ r hrk, hq]
      · rw [Function.update_noteq (Ne.symm hk)]
        exact hr j r' hj
    rcases hcase with ⟨-, rfl⟩ | ⟨-, rfl⟩ <;> exact hmove
  | record k => obtain ⟨_, -, rfl⟩ := record_eq_some h; exact hr.frame rfl rfl rfl
  | clearRunning | raiseSignal => cases h; exact hr.frame rfl rfl rfl

theorem reachable_received (hq0 : ∀ r ∈ S.recorders, r.queue = []) (hs : Reachable S s) :
    Received s :=
  @Reachable.invariant S Received
    (fun _ r hk => by simp [Setup.initial, hq0 r (List.getElem?_mem hk)])
    (fun _ _ hr h => step_received hr h) _ hs

/-! ## After the receive workers are joined -/

/-- Once the receive workers are joined, none of them holds an event. -/
def WorkersIdle (s : State) : Prop :=
  s.phase = .joined ∨ s.phase = .stopped → ∀ c ∈ s.captured, c = none

theorem step_workersIdle {a : Action} (hw : WorkersIdle s) (h : step S s a = some s') :
    WorkersIdle s' := by
  cases a with
  | capture w ant =>
    obtain ⟨hr, -, -, -, -, rfl⟩ := capture_eq_some h
    rintro (hp | hp) <;> dsimp only at hp <;> simp [hp, Phase.receiving] at hr
  | publish w pos =>
    obtain ⟨_, -, ⟨-, rfl⟩ | ⟨-, rfl⟩⟩ := publish_eq_some h <;>
    · intro hp c hc
      exact (List.mem_or_eq_of_mem_set hc).elim (hw hp c) id
  | check => obtain ⟨-, ⟨-, -, rfl⟩ | ⟨-, rfl⟩⟩ := check_eq_some h <;> simp [WorkersIdle]
  | dequeue n => obtain ⟨-, -, rfl⟩ := dequeue_eq_some h; simp [WorkersIdle]
  | dispatch =>
    obtain ⟨hp, ⟨-, rfl⟩ | ⟨_, _, -, ⟨_, -, rfl⟩ | ⟨_, -, rfl⟩⟩⟩ := dispatch_eq_some h <;>
      simp [WorkersIdle, hp]
  | join => obtain ⟨-, hc, rfl⟩ := join_eq_some h; exact fun _ => hc
  | stop => obtain ⟨hp, rfl⟩ := stop_eq_some h; exact fun _ => hw (.inl hp)
  | take k =>
    obtain ⟨_, _, _, -, -, -, -, ⟨-, rfl⟩ | ⟨-, rfl⟩⟩ := take_eq_some h <;> exact hw
  | record k => obtain ⟨_, -, rfl⟩ := record_eq_some h; exact hw
  | clearRunning => cases h; exact hw
  | raiseSignal => cases h; exact hw

theorem reachable_workersIdle (hs : Reachable S s) : WorkersIdle s :=
  @Reachable.invariant S WorkersIdle (fun h => by simp [Setup.initial] at h)
    (fun a _ hw h => step_workersIdle hw h) _ hs

/-- After {lit}`Stop` only the recorders move: the dispatcher's logs, the message
queue and the idle receive workers stay as they are. -/
theorem stopped_step {a : Action} (hp : s.phase = .stopped) (hw : ∀ c ∈ s.captured, c = none)
    (h : step S s a = some s') :
    s'.phase = .stopped ∧ s'.captured = s.captured ∧ s'.messageQueue = s.messageQueue ∧
      s'.dequeued = s.dequeued ∧ s'.sent = s.sent := by
  cases a with
  | capture w ant => obtain ⟨hr, -⟩ := capture_eq_some h; simp [hp, Phase.receiving] at hr
  | publish w pos =>
    obtain ⟨_, he, -⟩ := publish_eq_some h
    cases hw _ (List.getElem?_mem he)
  | check => obtain ⟨hp', -⟩ := check_eq_some h; simp [hp] at hp'
  | dequeue n => obtain ⟨hp', -⟩ := dequeue_eq_some h; simp [hp] at hp'
  | dispatch => obtain ⟨hp', -⟩ := dispatch_eq_some h; simp [hp] at hp'
  | join => obtain ⟨hp', -⟩ := join_eq_some h; simp [hp] at hp'
  | stop => obtain ⟨hp', -⟩ := stop_eq_some h; simp [hp] at hp'
  | take k =>
    obtain ⟨_, _, _, -, -, -, -, ⟨-, rfl⟩ | ⟨-, rfl⟩⟩ := take_eq_some h <;>
      exact ⟨hp, rfl, rfl, rfl, rfl⟩
  | record k => obtain ⟨_, -, rfl⟩ := record_eq_some h; exact ⟨hp, rfl, rfl, rfl, rfl⟩
  | clearRunning => cases h; exact ⟨hp, rfl, rfl, rfl, rfl⟩
  | raiseSignal => cases h; exact ⟨hp, rfl, rfl, rfl, rfl⟩

theorem stopped_reach (hp : s.phase = .stopped) (hw : ∀ c ∈ s.captured, c = none)
    (h : Reach S s s') :
    s'.phase = .stopped ∧ s'.captured = s.captured ∧ s'.messageQueue = s.messageQueue ∧
      s'.dequeued = s.dequeued ∧ s'.sent = s.sent :=
  @Reach.invariant S (fun t => t.phase = .stopped ∧ t.captured = s.captured ∧
      t.messageQueue = s.messageQueue ∧ t.dequeued = s.dequeued ∧ t.sent = s.sent)
    (fun _ ⟨hp', hc, hm, hd, hs⟩ hst => by
      obtain ⟨h₁, h₂, h₃, h₄, h₅⟩ := stopped_step hp' (hc ▸ hw) hst
      exact ⟨h₁, h₂.trans hc, h₃.trans hm, h₄.trans hd, h₅.trans hs⟩) _ _ h
    ⟨hp, rfl, rfl, rfl, rfl⟩

/-! ## Shutdown -/

/-- A run that publishes one event and is stopped before the dispatcher dequeues
it reaches {lit}`Stop` with the event in the queue. -/
theorem queued_at_stop (hw : 0 < S.rxThreadNum) (hT : 0 < S.totalAntennas)
    (hB : 0 < S.recorder.rxThreadBuffSize) (hcap : 0 < S.recorder.messageQueueCapacity) :
    ∃ s, Reachable S s ∧ s.phase = .stopped ∧ s.messageQueue ≠ [] := by
  obtain ⟨n, hn⟩ : ∃ n, S.rxThreadNum = n + 1 := ⟨_, (Nat.succ_pred_eq_of_pos hw).symm⟩
  obtain ⟨s, hs, hp, hm⟩ : ∃ s, run S S.initial
      [.capture 0 0, .publish 0 0, .clearRunning, .check, .join, .stop] = some s ∧
      s.phase = .stopped ∧ s.messageQueue ≠ [] := by
    simp [run, step, capture, publish, check, join, stop, Setup.initial, hn, hT, hB, hcap,
      Phase.receiving]
  exact ⟨s, Reach.of_run hs, hp, hm⟩

/-- Once {lit}`Stop` is sent, and in every later state, each recorder has
received exactly the record tasks of the dequeued events of its antennas, in
dequeue order, followed by {lit}`Stop`: the entries it has taken and those still
in its queue.  The events left in the message queue are never dequeued, and
their slots stay claimed. -/
theorem stop_follows_dequeued_tasks {env : Platform} {cfg : Config}
    (hS : Setup.build env cfg = .ok S) (hs : Reachable S s) (hstop : s.phase = .stopped) :
    ∀ s', Reach S s s' →
      s'.recorders.length = S.recorders.length ∧
      (∀ k r, s'.recorders[k]? = some r →
        s'.taken k ++ r.queue = tasksFor S.recorder S.threadAntennas k s.dequeued ++ [stopTask]) ∧
      s'.dequeued = s.dequeued ∧ s'.messageQueue = s.messageQueue ∧
      ∀ e ∈ s.messageQueue, s'.inuse e.data = true := by
  intro s' hs'
  have hq0 := Setup.build_queue_eq_nil hS
  obtain ⟨hc, done, hd, hsent⟩ := reachable_handedOut hs
  have hheld : s.held = [] := hc (by simp [hstop]) (by simp [hstop])
  rw [hheld, List.append_nil] at hd
  obtain ⟨-, -, hm, hdeq, hsnt⟩ :=
    stopped_reach hstop (reachable_workersIdle hs (.inr hstop)) hs'
  have hr' : Reachable S s' := Reach.trans hs hs'
  have hi := (reachable_slotInv hq0 hr').2
  refine ⟨by simpa using congrArg List.length hi.capacities, fun k r hk => ?_, hdeq, hm,
    fun e he => (hi.mem_inflight_iff _).mp (mem_inflight_of_mem_messageQueue (hm ▸ he))⟩
  rw [← reachable_received hq0 hr' k r hk, hsnt, hsent k, hd, if_pos hstop]

theorem stop_follows_dequeued_tasks_uneven :
    ∃ cfg S s, Setup.build Platform.sample cfg = .ok S ∧ Reachable S s ∧ s.phase = .stopped ∧
      ∀ s', Reach S s s' →
        s'.recorders.length = S.recorders.length ∧
        (∀ k r, s'.recorders[k]? = some r →
          s'.taken k ++ r.queue = tasksFor S.recorder S.threadAntennas k s.dequeued ++ [stopTask]) ∧
        s'.dequeued = s.dequeued ∧ s'.messageQueue = s.messageQueue ∧
        ∀ e ∈ s.messageQueue, s'.inuse e.data = true := by
  obtain ⟨cfg, S, -, hb, -, -, hW, hT, hB, hcap⟩ := unevenFramesInput_setup
  obtain ⟨s, hs, hp, -⟩ := @queued_at_stop S (by omega) (by omega) (by omega) (by rw [hcap]; decide)
  exact ⟨cfg, S, s, hb, hs, hp, stop_follows_dequeued_tasks hb hs hp⟩

/-- Shutdown does not drain the message queue: on the two-cell configuration a
run reaches {lit}`Stop` with a published event still queued. -/
theorem shutdown_not_drained :
    ¬ ∀ (env : Platform) (input : ConfInput) (numCores : Nat) (cfg : Config) (S : Setup),
      Config.new env input numCores = .ok cfg → Setup.build env cfg = .ok S →
      ∀ s, Reachable S s → s.phase = .stopped → s.messageQueue = [] := by
  intro H
  obtain ⟨cfg, S, h, hb, -, -, hW, hT, hB, hcap⟩ := unevenFramesInput_setup
  obtain ⟨s, hs, hp, hm⟩ :=
    @queued_at_stop S (by omega) (by omega) (by omega) (by rw [hcap]; decide)
  exact hm (H _ _ _ _ _ h hb s hs hp)

/-! ## The shutdown can always complete -/

theorem length_filter_set_none {α : Type} {l : List (Option α)} {w : Nat} {e : α}
    (h : l[w]? = some (some e)) :
    ((l.set w none).filter Option.isSome).length + 1 = (l.filter Option.isSome).length := by
  induction l generalizing w with
  | nil => simp at h
  | cons c l ih =>
    cases w with
    | zero =>
      simp only [List.getElem?_cons_zero, Option.some.injEq] at h
      subst h
      simp
    | succ w =>
      simp only [List.getElem?_cons_succ] at h
      cases c <;> simp [ih h]

/-- A receive worker holding a capture can always publish it: into the queue
when it has room, and otherwise by dropping the capture. -/
theorem publish_captured {w : Nat} {e : EventData} (he : s.captured[w]? = some (some e)) :
    ∃ s', step S s (.publish w 0) = some s' ∧ s'.captured = s.captured.set w none ∧
      s'.phase = s.phase := by
  simp only [step, publish, he]
  split <;> exact ⟨_, rfl, rfl, rfl⟩

/-- Every receive worker can publish its last capture, whatever the dispatcher
does meanwhile. -/
theorem reach_captured_none (s : State) :
    ∀ n, (s.captured.filter Option.isSome).length = n →
      ∃ s', Reach S s s' ∧ (∀ c ∈ s'.captured, c = none) ∧ s'.phase = s.phase
  | 0, h => ⟨s, .refl s, fun c hc => by
      have := List.filter_eq_nil_iff.mp (List.length_eq_zero.mp h) c hc
      cases c <;> simp_all, rfl⟩
  | n + 1, h => by
    obtain ⟨c, hc⟩ := List.exists_mem_of_length_pos (show 0 < (s.captured.filter Option.isSome).length by omega)
    obtain ⟨hmem, hsome⟩ := List.mem_filter.mp hc
    obtain ⟨e, rfl⟩ := Option.isSome_iff_exists.mp hsome
    obtain ⟨w, hw⟩ := List.mem_iff_getElem?.mp hmem
    obtain ⟨s₁, h₁, hc₁, hp₁⟩ := publish_captured (S := S) hw
    obtain ⟨s', hr, hnone, hp⟩ := reach_captured_none s₁ n
      (by rw [hc₁]; have := length_filter_set_none hw; omega)
    exact ⟨s', Reach.trans (.tail _ (.refl s) h₁) hr, hnone, hp.trans hp₁⟩

/-- With the capacities the code allocates, a dispatcher in the middle of a
bulk hands out the rest of it and returns to the loop condition. -/
theorem reach_bulk_done (hwf : S.WellFormed) :
    ∀ n s, Reachable S s → s.phase = .dispatching → s.held.length = n →
      ∃ s', Reach S s s' ∧ s'.phase = .checking ∧ s'.exitSignal = s.exitSignal
  | 0, s, _, hp, hn => ⟨{ s with phase := .checking }, .tail .dispatch (.refl s)
      (by simp [step, dispatch, hp, List.length_eq_zero.mp hn]), rfl, rfl⟩
  | n + 1, s, hs, hp, hn => by
    obtain ⟨e, rest, hheld⟩ : ∃ e rest, s.held = e :: rest := by
      cases h : s.held with
      | nil => simp [h] at hn
      | cons e rest => exact ⟨e, rest, rfl⟩
    obtain ⟨-, hi⟩ := reachable_slotInv hwf.queue_eq_nil hs
    obtain ⟨rs, hrs⟩ := dispatchEvent_isOk hwf hi (by simp [hp]) hheld
    have h₁ : step S s .dispatch = some { s with
        recorders := rs, held := rest
        sent := fun k => s.sent k ++ tasksFor S.recorder S.threadAntennas k [e] } := by
      simp [step, dispatch, hp, hheld, hrs]
    obtain ⟨s', hr, hp', hsig⟩ := reach_bulk_done hwf n _ (.tail _ hs h₁) hp
      (by simp only [hheld, List.length_cons] at hn; exact Nat.succ.inj hn)
    exact ⟨s', Reach.trans (.tail _ (.refl s) h₁) hr, hp', hsig⟩

/-- With the exit signal raised, the loop condition fails and the dispatcher
leaves the loop. -/
theorem check_exits (hp : s.phase = .checking) (hsig : s.exitSignal = true) :
    step S s .check = some { s with running := false, phase := .exited } := by
  simp [step, check, hp, hsig]

/-- Once the dispatcher has left its loop, the receive workers publish their
last captures, are joined, and every recorder is sent {lit}`Stop`. -/
theorem reach_stopped_of_exited (hp : s.phase = .exited) :
    ∃ s', Reach S s s' ∧ s'.phase = .stopped := by
  obtain ⟨s₁, h₁, hnone, hp₁⟩ := reach_captured_none (S := S) s _ rfl
  have hj : step S s₁ .join = some { s₁ with phase := .joined } := by
    simp only [step, join]
    rw [if_pos ⟨hp₁.trans hp, hnone⟩]
  exact ⟨_, (h₁.tail _ hj).tail .stop rfl, rfl⟩

/-- From every reachable state of a run with the capacities the code allocates,
the shutdown of {lit}`do_it` can complete: raising the exit signal, the
dispatcher hands out what it holds, leaves its loop, joins the receive workers
once they have published their last captures, and sends {lit}`Stop` to every
recorder. -/
theorem shutdown_completes (hwf : S.WellFormed) (hs : Reachable S s) :
    ∃ s', Reach S s s' ∧ s'.phase = .stopped := by
  have h₀ : step S s .raiseSignal = some { s with exitSignal := true } := rfl
  have hs₀ : Reachable S { s with exitSignal := true } := .tail _ hs h₀
  -- the dispatcher reaches the loop condition with the signal raised
  have hcheck : s.phase = .checking ∨ s.phase = .dequeuing ∨ s.phase = .dispatching →
      ∃ s₁, Reach S s s₁ ∧ s₁.phase = .checking ∧ s₁.exitSignal = true := by
    rintro (hp | hp | hp)
    · exact ⟨_, .tail _ (.refl s) h₀, hp, rfl⟩
    · have hd : step S { s with exitSignal := true } (.dequeue 0) = some { s with
          exitSignal := true, held := [], messageQueue := s.messageQueue,
          dequeued := s.dequeued, phase := .dispatching } := by
        simp [step, dequeue, hp, kDequeueBulkSize]
      obtain ⟨s₁, h₁, hp₁, hsig₁⟩ := reach_bulk_done hwf 0 _ (.tail _ hs₀ hd) rfl rfl
      exact ⟨s₁, Reach.trans ((Reach.refl s |>.tail _ h₀).tail _ hd) h₁, hp₁, hsig₁⟩
    · obtain ⟨s₁, h₁, hp₁, hsig₁⟩ := reach_bulk_done hwf _ _ hs₀ hp rfl
      exact ⟨s₁, Reach.trans (.tail _ (.refl s) h₀) h₁, hp₁, hsig₁⟩
  cases hp : s.phase with
  | checking | dequeuing | dispatching =>
    obtain ⟨s₁, h₁, hp₁, hsig₁⟩ := hcheck (by simp [hp])
    obtain ⟨s', h', hp'⟩ := reach_stopped_of_exited (S := S)
      (s := { s₁ with running := false, phase := .exited }) rfl
    exact ⟨s', Reach.trans (h₁.tail _ (check_exits hp₁ hsig₁)) h', hp'⟩
  | exited => exact reach_stopped_of_exited hp
  | joined =>
    exact ⟨_, .tail .stop (.refl s) (by simp only [step, stop]; rw [if_pos hp]), rfl⟩
  | stopped => exact ⟨s, .refl s, hp⟩
  | failed => exact absurd hp (reachable_phase_ne_failed hwf hs)

/-- On an accepted configuration with receive and recorder threads, on a
platform of at most {lit}`kQueueSize` receive threads, the set-up of the run has
the capacities the code allocates. -/
theorem Setup.build_wellFormed_of_platform {env : Platform} {input : ConfInput}
    {numCores : Nat} {cfg : Config} (h : Config.new env input numCores = .ok cfg)
    (hrx : 0 < cfg.rxThreadNum) (htask : 0 < cfg.taskThreadNum)
    (henv : env.rxThreadNum ≤ kQueueSize) : ∃ S, Setup.build env cfg = .ok S ∧ S.WellFormed := by
  have hq : cfg.rxThreadNum ≤ kQueueSize := by
    have := Config.rxThreadNum_le h
    simp only [kQueueSize] at henv ⊢
    omega
  exact Setup.build_wellFormed h hrx htask hq

/-- On an accepted configuration with receive and recorder threads and at most
{lit}`kQueueSize` rings, from every reachable state of the run the shutdown of
{lit}`do_it` can still complete, with {lit}`Stop` sent to every recorder. -/
theorem shutdown_can_complete {env : Platform} {input : ConfInput} {numCores : Nat}
    {cfg : Config} (h : Config.new env input numCores = .ok cfg) (hrx : 0 < cfg.rxThreadNum)
    (htask : 0 < cfg.taskThreadNum) (henv : env.rxThreadNum ≤ kQueueSize) :
    ∃ S, Setup.build env cfg = .ok S ∧
      ∀ s, Reachable S s → ∃ s', Reach S s s' ∧ s'.phase = .stopped := by
  obtain ⟨S, hS, hwf⟩ := Setup.build_wellFormed_of_platform h hrx htask henv
  exact ⟨S, hS, fun _ hs => shutdown_completes hwf hs⟩

theorem shutdown_can_complete_uneven :
    ∃ cfg, Config.new Platform.sample Config.unevenFramesInput 8 = .ok cfg ∧
      ∃ S, Setup.build Platform.sample cfg = .ok S ∧
        ∀ s, Reachable S s → ∃ s', Reach S s s' ∧ s'.phase = .stopped :=
  let ⟨cfg, _, h, _, hrx, htask, _⟩ := unevenFramesInput_setup
  ⟨cfg, h, shutdown_can_complete h hrx htask (by decide)⟩

end Pipeline

end Sounder
