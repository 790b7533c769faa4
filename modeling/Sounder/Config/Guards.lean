import Sounder.Config.Construct

/-!
# Sounder - What the constructor's guards establish

Two groups of members of {lit}`Config::Config` are checked against a bound.
The transmit gains are checked by the gain guards: the two base-station gains
against {lean}`kMaxTxGainBS`, each client gain against {lit}`max_tx_gain_ue_`.
The core-allocation flag {lit}`core_alloc_` starts as "more cores than
{lit}`RX_THREAD_NUM`" and is cleared when the host has too few cores for the
threads that will be pinned; that comparison is made only when clients are
present.

The guards compare {lit}`int`s: the base-station gains are read with an
{lit}`int` default, so nlohmann::json converts them modulo {lit}`2^32`, and the
comparator of the client guard takes an {lit}`int`, so it truncates a
fractional client gain.  A gain above its cap can therefore pass its guard.

Main results:

- Theorem {lit}`Config.new_gainsCapped`: every gain an accepted configuration
  stores is within its cap.
- Theorem {lit}`Config.readBaseStation_eq_error_of_gain` and
  {lit}`Config.readClients_eq_error_of_gain`: a gain whose {lit}`int` is above
  its cap makes its stage throw {lit}`std::invalid_argument`.
- Theorem {lit}`Config.gains_above_caps_accepted`: a base-station gain of
  {lit}`4294967306` and a client gain of {lit}`81.5` pass their guards.
- Theorem {lit}`Config.threadSettings_coreAlloc`: a set core-allocation flag
  means more cores than {lit}`RX_THREAD_NUM` and, with clients, at least one
  core per pinned thread.
-/

namespace Sounder
namespace Config

/-! ## Transmit gains -/

/-- A failing channel check throws {lit}`std::invalid_argument`. -/
theorem checkChannel_eq_error {channel : String} {e : Failure}
    (h : checkChannel channel = .error e) : ∃ msg, e = .invalidArgument msg := by
  unfold checkChannel at h
  split at h
  · cases h
    exact ⟨_, rfl⟩
  · cases h

/-- Once every gain converts, a gain above the cap makes the guard throw its
message with the cap. -/
theorem txGainGuard_eq_error {α : Type} {msg : String} {toInt : α → Except Failure Int}
    {cap : Int} {gains : List α} (hconv : ∀ g ∈ gains, ∃ v, toInt g = .ok v)
    (h : ∃ g ∈ gains, ∃ v, toInt g = .ok v ∧ cap < v) :
    txGainGuard msg toInt cap gains = .error (.invalidArgument (msg ++ toString cap)) := by
  unfold txGainGuard
  rw [anyAbove_eq_true hconv h]
  rfl

/-- The base-station guards compare gains already converted to {lit}`int`. -/
@[simp]
theorem txGainGuard_pure_eq_ok {msg : String} {cap : Int} {gains : List Int} :
    txGainGuard msg pure cap gains = .ok () ↔ ∀ g ∈ gains, g ≤ cap := by
  simp [txGainGuard_eq_ok, pure, Except.pure]

/-- A failed first step is the failure of the whole chain. -/
theorem bind_of_eq_error {ε α β : Type} {x : Except ε α} {e : ε} (f : α → Except ε β)
    (h : x = .error e) : x >>= f = .error e := by
  rw [h]
  rfl

/-- Every stored transmit gain is within its cap: the base-station gains as the
{lit}`int`s stored, the client gains as the comparator's {lit}`int` parameter
sees them. -/
structure GainsCapped (cfg : Config) : Prop where
  txGain_le : ∀ g ∈ cfg.txGain, g ≤ kMaxTxGainBS
  clTxgainVec_le : ∀ gs ∈ cfg.clTxgainVec, ∀ g ∈ gs, ∃ v, g.floatToInt = .ok v ∧ v ≤ cfg.maxTxGainUe

theorem gainsCapped_initial (input : ConfInput) : GainsCapped (initial input) :=
  ⟨fun _ h => absurd h (List.not_mem_nil _), fun _ h => absurd h (List.not_mem_nil _)⟩

/-- The calibration branch writes no gain. -/
theorem calibSchedule_gainsCapped {cfg cfg' : Config} (h : calibSchedule cfg = .ok cfg')
    (hg : GainsCapped cfg) : GainsCapped cfg' := by
  simp only [calibSchedule, bind_eq_ok, pure, Except.pure, Except.ok.injEq] at h
  obtain ⟨_, -, _, -, rfl⟩ := h
  exact ⟨hg.1, hg.2⟩

/-- The schedule branch writes no gain. -/
theorem frameSchedule_gainsCapped {schedule : List String} {cfg cfg' : Config}
    (h : frameSchedule schedule cfg = .ok cfg') (hg : GainsCapped cfg) : GainsCapped cfg' := by
  simp only [frameSchedule, bind_eq_ok] at h
  obtain ⟨_, -, _, -, _, -, _, -, _, -, _, -, hfin⟩ := h
  split at hfin <;> cases hfin <;> exact ⟨hg.1, hg.2⟩

/-- The base-station object stores the two converted gains its guards passed. -/
theorem readBaseStation_gainsCapped {bs : BsConf} {cfg cfg' : Config}
    (h : readBaseStation bs cfg = .ok cfg') (hg : GainsCapped cfg) : GainsCapped cfg' := by
  simp only [readBaseStation, bind_eq_ok] at h
  obtain ⟨_, -, a, -, _, hA, b, -, _, hB, hfin⟩ := h
  have hbs : ∀ g ∈ [a, b], g ≤ kMaxTxGainBS := by
    simpa using And.intro (txGainGuard_pure_eq_ok.mp hA) (txGainGuard_pure_eq_ok.mp hB)
  split at hfin
  · exact calibSchedule_gainsCapped hfin ⟨hbs, hg.2⟩
  · exact frameSchedule_gainsCapped hfin ⟨hbs, hg.2⟩

/-- The client object stores the two gain lists its guards passed, with their
cap. -/
theorem readClients_gainsCapped {cl : ClConf} {cfg cfg' : Config}
    (h : readClients cl cfg = .ok cfg') (hg : GainsCapped cfg) : GainsCapped cfg' := by
  simp only [readClients, bind_eq_ok] at h
  obtain ⟨_, -, m, -, _, hA, _, hB, _, -, hfin⟩ := h
  have hcl : ∀ gs ∈ [cl.txgainA, cl.txgainB], ∀ g ∈ gs, ∃ v, g.floatToInt = .ok v ∧ v ≤ m := by
    simpa using And.intro (txGainGuard_eq_ok.mp hA) (txGainGuard_eq_ok.mp hB)
  split at hfin
  · cases hfin
    exact ⟨hg.txGain_le, hcl⟩
  · simp only [bind_eq_ok, pure, Except.pure, Except.ok.injEq] at hfin
    obtain ⟨_, -, rfl⟩ := hfin
    exact ⟨hg.txGain_le, hcl⟩

/-- Every gain an accepted configuration stores is within its cap. -/
theorem new_gainsCapped {env : Platform} {input : ConfInput} {numCores : Nat} {cfg : Config}
    (h : Config.new env input numCores = .ok cfg) : GainsCapped cfg := by
  obtain ⟨c₁, c₂, c₃, h₁, h₂, h₃, rfl⟩ := new_eq_ok.mp h
  obtain ⟨_, -, rfl⟩ := setBeacon_eq_ok.mp h₂
  obtain ⟨_, -, rfl⟩ := setPilot_eq_ok.mp h₃
  obtain ⟨b₁, b₂, hb, -, hc, hu⟩ := readConf_eq_ok.mp h₁
  obtain ⟨_, rfl⟩ := setUlDataSymPresent_eq_ok hu
  have hg₁ : GainsCapped b₁ := by
    unfold withBaseStation at hb
    split at hb
    · exact readBaseStation_gainsCapped hb (gainsCapped_initial input)
    · cases hb
      exact gainsCapped_initial input
  have hg₂ : GainsCapped b₂ := by
    unfold withClients at hc
    split at hc
    · exact readClients_gainsCapped hc hg₁
    · cases hc
      exact hg₁
  exact ⟨hg₂.txGain_le, hg₂.clTxgainVec_le⟩

/-- A converted base-station gain above {lean}`kMaxTxGainBS` makes the
base-station stage throw {lit}`std::invalid_argument`: the guard's, or the
channel check's before it. -/
theorem readBaseStation_eq_error_of_gain {bs : BsConf} (cfg : Config) {a b : Int}
    (ha : valueInt bs.txgainA 20 = .ok a) (hb : valueInt bs.txgainB 20 = .ok b)
    (h : kMaxTxGainBS < a ∨ kMaxTxGainBS < b) :
    ∃ msg, readBaseStation bs cfg = .error (.invalidArgument msg) := by
  unfold readBaseStation
  cases hc : checkChannel (bs.channel.getD "A") with
  | error e =>
    obtain ⟨msg, rfl⟩ := checkChannel_eq_error hc
    exact ⟨msg, bind_of_eq_error _ hc⟩
  | ok u =>
    have herr : ∀ {g : Int} (msg : String), kMaxTxGainBS < g →
        txGainGuard msg pure kMaxTxGainBS [g] =
          .error (.invalidArgument (msg ++ toString kMaxTxGainBS)) := fun _ hg =>
      txGainGuard_eq_error (by simp [pure, Except.pure]) (by simpa [pure, Except.pure] using hg)
    simp only [hc, ha, hb, bind, Except.bind]
    by_cases hA : a ≤ kMaxTxGainBS
    · rw [txGainGuard_pure_eq_ok.mpr (by simpa using hA), herr _ (h.resolve_left (not_lt.mpr hA))]
      exact ⟨_, rfl⟩
    · rw [herr _ (not_le.mp hA)]
      exact ⟨_, rfl⟩

/-- Once the client cap and every client gain convert, a gain above the cap makes
the client stage throw {lit}`std::invalid_argument`: a guard's, or the channel
check's before them. -/
theorem readClients_eq_error_of_gain {cl : ClConf} (cfg : Config) {m : Int}
    (hm : valueInt cl.maxTxGainUE 81 = .ok m)
    (hconv : ∀ g ∈ cl.txgainA ++ cl.txgainB, ∃ v, g.floatToInt = .ok v)
    (h : ∃ g ∈ cl.txgainA ++ cl.txgainB, ∃ v, g.floatToInt = .ok v ∧ m < v) :
    ∃ msg, readClients cl cfg = .error (.invalidArgument msg) := by
  unfold readClients
  cases hc : checkChannel (cl.channel.getD "A") with
  | error e =>
    obtain ⟨msg, rfl⟩ := checkChannel_eq_error hc
    exact ⟨msg, bind_of_eq_error _ hc⟩
  | ok u =>
    simp only [hc, hm, bind, Except.bind]
    have hconvA := fun g hg => hconv g (List.mem_append_left _ hg)
    by_cases hA : ∃ g ∈ cl.txgainA, ∃ v, g.floatToInt = .ok v ∧ m < v
    · rw [txGainGuard_eq_error hconvA hA]
      exact ⟨_, rfl⟩
    · have hokA : txGainGuard "ERROR: UE ChanA - Maximum TX gain value is "
          JsonNumber.floatToInt m cl.txgainA = .ok () :=
        txGainGuard_eq_ok.mpr fun g hg => by
          obtain ⟨v, hv⟩ := hconvA g hg
          exact ⟨v, hv, not_lt.mp fun hlt => hA ⟨g, hg, v, hv, hlt⟩⟩
      have hB : ∃ g ∈ cl.txgainB, ∃ v, g.floatToInt = .ok v ∧ m < v := by
        obtain ⟨g, hg, hv⟩ := h
        rcases List.mem_append.mp hg with hg | hg
        · exact absurd ⟨g, hg, hv⟩ hA
        · exact ⟨g, hg, hv⟩
      rw [hokA, txGainGuard_eq_error (fun g hg => hconv g (List.mem_append_right _ hg)) hB]
      exact ⟨_, rfl⟩

/-- What the guards establish.  The constructor returns only with every stored
gain within its cap, compared as an {lit}`int`.  A base-station gain whose
conversion to {lit}`int` is above {lean}`kMaxTxGainBS` makes it throw
{lit}`std::invalid_argument`; so does a client gain whose truncation is above
the cap, once the base-station object was read without an exception and
outside calibration mode. -/
theorem tx_gains_within_caps (env : Platform) (input : ConfInput) (numCores : Nat) :
    (∀ cfg, Config.new env input numCores = .ok cfg → GainsCapped cfg) ∧
    (∀ bs a b, input.baseStations = some bs → valueInt bs.txgainA 20 = .ok a →
      valueInt bs.txgainB 20 = .ok b → kMaxTxGainBS < a ∨ kMaxTxGainBS < b →
      ∃ msg, Config.new env input numCores = .error (.invalidArgument msg)) ∧
    (∀ cl c₁ m, input.clients = some cl → valueInt cl.maxTxGainUE 81 = .ok m →
      (∀ g ∈ cl.txgainA ++ cl.txgainB, ∃ v, g.floatToInt = .ok v) →
      (∃ g ∈ cl.txgainA ++ cl.txgainB, ∃ v, g.floatToInt = .ok v ∧ m < v) →
      withBaseStation input (initial input) = .ok c₁ → c₁.reciprocalCalib = false →
      ∃ msg, Config.new env input numCores = .error (.invalidArgument msg)) := by
  refine ⟨fun cfg h => new_gainsCapped h, fun bs a b hbs ha hb hg => ?_,
    fun cl c₁ m hcl hm hconv hg h₁ hcal => ?_⟩
  · obtain ⟨msg, he⟩ := readBaseStation_eq_error_of_gain (initial input) ha hb hg
    have hw : withBaseStation input (initial input) = .error (.invalidArgument msg) := by
      rw [withBaseStation, hbs]
      exact he
    exact ⟨msg, bind_of_eq_error _ (bind_of_eq_error _ hw)⟩
  · obtain ⟨msg, he⟩ := readClients_eq_error_of_gain c₁ hm hconv hg
    have hr : readConf input = .error (.invalidArgument msg) := by
      have ha : assertThat (¬(c₁.clientPresent ∧ c₁.reciprocalCalib)) = .ok () :=
        assertThat_eq_ok.mpr (by simp [hcal])
      simp only [readConf, h₁, ha, bind, Except.bind, withClients, hcl, he]
    exact ⟨msg, bind_of_eq_error _ hr⟩

/-- One cell of one SDR with a base-station gain of {lit}`4294967306` on channel
A, and a client with a gain of {lit}`81.5` on channel A under the default cap. -/
def gainsAboveCapsInput : ConfInput where
  baseStations := some
    { phy := { fftSize := some 64, cpSize := some 16, ofdmSymbolPerSubframe := some 7 }
      sdrId := [["S1"]]
      frameSchedule := ["PG"]
      txgainA := some (.int 4294967306) }
  clients := some { sdrId := ["C1"], frameSchedule := ["PG"], txgainA := [.float 163 (-1)] }

/-- Gains above their caps are accepted: the base-station gain becomes
{lit}`10` when it is converted to {lit}`int` for the comparison, and the client
gain {lit}`81.5`, stored as it is, is truncated to {lit}`81` by the comparator's
{lit}`int` parameter. -/
theorem gains_above_caps_accepted :
    ∃ cfg, Config.new Platform.sample gainsAboveCapsInput 8 = .ok cfg ∧
      (JsonNumber.int 4294967306).above kMaxTxGainBS = true ∧ cfg.txGain = [10, 20] ∧
      cfg.clTxgainVec = [[.float 163 (-1)], []] ∧
      (JsonNumber.float 163 (-1)).above cfg.maxTxGainUe = true := by
  have hr := @eq_ok_of_isSome _ _ (readConf gainsAboveCapsInput) (by decide)
  obtain ⟨p, hp⟩ := @composePilot_lts_isOk Platform.sample 64 16 7 0 0 64 "lts" rfl (by decide)
    Platform.sample_insertCompletes
  exact ⟨_, new_eq_of_readConf hr (by decide) hp, by decide, rfl, rfl,
    (by decide : (JsonNumber.float 163 (-1)).above 81 = true)⟩

/-! ## Core allocation -/

/-- A core check clears the flag when its condition holds and keeps it
otherwise. -/
theorem coreGuard_eq_true {q r : Prop} [Decidable q] [Decidable r] {b : Bool} :
    (if q ∧ r then false else b) = true ↔ b = true ∧ (q → ¬r) := by
  by_cases hq : q <;> by_cases hr : r <;> simp [hq, hr]

/-- A set core-allocation flag means more cores than {lit}`RX_THREAD_NUM`
and, with clients, a core for the dispatcher, each recorder thread, each receive
thread and each client thread. -/
theorem threadSettings_coreAlloc {env : Platform} {taskThread : Option Nat} {numCores : Nat}
    {cfg : Config} (h : (threadSettings env taskThread numCores cfg).2.2 = true) :
    env.rxThreadNum < numCores ∧
      (cfg.clientPresent = true →
        1 + (threadSettings env taskThread numCores cfg).1 +
          (threadSettings env taskThread numCores cfg).2.1 + cfg.numClSdrs ≤ numCores) := by
  revert h
  unfold threadSettings
  dsimp only
  -- in both branches the flag survives exactly when the cores suffice
  split <;> dsimp only <;> rw [coreGuard_eq_true] <;> rintro ⟨hgt, hcl⟩
  · exact ⟨of_decide_eq_true hgt, fun hc => Nat.not_lt.mp (hcl hc)⟩
  · exact ⟨of_decide_eq_true hgt, fun hc => by have := hcl hc; omega⟩

/-- On an accepted configuration, a set core-allocation flag means more cores
than {lit}`RX_THREAD_NUM`, and with clients at least
{lit}`1 + task_thread_num_ + rx_thread_num_ + num_cl_sdrs_` of them. -/
theorem core_alloc_cores_exist {env : Platform} {input : ConfInput} {numCores : Nat}
    {cfg : Config} (h : Config.new env input numCores = .ok cfg) (hc : cfg.coreAlloc = true) :
    env.rxThreadNum < numCores ∧
      (cfg.clientPresent = true →
        1 + cfg.taskThreadNum + cfg.rxThreadNum + cfg.numClSdrs ≤ numCores) := by
  obtain ⟨_, _, _, -, -, -, rfl⟩ := new_eq_ok.mp h
  exact threadSettings_coreAlloc hc

/-- One cell of one SDR asking for ten recorder threads. -/
def busyInput : ConfInput where
  baseStations := some
    { phy := { fftSize := some 64, cpSize := some 16, ofdmSymbolPerSubframe := some 7 }
      sdrId := [["S1"]]
      frameSchedule := ["PG"]
      taskThread := some 10 }

/-- On the sample platform with eight cores, the ten-thread document is accepted
with cores allocated to ten recorder threads and one receive thread. -/
theorem busyInput_accepted :
    ∃ cfg, Config.new Platform.sample busyInput 8 = .ok cfg ∧ cfg.coreAlloc = true ∧
      cfg.clientPresent = false ∧ cfg.taskThreadNum = 10 ∧ cfg.rxThreadNum = 1 := by
  have hr := @eq_ok_of_isSome _ _ (readConf busyInput) (by decide)
  obtain ⟨p, hp⟩ :=
    @composePilot_lts_isOk Platform.sample 64 16 7 0 0 64 "lts" rfl (by decide)
      Platform.sample_insertCompletes
  exact ⟨_, new_eq_of_readConf hr (by decide) hp, rfl, rfl, rfl, rfl⟩

theorem core_alloc_cores_exist_busy :
    ∃ cfg, Config.new Platform.sample busyInput 8 = .ok cfg ∧ cfg.coreAlloc = true ∧
      Platform.sample.rxThreadNum < 8 ∧
      (cfg.clientPresent = true → 1 + cfg.taskThreadNum + cfg.rxThreadNum + cfg.numClSdrs ≤ 8) :=
  let ⟨cfg, h, hc, _⟩ := busyInput_accepted
  ⟨cfg, h, hc, core_alloc_cores_exist h hc⟩

/-- Without clients the flag does not mean a core per pinned thread: ten
recorder threads and one receive thread are pinned on eight cores. -/
theorem core_alloc_without_thread_cores :
    ¬ ∀ (env : Platform) (input : ConfInput) (numCores : Nat) (cfg : Config),
      Config.new env input numCores = .ok cfg → cfg.coreAlloc = true →
      1 + cfg.taskThreadNum + cfg.rxThreadNum +
        (if cfg.clientPresent then cfg.numClSdrs else 0) ≤ numCores := by
  intro H
  obtain ⟨cfg, h, hc, hcl, htask, hrx⟩ := busyInput_accepted
  have := H _ _ _ cfg h hc
  rw [hcl, htask, hrx] at this
  simp at this

end Config
end Sounder
