import Sounder.Config.Cells

/-!
# Sounder - Recorder construction

{lit}`Recorder::Recorder` sizes the receive rings from the configuration: each of
the {lit}`rx_thread_num_` rings holds {lit}`rx_thread_buff_size_` packet slots,
one byte buffer of that many packages and an array of in-use flag words.  The
flags are bits, {lit}`sizeof(std::atomic_int)` of them to a word, which is why
the array has {lit}`⌈rx_thread_buff_size_ / sizeof(atomic_int)⌉` words.  The
dispatch queue is sized to {lit}`kQueueSize` rings.

Main results:

- Theorem {lit}`Recorder.new_eq_ok`: once the antennas per ring are known, the
  constructor returns exactly the rings and capacities computed from them.
- Theorem {lit}`bsPresent_of_rxThreadNum_pos`: an accepted configuration with a
  receive thread has a base station.
- Theorem {lit}`Config.rxThreadNum_le`: an accepted configuration has at most
  two or {lit}`RX_THREAD_NUM` receive threads.
- Theorem {lit}`Recorder.ring_sizes`: the rings are sized with the floor of the
  antennas per receive thread.
- Theorem {lit}`Recorder.calib_rings_have_no_slot`: with fewer antennas than
  receive threads, the rings and the dispatch queue have no room at all.
-/

namespace Sounder

/-- {lit}`Recorder::kSampleBufferFrameNum`: frames of packets one ring holds. -/
def kSampleBufferFrameNum : Nat := 80

/-- {lit}`Recorder::KDequeueBulkSize`: events the dispatcher dequeues at once. -/
def kDequeueBulkSize : Nat := 5

/-- {lit}`kQueueSize`: rings' worth of entries in each queue. -/
def kQueueSize : Nat := 36

/-- Modelled from the spec: {lit}`Config::getPackageDataLength` is not in the
source.  The IQ payload of one packet: two {lit}`int16` components per sample of
a symbol. -/
def Config.getPackageDataLength (cfg : Config) : Nat :=
  2 * cfg.sampsPerSymbol * 2

/-- A receive ring, {lit}`SampleBuffer`: the size of its byte buffer and its
in-use flag words. -/
structure SampleBuffer where
  bufferSize : Nat
  pkgBufInuse : List Nat
  deriving DecidableEq, Repr

/-- The members of {lit}`Recorder` its constructor sets. -/
structure Recorder where
  rxThreadBuffSize : Nat
  /-- The capacity {lit}`message_queue_` is built with. -/
  messageQueueCapacity : Nat
  rxBuffer : List SampleBuffer
  deriving DecidableEq, Repr

/-- {lit}`ant_per_rx_thread`: the antennas of one ring.  The total is asked for
only when a base station is present and there is a receive thread. -/
def antPerRxThread (cfg : Config) : Except Failure Nat :=
  if cfg.bsPresent ∧ cfg.rxThreadNum > 0 then (· / cfg.rxThreadNum) <$> cfg.getTotNumAntennas
  else .ok 1

/-- {lit}`Recorder::Recorder`.  The {lit}`Receiver` it builds last is not in the
source; {lean}`receiver` is the outcome of its construction, whose failure is
reported as {lit}`"Error Setting up the Receiver"` after {lit}`gc` has released
the rings.  Sizes are products of counts, not reduced modulo {lit}`2^64`. -/
def Recorder.new (env : Platform) (cfg : Config) (receiver : Except Failure Unit) :
    Except Failure Recorder := do
  let antPerRxThread ← antPerRxThread cfg
  let rxThreadBuffSize := kSampleBufferFrameNum * cfg.schedule.symbolsPerFrame * antPerRxThread
  let intsize := env.sizeofAtomicInt
  let arraysize := (rxThreadBuffSize + intsize - 1) / intsize
  let packageLength := env.sizeofPackage + cfg.getPackageDataLength
  let rxBuffer := List.replicate cfg.rxThreadNum
    { bufferSize := rxThreadBuffSize * packageLength, pkgBufInuse := List.replicate arraysize 0 }
  match receiver with
  | .ok () =>
    pure { rxThreadBuffSize, messageQueueCapacity := rxThreadBuffSize * kQueueSize, rxBuffer }
  | .error _ => throw (.runtimeError "Error Setting up the Receiver")

/-- Once the antennas per ring are known, the constructor returns the rings and
capacities computed from them. -/
theorem Recorder.new_eq_ok {env : Platform} {cfg : Config} {a : Nat}
    (ha : antPerRxThread cfg = .ok a) :
    Recorder.new env cfg (.ok ()) =
      .ok { rxThreadBuffSize := kSampleBufferFrameNum * cfg.schedule.symbolsPerFrame * a
            messageQueueCapacity := kSampleBufferFrameNum * cfg.schedule.symbolsPerFrame * a *
              kQueueSize
            rxBuffer := List.replicate cfg.rxThreadNum
              { bufferSize := kSampleBufferFrameNum * cfg.schedule.symbolsPerFrame * a *
                  (env.sizeofPackage + cfg.getPackageDataLength)
                pkgBufInuse := List.replicate
                  ((kSampleBufferFrameNum * cfg.schedule.symbolsPerFrame * a +
                    env.sizeofAtomicInt - 1) / env.sizeofAtomicInt) 0 } } := by
  simp only [Recorder.new, ha, bind, Except.bind]
  rfl

/-- With a base station and a receive thread, each ring gets the quotient of the
total antenna count by the number of rings. -/
theorem antPerRxThread_of_pos {cfg : Config} {t : Nat} (hbs : cfg.bsPresent = true)
    (hrx : 0 < cfg.rxThreadNum) (ht : cfg.getTotNumAntennas = .ok t) :
    antPerRxThread cfg = .ok (t / cfg.rxThreadNum) := by
  rw [antPerRxThread, if_pos ⟨hbs, hrx⟩, ht]
  rfl

/-- A slot below {lit}`n` has its flag in a word below {lit}`⌈n / s⌉`. -/
theorem div_lt_ceil_div {j n s : Nat} (hs : 0 < s) (hj : j < n) : j / s < (n + s - 1) / s := by
  have hsplit : n + s - 1 = (n - 1) + 1 * s := by omega
  have hle : j / s ≤ (n - 1) / s := Nat.div_le_div_right (by omega)
  rw [hsplit, Nat.add_mul_div_right _ _ hs]
  omega

namespace Config

variable {env : Platform} {input : ConfInput} {numCores : Nat} {cfg : Config}

/-- Only a configuration with a base station gets receive threads. -/
theorem bsPresent_of_rxThreadNum_pos (h : Config.new env input numCores = .ok cfg)
    (hrx : 0 < cfg.rxThreadNum) : cfg.bsPresent = true := by
  obtain ⟨c₁, c₂, c₃, -, -, -, rfl⟩ := new_eq_ok.mp h
  simp only [setThreads, threadSettings] at hrx ⊢
  split at hrx
  · rename_i hc
    exact hc.1
  · simp at hrx

/-- The constructor starts two receive threads in calibration mode, at most
{lit}`RX_THREAD_NUM` otherwise. -/
theorem rxThreadNum_le (h : Config.new env input numCores = .ok cfg) :
    cfg.rxThreadNum ≤ max 2 env.rxThreadNum := by
  obtain ⟨c₁, c₂, c₃, -, -, -, rfl⟩ := new_eq_ok.mp h
  simp only [setThreads, threadSettings]
  split
  · dsimp only
    split_ifs <;> omega
  · exact Nat.zero_le _

end Config

namespace Recorder

open Config

variable {env : Platform} {input : ConfInput} {numCores : Nat} {cfg : Config}

/-- On an accepted configuration with a receive thread, the recorder's rings
hold {lit}`kSampleBufferFrameNum · symbols_per_frame_ · ⌊T / rx_thread_num_⌋`
slots for the total antenna count {lit}`T`; each ring has one package of bytes
per slot and, all clear, a flag bit for every slot. -/
theorem ring_sizes (h : Config.new env input numCores = .ok cfg) (hrx : 1 ≤ cfg.rxThreadNum) :
    ∃ t r, cfg.getTotNumAntennas = .ok t ∧ Recorder.new env cfg (.ok ()) = .ok r ∧
      r.rxThreadBuffSize =
        kSampleBufferFrameNum * cfg.schedule.symbolsPerFrame * (t / cfg.rxThreadNum) ∧
      r.rxBuffer.length = cfg.rxThreadNum ∧
      ∀ b ∈ r.rxBuffer,
        b.bufferSize = r.rxThreadBuffSize * (env.sizeofPackage + cfg.getPackageDataLength) ∧
        b.pkgBufInuse.length =
          (r.rxThreadBuffSize + env.sizeofAtomicInt - 1) / env.sizeofAtomicInt ∧
        (∀ j < r.rxThreadBuffSize, j / env.sizeofAtomicInt < b.pkgBufInuse.length) ∧
        ∀ w ∈ b.pkgBufInuse, w = 0 := by
  obtain ⟨t, ht⟩ := new_getTotNumAntennas_isOk h
  have ha := antPerRxThread_of_pos (bsPresent_of_rxThreadNum_pos h hrx) hrx ht
  refine ⟨t, _, ht, Recorder.new_eq_ok ha, rfl, List.length_replicate _ _, ?_⟩
  intro b hb
  obtain rfl := List.eq_of_mem_replicate hb
  refine ⟨rfl, List.length_replicate _ _, fun j hj => ?_, fun w hw => List.eq_of_mem_replicate hw⟩
  rw [List.length_replicate]
  exact div_lt_ceil_div env.sizeofAtomicInt_pos hj

/-- One cell of two single-channel SDRs in reciprocal-calibration mode. -/
def calibInput : ConfInput where
  baseStations := some
    { phy := { fftSize := some 64, cpSize := some 16, ofdmSymbolPerSubframe := some 7 }
      sdrId := [["S1", "S2"]]
      reciprocalCalibration := some true }

/-- The calibration document is accepted on every platform with two receive
threads for its one antenna, so that each ring gets no slot. -/
theorem calibInput_rings (env : Platform) (numCores : Nat) (hins : env.InsertCompletes) :
    ∃ cfg r, Config.new env calibInput numCores = .ok cfg ∧ cfg.rxThreadNum = 2 ∧
      cfg.taskThreadNum = env.taskThreadNum ∧
      cfg.getTotNumAntennas = .ok 1 ∧ cfg.schedule.symbolsPerFrame = 2 ∧
      Recorder.new env cfg (.ok ()) = .ok r ∧ r.rxThreadBuffSize = 0 := by
  have hr := @eq_ok_of_isSome _ _ (readConf calibInput) (by decide)
  obtain ⟨p, hp⟩ := @composePilot_lts_isOk env 64 16 7 0 0 64 "lts" rfl (by decide) hins
  have ht : ((readConf calibInput).toOption.get (by decide)).getTotNumAntennas = .ok 1 :=
    eq_ok_of_toOption (by decide)
  refine ⟨_, _, new_eq_of_readConf hr (by decide) hp, rfl, rfl,
    (getTotNumAntennas_congr rfl rfl).trans ht, rfl, Recorder.new_eq_ok
      (antPerRxThread_of_pos rfl (show 0 < 2 by decide)
        ((getTotNumAntennas_congr rfl rfl).trans ht)),
    ?_⟩
  show _ * (1 / 2) = 0
  rw [Nat.div_eq_of_lt (by decide), Nat.mul_zero]

/-- In calibration mode with one antenna for two receive threads, every ring
gets no packet slot, no byte of buffer and no flag word, and the dispatch queue
no room, where the comment on {lit}`kSampleBufferFrameNum` gives each receive
thread a buffer of {lit}`80` frames and the ceiling that {lit}`do_it` takes for
its recorder threads would give {lit}`80 · 2 · ⌈1 / 2⌉ = 160` slots. -/
theorem calib_rings_have_no_slot :
    ∃ cfg r, Config.new Platform.sample calibInput 8 = .ok cfg ∧
      Recorder.new Platform.sample cfg (.ok ()) = .ok r ∧ cfg.getTotNumAntennas = .ok 1 ∧
      cfg.rxThreadNum = 2 ∧
      kSampleBufferFrameNum * cfg.schedule.symbolsPerFrame *
        ((1 + cfg.rxThreadNum - 1) / cfg.rxThreadNum) = 160 ∧
      r.rxThreadBuffSize = 0 ∧ r.messageQueueCapacity = 0 ∧ r.rxBuffer.length = 2 ∧
      ∀ b ∈ r.rxBuffer, b.bufferSize = 0 ∧ b.pkgBufInuse = [] := by
  obtain ⟨cfg, r, h, hrx, -, ht, hspf, hr, -⟩ :=
    calibInput_rings Platform.sample 8 Platform.sample_insertCompletes
  have ha := antPerRxThread_of_pos (bsPresent_of_rxThreadNum_pos h (by omega)) (by omega) ht
  rw [Recorder.new_eq_ok ha, Except.ok.injEq] at hr
  subst hr
  refine ⟨cfg, _, h, Recorder.new_eq_ok ha, ht, hrx, by rw [hrx, hspf]; rfl, ?_⟩
  simp [hrx, hspf, kSampleBufferFrameNum, Platform.sample]

end Recorder

end Sounder
