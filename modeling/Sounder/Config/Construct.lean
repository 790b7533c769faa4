import Sounder.Config.Input
import Sounder.Config.Calibration
import Sounder.Config.Waveform

/-!
# Sounder - The configuration constructor

{lit}`Config::Config` reads the base-station object, then the client object,
derives the slot tables, composes the beacon and pilot subframes, and sizes the
thread pools.  The model keeps the members the modelled functions read in one
flat record and writes the constructor as the same sequence of stages, each a
function of the record: {lean}`Config.readBaseStation`,
{lean}`Config.readClients`, {lean}`Config.setUlDataSymPresent`,
{lean}`Config.setBeacon`, {lean}`Config.setPilot` and {lean}`Config.setThreads`.
Each stage that can throw is an {lean}`Except`; {lean}`Config.new` chains them.

Members the constructor does not assign on a path keep their initial values.
The class declaration is not part of the source, so the model takes them
value-initialized (zero, false, empty), which is also what the record's default
values say.

Main results:

- Theorem {lit}`Config.new_eq_ok`: an accepted configuration is the result of
  every stage, each of which succeeded.
- Theorem {lit}`Config.checkChannel_eq_ok`: a channel mask is accepted exactly
  when it is {lit}`"A"`, {lit}`"B"` or {lit}`"AB"`.
- Theorem {lit}`Config.txGainGuard_eq_ok`: a gain guard passes exactly when
  every gain converts to an {lit}`int` within its cap.
-/

namespace Sounder

/-- {lit}`kMaxTxGainBS`, the base-station transmit-gain cap. -/
def kMaxTxGainBS : Int := 81

/-- The schedule members of {lit}`Config`: {lit}`frames_`, the four role tables
built from it, the frame length and the per-frame role counts. -/
structure Schedule where
  frames : List Frame := []
  pilotSymbols : List (List Nat) := []
  noiseSymbols : List (List Nat) := []
  ulSymbols : List (List Nat) := []
  dlSymbols : List (List Nat) := []
  symbolsPerFrame : Nat := 0
  pilotSymsPerFrame : Nat := 0
  noiseSymsPerFrame : Nat := 0
  ulSymsPerFrame : Nat := 0
  dlSymsPerFrame : Nat := 0

/-- The role tables and per-frame counts are those of the frames: what the
schedule branch of the constructor establishes. -/
structure Schedule.Derived (s : Schedule) : Prop where
  frames_ne_nil : s.frames ≠ []
  pilotSymbols_eq : s.pilotSymbols = loadSymbols s.frames 'P'
  noiseSymbols_eq : s.noiseSymbols = loadSymbols s.frames 'N'
  ulSymbols_eq : s.ulSymbols = loadSymbols s.frames 'U'
  dlSymbols_eq : s.dlSymbols = loadSymbols s.frames 'D'
  symbolsPerFrame_eq : s.frames[0]?.map List.length = some s.symbolsPerFrame
  pilotSymsPerFrame_eq : s.frames[0]?.map (List.count 'P') = some s.pilotSymsPerFrame
  noiseSymsPerFrame_eq : s.frames[0]?.map (List.count 'N') = some s.noiseSymsPerFrame
  ulSymsPerFrame_eq : s.frames[0]?.map (List.count 'U') = some s.ulSymsPerFrame
  dlSymsPerFrame_eq : s.frames[0]?.map (List.count 'D') = some s.dlSymsPerFrame

/-- The count of a role table read from the first frame is the role's count in
that frame. -/
private theorem count_of_checkedAt_loadSymbols {frames : List Frame} {sym : Char}
    {slots : List Nat} (h : checkedAt (loadSymbols frames sym) 0 = .ok slots) :
    frames[0]?.map (List.count sym) = some slots.length := by
  rw [checkedAt_eq_ok, getElem?_loadSymbols] at h
  cases frames with
  | nil => simp at h
  | cons f fs =>
    simp only [List.getElem?_cons_zero, Option.map_some', Option.some.injEq] at h
    simp [← h, length_symbolSlots]

/-- The members of {lit}`Config` that the modelled functions read, the schedule
members grouped in {lean}`Schedule`. -/
structure Config where
  bsPresent : Bool := false
  clientPresent : Bool := false
  symbolPerSubframe : Nat := 0
  fftSize : Nat := 0
  cpSize : Nat := 0
  /-- {lit}`prefix_`. -/
  prefixLen : Nat := 0
  /-- {lit}`postfix_`. -/
  postfixLen : Nat := 0
  ofdmSymbolSize : Nat := 0
  subframeSize : Nat := 0
  sampsPerSymbol : Nat := 0
  symbolDataSubcarrierNum : Nat := 0
  pilotSeq : String := ""
  dataMod : String := ""
  numCells : Nat := 0
  bsChannel : String := ""
  txGain : List Int := []
  bsSdrIds : List (List String) := []
  nBsSdrs : List Nat := []
  nBsAntennas : List Nat := []
  numBsSdrsAll : Nat := 0
  nBsSdrsAgg : List Nat := []
  reciprocalCalib : Bool := false
  calRefSdrId : Nat := 0
  calibFrames : List (List Frame) := []
  schedule : Schedule := {}
  numClSdrs : Nat := 0
  numClAntennas : Nat := 0
  clSdrIds : List String := []
  clChannel : String := ""
  clSdrCh : Nat := 0
  ulDataFrameNum : Nat := 0
  /-- {lit}`cl_txgain_vec_`, taken as {lit}`double`s: the document's numbers. -/
  clTxgainVec : List (List JsonNumber) := []
  maxTxGainUe : Int := 0
  clFrames : List Frame := []
  clPilotSymbols : List (List Nat) := []
  clUlSymbols : List (List Nat) := []
  clDlSymbols : List (List Nat) := []
  ulDataSymPresent : Bool := false
  beaconCi16 : List CInt16 := []
  beaconSize : Nat := 0
  beacon : List (BitVec 32) := []
  pilotCi16 : List CInt16 := []
  pilot : List (BitVec 32) := []
  coreAlloc : Bool := false
  taskThreadNum : Nat := 0
  rxThreadNum : Nat := 0
  running : Bool := false

namespace Config

/-! ## Guards shared by both objects -/

/-- The channel-mask check of both objects. -/
def checkChannel (channel : String) : Except Failure Unit :=
  if channel ≠ "A" ∧ channel ≠ "B" ∧ channel ≠ "AB" then
    .error (.invalidArgument "error channel config: not any of A/B/AB!\n")
  else .ok ()

/-- A channel mask is accepted exactly when it is one of the three masks. -/
theorem checkChannel_eq_ok {channel : String} :
    checkChannel channel = .ok () ↔ channel = "A" ∨ channel = "B" ∨ channel = "AB" := by
  unfold checkChannel
  split <;> simp_all
  tauto

/-- {lit}`std::any_of` with a gain comparator: each gain is converted to
{lit}`int` as it is reached, by {lean}`toInt`, and compared with {lean}`cap`. -/
def anyAbove {α : Type} (toInt : α → Except Failure Int) (cap : Int) :
    List α → Except Failure Bool
  | [] => .ok false
  | g :: gs => do
    let v ← toInt g
    if v > cap then pure true else anyAbove toInt cap gs

/-- The transmit-gain guards: a gain above {lean}`cap` throws
{lit}`std::invalid_argument` with the message naming the channel and the cap.
The base station checks one gain per channel, already an {lit}`int`, against
{lean}`kMaxTxGainBS`; the clients check a list per channel against
{lit}`max_tx_gain_ue_` with {lit}`std::any_of` and the comparator
{lit}`find_guilty`, whose parameter is an {lit}`int`. -/
def txGainGuard {α : Type} (msg : String) (toInt : α → Except Failure Int) (cap : Int)
    (gains : List α) : Except Failure Unit := do
  if ← anyAbove toInt cap gains then throw (.invalidArgument (msg ++ toString cap))

/-- The comparator finds no gain above the cap exactly when every gain converts
to an {lit}`int` within it. -/
theorem anyAbove_eq_false {α : Type} {toInt : α → Except Failure Int} {cap : Int} :
    ∀ {gains : List α}, anyAbove toInt cap gains = .ok false ↔
      ∀ g ∈ gains, ∃ v, toInt g = .ok v ∧ v ≤ cap
  | [] => by simp [anyAbove]
  | g :: gs => by
    cases hg : toInt g with
    | error e => simp [anyAbove, hg, bind, Except.bind]
    | ok v =>
      by_cases hv : v > cap
      · simp [anyAbove, hg, hv, bind, Except.bind, pure, Except.pure]
      · simp [anyAbove, hg, hv, bind, Except.bind, @anyAbove_eq_false _ toInt cap gs]
        omega

/-- Once every gain converts, the comparator finds one above the cap exactly
when there is one. -/
theorem anyAbove_eq_true {α : Type} {toInt : α → Except Failure Int} {cap : Int} :
    ∀ {gains : List α}, (∀ g ∈ gains, ∃ v, toInt g = .ok v) →
      (∃ g ∈ gains, ∃ v, toInt g = .ok v ∧ cap < v) → anyAbove toInt cap gains = .ok true
  | [], _, ⟨_, hg, _⟩ => absurd hg (List.not_mem_nil _)
  | g :: gs, hconv, ⟨g', hg', v', hv', hlt⟩ => by
    obtain ⟨v, hv⟩ := hconv g (List.mem_cons_self _ _)
    by_cases hgt : v > cap
    · simp [anyAbove, hv, hgt, bind, Except.bind, pure, Except.pure]
    · simp only [anyAbove, hv, hgt, bind, Except.bind, if_false]
      rcases List.mem_cons.mp hg' with rfl | hg'
      · rw [hv', Except.ok.injEq] at hv
        omega
      · exact anyAbove_eq_true (fun x hx => hconv x (List.mem_cons_of_mem _ hx)) ⟨g', hg', v', hv', hlt⟩

/-- A gain guard passes exactly when every gain converts to an {lit}`int`
within its cap. -/
theorem txGainGuard_eq_ok {α : Type} {msg : String} {toInt : α → Except Failure Int} {cap : Int}
    {gains : List α} :
    txGainGuard msg toInt cap gains = .ok () ↔ ∀ g ∈ gains, ∃ v, toInt g = .ok v ∧ v ≤ cap := by
  rw [← anyAbove_eq_false]
  unfold txGainGuard
  cases anyAbove toInt cap gains with
  | error e => simp [bind, Except.bind]
  | ok b => cases b <;> simp [bind, Except.bind, throw, throwThe, MonadExceptOf.throw, pure, Except.pure]

/-! ## Base-station object -/

/-- The physical-layer keys, read from whichever object supplies them, with the
derived sizes computed from the values just read. -/
def readPhy (phy : PhyConf) (cfg : Config) : Config :=
  let symbolPerSubframe := phy.ofdmSymbolPerSubframe.getD 1
  let fftSize := phy.fftSize.getD 0
  let cpSize := phy.cpSize.getD 0
  let prefixLen := phy.prefixLen.getD 0
  let postfixLen := phy.postfixLen.getD 0
  let subframeSize := symbolPerSubframe * (fftSize + cpSize)
  { cfg with
    symbolPerSubframe, fftSize, cpSize, prefixLen, postfixLen
    ofdmSymbolSize := fftSize + cpSize
    subframeSize
    sampsPerSymbol := subframeSize + prefixLen + postfixLen
    pilotSeq := phy.pilotSeq.getD "lts"
    dataMod := phy.modulation.getD "QPSK" }

/-- The reciprocal-calibration branch: one generated frame list per cell.  The
frame length is then taken as {lit}`calib_frames_.at(0).size()`. -/
def calibSchedule (cfg : Config) : Except Failure Config := do
  let calibFrames ← cfg.nBsSdrs.mapM
    (fun n => calibFramesOfCell cfg.bsChannel.length n cfg.calRefSdrId)
  let first ← checkedAt calibFrames 0
  pure { cfg with
    calibFrames
    schedule := { cfg.schedule with
      symbolsPerFrame := first.length
      pilotSymsPerFrame := 2
      noiseSymsPerFrame := 0
      ulSymsPerFrame := 0
      dlSymsPerFrame := 0 } }

/-- The schedule branch: the frames of {lit}`"frame_schedule"`, their role
tables, and the per-frame counts read from the first frame.  Without clients,
the number of client SDRs is the pilot count of the first frame. -/
def frameSchedule (schedule : List String) (cfg : Config) : Except Failure Config := do
  let frames := schedule.map String.toList
  assertThat (frames.length = cfg.numCells)
  let pilotSymbols := loadSymbols frames 'P'
  let noiseSymbols := loadSymbols frames 'N'
  let ulSymbols := loadSymbols frames 'U'
  let dlSymbols := loadSymbols frames 'D'
  let frame0 ← checkedAt frames 0
  let pilot0 ← checkedAt pilotSymbols 0
  let noise0 ← checkedAt noiseSymbols 0
  let ul0 ← checkedAt ulSymbols 0
  let dl0 ← checkedAt dlSymbols 0
  let cfg := { cfg with
    schedule := {
      frames, pilotSymbols, noiseSymbols, ulSymbols, dlSymbols
      symbolsPerFrame := frame0.length
      pilotSymsPerFrame := pilot0.length
      noiseSymsPerFrame := noise0.length
      ulSymsPerFrame := ul0.length
      dlSymsPerFrame := dl0.length } }
  if cfg.clientPresent then pure cfg
  else pure { cfg with numClSdrs := frame0.count 'P', numClAntennas := frame0.count 'P' }

/-- The base-station object: physical layer, channel mask, gain guards, the
devices of every cell with their prefix sums, and the schedule of the chosen
mode.  The default reference SDR is {lit}`num_bs_sdrs_all_ - 1` in
{lit}`size_t`. -/
def readBaseStation (bs : BsConf) (cfg : Config) : Except Failure Config := do
  let cfg := readPhy bs.phy cfg
  let cfg := { cfg with symbolDataSubcarrierNum := bs.ofdmDataSubcarrierNum.getD cfg.fftSize }
  let bsChannel := bs.channel.getD "A"
  checkChannel bsChannel
  let txgainA ← valueInt bs.txgainA 20
  txGainGuard "ERROR: BaseStation ChanA - Maximum TX gain value is " pure kMaxTxGainBS [txgainA]
  let txgainB ← valueInt bs.txgainB 20
  txGainGuard "ERROR: BaseStation ChanB - Maximum TX gain value is " pure kMaxTxGainBS [txgainB]
  let nBsSdrs := bs.sdrId.map List.length
  let numBsSdrsAll := nBsSdrs.sum
  let reciprocalCalib := bs.reciprocalCalibration.getD false
  let cfg := { cfg with
    numCells := bs.sdrId.length
    bsChannel
    txGain := [txgainA, txgainB]
    bsSdrIds := bs.sdrId
    nBsSdrs
    nBsAntennas := nBsSdrs.map (bsChannel.length * ·)
    numBsSdrsAll
    nBsSdrsAgg := nBsSdrs.scanl (· + ·) 0
    reciprocalCalib
    calRefSdrId := bs.refSdrIndex.getD ((numBsSdrsAll + (2 ^ 64 - 1)) % 2 ^ 64) }
  if reciprocalCalib then calibSchedule cfg else frameSchedule bs.frameSchedule cfg

/-! ## Client object -/

/-- The client object: devices, channel mask, gain guards and schedule; without
a base station it also supplies the physical layer and the frame length. -/
def readClients (cl : ClConf) (cfg : Config) : Except Failure Config := do
  let clChannel := cl.channel.getD "A"
  checkChannel clChannel
  let clSdrCh := if clChannel = "AB" then 2 else 1
  let maxTxGainUe ← valueInt cl.maxTxGainUE 81
  txGainGuard "ERROR: UE ChanA - Maximum TX gain value is " JsonNumber.floatToInt maxTxGainUe
    cl.txgainA
  txGainGuard "ERROR: UE ChanB - Maximum TX gain value is " JsonNumber.floatToInt maxTxGainUe
    cl.txgainB
  assertThat (cl.sdrId.length = cl.frameSchedule.length)
  let clFrames := cl.frameSchedule.map String.toList
  let cfg := { cfg with
    numClSdrs := cl.sdrId.length
    clSdrIds := cl.sdrId
    clChannel, clSdrCh
    numClAntennas := cl.sdrId.length * clSdrCh
    ulDataFrameNum := cl.ulDataFrameNum.getD 1
    clTxgainVec := [cl.txgainA, cl.txgainB]
    maxTxGainUe, clFrames
    clPilotSymbols := loadSymbols clFrames 'P'
    clUlSymbols := loadSymbols clFrames 'U'
    clDlSymbols := loadSymbols clFrames 'D' }
  if cfg.bsPresent then pure cfg
  else do
    let frame0 ← checkedAt clFrames 0
    pure { readPhy cl.phy cfg with
      schedule := { cfg.schedule with symbolsPerFrame := frame0.length } }

/-! ## Derived members -/

/-- The value of {lit}`ul_data_sym_present_`, with the short-circuit
evaluation of the source: each {lit}`at(0)` is reached only when its operand is
evaluated. -/
def uplinkPresent (cfg : Config) : Except Failure Bool :=
  if cfg.reciprocalCalib then .ok false
  else
    let bsUl : Except Failure Bool :=
      if cfg.bsPresent then (fun s => !s.isEmpty) <$> checkedAt cfg.schedule.ulSymbols 0
      else .ok false
    bsUl >>= fun b =>
      if b then .ok true
      else if cfg.clientPresent then (fun s => !s.isEmpty) <$> checkedAt cfg.clUlSymbols 0
      else .ok false

/-- The uplink-presence stage. -/
def setUlDataSymPresent (cfg : Config) : Except Failure Config := do
  let present ← uplinkPresent cfg
  pure { cfg with ulDataSymPresent := present }

/-- The beacon stage: compose, then store. -/
def setBeacon (env : Platform) (cfg : Config) : Except Failure Config := do
  let b ← composeBeacon env cfg.prefixLen cfg.postfixLen cfg.subframeSize cfg.sampsPerSymbol
  pure { cfg with beaconCi16 := b.beaconCi16, beaconSize := b.beaconSize, beacon := b.beacon }

/-- The pilot stage: clamp the FFT and cyclic-prefix sizes, compose, store.
The derived sizes read earlier are not recomputed. -/
def setPilot (env : Platform) (cfg : Config) : Except Failure Config := do
  let fftSize := clampFftSize cfg.fftSize
  let cpSize := clampCpSize cfg.cpSize
  let p ← composePilot env fftSize cpSize cfg.symbolPerSubframe cfg.prefixLen cfg.postfixLen
    cfg.symbolDataSubcarrierNum cfg.pilotSeq
  pure { cfg with fftSize, cpSize, pilotCi16 := p.pilotCi16, pilot := p.pilot }

/-- The thread counts and the core-allocation flag for a host of
{lean}`numCores` cores: {lit}`(task_thread_num_, rx_thread_num_, core_alloc_)`.
The {lit}`"task_thread"` key is read from the base-station object. -/
def threadSettings (env : Platform) (taskThread : Option Nat) (numCores : Nat) (cfg : Config) :
    Nat × Nat × Bool :=
  let coreAlloc := decide (numCores > env.rxThreadNum)
  if cfg.bsPresent ∧ cfg.schedule.pilotSymsPerFrame + cfg.schedule.ulSymsPerFrame > 0 then
    let taskThreadNum := taskThread.getD env.taskThreadNum
    let rxThreadNum :=
      if cfg.reciprocalCalib then 2
      else if numCores ≥ 2 * env.rxThreadNum then min env.rxThreadNum cfg.numBsSdrsAll else 1
    let coreAlloc :=
      if cfg.clientPresent ∧ numCores < 1 + taskThreadNum + rxThreadNum + cfg.numClSdrs then false
      else coreAlloc
    (taskThreadNum, rxThreadNum, coreAlloc)
  else
    let coreAlloc := if cfg.clientPresent ∧ numCores ≤ 1 + cfg.numClSdrs then false else coreAlloc
    (0, 0, coreAlloc)

/-- The multi-threading stage, ending with {lit}`running_.store(true)`. -/
def setThreads (env : Platform) (taskThread : Option Nat) (numCores : Nat) (cfg : Config) :
    Config :=
  let settings := threadSettings env taskThread numCores cfg
  { cfg with
    taskThreadNum := settings.1
    rxThreadNum := settings.2.1
    coreAlloc := settings.2.2
    running := true }

/-! ## The constructor -/

/-- The record before the constructor body runs: only the presence flags, which
tell whether each object is present and non-empty. -/
def initial (input : ConfInput) : Config :=
  { bsPresent := input.baseStations.isSome, clientPresent := input.clients.isSome }

/-- The base-station stage, run when the object is present. -/
def withBaseStation (input : ConfInput) (cfg : Config) : Except Failure Config :=
  match input.baseStations with
  | some bs => readBaseStation bs cfg
  | none => .ok cfg

/-- The client stage, run when the object is present. -/
def withClients (input : ConfInput) (cfg : Config) : Except Failure Config :=
  match input.clients with
  | some cl => readClients cl cfg
  | none => .ok cfg

/-- The part of the constructor that reads the two objects: everything before
the waveforms, which does not depend on the platform. -/
def readConf (input : ConfInput) : Except Failure Config := do
  let cfg ← withBaseStation input (initial input)
  assertThat (¬(cfg.clientPresent ∧ cfg.reciprocalCalib))
  let cfg ← withClients input cfg
  setUlDataSymPresent cfg

/-- {lit}`Config::Config` on a parsed document, for a host whose
{lit}`getCoreCount()` is {lean}`numCores`. -/
def new (env : Platform) (input : ConfInput) (numCores : Nat) : Except Failure Config := do
  let cfg ← readConf input
  let cfg ← setBeacon env cfg
  let cfg ← setPilot env cfg
  pure (setThreads env (input.baseStations.bind BsConf.taskThread) numCores cfg)

/-- An accepted configuration is the result of every stage, each of which
succeeded. -/
theorem new_eq_ok {env : Platform} {input : ConfInput} {numCores : Nat} {cfg : Config} :
    Config.new env input numCores = .ok cfg ↔
      ∃ c₁ c₂ c₃, readConf input = .ok c₁ ∧ setBeacon env c₁ = .ok c₂ ∧
        setPilot env c₂ = .ok c₃ ∧
        cfg = setThreads env (input.baseStations.bind BsConf.taskThread) numCores c₃ := by
  simp only [new, bind_eq_ok, pure, Except.pure, Except.ok.injEq]
  constructor
  · rintro ⟨c₁, h₁, c₂, h₂, c₃, h₃, rfl⟩
    exact ⟨c₁, c₂, c₃, h₁, h₂, h₃, rfl⟩
  · rintro ⟨c₁, c₂, c₃, h₁, h₂, h₃, rfl⟩
    exact ⟨c₁, h₁, c₂, h₂, c₃, h₃, rfl⟩

/-- Reading the objects succeeds exactly when each of its stages does. -/
theorem readConf_eq_ok {input : ConfInput} {cfg : Config} :
    readConf input = .ok cfg ↔
      ∃ c₁ c₂, withBaseStation input (initial input) = .ok c₁ ∧
        ¬(c₁.clientPresent ∧ c₁.reciprocalCalib) ∧ withClients input c₁ = .ok c₂ ∧
        setUlDataSymPresent c₂ = .ok cfg := by
  simp only [readConf, bind_eq_ok, assertThat_eq_ok]
  constructor
  · rintro ⟨c₁, h₁, _, ha, c₂, h₂, h₃⟩
    exact ⟨c₁, c₂, h₁, ha, h₂, h₃⟩
  · rintro ⟨c₁, c₂, h₁, ha, h₂, h₃⟩
    exact ⟨c₁, h₁, (), ha, c₂, h₂, h₃⟩

/-! ## What each stage writes -/

/-- The schedule branch writes a derived schedule and no presence or mode
flag. -/
theorem frameSchedule_eq_ok {schedule : List String} {cfg cfg' : Config}
    (h : frameSchedule schedule cfg = .ok cfg') :
    cfg'.schedule.Derived ∧ cfg'.bsPresent = cfg.bsPresent ∧
      cfg'.clientPresent = cfg.clientPresent ∧ cfg'.reciprocalCalib = cfg.reciprocalCalib := by
  unfold frameSchedule at h
  simp only [bind_eq_ok] at h
  obtain ⟨_, -, frame0, h0, p0, hp, n0, hn, u0, hu, d0, hd, hfin⟩ := h
  have hframes : (schedule.map String.toList)[0]? = some frame0 := checkedAt_eq_ok.mp h0
  have key : Schedule.Derived
      { frames := schedule.map String.toList
        pilotSymbols := loadSymbols (schedule.map String.toList) 'P'
        noiseSymbols := loadSymbols (schedule.map String.toList) 'N'
        ulSymbols := loadSymbols (schedule.map String.toList) 'U'
        dlSymbols := loadSymbols (schedule.map String.toList) 'D'
        symbolsPerFrame := frame0.length
        pilotSymsPerFrame := p0.length
        noiseSymsPerFrame := n0.length
        ulSymsPerFrame := u0.length
        dlSymsPerFrame := d0.length } :=
    { frames_ne_nil := fun h => by
        simp [show schedule.map String.toList = [] from h] at hframes
      pilotSymbols_eq := rfl
      noiseSymbols_eq := rfl
      ulSymbols_eq := rfl
      dlSymbols_eq := rfl
      symbolsPerFrame_eq := by simp [hframes]
      pilotSymsPerFrame_eq := count_of_checkedAt_loadSymbols hp
      noiseSymsPerFrame_eq := count_of_checkedAt_loadSymbols hn
      ulSymsPerFrame_eq := count_of_checkedAt_loadSymbols hu
      dlSymsPerFrame_eq := count_of_checkedAt_loadSymbols hd }
  split at hfin <;> simp only [pure, Except.pure, Except.ok.injEq] at hfin <;> subst hfin <;>
    exact ⟨key, rfl, rfl, rfl⟩

/-- The base-station stage writes no presence flag, and in schedule mode it
writes a derived schedule. -/
theorem readBaseStation_eq_ok {bs : BsConf} {cfg cfg' : Config}
    (h : readBaseStation bs cfg = .ok cfg') :
    cfg'.bsPresent = cfg.bsPresent ∧ cfg'.clientPresent = cfg.clientPresent ∧
      (cfg'.reciprocalCalib = false → cfg'.schedule.Derived) := by
  unfold readBaseStation at h
  simp only [bind_eq_ok] at h
  obtain ⟨_, -, _, -, _, -, _, -, _, -, hfin⟩ := h
  split at hfin
  · unfold calibSchedule at hfin
    simp only [bind_eq_ok, pure, Except.pure, Except.ok.injEq] at hfin
    obtain ⟨_, -, _, -, rfl⟩ := hfin
    simp_all [readPhy]
  · obtain ⟨hs, hb, hc, -⟩ := frameSchedule_eq_ok hfin
    exact ⟨hb, hc, fun _ => hs⟩

/-- With a base station present, the client stage writes neither the schedule
nor a presence or mode flag. -/
theorem readClients_eq_ok_of_bsPresent {cl : ClConf} {cfg cfg' : Config}
    (h : readClients cl cfg = .ok cfg') (hbs : cfg.bsPresent = true) :
    cfg'.schedule = cfg.schedule ∧ cfg'.bsPresent = cfg.bsPresent ∧
      cfg'.clientPresent = cfg.clientPresent ∧ cfg'.reciprocalCalib = cfg.reciprocalCalib := by
  unfold readClients at h
  simp only [bind_eq_ok, hbs, if_true, pure, Except.pure, Except.ok.injEq] at h
  obtain ⟨_, -, _, -, _, -, _, -, _, -, rfl⟩ := h
  simp [hbs]

/-- With no base station, the client stage takes the frame length from the
first client frame and writes no presence or mode flag. -/
theorem readClients_eq_ok_of_not_bsPresent {cl : ClConf} {cfg cfg' : Config}
    (h : readClients cl cfg = .ok cfg') (hbs : cfg.bsPresent = false) :
    cfg'.clFrames[0]?.map List.length = some cfg'.schedule.symbolsPerFrame ∧
      cfg'.bsPresent = cfg.bsPresent ∧ cfg'.clientPresent = cfg.clientPresent ∧
      cfg'.reciprocalCalib = cfg.reciprocalCalib := by
  unfold readClients at h
  simp only [bind_eq_ok, hbs, Bool.false_eq_true, if_false, pure, Except.pure,
    Except.ok.injEq] at h
  obtain ⟨_, -, _, -, _, -, _, -, _, -, frame0, h0, rfl⟩ := h
  simp [readPhy, checkedAt_eq_ok.mp h0, hbs]

/-- The uplink-presence stage writes only {lit}`ul_data_sym_present_`. -/
theorem setUlDataSymPresent_eq_ok {cfg cfg' : Config} (h : setUlDataSymPresent cfg = .ok cfg') :
    ∃ b, cfg' = { cfg with ulDataSymPresent := b } := by
  simp only [setUlDataSymPresent, bind_eq_ok, pure, Except.pure, Except.ok.injEq] at h
  obtain ⟨b, -, rfl⟩ := h
  exact ⟨b, rfl⟩

/-- The beacon stage writes the members of an accepted beacon composition. -/
theorem setBeacon_eq_ok {env : Platform} {cfg cfg' : Config} :
    setBeacon env cfg = .ok cfg' ↔
      ∃ b, composeBeacon env cfg.prefixLen cfg.postfixLen cfg.subframeSize cfg.sampsPerSymbol =
          .ok b ∧
        cfg' = { cfg with
          beaconCi16 := b.beaconCi16, beaconSize := b.beaconSize, beacon := b.beacon } := by
  simp only [setBeacon, bind_eq_ok, pure, Except.pure, Except.ok.injEq]
  constructor <;> rintro ⟨b, hb, h⟩ <;> exact ⟨b, hb, h.symm⟩

/-- The pilot stage writes the clamped sizes and the members of an accepted
pilot composition. -/
theorem setPilot_eq_ok {env : Platform} {cfg cfg' : Config} :
    setPilot env cfg = .ok cfg' ↔
      ∃ p, composePilot env (clampFftSize cfg.fftSize) (clampCpSize cfg.cpSize)
          cfg.symbolPerSubframe cfg.prefixLen cfg.postfixLen cfg.symbolDataSubcarrierNum
          cfg.pilotSeq = .ok p ∧
        cfg' = { cfg with fftSize := clampFftSize cfg.fftSize, cpSize := clampCpSize cfg.cpSize
                          pilotCi16 := p.pilotCi16, pilot := p.pilot } := by
  simp only [setPilot, bind_eq_ok, pure, Except.pure, Except.ok.injEq]
  constructor <;> rintro ⟨p, hp, h⟩ <;> exact ⟨p, hp, h.symm⟩

/-- Once the objects are read, the constructor returns when the symbol holds the
beacon and the pilot is composed, with the waveforms and thread settings written
over what was read. -/
theorem new_eq_of_readConf {env : Platform} {input : ConfInput} {numCores : Nat} {c : Config}
    (h : readConf input = .ok c) (hb : 496 + c.prefixLen + c.postfixLen ≤ c.sampsPerSymbol)
    {p : Pilot} (hp : composePilot env (clampFftSize c.fftSize) (clampCpSize c.cpSize)
      c.symbolPerSubframe c.prefixLen c.postfixLen c.symbolDataSubcarrierNum c.pilotSeq = .ok p) :
    Config.new env input numCores = .ok (setThreads env (input.baseStations.bind BsConf.taskThread)
      numCores { c with
        beaconCi16 := zeros c.prefixLen ++ beaconBody env ++ zeros (c.subframeSize - 496) ++
          zeros c.postfixLen
        beaconSize := 496
        beacon := cint16ToUint32 (beaconBody env) false
        fftSize := clampFftSize c.fftSize
        cpSize := clampCpSize c.cpSize
        pilotCi16 := p.pilotCi16
        pilot := p.pilot }) :=
  new_eq_ok.mpr ⟨c, _, _, h, setBeacon_eq_ok.mpr ⟨_, composeBeacon_eq_ok.mpr ⟨hb, rfl⟩, rfl⟩,
    setPilot_eq_ok.mpr ⟨p, hp, rfl⟩, rfl⟩

/-- The waveform and thread stages keep the schedule, the client frames, the
presence flags and the mode. -/
theorem new_eq_ok_readConf {env : Platform} {input : ConfInput} {numCores : Nat}
    {cfg : Config} (h : Config.new env input numCores = .ok cfg) :
    ∃ c, readConf input = .ok c ∧ cfg.schedule = c.schedule ∧ cfg.clFrames = c.clFrames ∧
      cfg.bsPresent = c.bsPresent ∧ cfg.clientPresent = c.clientPresent ∧
      cfg.reciprocalCalib = c.reciprocalCalib := by
  obtain ⟨c₁, c₂, c₃, h₁, h₂, h₃, rfl⟩ := new_eq_ok.mp h
  obtain ⟨_, -, rfl⟩ := setBeacon_eq_ok.mp h₂
  obtain ⟨_, -, rfl⟩ := setPilot_eq_ok.mp h₃
  exact ⟨c₁, h₁, rfl, rfl, rfl, rfl, rfl⟩

/-- The stages after the base-station object keep its presence flags and mode,
and, with a base station present, its schedule. -/
theorem readConf_eq_ok_baseStation {input : ConfInput} {cfg : Config}
    (h : readConf input = .ok cfg) :
    ∃ c₁, withBaseStation input (initial input) = .ok c₁ ∧ cfg.bsPresent = c₁.bsPresent ∧
      cfg.clientPresent = c₁.clientPresent ∧ cfg.reciprocalCalib = c₁.reciprocalCalib ∧
      (c₁.bsPresent = true → cfg.schedule = c₁.schedule) := by
  obtain ⟨c₁, c₂, h₁, -, h₂, h₃⟩ := readConf_eq_ok.mp h
  obtain ⟨_, rfl⟩ := setUlDataSymPresent_eq_ok h₃
  refine ⟨c₁, h₁, ?_⟩
  unfold withClients at h₂
  split at h₂
  · by_cases hbs : c₁.bsPresent = true
    · obtain ⟨hs, hb, hc, hr⟩ := readClients_eq_ok_of_bsPresent h₂ hbs
      exact ⟨hb, hc, hr, fun _ => hs⟩
    · obtain ⟨-, hb, hc, hr⟩ := readClients_eq_ok_of_not_bsPresent h₂ (by simpa using hbs)
      exact ⟨hb, hc, hr, fun h => absurd h hbs⟩
  · cases h₂
    exact ⟨rfl, rfl, rfl, fun _ => rfl⟩

/-- An accepted configuration in base-station schedule mode has a derived
schedule: its role tables and per-frame counts are those of its frames. -/
theorem new_schedule_derived {env : Platform} {input : ConfInput} {numCores : Nat}
    {cfg : Config} (h : Config.new env input numCores = .ok cfg) (hbs : cfg.bsPresent = true)
    (hcal : cfg.reciprocalCalib = false) : cfg.schedule.Derived := by
  obtain ⟨c, hc, hs, -, hb, -, hr⟩ := new_eq_ok_readConf h
  obtain ⟨c₁, h₁, hb₁, -, hr₁, hs₁⟩ := readConf_eq_ok_baseStation hc
  rw [hs, hs₁ (hb₁ ▸ hb ▸ hbs)]
  unfold withBaseStation at h₁
  split at h₁
  · exact (readBaseStation_eq_ok h₁).2.2 (hr₁ ▸ hr ▸ hcal)
  · cases h₁
    rename_i hnone
    simp [initial, hnone] at hb₁
    simp [hb, hb₁] at hbs

end Config

end Sounder
