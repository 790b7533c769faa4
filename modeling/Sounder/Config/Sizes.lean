import Sounder.Config.Cells

/-!
# Sounder - Frame and subframe sizes of accepted configurations

The constructor reads one frame length and one set of PHY sizes and derives the
rest from them.  This module says what the derived members are on every
configuration the constructor accepts: the frame length is the length of the
first frame of the schedule in use, the symbol length is computed from the sizes
as read, and the two transmit subframes have the lengths their compositions give.

Main results:

- Theorem {lit}`readConf_sizesDerived`: the derived subframe and symbol lengths
  are those of the sizes read, through every stage of the constructor.
- Theorem {lit}`new_clFrames_length`: without a base station, an accepted
  document has client frames and the frame length is the first one's.
- Theorem {lit}`sampsPerSymbol_ne_of_clamped`: when a clamp changed the FFT or
  cyclic-prefix size, the symbol length no longer matches the final sizes.
- Theorem {lit}`new_calibDerived`: in calibration mode the reference lies inside
  every cell, every cell has the generated frames, and the frame length is the
  number of SDRs of the first cell.
- Theorem {lit}`calib_ab_frames_exceed_symbolsPerFrame`: on both channels the
  calibration frames of the first cell are longer than that frame length.
- Theorem {lit}`calib_getTotNumAntennas`: in calibration mode the total antenna
  count leaves out one reference SDR per cell, without wrapping around.
-/

namespace Sounder
namespace Config

/-! ## Derived PHY sizes -/

/-- The derived PHY sizes agree with the values they were computed from, as
{lean}`readPhy` leaves them. -/
structure SizesDerived (cfg : Config) : Prop where
  subframeSize_eq : cfg.subframeSize = cfg.symbolPerSubframe * cfg.ofdmSymbolSize
  sampsPerSymbol_eq : cfg.sampsPerSymbol = cfg.subframeSize + cfg.prefixLen + cfg.postfixLen

section Stages

variable {cfg cfg' : Config}

theorem frameSchedule_sizesDerived {schedule : List String}
    (h : frameSchedule schedule cfg = .ok cfg') (hs : cfg.SizesDerived) : cfg'.SizesDerived := by
  unfold frameSchedule at h
  simp only [bind_eq_ok] at h
  obtain ⟨_, -, _, -, _, -, _, -, _, -, _, -, hfin⟩ := h
  split at hfin <;> simp only [pure, Except.pure, Except.ok.injEq] at hfin <;> subst hfin <;>
    exact ⟨hs.1, hs.2⟩

theorem calibSchedule_sizesDerived (h : calibSchedule cfg = .ok cfg') (hs : cfg.SizesDerived) :
    cfg'.SizesDerived := by
  simp only [calibSchedule, bind_eq_ok, pure, Except.pure, Except.ok.injEq] at h
  obtain ⟨_, -, _, -, rfl⟩ := h
  exact ⟨hs.1, hs.2⟩

/-- The base-station stage reads the PHY sizes and derives from them. -/
theorem readBaseStation_sizesDerived {bs : BsConf} (h : readBaseStation bs cfg = .ok cfg') :
    cfg'.SizesDerived := by
  unfold readBaseStation at h
  simp only [bind_eq_ok] at h
  obtain ⟨_, -, _, -, _, -, _, -, _, -, hfin⟩ := h
  split at hfin
  · exact calibSchedule_sizesDerived hfin ⟨rfl, rfl⟩
  · exact frameSchedule_sizesDerived hfin ⟨rfl, rfl⟩

/-- The client stage keeps the derived sizes, or derives them anew from its own
PHY keys when there is no base station. -/
theorem readClients_sizesDerived {cl : ClConf} (h : readClients cl cfg = .ok cfg')
    (hs : cfg.SizesDerived) : cfg'.SizesDerived := by
  unfold readClients at h
  simp only [bind_eq_ok] at h
  obtain ⟨_, -, _, -, _, -, _, -, _, -, hfin⟩ := h
  split at hfin
  · simp only [pure, Except.pure, Except.ok.injEq] at hfin
    subst hfin
    exact ⟨hs.1, hs.2⟩
  · simp only [bind_eq_ok, pure, Except.pure, Except.ok.injEq] at hfin
    obtain ⟨_, -, rfl⟩ := hfin
    exact ⟨rfl, rfl⟩

end Stages

/-- The sizes read by the constructor's first part are consistently derived. -/
theorem readConf_sizesDerived {input : ConfInput} {cfg : Config}
    (h : readConf input = .ok cfg) : cfg.SizesDerived := by
  obtain ⟨c₁, c₂, h₁, -, h₂, h₃⟩ := readConf_eq_ok.mp h
  obtain ⟨_, rfl⟩ := setUlDataSymPresent_eq_ok h₃
  have hs₁ : c₁.SizesDerived := by
    unfold withBaseStation at h₁
    split at h₁
    · exact readBaseStation_sizesDerived h₁
    · cases h₁
      exact ⟨rfl, rfl⟩
  have hs₂ : c₂.SizesDerived := by
    unfold withClients at h₂
    split at h₂
    · exact readClients_sizesDerived h₂ hs₁
    · cases h₂
      exact hs₁
  exact ⟨hs₂.1, hs₂.2⟩

section Accepted

variable {env : Platform} {input : ConfInput} {numCores : Nat} {cfg : Config}

/-- Without a base station, an accepted document has client frames, and the frame
length is that of the first one: with neither object, the symbol length is zero
and the beacon does not fit. -/
theorem new_clFrames_length (h : Config.new env input numCores = .ok cfg)
    (hbs : cfg.bsPresent = false) :
    cfg.clFrames[0]?.map List.length = some cfg.schedule.symbolsPerFrame := by
  have hnone : input.baseStations = none := by simpa [new_bsPresent h] using hbs
  obtain ⟨c₁, c₂, c₃, h₁, h₂, h₃, rfl⟩ := new_eq_ok.mp h
  obtain ⟨b, hb, rfl⟩ := setBeacon_eq_ok.mp h₂
  obtain ⟨p, -, rfl⟩ := setPilot_eq_ok.mp h₃
  obtain ⟨d₁, d₂, hd₁, -, hd₂, hd₃⟩ := readConf_eq_ok.mp h₁
  obtain ⟨_, rfl⟩ := setUlDataSymPresent_eq_ok hd₃
  obtain rfl : d₁ = initial input := by simpa [withBaseStation, hnone] using hd₁.symm
  unfold withClients at hd₂
  split at hd₂
  · exact (readClients_eq_ok_of_not_bsPresent hd₂ (by simp [initial, hnone])).1
  · -- with neither object the symbol is empty and the beacon does not fit
    cases hd₂
    have := (composeBeacon_eq_ok.mp hb).1
    simp [initial] at this

/-- The derived sizes of an accepted configuration are those of the sizes read:
the waveform and thread stages do not write them. -/
theorem new_sizesDerived (h : Config.new env input numCores = .ok cfg) : cfg.SizesDerived := by
  obtain ⟨c₁, c₂, c₃, h₁, h₂, h₃, rfl⟩ := new_eq_ok.mp h
  obtain ⟨_, -, rfl⟩ := setBeacon_eq_ok.mp h₂
  obtain ⟨_, -, rfl⟩ := setPilot_eq_ok.mp h₃
  have hs := readConf_sizesDerived h₁
  exact ⟨hs.1, hs.2⟩

/-! ## Frame length -/

/-- The frame length of an accepted configuration is the length of the first
frame of the schedule in use: the first base-station frame in schedule mode, the
first client frame without a base station. -/
theorem symbolsPerFrame_eq_first_frame (h : Config.new env input numCores = .ok cfg) :
    (cfg.bsPresent = true → cfg.reciprocalCalib = false →
      cfg.schedule.frames[0]?.map List.length = some cfg.schedule.symbolsPerFrame) ∧
    (cfg.bsPresent = false →
      cfg.clFrames[0]?.map List.length = some cfg.schedule.symbolsPerFrame) :=
  ⟨fun hbs hcal => (new_schedule_derived h hbs hcal).symbolsPerFrame_eq,
    new_clFrames_length h⟩

/-- Two cells of one SDR each whose frames have two and three slots. -/
def unevenFramesInput : ConfInput where
  baseStations := some
    { phy := { fftSize := some 64, cpSize := some 16, ofdmSymbolPerSubframe := some 7 }
      sdrId := [["S1"], ["S2"]]
      frameSchedule := ["PG", "PGU"] }

/-- The document with uneven frames is accepted on every platform, with the
frame length of its first frame. -/
theorem unevenFramesInput_accepted (env : Platform) (numCores : Nat) (hins : env.InsertCompletes) :
    ∃ cfg, Config.new env unevenFramesInput numCores = .ok cfg ∧ cfg.bsPresent = true ∧
      cfg.reciprocalCalib = false ∧ cfg.schedule.frames = ["PG".toList, "PGU".toList] ∧
      cfg.schedule.symbolsPerFrame = 2 := by
  have hr := @eq_ok_of_isSome _ _ (readConf unevenFramesInput) (by decide)
  obtain ⟨p, hp⟩ := @composePilot_lts_isOk env 64 16 7 0 0 64 "lts" rfl (by decide) hins
  exact ⟨_, new_eq_of_readConf hr (by decide) hp, rfl, rfl, rfl, rfl⟩

theorem symbolsPerFrame_eq_first_frame_uneven :
    ∃ cfg, Config.new Platform.sample unevenFramesInput 8 = .ok cfg ∧
      (cfg.bsPresent = true → cfg.reciprocalCalib = false →
        cfg.schedule.frames[0]?.map List.length = some cfg.schedule.symbolsPerFrame) ∧
      (cfg.bsPresent = false →
        cfg.clFrames[0]?.map List.length = some cfg.schedule.symbolsPerFrame) :=
  let ⟨cfg, h, _⟩ := unevenFramesInput_accepted Platform.sample 8 Platform.sample_insertCompletes
  ⟨cfg, h, symbolsPerFrame_eq_first_frame h⟩

/-- Not every scheduled frame has the frame length: the constructor accepts
frames of different lengths. -/
theorem scheduled_frames_not_all_symbolsPerFrame :
    ¬ ∀ (env : Platform) (input : ConfInput) (numCores : Nat) (cfg : Config),
      Config.new env input numCores = .ok cfg →
      (cfg.bsPresent = true → cfg.reciprocalCalib = false →
        ∀ f ∈ cfg.schedule.frames, f.length = cfg.schedule.symbolsPerFrame) ∧
      (cfg.reciprocalCalib = true →
        ∀ cell ∈ cfg.calibFrames, ∀ f ∈ cell, f.length = cfg.schedule.symbolsPerFrame) ∧
      (cfg.bsPresent = false → ∀ f ∈ cfg.clFrames, f.length = cfg.schedule.symbolsPerFrame) := by
  intro H
  obtain ⟨cfg, h, hbs, hcal, hframes, hspf⟩ := unevenFramesInput_accepted Platform.sample 8 Platform.sample_insertCompletes
  have := (H _ _ _ cfg h).1 hbs hcal "PGU".toList (by simp [hframes])
  rw [hspf] at this
  exact absurd this (by decide)

/-! ## Frame length in calibration mode -/

/-- Every cell's generator returned: the reference lies inside every cell and
each cell has the frames {lean}`calibFrame` gives. -/
theorem mapM_calibFramesOfCell {c r : Nat} (hc : 0 < c) :
    ∀ {ns : List Nat} {frames : List (List Frame)},
      ns.mapM (fun n => calibFramesOfCell c n r) = .ok frames →
      (∀ n ∈ ns, r < n) ∧ frames = ns.map fun n => (List.range n).map (calibFrame c n r)
  | [], _, h => by
    simp only [List.mapM_nil, pure, Except.pure, Except.ok.injEq] at h
    exact ⟨by simp, h ▸ rfl⟩
  | n :: ns, _, h => by
    simp only [List.mapM_cons, bind_eq_ok, pure, Except.pure, Except.ok.injEq] at h
    obtain ⟨f, hf, fs, hfs, rfl⟩ := h
    have hn : r < n := Nat.lt_of_not_le fun hle => by simp [calibFramesOfCell_of_le hle] at hf
    obtain ⟨hlt, rfl⟩ := mapM_calibFramesOfCell hc hfs
    rw [calibFramesOfCell_eq hc hn, Except.ok.injEq] at hf
    subst hf
    exact ⟨by simpa [hn] using hlt, rfl⟩

/-- The calibration members as the calibration branch leaves them: the reference
lies inside every cell, every cell has the frames {lean}`calibFrame` gives, and
the frame length is {lit}`calib_frames_.at(0).size()`, the number of SDRs of the
first cell. -/
structure CalibDerived (cfg : Config) : Prop where
  ref_lt : ∀ n ∈ cfg.nBsSdrs, cfg.calRefSdrId < n
  calibFrames_eq : cfg.calibFrames =
    cfg.nBsSdrs.map fun n => (List.range n).map (calibFrame cfg.bsChannel.length n cfg.calRefSdrId)
  symbolsPerFrame_eq : cfg.nBsSdrs[0]? = some cfg.schedule.symbolsPerFrame

section Stages

variable {cfg cfg' : Config}

theorem calibSchedule_calibDerived (h : calibSchedule cfg = .ok cfg')
    (hc : 0 < cfg.bsChannel.length) : cfg'.CalibDerived := by
  simp only [calibSchedule, bind_eq_ok, pure, Except.pure, Except.ok.injEq] at h
  obtain ⟨frames, hframes, first, hfirst, rfl⟩ := h
  obtain ⟨hlt, rfl⟩ := mapM_calibFramesOfCell hc hframes
  refine ⟨hlt, rfl, ?_⟩
  rw [checkedAt_eq_ok, List.getElem?_map] at hfirst
  obtain ⟨n, hn, rfl⟩ := Option.map_eq_some'.mp hfirst
  simp [hn]

/-- The base-station stage in calibration mode leaves the calibration members
derived: the channel mask it checked is not empty. -/
theorem readBaseStation_calibDerived {bs : BsConf} (h : readBaseStation bs cfg = .ok cfg')
    (hcal : cfg'.reciprocalCalib = true) : cfg'.CalibDerived := by
  unfold readBaseStation at h
  simp only [bind_eq_ok] at h
  obtain ⟨_, hch, _, -, _, -, _, -, _, -, hfin⟩ := h
  have hc : 0 < (bs.channel.getD "A").length := by
    rcases checkChannel_eq_ok.mp hch with h | h | h <;> rw [h] <;> decide
  split at hfin
  · exact calibSchedule_calibDerived hfin hc
  · rename_i hnot
    exact absurd ((frameSchedule_eq_ok hfin).2.2.2.symm.trans hcal) hnot

end Stages

/-- Calibration mode is read from the base-station object: without one the flag
keeps its initial value. -/
theorem readConf_baseStations_of_calib (h : readConf input = .ok cfg)
    (hcal : cfg.reciprocalCalib = true) : ∃ bs, input.baseStations = some bs := by
  obtain ⟨c₁, c₂, hd₁, -, hd₂, hd₃⟩ := readConf_eq_ok.mp h
  obtain ⟨_, rfl⟩ := setUlDataSymPresent_eq_ok hd₃
  cases hbs : input.baseStations with
  | some bs => exact ⟨bs, rfl⟩
  | none =>
    rw [withBaseStation, hbs] at hd₁
    cases hd₁
    have hr : c₂.reciprocalCalib = false := by
      unfold withClients at hd₂
      split at hd₂
      · exact congrArg BsMembers.reciprocalCalib (readClients_bsMembers hd₂)
      · cases hd₂
        rfl
    exact absurd (hr.symm.trans hcal) Bool.false_ne_true

/-- On an accepted configuration in calibration mode the calibration members
are derived: no later stage writes them, and there is no client object. -/
theorem new_calibDerived (h : Config.new env input numCores = .ok cfg)
    (hcal : cfg.reciprocalCalib = true) : cfg.CalibDerived := by
  obtain ⟨c₁, c₂, c₃, h₁, h₂, h₃, rfl⟩ := new_eq_ok.mp h
  obtain ⟨_, -, rfl⟩ := setBeacon_eq_ok.mp h₂
  obtain ⟨_, -, rfl⟩ := setPilot_eq_ok.mp h₃
  obtain ⟨bs, hbs⟩ := readConf_baseStations_of_calib h₁ hcal
  obtain ⟨d₁, d₂, hd₁, ha, hd₂, hd₃⟩ := readConf_eq_ok.mp h₁
  obtain ⟨_, rfl⟩ := setUlDataSymPresent_eq_ok hd₃
  rw [withBaseStation, hbs] at hd₁
  obtain ⟨hb, hcp, -⟩ := readBaseStation_eq_ok hd₁
  unfold withClients at hd₂
  split at hd₂
  · -- a client object in calibration mode fails the assertion
    rename_i cl hcl
    have hr := (readClients_eq_ok_of_bsPresent hd₂ (by simp [hb, initial, hbs])).2.2.2
    exact absurd ⟨by simp [hcp, initial, hcl], hr ▸ hcal⟩ ha
  · cases hd₂
    have hd := readBaseStation_calibDerived hd₁ hcal
    exact ⟨hd.1, hd.2, hd.3⟩

/-- One cell of three SDRs in calibration mode on both channels, with the
default reference, the last SDR. -/
def calibABInput : ConfInput where
  baseStations := some
    { phy := { fftSize := some 64, cpSize := some 16, ofdmSymbolPerSubframe := some 7 }
      sdrId := [["S1", "S2", "S3"]]
      channel := some "AB"
      reciprocalCalibration := some true }

/-- The two-channel calibration document is accepted on every platform: its
frames have five slots and its frame length is three. -/
theorem calibABInput_accepted (env : Platform) (numCores : Nat) (hins : env.InsertCompletes) :
    ∃ cfg, Config.new env calibABInput numCores = .ok cfg ∧ cfg.reciprocalCalib = true ∧
      cfg.bsChannel = "AB" ∧ cfg.schedule.symbolsPerFrame = 3 ∧
      cfg.calibFrames = [["PPGGR".toList, "GGPPR".toList, "RRRRP".toList]] := by
  have hr := @eq_ok_of_isSome _ _ (readConf calibABInput) (by decide)
  obtain ⟨p, hp⟩ := @composePilot_lts_isOk env 64 16 7 0 0 64 "lts" rfl (by decide) hins
  exact ⟨_, new_eq_of_readConf hr (by decide) hp, rfl, rfl, rfl, rfl⟩

/-- On both channels the frame length {lit}`symbols_per_frame_` of calibration
mode undercounts the frames: the first cell has {lit}`symbols_per_frame_`
frames, and each of them has at least {lit}`2·symbols_per_frame_ - 1` slots. -/
theorem calib_ab_frames_exceed_symbolsPerFrame (h : Config.new env input numCores = .ok cfg)
    (hcal : cfg.reciprocalCalib = true) (hab : cfg.bsChannel = "AB") :
    ∃ cell, cfg.calibFrames[0]? = some cell ∧ cell.length = cfg.schedule.symbolsPerFrame ∧
      ∀ f ∈ cell, 2 * cfg.schedule.symbolsPerFrame - 1 ≤ f.length := by
  have hd := new_calibDerived h hcal
  refine ⟨_, by rw [hd.calibFrames_eq, List.getElem?_map, hd.symbolsPerFrame_eq]; rfl, by simp, ?_⟩
  simp only [List.mem_map, List.mem_range]
  rintro f ⟨i, -, rfl⟩
  have h2 : cfg.bsChannel.length = 2 := by rw [hab]; rfl
  have := calibFrame_length_ge cfg.bsChannel.length cfg.schedule.symbolsPerFrame cfg.calRefSdrId i
  rwa [h2] at this ⊢

theorem calibABInput_frames_exceed :
    ∃ cfg, Config.new Platform.sample calibABInput 8 = .ok cfg ∧ cfg.reciprocalCalib = true ∧
      cfg.bsChannel = "AB" ∧ cfg.schedule.symbolsPerFrame = 3 ∧
      ∃ cell, cfg.calibFrames[0]? = some cell ∧ cell.length = cfg.schedule.symbolsPerFrame ∧
        ∀ f ∈ cell, 2 * cfg.schedule.symbolsPerFrame - 1 ≤ f.length :=
  let ⟨cfg, h, hcal, hab, hspf, _⟩ := calibABInput_accepted Platform.sample 8 Platform.sample_insertCompletes
  ⟨cfg, h, hcal, hab, hspf, calib_ab_frames_exceed_symbolsPerFrame h hcal hab⟩

/-! ## Antennas in calibration mode -/

/-- In calibration mode {lit}`getTotNumAntennas` leaves out the reference SDR of
every cell: its loop decrements the running sum once per cell in
{lit}`size_t`, and since the reference lies inside every cell of an accepted
configuration the sum never falls below zero, so the count is the SDRs less one
per cell, times the channels. -/
theorem calib_getTotNumAntennas (h : Config.new env input numCores = .ok cfg)
    (hcal : cfg.reciprocalCalib = true) :
    cfg.getTotNumAntennas =
      .ok ((cfg.numBsSdrsAll - cfg.numCells) % 2 ^ 64 * cfg.bsChannel.length) := by
  obtain ⟨c, hc, -, -, -, -, hr⟩ := new_eq_ok_readConf h
  obtain ⟨bs, hbs⟩ := readConf_baseStations_of_calib hc (hr ▸ hcal)
  have hm := new_bsMembers h hbs
  have hs : cfg.nBsSdrs = (BsMembers.ofConf bs).nBsSdrs := congrArg BsMembers.nBsSdrs hm
  have hcells : cfg.numCells = cfg.nBsSdrs.length := by
    rw [show cfg.numCells = (BsMembers.ofConf bs).numCells from congrArg BsMembers.numCells hm,
      hs, BsMembers.ofConf_length_nBsSdrs]
  have hall : cfg.numBsSdrsAll = cfg.nBsSdrs.sum := by
    rw [hs]
    exact congrArg DeviceTables.numBsSdrsAll (new_deviceTables h hbs)
  -- every cell holds the reference, so it has an SDR
  have hle : cfg.nBsSdrs.length ≤ cfg.nBsSdrs.sum :=
    List.length_le_sum_of_one_le _ fun n hn => Nat.one_le_iff_ne_zero.mpr
      (Nat.pos_iff_ne_zero.mp (Nat.zero_lt_of_lt ((new_calibDerived h hcal).ref_lt n hn)))
  rw [getTotNumAntennas_eq (by simp [new_bsPresent h, hbs]) hcells.le, if_pos hcal, hcells,
    List.take_length, hall]
  congr 2
  have hsplit : cfg.nBsSdrs.sum + cfg.nBsSdrs.length * (2 ^ 64 - 1) =
      (cfg.nBsSdrs.sum - cfg.nBsSdrs.length) + cfg.nBsSdrs.length * 2 ^ 64 := by
    simp only [Nat.reducePow, Nat.reduceSub]
    omega
  rw [hsplit, Nat.add_mul_mod_self_right]

theorem calibABInput_totNumAntennas :
    ∃ cfg, Config.new Platform.sample calibABInput 8 = .ok cfg ∧ cfg.reciprocalCalib = true ∧
      cfg.getTotNumAntennas =
        .ok ((cfg.numBsSdrsAll - cfg.numCells) % 2 ^ 64 * cfg.bsChannel.length) :=
  let ⟨cfg, h, hcal, _⟩ := calibABInput_accepted Platform.sample 8 Platform.sample_insertCompletes
  ⟨cfg, h, hcal, calib_getTotNumAntennas h hcal⟩

/-! ## Subframe lengths -/

/-- On an accepted configuration the beacon subframe spans the symbol, the pilot
subframe spans the prefix, one cyclic prefix and pilot sequence per OFDM symbol
and the postfix, and the final FFT and cyclic-prefix sizes are in the supported
ranges.  When the clamps left the sizes as read, the symbol length is the one
the final sizes give, and at FFT size {lit}`64` the pilot subframe spans the
symbol. -/
theorem subframe_lengths (h : Config.new env input numCores = .ok cfg) :
    cfg.beaconCi16.length = cfg.sampsPerSymbol ∧
    cfg.pilotCi16.length = cfg.prefixLen + cfg.symbolPerSubframe *
      ((pilotSym env cfg.fftSize cfg.pilotSeq cfg.symbolDataSubcarrierNum).length + cfg.cpSize) +
      cfg.postfixLen ∧
    kMinSupportedFFTSize ≤ cfg.fftSize ∧ cfg.fftSize ≤ kMaxSupportedFFTSize ∧
    cfg.cpSize ≤ kMaxSupportedCPSize ∧
    (cfg.ofdmSymbolSize = cfg.fftSize + cfg.cpSize →
      cfg.sampsPerSymbol =
        cfg.prefixLen + cfg.symbolPerSubframe * (cfg.fftSize + cfg.cpSize) + cfg.postfixLen ∧
      (cfg.fftSize = 64 → cfg.pilotCi16.length = cfg.sampsPerSymbol)) := by
  obtain ⟨c₁, c₂, c₃, h₁, h₂, h₃, rfl⟩ := new_eq_ok.mp h
  obtain ⟨b, hb, rfl⟩ := setBeacon_eq_ok.mp h₂
  obtain ⟨p, hp, rfl⟩ := setPilot_eq_ok.mp h₃
  have hs := readConf_sizesDerived h₁
  have hpilot := length_pilotCi16 hp
  refine ⟨length_beaconCi16 hb hs.sampsPerSymbol_eq, hpilot, (clampFftSize_mem _).1,
    (clampFftSize_mem _).2, clampCpSize_le _, fun hofdm => ?_⟩
  have hsamps : c₁.sampsPerSymbol = c₁.prefixLen +
      c₁.symbolPerSubframe * (clampFftSize c₁.fftSize + clampCpSize c₁.cpSize) + c₁.postfixLen := by
    have hofdm' : c₁.ofdmSymbolSize = clampFftSize c₁.fftSize + clampCpSize c₁.cpSize := hofdm
    rw [hs.sampsPerSymbol_eq, hs.subframeSize_eq, hofdm']
    omega
  refine ⟨hsamps, fun h64 => ?_⟩
  have h64' : clampFftSize c₁.fftSize = 64 := h64
  show p.pilotCi16.length = c₁.sampsPerSymbol
  rw [hpilot, hsamps, h64']
  simp [pilotSym, env.ltsSeq_length]

/-- One cell at FFT size {lit}`128` with the default pilot sequence, which the
constructor does not support and leaves empty. -/
def fft128Input : ConfInput where
  baseStations := some
    { phy := { fftSize := some 128, ofdmSymbolPerSubframe := some 4 }
      sdrId := [["S1"]]
      frameSchedule := ["BPUG"] }

/-- The FFT-128 document is accepted on every platform with a pilot subframe of
no samples and a symbol of {lit}`512`. -/
theorem fft128Input_accepted (env : Platform) (numCores : Nat) (hins : env.InsertCompletes) :
    ∃ cfg, Config.new env fft128Input numCores = .ok cfg ∧ cfg.pilotCi16.length = 0 ∧
      cfg.sampsPerSymbol = 512 := by
  have hr := @eq_ok_of_isSome _ _ (readConf fft128Input) (by decide)
  have hempty : pilotSym env 128 "lts" 128 = [] := rfl
  obtain ⟨p, hp⟩ := @composePilot_isOk env 128 0 4 0 0 128 "lts" (by simp [hempty]) hins
  refine ⟨_, new_eq_of_readConf hr (by decide) hp, ?_, rfl⟩
  show p.pilotCi16.length = 0
  simpa [hempty] using length_pilotCi16 hp

theorem subframe_lengths_uneven :
    ∃ cfg, Config.new Platform.sample unevenFramesInput 8 = .ok cfg ∧
      cfg.beaconCi16.length = cfg.sampsPerSymbol ∧
      cfg.pilotCi16.length = cfg.prefixLen + cfg.symbolPerSubframe *
        ((pilotSym Platform.sample cfg.fftSize cfg.pilotSeq cfg.symbolDataSubcarrierNum).length +
          cfg.cpSize) + cfg.postfixLen ∧
      kMinSupportedFFTSize ≤ cfg.fftSize ∧ cfg.fftSize ≤ kMaxSupportedFFTSize ∧
      cfg.cpSize ≤ kMaxSupportedCPSize ∧
      (cfg.ofdmSymbolSize = cfg.fftSize + cfg.cpSize →
        cfg.sampsPerSymbol =
          cfg.prefixLen + cfg.symbolPerSubframe * (cfg.fftSize + cfg.cpSize) + cfg.postfixLen ∧
        (cfg.fftSize = 64 → cfg.pilotCi16.length = cfg.sampsPerSymbol)) :=
  let ⟨cfg, h, _⟩ := unevenFramesInput_accepted Platform.sample 8 Platform.sample_insertCompletes
  ⟨cfg, h, subframe_lengths h⟩

/-- The pilot subframe does not always span the symbol: at FFT size {lit}`128`
with the default pilot sequence it is empty. -/
theorem pilot_not_sampsPerSymbol :
    ¬ ∀ (env : Platform) (input : ConfInput) (numCores : Nat) (cfg : Config),
      Config.new env input numCores = .ok cfg →
      cfg.beaconCi16.length = cfg.sampsPerSymbol ∧ cfg.pilotCi16.length = cfg.sampsPerSymbol ∧
      cfg.sampsPerSymbol =
        cfg.prefixLen + cfg.symbolPerSubframe * (cfg.fftSize + cfg.cpSize) + cfg.postfixLen ∧
      kMinSupportedFFTSize ≤ cfg.fftSize ∧ cfg.fftSize ≤ kMaxSupportedFFTSize ∧
      cfg.cpSize ≤ kMaxSupportedCPSize := by
  intro H
  obtain ⟨cfg, h, hpilot, hsamps⟩ := fft128Input_accepted Platform.sample 8 Platform.sample_insertCompletes
  have := (H _ _ _ cfg h).2.1
  omega

/-- The derived sizes are computed before the clamps: when a clamp changed the
FFT or cyclic-prefix size of a configuration with at least one OFDM symbol per
subframe, the symbol length is not the one the final sizes give. -/
theorem sampsPerSymbol_ne_of_clamped (h : Config.new env input numCores = .ok cfg)
    (hsym : 0 < cfg.symbolPerSubframe) (hclamp : cfg.ofdmSymbolSize ≠ cfg.fftSize + cfg.cpSize) :
    cfg.sampsPerSymbol ≠
      cfg.prefixLen + cfg.symbolPerSubframe * (cfg.fftSize + cfg.cpSize) + cfg.postfixLen := by
  have hs := new_sizesDerived h
  rw [hs.sampsPerSymbol_eq, hs.subframeSize_eq]
  intro heq
  exact hclamp (Nat.eq_of_mul_eq_mul_left hsym (by omega))

end Accepted

end Config

end Sounder
