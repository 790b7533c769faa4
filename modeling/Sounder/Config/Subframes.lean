import Sounder.Config.Sizes
import Mathlib.Data.List.DropRight

/-!
# Sounder - The beacon and pilot subframes of accepted configurations

The constructor composes the beacon from the sizes it has read and the pilot from
the FFT and cyclic-prefix sizes after their clamps.  On an accepted configuration
both compositions succeeded, so their members are the ones the compositions
describe: the beacon is fifteen STS periods and two gold-IFFT periods between
zero pads, the pilot subframe repeats the pilot sequence with its cyclic prefix
once per OFDM symbol between zero pads, and the packed pilot is that subframe
followed by zero words.

The pilot sequence may be empty: at an FFT size other than {lit}`64` only
{lit}`"zadoff-chu"` selects a sequence, and any other choice leaves it empty.
A cyclic prefix longer than the sequence is not rejected by a check; the
composition then moves an iterator before the beginning of the sequence.  A
shorter one is inserted into the very vector it is taken from, which the
standard does not allow; what the pilot then holds is the library's doing.
Nothing compares the pilot subframe with the transmit RAM either: when it is
longer, {lit}`remain_size` wraps around.

Main results:

- Theorem {lit}`Config.new_waveforms`: the waveform members of an accepted
  configuration are the results of the two compositions.
- Theorem {lit}`Config.new_pilot_length`: the packed pilot has {lit}`remain_size`
  zero words past the packed subframe.
- Theorem {lit}`Config.pilot_overflows_tx_ram`: a pilot subframe longer than the
  transmit RAM is accepted, and {lit}`remain_size` wraps around.
- Theorem {lit}`Config.pilot_cyclic_prefix_within`: the cyclic prefix lies within
  the pilot sequence, and a longer one is undefined behaviour.
- Theorem {lit}`Config.subframe_contents`: the beacon and pilot subframes sample
  by sample.
- Theorem {lit}`Config.pilot_cyclic_prefix_from_wrong_block`: a library that
  inserts the cyclic prefix in place takes it from the wrong samples.
-/

namespace Sounder
namespace Config

section Accepted

variable {env : Platform} {input : ConfInput} {numCores : Nat} {cfg : Config}

/-- The waveform members of an accepted configuration: the packed beacon body,
the padded beacon subframe, and a pilot composed from the final sizes. -/
theorem new_waveforms (h : Config.new env input numCores = .ok cfg) :
    cfg.beacon = cint16ToUint32 (beaconBody env) false ∧
    cfg.beaconCi16 = zeros cfg.prefixLen ++ beaconBody env ++ zeros (cfg.subframeSize - 496) ++
      zeros cfg.postfixLen ∧
    composePilot env cfg.fftSize cfg.cpSize cfg.symbolPerSubframe cfg.prefixLen cfg.postfixLen
      cfg.symbolDataSubcarrierNum cfg.pilotSeq = .ok ⟨cfg.pilotCi16, cfg.pilot⟩ := by
  obtain ⟨c₁, c₂, c₃, h₁, h₂, h₃, rfl⟩ := new_eq_ok.mp h
  obtain ⟨b, hb, rfl⟩ := setBeacon_eq_ok.mp h₂
  obtain ⟨p, hp, rfl⟩ := setPilot_eq_ok.mp h₃
  obtain ⟨-, rfl⟩ := composeBeacon_eq_ok.mp hb
  exact ⟨rfl, rfl, hp⟩

/-- The packed pilot of an accepted configuration is the packed subframe and
{lit}`remain_size` zero words, {lit}`remain_size` being the {lit}`size_t`
difference {lit}`kFpgaTxRamSize - pilot_.size()`. -/
theorem new_pilot_length (h : Config.new env input numCores = .ok cfg) :
    cfg.pilot.length = cfg.pilotCi16.length + toSizeT (kFpgaTxRamSize - cfg.pilotCi16.length) :=
  length_pilot (new_waveforms h).2.2

/-- The beacon and pilot subframes of an accepted configuration sample by
sample: the beacon is the STS sequence fifteen times and the gold IFFT twice,
packed for the radio and padded to the subframe between the prefix and postfix
zeros; the pilot subframe is, once per OFDM symbol, the pilot sequence after the
library has inserted its last {lit}`cp_size_` samples into it, between the same
zeros; and the packed pilot is the packed subframe followed only by zero
words. -/
theorem subframe_contents (h : Config.new env input numCores = .ok cfg) :
    cfg.beacon = cint16ToUint32
      ((List.replicate 15 env.stsSeq).flatten ++ (List.replicate 2 env.goldIfft).flatten) false ∧
    cfg.beaconCi16 = zeros cfg.prefixLen ++ (List.replicate 15 env.stsSeq).flatten ++
      (List.replicate 2 env.goldIfft).flatten ++
      zeros (cfg.subframeSize -
        ((List.replicate 15 env.stsSeq).flatten ++ (List.replicate 2 env.goldIfft).flatten).length) ++
      zeros cfg.postfixLen ∧
    (∃ iqCp, env.insertOwnTail (pilotSym env cfg.fftSize cfg.pilotSeq cfg.symbolDataSubcarrierNum)
        cfg.cpSize = .ok iqCp ∧
      cfg.pilotCi16 = zeros cfg.prefixLen ++ (List.replicate cfg.symbolPerSubframe iqCp).flatten ++
        zeros cfg.postfixLen) ∧
    ∃ k, cfg.pilot = cint16ToUint32 cfg.pilotCi16 false ++ List.replicate k 0 := by
  obtain ⟨hb, hbci, hp⟩ := new_waveforms h
  obtain ⟨-, iqCp, hins, hci, hpilot⟩ := composePilot_eq_ok.mp hp
  have hbody := beaconBody_length env
  unfold beaconBody at hbody
  refine ⟨hb, ?_, ⟨iqCp, hins, hci⟩, _, hpilot⟩
  rw [hbci, hbody, beaconBody]
  simp only [List.append_assoc]

end Accepted

/-! ## A pilot longer than the transmit RAM -/

/-- One cell of one SDR at FFT size {lit}`64` with {lit}`52` OFDM symbols of
{lit}`64 + 16` samples per subframe. -/
def longPilotInput : ConfInput where
  baseStations := some
    { phy := { fftSize := some 64, cpSize := some 16, ofdmSymbolPerSubframe := some 52 }
      sdrId := [["S1"]]
      frameSchedule := ["PG"] }

/-- Nothing checks the pilot against the transmit RAM: the 52-symbol document is
accepted with a pilot subframe of {lit}`4160` samples, {lit}`remain_size` wraps
around to {lit}`2^64 - 64`, and the zero extension makes the packed pilot
{lit}`2^64 + 4096` words long. -/
theorem pilot_overflows_tx_ram :
    ∃ cfg, Config.new Platform.sample longPilotInput 8 = .ok cfg ∧
      cfg.pilotCi16.length = 4160 ∧
      toSizeT (kFpgaTxRamSize - cfg.pilotCi16.length) = 2 ^ 64 - 64 ∧
      cfg.pilot.length = 2 ^ 64 + kFpgaTxRamSize := by
  have hr := @eq_ok_of_isSome _ _ (readConf longPilotInput) (by decide)
  obtain ⟨p, hp⟩ := @composePilot_lts_isOk Platform.sample 64 16 52 0 0 64 "lts" rfl (by decide)
    Platform.sample_insertCompletes
  have hlen : p.pilotCi16.length = 4160 := by
    rw [length_pilotCi16 hp]
    rfl
  have hwrap : toSizeT (kFpgaTxRamSize - (4160 : Nat)) = 2 ^ 64 - 64 := by decide
  have h := @new_eq_of_readConf Platform.sample longPilotInput 8 _ hr (by decide) _ hp
  refine ⟨_, h, hlen, hlen ▸ hwrap, ?_⟩
  rw [new_pilot_length h]
  show p.pilotCi16.length + toSizeT (kFpgaTxRamSize - p.pilotCi16.length) = _
  rw [hlen, hwrap]
  rfl

/-! ## The cyclic prefix inserted in place -/

/-- A platform whose LTS samples all differ and whose library, finding spare
capacity in {lit}`iq_ci16`, inserts the cyclic prefix in place. -/
def spareCapacityPlatform : Platform :=
  { Platform.sample with
    ltsSeq := (List.range 64).map fun i => ⟨BitVec.ofNat 16 i, 0⟩
    ltsSeq_length := by simp
    insertOwnTail := fun v n => .ok (rangeInsertOwnTail true v n)
    insertOwnTail_length := fun _ _ _ hn h => by
      cases h
      exact length_rangeInsertOwnTail true hn }

/-- With the insert done in place, the first symbol of the pilot subframe of the
two-cell document starts with LTS samples {lit}`32` to {lit}`47`, not with the
last {lit}`cp_size_ = 16` samples of the LTS. -/
theorem pilot_cyclic_prefix_from_wrong_block :
    ∃ cfg, Config.new spareCapacityPlatform unevenFramesInput 8 = .ok cfg ∧ cfg.prefixLen = 0 ∧
      cfg.pilotCi16.take cfg.cpSize =
        ((pilotSym spareCapacityPlatform cfg.fftSize cfg.pilotSeq
          cfg.symbolDataSubcarrierNum).drop 32).take cfg.cpSize ∧
      cfg.pilotCi16.take cfg.cpSize ≠
        (pilotSym spareCapacityPlatform cfg.fftSize cfg.pilotSeq
          cfg.symbolDataSubcarrierNum).rtake cfg.cpSize := by
  have hr := @eq_ok_of_isSome _ _ (readConf unevenFramesInput) (by decide)
  obtain ⟨p, hp⟩ := @composePilot_lts_isOk spareCapacityPlatform 64 16 7 0 0 64 "lts" rfl
    (by decide) fun _ _ _ => ⟨_, rfl⟩
  obtain ⟨-, iqCp, hins, hci, -⟩ := composePilot_eq_ok.mp hp
  obtain rfl : rangeInsertOwnTail true spareCapacityPlatform.ltsSeq 16 = iqCp :=
    Except.ok.inj hins
  have hfirst : p.pilotCi16.take 16 =
      (rangeInsertOwnTail true spareCapacityPlatform.ltsSeq 16).take 16 := by
    rw [hci, zeros, List.replicate_zero, List.nil_append, List.replicate_succ, List.flatten_cons,
      List.append_assoc, List.take_append_of_le_length]
    rw [length_rangeInsertOwnTail true (by simp [spareCapacityPlatform])]
    omega
  refine ⟨_, new_eq_of_readConf hr (by decide) hp, rfl, ?_, ?_⟩
  · show p.pilotCi16.take 16 = (spareCapacityPlatform.ltsSeq.drop 32).take 16
    rw [hfirst]
    decide
  · show p.pilotCi16.take 16 ≠ spareCapacityPlatform.ltsSeq.rtake 16
    rw [hfirst]
    decide

/-! ## The cyclic prefix -/

/-- On an accepted configuration the cyclic prefix lies within the pilot
sequence the final sizes choose, and is empty when the sequence is.  When the
clamped prefix is longer than the sequence, nothing rejects the configuration:
once the objects are read and the beacon fits, the constructor reaches the
pilot composition, which is undefined. -/
theorem pilot_cyclic_prefix_within (env : Platform) (input : ConfInput) (numCores : Nat) :
    (∀ cfg, Config.new env input numCores = .ok cfg →
      cfg.cpSize ≤ (pilotSym env cfg.fftSize cfg.pilotSeq cfg.symbolDataSubcarrierNum).length ∧
      (pilotSym env cfg.fftSize cfg.pilotSeq cfg.symbolDataSubcarrierNum = [] → cfg.cpSize = 0)) ∧
    (∀ c, readConf input = .ok c → 496 + c.prefixLen + c.postfixLen ≤ c.sampsPerSymbol →
      (pilotSym env (clampFftSize c.fftSize) c.pilotSeq c.symbolDataSubcarrierNum).length <
        clampCpSize c.cpSize →
      Config.new env input numCores = .error .undefined) := by
  refine ⟨fun cfg h => ?_, fun c hr hb hlt => ?_⟩
  · obtain ⟨-, -, hp⟩ := new_waveforms h
    have hcp := (composePilot_eq_ok.mp hp).1
    exact ⟨hcp, fun hnil => by rw [hnil] at hcp; exact Nat.le_zero.mp hcp⟩
  · have hpilot : composePilot env (clampFftSize c.fftSize) (clampCpSize c.cpSize)
        c.symbolPerSubframe c.prefixLen c.postfixLen c.symbolDataSubcarrierNum c.pilotSeq =
        .error .undefined := by
      unfold composePilot
      exact if_pos hlt
    have hbeacon := (@setBeacon_eq_ok env c _).mpr ⟨_, composeBeacon_eq_ok.mpr ⟨hb, rfl⟩, rfl⟩
    simp only [Config.new, hr, hbeacon, setPilot, hpilot, bind, Except.bind]

/-- The FFT-128 document is accepted with an empty pilot sequence. -/
theorem fft128Input_pilotSym (env : Platform) (numCores : Nat) (hins : env.InsertCompletes) :
    ∃ cfg, Config.new env fft128Input numCores = .ok cfg ∧
      pilotSym env cfg.fftSize cfg.pilotSeq cfg.symbolDataSubcarrierNum = [] := by
  have hr := @eq_ok_of_isSome _ _ (readConf fft128Input) (by decide)
  have hempty : pilotSym env 128 "lts" 128 = [] := rfl
  obtain ⟨p, hp⟩ := @composePilot_isOk env 128 0 4 0 0 128 "lts" (by simp [hempty]) hins
  exact ⟨_, new_eq_of_readConf hr (by decide) hp, hempty⟩

/-- One cell of one SDR at FFT size {lit}`64` with a cyclic prefix of
{lit}`100` samples, longer than the LTS. -/
def longPrefixInput : ConfInput where
  baseStations := some
    { phy := { fftSize := some 64, cpSize := some 100, ofdmSymbolPerSubframe := some 4 }
      sdrId := [["S1"]]
      frameSchedule := ["PG"] }

theorem pilot_cyclic_prefix_within_longPrefix :
    (∃ c, readConf longPrefixInput = .ok c ∧ 496 + c.prefixLen + c.postfixLen ≤ c.sampsPerSymbol ∧
      (pilotSym Platform.sample (clampFftSize c.fftSize) c.pilotSeq
          c.symbolDataSubcarrierNum).length < clampCpSize c.cpSize) ∧
    Config.new Platform.sample longPrefixInput 8 = .error .undefined := by
  have hr := @eq_ok_of_isSome _ _ (readConf longPrefixInput) (by decide)
  have hb : 496 + _ + _ ≤ _ := (by decide : 496 + 0 + 0 ≤ 656)
  have hlt : (pilotSym Platform.sample 64 "lts" 64).length < 100 := by decide
  exact ⟨⟨_, hr, hb, hlt⟩, (pilot_cyclic_prefix_within Platform.sample longPrefixInput 8).2 _ hr hb hlt⟩

/-- The pilot sequence is not always non-empty: at FFT size {lit}`128` with the
default sequence it is empty. -/
theorem pilot_sequence_not_always_nonempty :
    ¬ ∀ (env : Platform) (input : ConfInput) (numCores : Nat) (cfg : Config),
      Config.new env input numCores = .ok cfg →
      pilotSym env cfg.fftSize cfg.pilotSeq cfg.symbolDataSubcarrierNum ≠ [] ∧
      cfg.cpSize ≤ (pilotSym env cfg.fftSize cfg.pilotSeq cfg.symbolDataSubcarrierNum).length := by
  intro H
  obtain ⟨cfg, h, hempty⟩ := fft128Input_pilotSym Platform.sample 8 Platform.sample_insertCompletes
  exact (H _ _ _ cfg h).1 hempty

end Config
end Sounder
