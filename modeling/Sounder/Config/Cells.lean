import Sounder.Config.Construct
import Mathlib.Data.List.GetD

/-!
# Sounder - Cells and antenna counts

The base-station object fixes the cells, their devices, the channel mask and the
mode, and no later stage of the constructor writes them.  The antenna counts of
{lit}`Config` are computed from these members on demand.

Main results:

- Theorem {lit}`new_bsMembers`: on an accepted configuration with a base station,
  the cell members are those the base-station object gives.
- Theorem {lit}`new_bsPresent`: the presence flag of an accepted configuration is
  the presence of the base-station object.
- Theorem {lit}`getTotNumAntennas_isOk`: the total antenna count is computed
  without an out-of-range {lit}`at` whenever every cell has its device count, as
  on every accepted configuration.
- Theorem {lit}`existsUnique_cell`: shifting each cell-local index by the cell's
  prefix sum numbers the SDRs of all cells one-to-one.
- Theorem {lit}`device_loops_prefix_sums`: the device tables of an accepted
  configuration are the prefix sums, the total and the per-cell antennas of its
  cells, and the total antenna count is computed from them.
- Theorem {lit}`getMaxNumAntennas_of_not_calib`: outside calibration mode the
  maximum antenna count is the largest cell's; theorem
  {lit}`getMaxNumAntennas_calibCells`: in calibration mode it is not the largest
  cell's without its reference.
-/

namespace Sounder
namespace Config

/-! ## Members of the base-station object -/

/-- The members the base-station object determines and no later stage writes:
the number of cells, the SDRs of each cell, the channel mask and the mode. -/
structure BsMembers where
  numCells : Nat
  nBsSdrs : List Nat
  bsChannel : String
  reciprocalCalib : Bool
  deriving DecidableEq, Repr

/-- The cell members of a configuration. -/
def bsMembers (cfg : Config) : BsMembers :=
  ⟨cfg.numCells, cfg.nBsSdrs, cfg.bsChannel, cfg.reciprocalCalib⟩

/-- The cell members the base-station object {lean}`bs` gives. -/
def BsMembers.ofConf (bs : BsConf) : BsMembers :=
  ⟨bs.sdrId.length, bs.sdrId.map List.length, bs.channel.getD "A",
    bs.reciprocalCalibration.getD false⟩

/-- Every cell given by the object has its device count. -/
theorem BsMembers.ofConf_length_nBsSdrs (bs : BsConf) :
    (BsMembers.ofConf bs).nBsSdrs.length = (BsMembers.ofConf bs).numCells :=
  List.length_map _ _

section Stages

variable {cfg cfg' : Config}

theorem frameSchedule_bsMembers {schedule : List String}
    (h : frameSchedule schedule cfg = .ok cfg') : cfg'.bsMembers = cfg.bsMembers := by
  unfold frameSchedule at h
  simp only [bind_eq_ok] at h
  obtain ⟨_, -, _, -, _, -, _, -, _, -, _, -, hfin⟩ := h
  split at hfin <;> simp only [pure, Except.pure, Except.ok.injEq] at hfin <;> subst hfin <;> rfl

theorem calibSchedule_bsMembers (h : calibSchedule cfg = .ok cfg') :
    cfg'.bsMembers = cfg.bsMembers := by
  simp only [calibSchedule, bind_eq_ok, pure, Except.pure, Except.ok.injEq] at h
  obtain ⟨_, -, _, -, rfl⟩ := h
  rfl

/-- The base-station stage writes the cell members of its object. -/
theorem readBaseStation_bsMembers {bs : BsConf} (h : readBaseStation bs cfg = .ok cfg') :
    cfg'.bsMembers = BsMembers.ofConf bs := by
  unfold readBaseStation at h
  simp only [bind_eq_ok] at h
  obtain ⟨_, -, _, -, _, -, _, -, _, -, hfin⟩ := h
  split at hfin
  · exact calibSchedule_bsMembers hfin
  · exact frameSchedule_bsMembers hfin

theorem readClients_bsMembers {cl : ClConf} (h : readClients cl cfg = .ok cfg') :
    cfg'.bsMembers = cfg.bsMembers := by
  unfold readClients at h
  simp only [bind_eq_ok] at h
  obtain ⟨_, -, _, -, _, -, _, -, _, -, hfin⟩ := h
  split at hfin
  · simp only [pure, Except.pure, Except.ok.injEq] at hfin
    subst hfin
    rfl
  · simp only [bind_eq_ok, pure, Except.pure, Except.ok.injEq] at hfin
    obtain ⟨_, -, rfl⟩ := hfin
    rfl

end Stages

variable {env : Platform} {input : ConfInput} {numCores : Nat} {cfg : Config}

/-- The constructor's first part keeps the presence flag of the base-station
object and, when there is one, writes its cell members. -/
theorem readConf_bsMembers (h : readConf input = .ok cfg) :
    cfg.bsPresent = input.baseStations.isSome ∧
      ∀ bs, input.baseStations = some bs → cfg.bsMembers = BsMembers.ofConf bs := by
  obtain ⟨c₁, c₂, h₁, -, h₂, h₃⟩ := readConf_eq_ok.mp h
  obtain ⟨_, rfl⟩ := setUlDataSymPresent_eq_ok h₃
  have hc₂ : c₂.bsPresent = c₁.bsPresent ∧ c₂.bsMembers = c₁.bsMembers := by
    unfold withClients at h₂
    split at h₂
    · refine ⟨?_, readClients_bsMembers h₂⟩
      cases hb : c₁.bsPresent
      · exact (readClients_eq_ok_of_not_bsPresent h₂ hb).2.1.trans hb
      · exact (readClients_eq_ok_of_bsPresent h₂ hb).2.1.trans hb
    · cases h₂
      exact ⟨rfl, rfl⟩
  unfold withBaseStation at h₁
  split at h₁
  · rename_i bs hbs
    refine ⟨hc₂.1.trans ((readBaseStation_eq_ok h₁).1.trans (by simp [initial, hbs])), ?_⟩
    intro bs' hbs'
    obtain rfl : bs = bs' := Option.some.inj (hbs.symm.trans hbs')
    exact hc₂.2.trans (readBaseStation_bsMembers h₁)
  · rename_i hnone
    cases h₁
    exact ⟨hc₂.1.trans (by simp [initial, hnone]), by simp [hnone]⟩

/-- The presence flag of an accepted configuration is the presence of the
base-station object. -/
theorem new_bsPresent (h : Config.new env input numCores = .ok cfg) :
    cfg.bsPresent = input.baseStations.isSome := by
  obtain ⟨c, hc, -, -, hb, -⟩ := new_eq_ok_readConf h
  exact hb.trans (readConf_bsMembers hc).1

/-- On an accepted configuration with a base station, the cell members are those
of the base-station object. -/
theorem new_bsMembers {bs : BsConf} (h : Config.new env input numCores = .ok cfg)
    (hbs : input.baseStations = some bs) : cfg.bsMembers = BsMembers.ofConf bs := by
  obtain ⟨c₁, c₂, c₃, h₁, h₂, h₃, rfl⟩ := new_eq_ok.mp h
  obtain ⟨_, -, rfl⟩ := setBeacon_eq_ok.mp h₂
  obtain ⟨_, -, rfl⟩ := setPilot_eq_ok.mp h₃
  exact (readConf_bsMembers h₁).2 bs hbs

/-- Every cell of an accepted configuration has its device count. -/
theorem new_numCells_le_length (h : Config.new env input numCores = .ok cfg)
    (hbs : cfg.bsPresent = true) : cfg.numCells ≤ cfg.nBsSdrs.length := by
  obtain ⟨bs, hsome⟩ := Option.isSome_iff_exists.mp ((new_bsPresent h).symm.trans hbs)
  have hm := new_bsMembers h hsome
  have hn : cfg.numCells = (BsMembers.ofConf bs).numCells := congrArg BsMembers.numCells hm
  have hs : cfg.nBsSdrs = (BsMembers.ofConf bs).nBsSdrs := congrArg BsMembers.nBsSdrs hm
  rw [hn, hs, BsMembers.ofConf_length_nBsSdrs]

/-! ## Device tables -/

/-- The tables the device loops of the base-station object fill: the prefix sums
{lit}`n_bs_sdrs_agg_` of the SDR counts, their total {lit}`num_bs_sdrs_all_`,
and the antennas {lit}`n_bs_antennas_` of each cell. -/
structure DeviceTables where
  nBsSdrsAgg : List Nat
  numBsSdrsAll : Nat
  nBsAntennas : List Nat
  deriving DecidableEq, Repr

/-- The device tables of a configuration. -/
def deviceTables (cfg : Config) : DeviceTables :=
  ⟨cfg.nBsSdrsAgg, cfg.numBsSdrsAll, cfg.nBsAntennas⟩

/-- The device tables the base-station object {lean}`bs` gives. -/
def DeviceTables.ofConf (bs : BsConf) : DeviceTables :=
  ⟨(bs.sdrId.map List.length).scanl (· + ·) 0, (bs.sdrId.map List.length).sum,
    (bs.sdrId.map List.length).map ((bs.channel.getD "A").length * ·)⟩

section Stages

variable {cfg cfg' : Config}

theorem frameSchedule_deviceTables {schedule : List String}
    (h : frameSchedule schedule cfg = .ok cfg') : cfg'.deviceTables = cfg.deviceTables := by
  simp only [frameSchedule, bind_eq_ok] at h
  obtain ⟨_, -, _, -, _, -, _, -, _, -, _, -, hfin⟩ := h
  split at hfin <;> simp only [pure, Except.pure, Except.ok.injEq] at hfin <;> subst hfin <;> rfl

theorem calibSchedule_deviceTables (h : calibSchedule cfg = .ok cfg') :
    cfg'.deviceTables = cfg.deviceTables := by
  simp only [calibSchedule, bind_eq_ok, pure, Except.pure, Except.ok.injEq] at h
  obtain ⟨_, -, _, -, rfl⟩ := h
  rfl

/-- The base-station stage writes the device tables of its object. -/
theorem readBaseStation_deviceTables {bs : BsConf} (h : readBaseStation bs cfg = .ok cfg') :
    cfg'.deviceTables = DeviceTables.ofConf bs := by
  simp only [readBaseStation, bind_eq_ok] at h
  obtain ⟨_, -, _, -, _, -, _, -, _, -, hfin⟩ := h
  split at hfin
  · exact calibSchedule_deviceTables hfin
  · exact frameSchedule_deviceTables hfin

theorem readClients_deviceTables {cl : ClConf} (h : readClients cl cfg = .ok cfg') :
    cfg'.deviceTables = cfg.deviceTables := by
  simp only [readClients, bind_eq_ok] at h
  obtain ⟨_, -, _, -, _, -, _, -, _, -, hfin⟩ := h
  split at hfin
  · simp only [pure, Except.pure, Except.ok.injEq] at hfin
    subst hfin
    rfl
  · simp only [bind_eq_ok, pure, Except.pure, Except.ok.injEq] at hfin
    obtain ⟨_, -, rfl⟩ := hfin
    rfl

end Stages

/-- On an accepted configuration with a base station, the device tables are
those of the base-station object. -/
theorem new_deviceTables {bs : BsConf} (h : Config.new env input numCores = .ok cfg)
    (hbs : input.baseStations = some bs) : cfg.deviceTables = DeviceTables.ofConf bs := by
  obtain ⟨c₁, c₂, c₃, h₁, h₂, h₃, rfl⟩ := new_eq_ok.mp h
  obtain ⟨_, -, rfl⟩ := setBeacon_eq_ok.mp h₂
  obtain ⟨_, -, rfl⟩ := setPilot_eq_ok.mp h₃
  obtain ⟨b₁, b₂, hb₁, -, hb₂, hu⟩ := readConf_eq_ok.mp h₁
  obtain ⟨_, rfl⟩ := setUlDataSymPresent_eq_ok hu
  have hd₁ : b₁.deviceTables = DeviceTables.ofConf bs := by
    rw [withBaseStation, hbs] at hb₁
    exact readBaseStation_deviceTables hb₁
  have hd₂ : b₂.deviceTables = b₁.deviceTables := by
    unfold withClients at hb₂
    split at hb₂
    · exact readClients_deviceTables hb₂
    · cases hb₂
      rfl
  exact hd₂.trans hd₁

/-! ## Prefix sums -/

/-- Entry {lean}`c` of the running sums from {lean}`a` is {lean}`a` plus the
first {lean}`c` counts. -/
theorem getD_scanl_add (l : List Nat) (a : Nat) :
    ∀ c ≤ l.length, (l.scanl (· + ·) a).getD c 0 = a + (l.take c).sum := by
  induction l generalizing a with
  | nil =>
    intro c hc
    obtain rfl : c = 0 := Nat.le_zero.mp hc
    rfl
  | cons n l ih =>
    intro c hc
    cases c with
    | zero => simp
    | succ c =>
      rw [List.scanl_cons, List.singleton_append, List.getD_cons_succ,
        ih (a + n) c (Nat.le_of_succ_le_succ hc), List.take_succ_cons, List.sum_cons]
      omega

/-- A cell-local index shifted by the cell's prefix sum stays below the total. -/
theorem sum_take_add_lt_sum {l : List Nat} {c k : Nat} (hc : c < l.length)
    (hk : k < l.getD c 0) : (l.take c).sum + k < l.sum := by
  have h₁ := List.sum_take_succ l c hc
  have h₂ := List.sum_take_add_sum_drop l (c + 1)
  rw [List.getD_eq_getElem _ _ hc] at hk
  omega

/-- Every index below the total is the shifted local index of exactly one cell. -/
theorem existsUnique_cell (l : List Nat) :
    ∀ g < l.sum, ∃! p : Nat × Nat,
      p.1 < l.length ∧ p.2 < l.getD p.1 0 ∧ (l.take p.1).sum + p.2 = g := by
  induction l with
  | nil => intro g hg; simp at hg
  | cons n l ih =>
    intro g hg
    rw [List.sum_cons] at hg
    by_cases hgn : g < n
    · refine ⟨(0, g), ⟨Nat.succ_pos _, hgn, by simp only [List.take_zero, List.sum_nil, Nat.zero_add]⟩,
        ?_⟩
      rintro ⟨_ | c, k⟩ ⟨-, -, hsum⟩
      · simp only [List.take_zero, List.sum_nil, Nat.zero_add] at hsum
        rw [hsum]
      · simp only [List.take_succ_cons, List.sum_cons] at hsum
        omega
    · obtain ⟨⟨c, k⟩, ⟨hc, hk, hsum⟩, huniq⟩ := ih (g - n) (by omega)
      refine ⟨(c + 1, k), ⟨Nat.succ_lt_succ hc, hk, ?_⟩, ?_⟩
      · simp only [List.take_succ_cons, List.sum_cons] at hsum ⊢
        omega
      · rintro ⟨_ | c', k'⟩ ⟨hc', hk', hsum'⟩
        · simp only [List.getD_cons_zero, List.take_zero, List.sum_nil, Nat.zero_add] at hk' hsum'
          omega
        · simp only [List.take_succ_cons, List.sum_cons] at hsum'
          have := huniq (c', k') ⟨Nat.lt_of_succ_lt_succ hc', hk', by simp only; omega⟩
          simp only [Prod.mk.injEq] at this ⊢
          omega

/-! ## Antenna counts -/

/-- {lit}`Config::getNumAntennas`: the antennas of the first cell, one without a
base station. -/
def getNumAntennas (cfg : Config) : Except Failure Nat :=
  if cfg.bsPresent = false then .ok 1
  else (· * cfg.bsChannel.length) <$> checkedAt cfg.nBsSdrs 0

/-- One iteration of the loop of {lit}`Config::getMaxNumAntennas`: the running
maximum, decremented in {lit}`size_t` in calibration mode. -/
def maxNumSdrStep (cfg : Config) (maxNumSdr i : Nat) : Except Failure Nat := do
  let n ← checkedAt cfg.nBsSdrs i
  let maxNumSdr := if maxNumSdr < n then n else maxNumSdr
  pure (if cfg.reciprocalCalib then (maxNumSdr + (2 ^ 64 - 1)) % 2 ^ 64 else maxNumSdr)

/-- {lit}`Config::getMaxNumAntennas`: the antennas of the largest cell. -/
def getMaxNumAntennas (cfg : Config) : Except Failure Nat :=
  if cfg.bsPresent = false then .ok 1
  else (· * cfg.bsChannel.length) <$> (List.range cfg.numCells).foldlM (maxNumSdrStep cfg) 0

/-- One iteration of the loop of {lit}`Config::getTotNumAntennas`: the running
sum, decremented in {lit}`size_t` in calibration mode to leave out the
reference SDR. -/
def totNumSdrStep (cfg : Config) (totNumSdr i : Nat) : Except Failure Nat := do
  let n ← checkedAt cfg.nBsSdrs i
  let totNumSdr := totNumSdr + n
  pure (if cfg.reciprocalCalib then (totNumSdr + (2 ^ 64 - 1)) % 2 ^ 64 else totNumSdr)

/-- {lit}`Config::getTotNumAntennas`: the antennas of all cells, one without a
base station. -/
def getTotNumAntennas (cfg : Config) : Except Failure Nat :=
  if cfg.bsPresent = false then .ok 1
  else (· * cfg.bsChannel.length) <$> (List.range cfg.numCells).foldlM (totNumSdrStep cfg) 0

/-- The total antenna count reads only the presence flag and the cell members. -/
theorem getTotNumAntennas_congr {cfg cfg' : Config} (hb : cfg.bsPresent = cfg'.bsPresent)
    (hm : cfg.bsMembers = cfg'.bsMembers) : cfg.getTotNumAntennas = cfg'.getTotNumAntennas := by
  simp only [bsMembers, BsMembers.mk.injEq] at hm
  obtain ⟨h₁, h₂, h₃, h₄⟩ := hm
  have hstep : totNumSdrStep cfg = totNumSdrStep cfg' := by
    funext acc i
    simp only [totNumSdrStep, h₂, h₄]
  simp only [getTotNumAntennas, hb, h₁, h₃, hstep]

/-- The summing loop runs over every cell that has its device count. -/
theorem foldlM_totNumSdrStep_isOk (cfg : Config) :
    ∀ k acc, k ≤ cfg.nBsSdrs.length →
      ∃ t, (List.range k).foldlM (totNumSdrStep cfg) acc = .ok t := by
  intro k
  induction k with
  | zero => exact fun acc _ => ⟨acc, rfl⟩
  | succ k ih =>
    intro acc hk
    obtain ⟨t, ht⟩ := ih acc (by omega)
    obtain ⟨n, hn⟩ : ∃ n, checkedAt cfg.nBsSdrs k = .ok n :=
      ⟨_, checkedAt_eq_ok.mpr (List.getElem?_eq_getElem (by omega))⟩
    refine ⟨if cfg.reciprocalCalib then (t + n + (2 ^ 64 - 1)) % 2 ^ 64 else t + n, ?_⟩
    rw [List.range_succ, List.foldlM_append, ht]
    simp [totNumSdrStep, hn, bind, Except.bind, pure, Except.pure]

/-- The total antenna count is computed whenever every cell has its device
count. -/
theorem getTotNumAntennas_isOk (hcells : cfg.numCells ≤ cfg.nBsSdrs.length) :
    ∃ t, cfg.getTotNumAntennas = .ok t := by
  unfold getTotNumAntennas
  split
  · exact ⟨1, rfl⟩
  · obtain ⟨t, ht⟩ := foldlM_totNumSdrStep_isOk cfg cfg.numCells 0 hcells
    exact ⟨_, by rw [ht]; rfl⟩

/-- The summing loop over the first {lean}`c` cells adds their counts; in
calibration mode each iteration also adds {lit}`2^64 - 1`, that is subtracts one
in {lit}`size_t`. -/
theorem foldlM_totNumSdrStep_eq (cfg : Config) :
    ∀ c ≤ cfg.nBsSdrs.length, (List.range c).foldlM (totNumSdrStep cfg) 0 =
      .ok (if cfg.reciprocalCalib then ((cfg.nBsSdrs.take c).sum + c * (2 ^ 64 - 1)) % 2 ^ 64
        else (cfg.nBsSdrs.take c).sum) := by
  intro c
  induction c with
  | zero => intro _; cases cfg.reciprocalCalib <;> rfl
  | succ c ih =>
    intro hc
    have hn : checkedAt cfg.nBsSdrs c = .ok cfg.nBsSdrs[c] :=
      checkedAt_eq_ok.mpr (List.getElem?_eq_getElem _)
    rw [List.range_succ, List.foldlM_append, ih (by omega), List.sum_take_succ _ _ (by omega)]
    cases hcal : cfg.reciprocalCalib <;>
      simp only [totNumSdrStep, hn, hcal, List.foldlM_cons, List.foldlM_nil, bind, Except.bind,
        pure, Except.pure, Bool.false_eq_true, if_false, if_true, Except.ok.injEq]
    omega

/-- With a base station and every cell's device count, the total antenna count
is the summing loop's result times the channels. -/
theorem getTotNumAntennas_eq (hbs : cfg.bsPresent = true)
    (hcells : cfg.numCells ≤ cfg.nBsSdrs.length) :
    cfg.getTotNumAntennas = .ok ((if cfg.reciprocalCalib then
      ((cfg.nBsSdrs.take cfg.numCells).sum + cfg.numCells * (2 ^ 64 - 1)) % 2 ^ 64
      else (cfg.nBsSdrs.take cfg.numCells).sum) * cfg.bsChannel.length) := by
  simp only [getTotNumAntennas, hbs, Bool.true_eq_false, if_false,
    foldlM_totNumSdrStep_eq cfg _ hcells]
  rfl

/-- On an accepted configuration the total antenna count is computed. -/
theorem new_getTotNumAntennas_isOk (h : Config.new env input numCores = .ok cfg) :
    ∃ t, cfg.getTotNumAntennas = .ok t := by
  cases hbs : cfg.bsPresent
  · exact ⟨1, by simp [getTotNumAntennas, hbs]⟩
  · exact getTotNumAntennas_isOk (new_numCells_le_length h hbs)

/-- The maximum loop outside calibration mode keeps the largest count of the
first {lean}`c` cells. -/
theorem foldlM_maxNumSdrStep_eq (cfg : Config) (hcal : cfg.reciprocalCalib = false) :
    ∀ c ≤ cfg.nBsSdrs.length, (List.range c).foldlM (maxNumSdrStep cfg) 0 =
      .ok ((cfg.nBsSdrs.take c).foldl max 0) := by
  intro c
  induction c with
  | zero => intro _; rfl
  | succ c ih =>
    intro hc
    have hn : checkedAt cfg.nBsSdrs c = .ok cfg.nBsSdrs[c] :=
      checkedAt_eq_ok.mpr (List.getElem?_eq_getElem _)
    rw [List.range_succ, List.foldlM_append, ih (by omega), List.take_succ,
      List.getElem?_eq_getElem (by omega)]
    simp only [maxNumSdrStep, hn, hcal, List.foldlM_cons, List.foldlM_nil, bind, Except.bind,
      pure, Except.pure, Bool.false_eq_true, if_false, Option.toList_some, List.foldl_append,
      List.foldl_cons, List.foldl_nil, Except.ok.injEq]
    split <;> omega

/-- Outside calibration mode the maximum antenna count is the largest cell's
count times the channels. -/
theorem getMaxNumAntennas_of_not_calib (hbs : cfg.bsPresent = true)
    (hcal : cfg.reciprocalCalib = false) (hcells : cfg.numCells ≤ cfg.nBsSdrs.length) :
    cfg.getMaxNumAntennas =
      .ok ((cfg.nBsSdrs.take cfg.numCells).foldl max 0 * cfg.bsChannel.length) := by
  simp only [getMaxNumAntennas, hbs, Bool.true_eq_false, if_false,
    foldlM_maxNumSdrStep_eq cfg hcal _ hcells]
  rfl

/-- The maximum antenna count reads only the presence flag and the cell members. -/
theorem getMaxNumAntennas_congr {cfg cfg' : Config} (hb : cfg.bsPresent = cfg'.bsPresent)
    (hm : cfg.bsMembers = cfg'.bsMembers) : cfg.getMaxNumAntennas = cfg'.getMaxNumAntennas := by
  simp only [bsMembers, BsMembers.mk.injEq] at hm
  obtain ⟨h₁, h₂, h₃, h₄⟩ := hm
  have hstep : maxNumSdrStep cfg = maxNumSdrStep cfg' := by
    funext acc i
    simp only [maxNumSdrStep, h₂, h₄]
  simp only [getMaxNumAntennas, hb, h₁, h₃, hstep]

/-- Two cells of three and one single-channel SDRs in calibration mode, with the
first SDR as reference. -/
def calibCellsInput : ConfInput where
  baseStations := some
    { phy := { fftSize := some 64, cpSize := some 16, ofdmSymbolPerSubframe := some 7 }
      sdrId := [["S1", "S2", "S3"], ["S4"]]
      reciprocalCalibration := some true
      refSdrIndex := some 0 }

/-- The two-cell calibration document is accepted on every platform. -/
theorem calibCellsInput_accepted (env : Platform) (numCores : Nat) (hins : env.InsertCompletes) :
    ∃ cfg, Config.new env calibCellsInput numCores = .ok cfg ∧ cfg.reciprocalCalib = true ∧
      cfg.nBsSdrs = [3, 1] ∧ cfg.bsChannel.length = 1 ∧ cfg.getMaxNumAntennas = .ok 1 := by
  have hr := @eq_ok_of_isSome _ _ (readConf calibCellsInput) (by decide)
  obtain ⟨p, hp⟩ := @composePilot_lts_isOk env 64 16 7 0 0 64 "lts" rfl (by decide) hins
  have hmax : ((readConf calibCellsInput).toOption.get (by decide)).getMaxNumAntennas = .ok 1 :=
    eq_ok_of_toOption (by decide)
  exact ⟨_, new_eq_of_readConf hr (by decide) hp, rfl, rfl, rfl,
    (getMaxNumAntennas_congr rfl rfl).trans hmax⟩

/-- In calibration mode the loop decrements the running maximum once per cell:
with cells of three and one SDRs it leaves one antenna, not the two of the larger
cell without its reference. -/
theorem getMaxNumAntennas_calibCells :
    ∃ cfg, Config.new Platform.sample calibCellsInput 8 = .ok cfg ∧ cfg.reciprocalCalib = true ∧
      cfg.nBsSdrs = [3, 1] ∧ cfg.getMaxNumAntennas = .ok 1 ∧
      cfg.getMaxNumAntennas ≠ .ok (cfg.bsChannel.length * (cfg.nBsSdrs.map (· - 1)).foldl max 0) := by
  obtain ⟨cfg, h, hcal, hsdrs, hch, hmax⟩ := calibCellsInput_accepted Platform.sample 8 Platform.sample_insertCompletes
  refine ⟨cfg, h, hcal, hsdrs, hmax, ?_⟩
  rw [hmax, hsdrs, hch]
  intro heq
  cases Except.ok.inj heq

/-! ## Accepted configurations -/

/-- The device loops of the base-station object on every list of per-cell SDR
lists: the prefix sums start at zero and add one cell's count per entry, their
last entry is the total, shifting each cell-local index by its cell's prefix sum
numbers the SDRs of all cells one-to-one from zero, each cell has its channels'
antennas per SDR, and the total antenna count is the channels per SDR of all
SDRs, less one SDR per cell in calibration mode when every cell has one (the
{lit}`% 2^64` is the identity on every count a {lit}`size_t` holds). -/
theorem device_loops_prefix_sums {bs : BsConf} (h : Config.new env input numCores = .ok cfg)
    (hbs : input.baseStations = some bs) :
    cfg.numCells = bs.sdrId.length ∧ cfg.nBsSdrs = bs.sdrId.map List.length ∧
    cfg.nBsSdrsAgg.length = cfg.numCells + 1 ∧ cfg.nBsSdrsAgg.getD 0 0 = 0 ∧
    (∀ c < cfg.numCells,
      cfg.nBsSdrsAgg.getD (c + 1) 0 = cfg.nBsSdrsAgg.getD c 0 + cfg.nBsSdrs.getD c 0) ∧
    cfg.numBsSdrsAll = cfg.nBsSdrsAgg.getD cfg.numCells 0 ∧
    (∀ c < cfg.numCells, ∀ k < cfg.nBsSdrs.getD c 0,
      cfg.nBsSdrsAgg.getD c 0 + k < cfg.numBsSdrsAll) ∧
    (∀ g < cfg.numBsSdrsAll, ∃! p : Nat × Nat, p.1 < cfg.numCells ∧
      p.2 < cfg.nBsSdrs.getD p.1 0 ∧ cfg.nBsSdrsAgg.getD p.1 0 + p.2 = g) ∧
    cfg.nBsAntennas.length = cfg.numCells ∧
    (∀ c < cfg.numCells, cfg.nBsAntennas.getD c 0 = cfg.bsChannel.length * cfg.nBsSdrs.getD c 0) ∧
    (cfg.reciprocalCalib = false →
      cfg.getTotNumAntennas = .ok (cfg.bsChannel.length * cfg.numBsSdrsAll)) ∧
    (cfg.reciprocalCalib = true → (∀ c < cfg.numCells, 1 ≤ cfg.nBsSdrs.getD c 0) →
      cfg.getTotNumAntennas =
        .ok (cfg.bsChannel.length * ((cfg.numBsSdrsAll - cfg.numCells) % 2 ^ 64))) := by
  have hpres : cfg.bsPresent = true := (new_bsPresent h).trans (by simp [hbs])
  have hm := new_bsMembers h hbs
  have hd := new_deviceTables h hbs
  simp only [bsMembers, BsMembers.ofConf, BsMembers.mk.injEq] at hm
  simp only [deviceTables, DeviceTables.ofConf, DeviceTables.mk.injEq] at hd
  obtain ⟨hcells, hsdrs, hch, -⟩ := hm
  obtain ⟨hagg, hall, hant⟩ := hd
  have hle : cfg.numCells ≤ cfg.nBsSdrs.length := by rw [hcells, hsdrs, List.length_map]
  have htot := getTotNumAntennas_eq hpres hle
  rw [← hch] at hant
  generalize hl : bs.sdrId.map List.length = l at hsdrs hagg hall hant
  have hlen : cfg.numCells = l.length := by rw [← hl, hcells, List.length_map]
  have hagg_eq : ∀ c ≤ l.length, cfg.nBsSdrsAgg.getD c 0 = (l.take c).sum := fun c hc => by
    rw [hagg, getD_scanl_add l 0 c hc, Nat.zero_add]
  rw [hsdrs, hlen, List.take_length] at htot
  rw [hall, hsdrs, hlen]
  refine ⟨hlen.symm.trans hcells, rfl, by rw [hagg, List.length_scanl],
    by rw [hagg_eq 0 (Nat.zero_le _)]; rfl, fun c hc => ?_, by rw [hagg_eq _ le_rfl, List.take_length],
    fun c hc k hk => ?_, fun g hg => ?_, by rw [hant, List.length_map], fun c hc => ?_,
    fun hcal => ?_, fun hcal hone => ?_⟩
  · rw [hagg_eq _ hc, hagg_eq _ hc.le, List.sum_take_succ _ _ hc, List.getD_eq_getElem _ _ hc]
  · rw [hagg_eq _ hc.le]
    exact sum_take_add_lt_sum hc hk
  · obtain ⟨p, ⟨hp₁, hp₂, hp₃⟩, huniq⟩ := existsUnique_cell l g hg
    refine ⟨p, ⟨hp₁, hp₂, by rw [hagg_eq _ hp₁.le]; exact hp₃⟩, fun q ⟨hq₁, hq₂, hq₃⟩ => ?_⟩
    exact huniq q ⟨hq₁, hq₂, by rw [← hagg_eq _ hq₁.le]; exact hq₃⟩
  · rw [hant, List.getD_eq_getElem _ _ (by rw [List.length_map]; exact hc),
      List.getD_eq_getElem _ _ hc, List.getElem_map]
  · rw [htot, hcal, if_neg Bool.false_ne_true, Nat.mul_comm]
  · have hge : l.length ≤ l.sum := List.length_le_sum_of_one_le l fun x hx => by
      obtain ⟨c, hc, rfl⟩ := List.getElem_of_mem hx
      have := hone c hc
      rwa [List.getD_eq_getElem _ _ hc] at this
    rw [htot, hcal, if_pos rfl, Nat.mul_comm]
    congr 2
    omega

theorem device_loops_prefix_sums_calibCells :
    ∃ cfg bs, Config.new Platform.sample calibCellsInput 8 = .ok cfg ∧
      calibCellsInput.baseStations = some bs ∧
      cfg.numCells = bs.sdrId.length ∧ cfg.nBsSdrs = bs.sdrId.map List.length ∧
      cfg.nBsSdrsAgg.length = cfg.numCells + 1 ∧ cfg.nBsSdrsAgg.getD 0 0 = 0 ∧
      (∀ c < cfg.numCells,
        cfg.nBsSdrsAgg.getD (c + 1) 0 = cfg.nBsSdrsAgg.getD c 0 + cfg.nBsSdrs.getD c 0) ∧
      cfg.numBsSdrsAll = cfg.nBsSdrsAgg.getD cfg.numCells 0 ∧
      (∀ c < cfg.numCells, ∀ k < cfg.nBsSdrs.getD c 0,
        cfg.nBsSdrsAgg.getD c 0 + k < cfg.numBsSdrsAll) ∧
      (∀ g < cfg.numBsSdrsAll, ∃! p : Nat × Nat, p.1 < cfg.numCells ∧
        p.2 < cfg.nBsSdrs.getD p.1 0 ∧ cfg.nBsSdrsAgg.getD p.1 0 + p.2 = g) ∧
      cfg.nBsAntennas.length = cfg.numCells ∧
      (∀ c < cfg.numCells,
        cfg.nBsAntennas.getD c 0 = cfg.bsChannel.length * cfg.nBsSdrs.getD c 0) ∧
      (cfg.reciprocalCalib = false →
        cfg.getTotNumAntennas = .ok (cfg.bsChannel.length * cfg.numBsSdrsAll)) ∧
      (cfg.reciprocalCalib = true → (∀ c < cfg.numCells, 1 ≤ cfg.nBsSdrs.getD c 0) →
        cfg.getTotNumAntennas =
          .ok (cfg.bsChannel.length * ((cfg.numBsSdrsAll - cfg.numCells) % 2 ^ 64))) :=
  let ⟨cfg, h, _⟩ := calibCellsInput_accepted Platform.sample 8 Platform.sample_insertCompletes
  ⟨cfg, _, h, rfl, device_loops_prefix_sums h rfl⟩

end Config

end Sounder
