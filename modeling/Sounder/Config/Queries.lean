import Sounder.Config.Construct

/-!
# Sounder - Slot queries

The receive and record paths ask {lit}`Config` about one slot of one frame in two
ways.  The ordinal queries ({lit}`getClientId`, {lit}`getNoiseSFIndex`,
{lit}`getUlSFIndex`, {lit}`getDlSFIndex`) search the role table of the frame for
the slot and return its position in the table, or {lit}`-1`; the predicates
({lit}`isPilot`, {lit}`isNoise`, {lit}`isData`) read the letter of the frame
string at the slot, a slot past the end reading as {lit}`false`.  Both reduce the
frame number modulo the number of frames after converting it to {lit}`size_t`,
and compare slots after converting the {lit}`int` slot to {lit}`size_t`.

The string-side meaning of an ordinal is {lean}`slotOrdinal`: the number of
earlier slots holding the role.  On the schedules the constructor builds, every
table query computes it and every predicate reads the same slot.

Main results:

- Theorem {lit}`sfIndex_loadSymbols`: on tables built from the frames, the table
  search computes the string-side ordinal of the selected frame.
- Theorem {lit}`isRole_eq`: the predicates read the selected frame's letter.
- Theorem {lit}`slotAgreement_slotOrdinal`: the string-side ordinal and the letter
  test agree on every slot, negative ones included.
- Theorem {lit}`slotOrdinal_lt_count`: an ordinal is below the role's count in
  the frame it was read from, which need not be the first frame.
- Theorem {lit}`new_frames_eq_nil`: in calibration mode and without a base
  station {lit}`frames_` stays empty.
- Theorem {lit}`slot_queries_by_mode`: what each query returns in each mode; on
  an empty schedule every query but calibration-mode {lit}`getClientId`
  reduces modulo zero.
-/

namespace Sounder
namespace Config

/-! ## Frame selection -/

/-- {lit}`frame_id % frames_.size()`: the {lit}`int` frame number is converted to
{lit}`size_t` before the modulo, which is undefined on an empty schedule. -/
def frameIndex (numFrames : Nat) (frameId : Int) : Except Failure Nat :=
  if numFrames = 0 then .error .undefined else .ok (toSizeT frameId % numFrames)

theorem frameIndex_of_ne_nil {frames : List Frame} (hne : frames ≠ []) (frameId : Int) :
    frameIndex frames.length frameId = .ok (toSizeT frameId % frames.length) :=
  if_neg (by simpa using hne)

/-- The frame a query on {lean}`frameId` reads. -/
def selectedFrame (cfg : Config) (frameId : Int) : Frame :=
  cfg.schedule.frames.getD (toSizeT frameId % cfg.schedule.frames.length) []

/-! ## Ordinal queries -/

/-- The search shared by the ordinal queries: {lit}`std::find` of the slot,
converted to {lit}`size_t`, in the table of the selected frame read through
{lit}`at`; the position found, or {lit}`-1`. -/
def sfIndex (table : List (List Nat)) (numFrames : Nat) (frameId symbolId : Int) :
    Except Failure Int := do
  let fid ← frameIndex numFrames frameId
  let slots ← checkedAt table fid
  match slots.indexOf? (toSizeT symbolId) with
  | some k => pure k
  | none => pure (-1)

/-- {lit}`Config::getClientId`: the slot as a client number.  Unlike the other
ordinal queries it answers {lean}`symbolId` itself in calibration mode, without
reading the schedule. -/
def getClientId (cfg : Config) (frameId symbolId : Int) : Except Failure Int :=
  if cfg.reciprocalCalib then .ok symbolId
  else sfIndex cfg.schedule.pilotSymbols cfg.schedule.frames.length frameId symbolId

/-- {lit}`Config::getNoiseSFIndex`. -/
def getNoiseSFIndex (cfg : Config) (frameId symbolId : Int) : Except Failure Int :=
  sfIndex cfg.schedule.noiseSymbols cfg.schedule.frames.length frameId symbolId

/-- {lit}`Config::getUlSFIndex`. -/
def getUlSFIndex (cfg : Config) (frameId symbolId : Int) : Except Failure Int :=
  sfIndex cfg.schedule.ulSymbols cfg.schedule.frames.length frameId symbolId

/-- {lit}`Config::getDlSFIndex`. -/
def getDlSFIndex (cfg : Config) (frameId symbolId : Int) : Except Failure Int :=
  sfIndex cfg.schedule.dlSymbols cfg.schedule.frames.length frameId symbolId

/-! ## Slot predicates -/

/-- The predicates' shared body:
{lit}`frames_[frame_id % frames_.size()].at(symbol_id) == role`, the
{lit}`std::out_of_range` of a slot past the end caught as {lean}`false`. -/
def isRole (role : Char) (frames : List Frame) (frameId symbolId : Int) :
    Except Failure Bool := do
  let fid ← frameIndex frames.length frameId
  match (frames.getD fid [])[toSizeT symbolId]? with
  | some c => pure (c == role)
  | none => pure false

/-- {lit}`Config::isPilot`. -/
def isPilot (cfg : Config) (frameId symbolId : Int) : Except Failure Bool :=
  isRole 'P' cfg.schedule.frames frameId symbolId

/-- {lit}`Config::isNoise`. -/
def isNoise (cfg : Config) (frameId symbolId : Int) : Except Failure Bool :=
  isRole 'N' cfg.schedule.frames frameId symbolId

/-- {lit}`Config::isData`. -/
def isData (cfg : Config) (frameId symbolId : Int) : Except Failure Bool :=
  isRole 'U' cfg.schedule.frames frameId symbolId

/-! ## The string-side ordinal -/

/-- The ordinal of a slot among the slots of its role, read off the frame
string: the number of earlier slots with the role, or {lit}`-1` when the slot
does not hold it. -/
def slotOrdinal (role : Char) (frame : Frame) (pos : Nat) : Int :=
  if frame[pos]? = some role then ((frame.take pos).count role : Int) else -1

/-- What agreement of an ordinal answer and a predicate answer on the slot
{lean}`symbolId` of {lean}`frame` means: they hold together, exactly when the
slot holds the role, the ordinal then counts the earlier slots of the role, and
a slot past the end or a negative one gives {lit}`-1` and {lean}`false`. -/
structure SlotAgreement (role : Char) (frame : Frame) (symbolId ordinal : Int) (holds : Bool) :
    Prop where
  nonneg_iff : 0 ≤ ordinal ↔ holds = true
  holds_iff : holds = true ↔ frame[toSizeT symbolId]? = some role
  ordinal_eq : 0 ≤ ordinal → ordinal = ((frame.take (toSizeT symbolId)).count role : Int)
  out_of_range : frame.length ≤ toSizeT symbolId → ordinal = -1 ∧ holds = false
  negative : symbolId < 0 → -2 ^ 63 ≤ symbolId → frame.length < 2 ^ 63 →
    ordinal = -1 ∧ holds = false

/-- The string-side ordinal and the letter test agree on every slot. -/
theorem slotAgreement_slotOrdinal (role : Char) (frame : Frame) (symbolId : Int) :
    SlotAgreement role frame symbolId (slotOrdinal role frame (toSizeT symbolId))
      (decide (frame[toSizeT symbolId]? = some role)) := by
  have out_of_range : frame.length ≤ toSizeT symbolId →
      slotOrdinal role frame (toSizeT symbolId) = -1 ∧
        decide (frame[toSizeT symbolId]? = some role) = false := by
    intro hle
    simp [slotOrdinal, List.getElem?_eq_none hle]
  refine ⟨?_, by simp, ?_, out_of_range, fun hneg hlo hlen => out_of_range ?_⟩
  · unfold slotOrdinal
    split <;> simp [*, Int.ofNat_nonneg]
  · unfold slotOrdinal
    split <;> simp
  · unfold toSizeT
    omega

/-- An ordinal is below the role's count in the frame it was read from. -/
theorem slotOrdinal_lt_count {role : Char} {frame : Frame} {pos : Nat}
    (h : 0 ≤ slotOrdinal role frame pos) : slotOrdinal role frame pos < frame.count role := by
  unfold slotOrdinal at *
  split
  · rename_i hp
    exact_mod_cast indexOf?_symbolSlots_lt ((indexOf?_symbolSlots role frame pos).trans (if_pos hp))
  · rename_i hp
    simp [hp] at h

/-! ## Queries on tables built from the frames -/

/-- On a table built from the frames, the search computes the string-side ordinal
of the selected frame. -/
theorem sfIndex_loadSymbols {frames : List Frame} (hne : frames ≠ []) (role : Char)
    (frameId symbolId : Int) :
    sfIndex (loadSymbols frames role) frames.length frameId symbolId =
      .ok (slotOrdinal role (frames.getD (toSizeT frameId % frames.length) [])
        (toSizeT symbolId)) := by
  have hlt : toSizeT frameId % frames.length < frames.length :=
    Nat.mod_lt _ (List.length_pos.mpr hne)
  have hat : checkedAt (loadSymbols frames role) (toSizeT frameId % frames.length) =
      .ok (symbolSlots role (frames.getD (toSizeT frameId % frames.length) [])) := by
    simp [checkedAt_eq_ok, List.getElem?_eq_getElem hlt]
  simp only [sfIndex, frameIndex_of_ne_nil hne, bind, Except.bind, hat, indexOf?_symbolSlots,
    slotOrdinal]
  split_ifs <;> rfl

/-- The predicates read the selected frame's letter. -/
theorem isRole_eq {frames : List Frame} (hne : frames ≠ []) (role : Char)
    (frameId symbolId : Int) :
    isRole role frames frameId symbolId =
      .ok (decide ((frames.getD (toSizeT frameId % frames.length) [])[toSizeT symbolId]? =
        some role)) := by
  simp only [isRole, frameIndex_of_ne_nil hne, bind, Except.bind]
  cases (frames.getD (toSizeT frameId % frames.length) [])[toSizeT symbolId]? with
  | none => simp [pure, Except.pure]
  | some c => by_cases hc : c = role <;> simp [hc, pure, Except.pure]

/-- On an empty schedule the frame selection divides by zero. -/
theorem sfIndex_nil (table : List (List Nat)) (frameId symbolId : Int) :
    sfIndex table 0 frameId symbolId = .error .undefined :=
  rfl

theorem isRole_nil (role : Char) (frameId symbolId : Int) :
    isRole role [] frameId symbolId = .error .undefined :=
  rfl

variable {cfg : Config}

theorem getClientId_of_derived (hd : cfg.schedule.Derived) (hcal : cfg.reciprocalCalib = false)
    (frameId symbolId : Int) :
    cfg.getClientId frameId symbolId =
      .ok (slotOrdinal 'P' (cfg.selectedFrame frameId) (toSizeT symbolId)) := by
  rw [getClientId, if_neg (by simp [hcal]), hd.pilotSymbols_eq,
    sfIndex_loadSymbols hd.frames_ne_nil]
  rfl

theorem getNoiseSFIndex_of_derived (hd : cfg.schedule.Derived) (frameId symbolId : Int) :
    cfg.getNoiseSFIndex frameId symbolId =
      .ok (slotOrdinal 'N' (cfg.selectedFrame frameId) (toSizeT symbolId)) := by
  rw [getNoiseSFIndex, hd.noiseSymbols_eq, sfIndex_loadSymbols hd.frames_ne_nil]
  rfl

theorem getUlSFIndex_of_derived (hd : cfg.schedule.Derived) (frameId symbolId : Int) :
    cfg.getUlSFIndex frameId symbolId =
      .ok (slotOrdinal 'U' (cfg.selectedFrame frameId) (toSizeT symbolId)) := by
  rw [getUlSFIndex, hd.ulSymbols_eq, sfIndex_loadSymbols hd.frames_ne_nil]
  rfl

theorem getDlSFIndex_of_derived (hd : cfg.schedule.Derived) (frameId symbolId : Int) :
    cfg.getDlSFIndex frameId symbolId =
      .ok (slotOrdinal 'D' (cfg.selectedFrame frameId) (toSizeT symbolId)) := by
  rw [getDlSFIndex, hd.dlSymbols_eq, sfIndex_loadSymbols hd.frames_ne_nil]
  rfl

/-- An ordinal answer that a query computes as the string-side ordinal is below
the role's count in that frame. -/
theorem lt_count_of_eq_slotOrdinal {q : Except Failure Int} {role : Char} {frame : Frame}
    {pos : Nat} (hq : q = .ok (slotOrdinal role frame pos)) {k : Int} (hk : q = .ok k)
    (hnn : 0 ≤ k) : k < frame.count role := by
  obtain rfl := Except.ok.inj (hq.symm.trans hk)
  exact slotOrdinal_lt_count hnn

/-! ## Accepted configurations -/

section Accepted

variable {env : Platform} {input : ConfInput} {numCores : Nat}

/-- On a base-station schedule the constructor accepts outside calibration mode,
each ordinal query agrees with its slot predicate on every frame number and slot,
and the downlink ordinal with the frame's letter. -/
theorem slot_queries_agree (h : Config.new env input numCores = .ok cfg)
    (hbs : cfg.bsPresent = true) (hcal : cfg.reciprocalCalib = false) (frameId symbolId : Int) :
    (∃ k b, cfg.getClientId frameId symbolId = .ok k ∧ cfg.isPilot frameId symbolId = .ok b ∧
        SlotAgreement 'P' (cfg.selectedFrame frameId) symbolId k b) ∧
    (∃ k b, cfg.getNoiseSFIndex frameId symbolId = .ok k ∧ cfg.isNoise frameId symbolId = .ok b ∧
        SlotAgreement 'N' (cfg.selectedFrame frameId) symbolId k b) ∧
    (∃ k b, cfg.getUlSFIndex frameId symbolId = .ok k ∧ cfg.isData frameId symbolId = .ok b ∧
        SlotAgreement 'U' (cfg.selectedFrame frameId) symbolId k b) ∧
    ∃ k, cfg.getDlSFIndex frameId symbolId = .ok k ∧
      SlotAgreement 'D' (cfg.selectedFrame frameId) symbolId k
        (decide ((cfg.selectedFrame frameId)[toSizeT symbolId]? = some 'D')) := by
  have hd := new_schedule_derived h hbs hcal
  have hne := hd.frames_ne_nil
  exact ⟨⟨_, _, getClientId_of_derived hd hcal .., isRole_eq hne .., slotAgreement_slotOrdinal ..⟩,
    ⟨_, _, getNoiseSFIndex_of_derived hd .., isRole_eq hne .., slotAgreement_slotOrdinal ..⟩,
    ⟨_, _, getUlSFIndex_of_derived hd .., isRole_eq hne .., slotAgreement_slotOrdinal ..⟩,
    _, getDlSFIndex_of_derived hd .., slotAgreement_slotOrdinal ..⟩

/-- Two cells of one SDR each, whose frames hold one and two pilots. -/
def twoCellInput : ConfInput where
  baseStations := some
    { phy := { fftSize := some 64, cpSize := some 16, ofdmSymbolPerSubframe := some 7 }
      sdrId := [["S1"], ["S2"]]
      frameSchedule := ["PG", "PP"] }

/-- The two-cell document is accepted on every platform; its second frame's
second pilot has ordinal {lit}`1`, while the per-frame pilot count, read from the
first frame, is {lit}`1`. -/
theorem twoCellInput_accepted (env : Platform) (numCores : Nat) (hins : env.InsertCompletes) :
    ∃ cfg, Config.new env twoCellInput numCores = .ok cfg ∧ cfg.bsPresent = true ∧
      cfg.reciprocalCalib = false ∧ cfg.getClientId 1 1 = .ok 1 ∧
      cfg.schedule.pilotSymsPerFrame = 1 := by
  have hr := @eq_ok_of_isSome _ _ (readConf twoCellInput) (by decide)
  obtain ⟨p, hp⟩ := @composePilot_lts_isOk env 64 16 7 0 0 64 "lts" rfl (by decide) hins
  exact ⟨_, new_eq_of_readConf hr (by decide) hp, rfl, rfl, rfl, rfl⟩

theorem slot_queries_agree_twoCell :
    ∃ cfg, Config.new Platform.sample twoCellInput 8 = .ok cfg ∧
      (∃ k b, cfg.getClientId 1 1 = .ok k ∧ cfg.isPilot 1 1 = .ok b ∧
          SlotAgreement 'P' (cfg.selectedFrame 1) 1 k b) ∧
      (∃ k b, cfg.getNoiseSFIndex 1 1 = .ok k ∧ cfg.isNoise 1 1 = .ok b ∧
          SlotAgreement 'N' (cfg.selectedFrame 1) 1 k b) ∧
      (∃ k b, cfg.getUlSFIndex 1 1 = .ok k ∧ cfg.isData 1 1 = .ok b ∧
          SlotAgreement 'U' (cfg.selectedFrame 1) 1 k b) ∧
      ∃ k, cfg.getDlSFIndex 1 1 = .ok k ∧
        SlotAgreement 'D' (cfg.selectedFrame 1) 1 k
          (decide ((cfg.selectedFrame 1)[toSizeT 1]? = some 'D')) :=
  let ⟨cfg, h, hbs, hcal, _⟩ := twoCellInput_accepted Platform.sample 8 Platform.sample_insertCompletes
  ⟨cfg, h, slot_queries_agree h hbs hcal 1 1⟩

/-- On the same configurations, every non-negative ordinal is below the role's
count in the frame it was read from, and the per-frame counts are the role counts
of the first frame: the counts bound the ordinals of the frames that have as many
slots of each role as the first. -/
theorem slot_ordinals_lt_frame_counts (h : Config.new env input numCores = .ok cfg)
    (hbs : cfg.bsPresent = true) (hcal : cfg.reciprocalCalib = false) (frameId symbolId : Int) :
    (∀ k, cfg.getClientId frameId symbolId = .ok k → 0 ≤ k →
        k < (cfg.selectedFrame frameId).count 'P') ∧
    (∀ k, cfg.getNoiseSFIndex frameId symbolId = .ok k → 0 ≤ k →
        k < (cfg.selectedFrame frameId).count 'N') ∧
    (∀ k, cfg.getUlSFIndex frameId symbolId = .ok k → 0 ≤ k →
        k < (cfg.selectedFrame frameId).count 'U') ∧
    (∀ k, cfg.getDlSFIndex frameId symbolId = .ok k → 0 ≤ k →
        k < (cfg.selectedFrame frameId).count 'D') ∧
    cfg.schedule.frames[0]?.map (List.count 'P') = some cfg.schedule.pilotSymsPerFrame ∧
    cfg.schedule.frames[0]?.map (List.count 'N') = some cfg.schedule.noiseSymsPerFrame ∧
    cfg.schedule.frames[0]?.map (List.count 'U') = some cfg.schedule.ulSymsPerFrame ∧
    cfg.schedule.frames[0]?.map (List.count 'D') = some cfg.schedule.dlSymsPerFrame := by
  have hd := new_schedule_derived h hbs hcal
  exact ⟨fun _ => lt_count_of_eq_slotOrdinal (getClientId_of_derived hd hcal ..),
    fun _ => lt_count_of_eq_slotOrdinal (getNoiseSFIndex_of_derived hd ..),
    fun _ => lt_count_of_eq_slotOrdinal (getUlSFIndex_of_derived hd ..),
    fun _ => lt_count_of_eq_slotOrdinal (getDlSFIndex_of_derived hd ..),
    hd.pilotSymsPerFrame_eq, hd.noiseSymsPerFrame_eq, hd.ulSymsPerFrame_eq,
    hd.dlSymsPerFrame_eq⟩

theorem slot_ordinals_lt_frame_counts_twoCell :
    ∃ cfg, Config.new Platform.sample twoCellInput 8 = .ok cfg ∧
      (∀ k, cfg.getClientId 1 1 = .ok k → 0 ≤ k → k < (cfg.selectedFrame 1).count 'P') ∧
      (∀ k, cfg.getNoiseSFIndex 1 1 = .ok k → 0 ≤ k → k < (cfg.selectedFrame 1).count 'N') ∧
      (∀ k, cfg.getUlSFIndex 1 1 = .ok k → 0 ≤ k → k < (cfg.selectedFrame 1).count 'U') ∧
      (∀ k, cfg.getDlSFIndex 1 1 = .ok k → 0 ≤ k → k < (cfg.selectedFrame 1).count 'D') ∧
      cfg.schedule.frames[0]?.map (List.count 'P') = some cfg.schedule.pilotSymsPerFrame ∧
      cfg.schedule.frames[0]?.map (List.count 'N') = some cfg.schedule.noiseSymsPerFrame ∧
      cfg.schedule.frames[0]?.map (List.count 'U') = some cfg.schedule.ulSymsPerFrame ∧
      cfg.schedule.frames[0]?.map (List.count 'D') = some cfg.schedule.dlSymsPerFrame :=
  let ⟨cfg, h, hbs, hcal, _⟩ := twoCellInput_accepted Platform.sample 8 Platform.sample_insertCompletes
  ⟨cfg, h, slot_ordinals_lt_frame_counts h hbs hcal 1 1⟩

/-- The per-frame counts do not bound the ordinals of every frame: in the
two-cell schedule the second frame's second pilot has ordinal {lit}`1`, equal to
the pilot count of the first frame. -/
theorem slot_ordinals_not_lt_first_frame_counts :
    ¬ ∀ (env : Platform) (input : ConfInput) (numCores : Nat) (cfg : Config),
      Config.new env input numCores = .ok cfg → cfg.bsPresent = true →
      cfg.reciprocalCalib = false → ∀ frameId symbolId : Int,
      (∀ k, cfg.getClientId frameId symbolId = .ok k → 0 ≤ k →
        k < cfg.schedule.pilotSymsPerFrame) ∧
      (∀ k, cfg.getNoiseSFIndex frameId symbolId = .ok k → 0 ≤ k →
        k < cfg.schedule.noiseSymsPerFrame) ∧
      (∀ k, cfg.getUlSFIndex frameId symbolId = .ok k → 0 ≤ k →
        k < cfg.schedule.ulSymsPerFrame) ∧
      (∀ k, cfg.getDlSFIndex frameId symbolId = .ok k → 0 ≤ k →
        k < cfg.schedule.dlSymsPerFrame) := by
  intro H
  obtain ⟨cfg, h, hbs, hcal, hq, hp⟩ := twoCellInput_accepted Platform.sample 8 Platform.sample_insertCompletes
  have := (H _ _ _ cfg h hbs hcal 1 1).1 1 hq (by decide)
  omega

/-! ## Modes without a base-station schedule -/

/-- The calibration branch keeps the frames. -/
theorem readBaseStation_frames_of_calib {bs : BsConf} {c c' : Config}
    (h : readBaseStation bs c = .ok c') (hcal : c'.reciprocalCalib = true) :
    c'.schedule.frames = c.schedule.frames := by
  simp only [readBaseStation, bind_eq_ok] at h
  obtain ⟨_, -, _, -, _, -, _, -, _, -, hfin⟩ := h
  split at hfin
  · simp only [calibSchedule, bind_eq_ok, pure, Except.pure, Except.ok.injEq] at hfin
    obtain ⟨_, -, _, -, rfl⟩ := hfin
    rfl
  · rename_i hmode
    have := (frameSchedule_eq_ok hfin).2.2.2
    simp_all

/-- The client stage keeps the frames. -/
theorem readClients_frames {cl : ClConf} {c c' : Config} (h : readClients cl c = .ok c') :
    c'.schedule.frames = c.schedule.frames := by
  simp only [readClients, bind_eq_ok] at h
  obtain ⟨_, -, _, -, _, -, _, -, _, -, hfin⟩ := h
  split at hfin
  · cases hfin
    rfl
  · simp only [bind_eq_ok, pure, Except.pure, Except.ok.injEq] at hfin
    obtain ⟨_, -, rfl⟩ := hfin
    rfl

/-- In calibration mode and without a base station the constructor writes no
frame: {lit}`frames_` stays empty. -/
theorem new_frames_eq_nil (h : Config.new env input numCores = .ok cfg)
    (hmode : cfg.reciprocalCalib = true ∨ cfg.bsPresent = false) : cfg.schedule.frames = [] := by
  obtain ⟨c, hc, hs, -, hb, -, hr⟩ := new_eq_ok_readConf h
  obtain ⟨c₁, c₂, h₁, -, h₂, h₃⟩ := readConf_eq_ok.mp hc
  obtain ⟨_, rfl⟩ := setUlDataSymPresent_eq_ok h₃
  obtain ⟨c₁', h₁', hb₁, -, hr₁, -⟩ := readConf_eq_ok_baseStation hc
  obtain rfl : c₁ = c₁' := Except.ok.inj (h₁.symm.trans h₁')
  have hf₂ : c₂.schedule.frames = c₁.schedule.frames := by
    unfold withClients at h₂
    split at h₂
    · exact readClients_frames h₂
    · cases h₂
      rfl
  rw [hs]
  refine hf₂.trans ?_
  unfold withBaseStation at h₁
  split at h₁
  · rename_i bs hbs
    have hpres : c₁.bsPresent = true := by
      rw [(readBaseStation_eq_ok h₁).1]
      simp [initial, hbs]
    have hcal : c₁.reciprocalCalib = true := by
      rcases hmode with hcal | hno
      · exact hr₁ ▸ hr ▸ hcal
      · rw [hb, hb₁, hpres] at hno
        cases hno
    exact (readBaseStation_frames_of_calib h₁ hcal).trans rfl
  · cases h₁
    rfl

/-- What each query returns in each mode.  On a base-station schedule outside
calibration mode every query returns a value, {lit}`-1` or {lit}`false` for a
slot past the end of the selected frame.  In calibration mode
{lit}`getClientId` answers the slot itself.  In calibration mode and without a
base station {lit}`frames_` is empty, so every other query reduces the frame
number modulo zero, which is undefined. -/
theorem slot_queries_by_mode (h : Config.new env input numCores = .ok cfg)
    (frameId symbolId : Int) :
    (cfg.bsPresent = true → cfg.reciprocalCalib = false →
      (∃ k b, cfg.getClientId frameId symbolId = .ok k ∧ cfg.isPilot frameId symbolId = .ok b ∧
        ((cfg.selectedFrame frameId).length ≤ toSizeT symbolId → k = -1 ∧ b = false)) ∧
      (∃ k b, cfg.getNoiseSFIndex frameId symbolId = .ok k ∧ cfg.isNoise frameId symbolId = .ok b ∧
        ((cfg.selectedFrame frameId).length ≤ toSizeT symbolId → k = -1 ∧ b = false)) ∧
      (∃ k b, cfg.getUlSFIndex frameId symbolId = .ok k ∧ cfg.isData frameId symbolId = .ok b ∧
        ((cfg.selectedFrame frameId).length ≤ toSizeT symbolId → k = -1 ∧ b = false)) ∧
      ∃ k, cfg.getDlSFIndex frameId symbolId = .ok k ∧
        ((cfg.selectedFrame frameId).length ≤ toSizeT symbolId → k = -1)) ∧
    (cfg.reciprocalCalib = true → cfg.getClientId frameId symbolId = .ok symbolId) ∧
    (cfg.reciprocalCalib = true ∨ cfg.bsPresent = false →
      cfg.getNoiseSFIndex frameId symbolId = .error .undefined ∧
      cfg.getUlSFIndex frameId symbolId = .error .undefined ∧
      cfg.getDlSFIndex frameId symbolId = .error .undefined ∧
      cfg.isPilot frameId symbolId = .error .undefined ∧
      cfg.isNoise frameId symbolId = .error .undefined ∧
      cfg.isData frameId symbolId = .error .undefined ∧
      (cfg.reciprocalCalib = false → cfg.getClientId frameId symbolId = .error .undefined)) := by
  refine ⟨fun hbs hcal => ?_, fun hcal => by simp [getClientId, hcal], fun hmode => ?_⟩
  · obtain ⟨⟨k₁, b₁, hk₁, hb₁, a₁⟩, ⟨k₂, b₂, hk₂, hb₂, a₂⟩, ⟨k₃, b₃, hk₃, hb₃, a₃⟩, k₄, hk₄, a₄⟩ :=
      slot_queries_agree h hbs hcal frameId symbolId
    exact ⟨⟨k₁, b₁, hk₁, hb₁, a₁.out_of_range⟩, ⟨k₂, b₂, hk₂, hb₂, a₂.out_of_range⟩,
      ⟨k₃, b₃, hk₃, hb₃, a₃.out_of_range⟩, k₄, hk₄, fun hle => (a₄.out_of_range hle).1⟩
  · have hnil := new_frames_eq_nil h hmode
    simp only [getNoiseSFIndex, getUlSFIndex, getDlSFIndex, isPilot, isNoise, isData, getClientId,
      hnil, List.length_nil, sfIndex_nil, isRole_nil, true_and]
    intro hcal
    simp [hcal]

/-- One client with one frame and no base station. -/
def clientOnlyInput : ConfInput where
  clients := some
    { phy := { fftSize := some 64, cpSize := some 16, ofdmSymbolPerSubframe := some 7 }
      sdrId := ["C1"]
      frameSchedule := ["PGU"] }

/-- The client-only document is accepted on every platform, without a base
station. -/
theorem clientOnlyInput_accepted (env : Platform) (numCores : Nat) (hins : env.InsertCompletes) :
    ∃ cfg, Config.new env clientOnlyInput numCores = .ok cfg ∧ cfg.bsPresent = false ∧
      cfg.reciprocalCalib = false := by
  have hr := @eq_ok_of_isSome _ _ (readConf clientOnlyInput) (by decide)
  obtain ⟨p, hp⟩ := @composePilot_lts_isOk env 64 16 7 0 0 64 "lts" rfl (by decide) hins
  exact ⟨_, new_eq_of_readConf hr (by decide) hp, rfl, rfl⟩

theorem slot_queries_by_mode_clientOnly :
    ∃ cfg, Config.new Platform.sample clientOnlyInput 8 = .ok cfg ∧
      (cfg.bsPresent = true → cfg.reciprocalCalib = false →
        (∃ k b, cfg.getClientId 0 0 = .ok k ∧ cfg.isPilot 0 0 = .ok b ∧
          ((cfg.selectedFrame 0).length ≤ toSizeT 0 → k = -1 ∧ b = false)) ∧
        (∃ k b, cfg.getNoiseSFIndex 0 0 = .ok k ∧ cfg.isNoise 0 0 = .ok b ∧
          ((cfg.selectedFrame 0).length ≤ toSizeT 0 → k = -1 ∧ b = false)) ∧
        (∃ k b, cfg.getUlSFIndex 0 0 = .ok k ∧ cfg.isData 0 0 = .ok b ∧
          ((cfg.selectedFrame 0).length ≤ toSizeT 0 → k = -1 ∧ b = false)) ∧
        ∃ k, cfg.getDlSFIndex 0 0 = .ok k ∧
          ((cfg.selectedFrame 0).length ≤ toSizeT 0 → k = -1)) ∧
      (cfg.reciprocalCalib = true → cfg.getClientId 0 0 = .ok 0) ∧
      (cfg.reciprocalCalib = true ∨ cfg.bsPresent = false →
        cfg.getNoiseSFIndex 0 0 = .error .undefined ∧
        cfg.getUlSFIndex 0 0 = .error .undefined ∧
        cfg.getDlSFIndex 0 0 = .error .undefined ∧
        cfg.isPilot 0 0 = .error .undefined ∧
        cfg.isNoise 0 0 = .error .undefined ∧
        cfg.isData 0 0 = .error .undefined ∧
        (cfg.reciprocalCalib = false → cfg.getClientId 0 0 = .error .undefined)) :=
  let ⟨cfg, h, _⟩ := clientOnlyInput_accepted Platform.sample 8 Platform.sample_insertCompletes
  ⟨cfg, h, slot_queries_by_mode h 0 0⟩

/-- The queries do not return a value in every mode: without a base station
{lit}`frames_` is empty and {lit}`isPilot` reduces the frame number modulo
zero. -/
theorem slot_queries_not_total :
    ¬ ∀ (env : Platform) (input : ConfInput) (numCores : Nat) (cfg : Config),
      Config.new env input numCores = .ok cfg → ∀ frameId symbolId : Int,
      (∃ k, cfg.getClientId frameId symbolId = .ok k) ∧
      (∃ k, cfg.getNoiseSFIndex frameId symbolId = .ok k) ∧
      (∃ k, cfg.getUlSFIndex frameId symbolId = .ok k) ∧
      (∃ k, cfg.getDlSFIndex frameId symbolId = .ok k) ∧
      (∃ b, cfg.isPilot frameId symbolId = .ok b) ∧
      (∃ b, cfg.isNoise frameId symbolId = .ok b) ∧
      (∃ b, cfg.isData frameId symbolId = .ok b) := by
  intro H
  obtain ⟨cfg, h, hbs, -⟩ := clientOnlyInput_accepted Platform.sample 8 Platform.sample_insertCompletes
  obtain ⟨b, hb⟩ := (H _ _ _ cfg h 0 0).2.2.2.2.1
  rw [isPilot, new_frames_eq_nil h (.inr hbs), isRole_nil] at hb
  cases hb

end Accepted

end Config

end Sounder
