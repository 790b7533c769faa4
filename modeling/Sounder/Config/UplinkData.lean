import Sounder.Config.Sizes

/-!
# Sounder - Uplink data of the clients

{lit}`Config::loadULData` reads, for every client SDR, one frequency-domain and
one time-domain data file, and appends to each antenna of the SDR one block per
uplink slot of the SDR's frame: {lit}`fft_size_ · symbol_per_subframe_`
frequency-domain samples and {lit}`samps_per_symbol_` time-domain samples.  The
blocks are read into value-initialized buffers, so a short read leaves the rest
of a block at zero and only logs a warning.  The model returns the members the
function writes as one record.

The data files are given as a function from paths to their records; a path
with no file is {lean}`none`, and opening it throws {lit}`std::runtime_error`.
A partial record at the end of a file is not read as a sample.

The client tables the function reads are filled only from a client object.  A
base station without one still counts its client SDRs from the pilots of the
first frame, so the first iteration of the client loop reads the empty uplink
table of the clients through {lit}`operator[]`.

Main results:

- Theorem {lit}`freadBlock_min`: at the offset reached after {lit}`k` blocks a
  read returns block {lit}`k` of the file, zero-filled past its end.
- Theorems {lit}`Config.ulChannelLoop_appends`, {lit}`Config.ulSlotLoop_appends`
  and {lit}`Config.ulClientLoop_appends`: what each loop appends to the antenna
  buffers and the file lists.
- Theorem {lit}`Config.new_loadULData_eq`: on every accepted configuration with a
  client object, a load with every file present returns {lean}`Config.ulData`:
  antenna {lit}`i·cl_sdr_ch_ + h` holds, slot after slot, block
  {lit}`u·cl_sdr_ch_ + h` of client {lit}`i`'s files, the layout
  {lit}`Frame * UL Slots * Channel * Samples` of the source.
- Theorem {lit}`Config.new_loadULData_missing_file`: the first client with a
  missing file makes the load throw the error naming that file.
-/

namespace Sounder

/-! ## Samples, buffers and files -/

/-- A complex sample of two floats, {lit}`std::complex<float>`. -/
structure CFloat where
  re : Float
  im : Float

/-- The zero sample of a value-initialized buffer. -/
def CFloat.zero : CFloat :=
  ⟨0, 0⟩

/-- {lit}`std::vector::operator[]`: the element at {lean}`i`, undefined past the
end. -/
def uncheckedAt {α : Type} (xs : List α) (i : Nat) : Except Failure α :=
  match xs[i]? with
  | some x => .ok x
  | none => .error .undefined

/-- {lit}`v[i].insert(v[i].end(), block.begin(), block.end())` through
{lit}`operator[]`: the block appended to entry {lean}`i`, undefined past the
end. -/
def appendAt {α : Type} (xs : List (List α)) (i : Nat) (block : List α) :
    Except Failure (List (List α)) :=
  match xs[i]? with
  | some x => .ok (xs.set i (x ++ block))
  | none => .error .undefined

/-- {lit}`std::fread` of up to {lean}`n` records at offset {lean}`pos` into a
value-initialized buffer of {lean}`n` samples: the buffer, and the offset after
the records read. -/
def freadBlock (file : List CFloat) (pos n : Nat) : List CFloat × Nat :=
  ((file.drop pos).take n ++ List.replicate (n - ((file.drop pos).take n).length) CFloat.zero,
    pos + ((file.drop pos).take n).length)

/-- A block read holds exactly the samples asked for, however many records the
file still had. -/
@[simp]
theorem length_freadBlock (file : List CFloat) (pos n : Nat) :
    (freadBlock file pos n).1.length = n := by
  simp only [freadBlock, List.length_append, List.length_take, List.length_replicate]
  omega

/-- {lit}`std::fopen` of a data file: its records, or the
{lit}`std::runtime_error` naming the path. -/
def openDataFile (files : String → Option (List CFloat)) (path : String) :
    Except Failure (List CFloat) :=
  match files path with
  | some file => .ok file
  | none => .error (.runtimeError (path ++ " not found!"))

/-- The members {lit}`loadULData` writes. -/
structure UplinkData where
  txdataFreqDom : List (List CFloat)
  txdataTimeDom : List (List CFloat)
  txFdDataFiles : List String
  txTdDataFiles : List String

/-- The members of a freshly constructed configuration: all empty. -/
def UplinkData.empty : UplinkData :=
  ⟨[], [], [], []⟩

/-- Block {lean}`k` of a data file read in blocks of {lean}`n` samples: the
records from sample {lit}`k·n` on, zero-filled past the end of the file. -/
def dataBlock (file : List CFloat) (n k : Nat) : List CFloat :=
  (freadBlock file (k * n) n).1

/-- At the offset reached after {lean}`k` blocks, a read returns block
{lean}`k` and moves to the offset after {lean}`k + 1` blocks; offsets stop at the
end of the file. -/
theorem freadBlock_min (file : List CFloat) (n k : Nat) :
    freadBlock file (min (k * n) file.length) n =
      (dataBlock file n k, min ((k + 1) * n) file.length) := by
  unfold dataBlock freadBlock
  rw [Nat.succ_mul]
  by_cases h : k * n ≤ file.length
  · rw [Nat.min_eq_left h]
    simp only [List.length_take, List.length_drop, Prod.mk.injEq, true_and]
    omega
  · rw [Nat.min_eq_right (by omega), List.drop_eq_nil_of_le (Nat.le_refl _),
      List.drop_eq_nil_of_le (by omega : file.length ≤ k * n)]
    simp only [List.take_nil, List.length_nil, Prod.mk.injEq, true_and]
    omega

/-- The blocks channel {lean}`h` of a client with {lean}`ch` channels gets over
{lean}`u` uplink slots: block {lit}`u'·ch + h` of its file for each slot
{lit}`u'`. -/
def slotBlocks (file : List CFloat) (n ch h u : Nat) : List CFloat :=
  (List.range u).flatMap fun u' => dataBlock file n (u' * ch + h)

@[simp]
theorem slotBlocks_zero (file : List CFloat) (n ch h : Nat) : slotBlocks file n ch h 0 = [] :=
  rfl

theorem slotBlocks_succ (file : List CFloat) (n ch h u : Nat) :
    slotBlocks file n ch h (u + 1) = slotBlocks file n ch h u ++ dataBlock file n (u * ch + h) := by
  simp [slotBlocks, List.range_succ, List.flatMap_append]

theorem appendAt_getD {α : Type} {xs : List (List α)} {i : Nat} (block : List α)
    (hi : i < xs.length) :
    ∃ xs', appendAt xs i block = .ok xs' ∧ xs'.length = xs.length ∧
      ∀ a, xs'.getD a [] = xs.getD a [] ++ if a = i then block else [] := by
  refine ⟨xs.set i (xs[i] ++ block), by simp [appendAt, List.getElem?_eq_getElem hi],
    List.length_set _ _ _, fun a => ?_⟩
  by_cases ha : a = i
  · subst ha
    simp [List.getElem?_set_self hi, List.getElem?_eq_getElem hi]
  · simp [List.getElem?_set_ne (Ne.symm ha), ha]

/-- {lean}`d'` has the buffers of {lean}`d` with {lean}`bF a` and {lean}`bT a`
appended at antenna {lean}`a`, and the file lists of {lean}`d` with
{lean}`fF` and {lean}`fT` appended. -/
structure Appends (d d' : UplinkData) (bF bT : Nat → List CFloat) (fF fT : List String) :
    Prop where
  length_freq : d'.txdataFreqDom.length = d.txdataFreqDom.length
  length_time : d'.txdataTimeDom.length = d.txdataTimeDom.length
  freq_getD : ∀ a, d'.txdataFreqDom.getD a [] = d.txdataFreqDom.getD a [] ++ bF a
  time_getD : ∀ a, d'.txdataTimeDom.getD a [] = d.txdataTimeDom.getD a [] ++ bT a
  fdFiles : d'.txFdDataFiles = d.txFdDataFiles ++ fF
  tdFiles : d'.txTdDataFiles = d.txTdDataFiles ++ fT

/-- Before a loop runs, nothing is appended. -/
theorem Appends.of_nil (d : UplinkData) {bF bT : Nat → List CFloat} (hF : ∀ a, bF a = [])
    (hT : ∀ a, bT a = []) : Appends d d bF bT [] [] :=
  ⟨rfl, rfl, fun a => by simp [hF a], fun a => by simp [hT a], by simp, by simp⟩

theorem Appends.trans {d₁ d₂ d₃ : UplinkData} {f₁ f₂ g₁ g₂ f g : Nat → List CFloat}
    {n₁ n₂ m₁ m₂ : List String} (h₁ : Appends d₁ d₂ f₁ g₁ n₁ m₁) (h₂ : Appends d₂ d₃ f₂ g₂ n₂ m₂)
    (hf : ∀ a, f a = f₁ a ++ f₂ a) (hg : ∀ a, g a = g₁ a ++ g₂ a) :
    Appends d₁ d₃ f g (n₁ ++ n₂) (m₁ ++ m₂) :=
  ⟨h₂.length_freq.trans h₁.length_freq, h₂.length_time.trans h₁.length_time,
    fun a => by rw [h₂.freq_getD, h₁.freq_getD, hf, List.append_assoc],
    fun a => by rw [h₂.time_getD, h₁.time_getD, hg, List.append_assoc],
    by rw [h₂.fdFiles, h₁.fdFiles, List.append_assoc],
    by rw [h₂.tdFiles, h₁.tdFiles, List.append_assoc]⟩

private theorem ite_block_succ (lo k a : Nat) (blk : Nat → List CFloat) :
    (if lo ≤ a ∧ a < lo + (k + 1) then blk (a - lo) else []) =
      (if lo ≤ a ∧ a < lo + k then blk (a - lo) else []) ++ if a = lo + k then blk k else [] := by
  by_cases ha : a = lo + k
  · subst ha
    simp
  · by_cases h : lo ≤ a ∧ a < lo + k
    · simp [ha, h, show a < lo + (k + 1) by omega]
    · simp only [ha, h, if_false, List.append_nil]
      exact if_neg (by omega)

namespace Config

/-! ## The loops of loadULData -/

/-- The file-name tag of client {lean}`i` with {lean}`numSlots` uplink slots. -/
def ulDataTag (cfg : Config) (numSlots i : Nat) : String :=
  cfg.dataMod ++ "_" ++ toString cfg.symbolDataSubcarrierNum ++ "_" ++ toString cfg.fftSize ++
    "_" ++ toString cfg.symbolPerSubframe ++ "_" ++ toString numSlots ++ "_" ++
    toString cfg.ulDataFrameNum ++ "_" ++ cfg.clChannel ++ "_" ++ toString i ++ ".bin"

/-- One iteration of the channel loop of client {lean}`i`: antenna
{lit}`i · cl_sdr_ch_ + h` gets one block from each file, each file's offset
advancing by the records read. -/
def ulChannelStep (cfg : Config) (fileF fileT : List CFloat) (i : Nat)
    (st : UplinkData × Nat × Nat) (h : Nat) : Except Failure (UplinkData × Nat × Nat) := do
  let antI := i * cfg.clSdrCh + h
  let blockF := freadBlock fileF st.2.1 (cfg.fftSize * cfg.symbolPerSubframe)
  let txdataFreqDom ← appendAt st.1.txdataFreqDom antI blockF.1
  let blockT := freadBlock fileT st.2.2 cfg.sampsPerSymbol
  let txdataTimeDom ← appendAt st.1.txdataTimeDom antI blockT.1
  pure ({ st.1 with txdataFreqDom, txdataTimeDom }, blockF.2, blockT.2)

/-- The slot loop of client {lean}`i`: the channel loop once per uplink slot. -/
def ulSlotLoop (cfg : Config) (fileF fileT : List CFloat) (i numSlots : Nat)
    (st : UplinkData × Nat × Nat) : Except Failure (UplinkData × Nat × Nat) :=
  (List.range numSlots).foldlM
    (fun st _ => (List.range cfg.clSdrCh).foldlM (ulChannelStep cfg fileF fileT i) st) st

/-- One iteration of the client loop: the tag, from the client's uplink slots
read through {lit}`operator[]`; both files opened, the frequency-domain one
recorded by name and the time-domain one by path; then the slot loop from the
start of both files. -/
def ulClientStep (files : String → Option (List CFloat)) (directory : String) (cfg : Config)
    (d : UplinkData) (i : Nat) : Except Failure UplinkData := do
  let ulSlots ← uncheckedAt cfg.clUlSymbols i
  let tag := cfg.ulDataTag ulSlots.length i
  let d := { d with txFdDataFiles := d.txFdDataFiles ++ ["ul_data_f_" ++ tag] }
  let fileF ← openDataFile files (directory ++ "/ul_data_f_" ++ tag)
  let d := { d with txTdDataFiles := d.txTdDataFiles ++ [directory ++ "/ul_data_t_" ++ tag] }
  let fileT ← openDataFile files (directory ++ "/ul_data_t_" ++ tag)
  let st ← ulSlotLoop cfg fileF fileT i ulSlots.length (d, 0, 0)
  pure st.1

/-- {lit}`Config::loadULData`: with uplink data present, one empty buffer per
client antenna in each domain, then the client loop. -/
def loadULData (files : String → Option (List CFloat)) (directory : String) (cfg : Config) :
    Except Failure UplinkData :=
  if cfg.ulDataSymPresent then
    (List.range cfg.numClSdrs).foldlM (ulClientStep files directory cfg)
      { UplinkData.empty with
        txdataFreqDom := List.replicate cfg.numClAntennas []
        txdataTimeDom := List.replicate cfg.numClAntennas [] }
  else .ok UplinkData.empty

/-! ## What the loops append -/

/-- One channel step appends one block read at the current offsets to its
antenna in each domain. -/
theorem ulChannelStep_appends (cfg : Config) (fileF fileT : List CFloat) (i h : Nat)
    (st : UplinkData × Nat × Nat) (hF : i * cfg.clSdrCh + h < st.1.txdataFreqDom.length)
    (hT : i * cfg.clSdrCh + h < st.1.txdataTimeDom.length) :
    ∃ st', ulChannelStep cfg fileF fileT i st h = .ok st' ∧
      Appends st.1 st'.1
        (fun a => if a = i * cfg.clSdrCh + h then
          (freadBlock fileF st.2.1 (cfg.fftSize * cfg.symbolPerSubframe)).1 else [])
        (fun a => if a = i * cfg.clSdrCh + h then
          (freadBlock fileT st.2.2 cfg.sampsPerSymbol).1 else []) [] [] ∧
      st'.2 = ((freadBlock fileF st.2.1 (cfg.fftSize * cfg.symbolPerSubframe)).2,
        (freadBlock fileT st.2.2 cfg.sampsPerSymbol).2) := by
  obtain ⟨xF, hxF, hlF, hgF⟩ :=
    appendAt_getD (freadBlock fileF st.2.1 (cfg.fftSize * cfg.symbolPerSubframe)).1 hF
  obtain ⟨xT, hxT, hlT, hgT⟩ := appendAt_getD (freadBlock fileT st.2.2 cfg.sampsPerSymbol).1 hT
  simp only [ulChannelStep, hxF, hxT, bind, Except.bind, pure, Except.pure]
  exact ⟨_, rfl, ⟨hlF, hlT, hgF, hgT, by simp, by simp⟩, rfl⟩

/-- The channel loop of client {lean}`i` over its first {lean}`k` channels, from
the offsets after {lean}`b` blocks of each file, appends blocks
{lit}`b .. b + k - 1` to the client's first {lean}`k` antennas. -/
theorem ulChannelLoop_appends (cfg : Config) (fileF fileT : List CFloat) (i b : Nat)
    (st : UplinkData × Nat × Nat) (hF : (i + 1) * cfg.clSdrCh ≤ st.1.txdataFreqDom.length)
    (hT : (i + 1) * cfg.clSdrCh ≤ st.1.txdataTimeDom.length)
    (hpos : st.2 = (min (b * (cfg.fftSize * cfg.symbolPerSubframe)) fileF.length,
      min (b * cfg.sampsPerSymbol) fileT.length)) :
    ∀ k ≤ cfg.clSdrCh, ∃ st', (List.range k).foldlM (ulChannelStep cfg fileF fileT i) st = .ok st' ∧
      Appends st.1 st'.1
        (fun a => if i * cfg.clSdrCh ≤ a ∧ a < i * cfg.clSdrCh + k then
          dataBlock fileF (cfg.fftSize * cfg.symbolPerSubframe) (b + (a - i * cfg.clSdrCh)) else [])
        (fun a => if i * cfg.clSdrCh ≤ a ∧ a < i * cfg.clSdrCh + k then
          dataBlock fileT cfg.sampsPerSymbol (b + (a - i * cfg.clSdrCh)) else []) [] [] ∧
      st'.2 = (min ((b + k) * (cfg.fftSize * cfg.symbolPerSubframe)) fileF.length,
        min ((b + k) * cfg.sampsPerSymbol) fileT.length) := by
  rw [Nat.succ_mul] at hF hT
  intro k
  induction k with
  | zero => exact fun _ => ⟨st, rfl, Appends.of_nil st.1 (fun a => if_neg (by omega))
      (fun a => if_neg (by omega)), hpos⟩
  | succ k ih =>
    intro hk
    obtain ⟨st₁, h₁, e₁, p₁⟩ := ih (by omega)
    obtain ⟨st₂, h₂, e₂, p₂⟩ := ulChannelStep_appends cfg fileF fileT i k st₁
      (by rw [e₁.length_freq]; omega) (by rw [e₁.length_time]; omega)
    rw [p₁, freadBlock_min, freadBlock_min] at e₂ p₂
    refine ⟨st₂, ?_, e₁.trans e₂ (fun a => ?_) (fun a => ?_), by rw [p₂, Nat.add_assoc]⟩
    · rw [List.range_succ, List.foldlM_append, h₁]
      simpa using h₂
    · exact ite_block_succ _ k a fun j => dataBlock fileF _ (b + j)
    · exact ite_block_succ _ k a fun j => dataBlock fileT _ (b + j)

/-- The slot loop of client {lean}`i` over {lean}`u` slots, from the start of
both files, appends to channel {lit}`h`'s antenna the blocks
{lit}`slotBlocks .. h u`, and leaves the offsets after {lit}`u·cl_sdr_ch_`
blocks. -/
theorem ulSlotLoop_appends (cfg : Config) (fileF fileT : List CFloat) (i : Nat) :
    ∀ (u : Nat) (st : UplinkData × Nat × Nat),
      (i + 1) * cfg.clSdrCh ≤ st.1.txdataFreqDom.length →
      (i + 1) * cfg.clSdrCh ≤ st.1.txdataTimeDom.length → st.2 = (0, 0) →
      ∃ st', ulSlotLoop cfg fileF fileT i u st = .ok st' ∧
        Appends st.1 st'.1
          (fun a => if i * cfg.clSdrCh ≤ a ∧ a < i * cfg.clSdrCh + cfg.clSdrCh then
            slotBlocks fileF (cfg.fftSize * cfg.symbolPerSubframe) cfg.clSdrCh
              (a - i * cfg.clSdrCh) u else [])
          (fun a => if i * cfg.clSdrCh ≤ a ∧ a < i * cfg.clSdrCh + cfg.clSdrCh then
            slotBlocks fileT cfg.sampsPerSymbol cfg.clSdrCh (a - i * cfg.clSdrCh) u else []) [] [] ∧
        st'.2 = (min (u * cfg.clSdrCh * (cfg.fftSize * cfg.symbolPerSubframe)) fileF.length,
          min (u * cfg.clSdrCh * cfg.sampsPerSymbol) fileT.length) := by
  intro u
  induction u with
  | zero =>
    exact fun st _ _ hpos => ⟨st, rfl, Appends.of_nil st.1 (fun _ => by simp) (fun _ => by simp),
      by simp [hpos]⟩
  | succ u ih =>
    intro st hF hT hpos
    obtain ⟨st₁, h₁, e₁, p₁⟩ := ih st hF hT hpos
    obtain ⟨st₂, h₂, e₂, p₂⟩ := ulChannelLoop_appends cfg fileF fileT i (u * cfg.clSdrCh) st₁
      (by rw [e₁.length_freq]; exact hF) (by rw [e₁.length_time]; exact hT) p₁ _ le_rfl
    refine ⟨st₂, ?_, e₁.trans e₂ (fun a => ?_) (fun a => ?_), by rw [p₂, Nat.succ_mul]⟩
    · unfold ulSlotLoop at h₁ ⊢
      rw [List.range_succ, List.foldlM_append, h₁]
      simpa using h₂
    all_goals
      split_ifs
      · rw [slotBlocks_succ]
      · rfl

/-- The name tag of client {lean}`i`'s data files. -/
def ulFileTag (cfg : Config) (i : Nat) : String :=
  cfg.ulDataTag (cfg.clUlSymbols.getD i []).length i

/-- The samples of client {lean}`i`'s data file with path prefix {lean}`pre`
({lit}`"/ul_data_f_"` or {lit}`"/ul_data_t_"`); empty when it is missing. -/
def ulDataFile (files : String → Option (List CFloat)) (directory pre : String) (cfg : Config)
    (i : Nat) : List CFloat :=
  (files (directory ++ pre ++ cfg.ulFileTag i)).getD []

/-- What client antenna {lean}`a` holds after the load: channel
{lit}`a % cl_sdr_ch_`'s blocks of its client's file over the client's uplink
slots. -/
def ulAntennaData (files : String → Option (List CFloat)) (directory pre : String)
    (cfg : Config) (n a : Nat) : List CFloat :=
  slotBlocks (ulDataFile files directory pre cfg (a / cfg.clSdrCh)) n cfg.clSdrCh
    (a % cfg.clSdrCh) (cfg.clUlSymbols.getD (a / cfg.clSdrCh) []).length

/-- Both data files of client {lean}`i` are present. -/
def ulFilesPresent (files : String → Option (List CFloat)) (directory : String) (cfg : Config)
    (i : Nat) : Prop :=
  (files (directory ++ "/ul_data_f_" ++ cfg.ulFileTag i)).isSome ∧
    (files (directory ++ "/ul_data_t_" ++ cfg.ulFileTag i)).isSome

private theorem ite_client_succ (ch k a : Nat) (X Y : Nat → List CFloat)
    (hY : k * ch ≤ a → a < k * ch + ch → X a = Y (a - k * ch)) :
    (if a < (k + 1) * ch then X a else []) =
      (if a < k * ch then X a else []) ++
        if k * ch ≤ a ∧ a < k * ch + ch then Y (a - k * ch) else [] := by
  rw [Nat.succ_mul]
  by_cases h₁ : a < k * ch
  · simp [h₁, show a < k * ch + ch by omega, show ¬ k * ch ≤ a by omega]
  · by_cases h₂ : a < k * ch + ch
    · simp [h₁, h₂, hY (by omega) h₂, show k * ch ≤ a by omega]
    · simp [h₁, h₂]

/-- The client loop over the first {lean}`k` clients, their files present,
appends to every antenna of those clients its blocks, and the names of their
files to the file lists. -/
theorem ulClientLoop_appends (files : String → Option (List CFloat)) (directory : String)
    (cfg : Config) (d : UplinkData)
    (hF : cfg.numClSdrs * cfg.clSdrCh ≤ d.txdataFreqDom.length)
    (hT : cfg.numClSdrs * cfg.clSdrCh ≤ d.txdataTimeDom.length)
    (hul : cfg.numClSdrs ≤ cfg.clUlSymbols.length) :
    ∀ k ≤ cfg.numClSdrs, (∀ i < k, ulFilesPresent files directory cfg i) →
      ∃ d', (List.range k).foldlM (ulClientStep files directory cfg) d = .ok d' ∧
        Appends d d'
          (fun a => if a < k * cfg.clSdrCh then ulAntennaData files directory "/ul_data_f_" cfg
            (cfg.fftSize * cfg.symbolPerSubframe) a else [])
          (fun a => if a < k * cfg.clSdrCh then ulAntennaData files directory "/ul_data_t_" cfg
            cfg.sampsPerSymbol a else [])
          ((List.range k).map fun i => "ul_data_f_" ++ cfg.ulFileTag i)
          ((List.range k).map fun i => directory ++ "/ul_data_t_" ++ cfg.ulFileTag i) := by
  intro k
  induction k with
  | zero =>
    exact fun _ _ => ⟨d, rfl, Appends.of_nil d (fun a => if_neg (by omega))
      (fun a => if_neg (by omega))⟩
  | succ k ih =>
    intro hk hfiles
    obtain ⟨d₁, h₁, e₁⟩ := ih (by omega) fun i hi => hfiles i (by omega)
    have hkc : (k + 1) * cfg.clSdrCh ≤ cfg.numClSdrs * cfg.clSdrCh := Nat.mul_le_mul_right _ hk
    obtain ⟨ulSlots, hslots⟩ : ∃ s, cfg.clUlSymbols[k]? = some s :=
      ⟨_, List.getElem?_eq_getElem (by omega)⟩
    have htag : cfg.ulDataTag ulSlots.length k = cfg.ulFileTag k := by
      rw [ulFileTag, List.getD_eq_getElem?_getD, hslots, Option.getD_some]
    obtain ⟨fileF, hfF⟩ := Option.isSome_iff_exists.mp (hfiles k (by omega)).1
    obtain ⟨fileT, hfT⟩ := Option.isSome_iff_exists.mp (hfiles k (by omega)).2
    obtain ⟨st, hst, e₂, -⟩ := ulSlotLoop_appends cfg fileF fileT k ulSlots.length
      ({ d₁ with
          txFdDataFiles := d₁.txFdDataFiles ++ ["ul_data_f_" ++ cfg.ulFileTag k]
          txTdDataFiles := d₁.txTdDataFiles ++ [directory ++ "/ul_data_t_" ++ cfg.ulFileTag k] },
        0, 0)
      (by dsimp only; rw [e₁.length_freq]; omega) (by dsimp only; rw [e₁.length_time]; omega) rfl
    have hdata : ∀ pre file, files (directory ++ pre ++ cfg.ulFileTag k) = some file →
        ∀ n a, k * cfg.clSdrCh ≤ a → a < k * cfg.clSdrCh + cfg.clSdrCh →
        ulAntennaData files directory pre cfg n a =
          slotBlocks file n cfg.clSdrCh (a - k * cfg.clSdrCh) ulSlots.length := by
      intro pre file hfile n a ha₁ ha₂
      have hdiv : a / cfg.clSdrCh = k := Nat.div_eq_of_lt_le ha₁ (by rw [Nat.succ_mul]; exact ha₂)
      have hmod : a % cfg.clSdrCh = a - k * cfg.clSdrCh := by
        have := Nat.div_add_mod a cfg.clSdrCh
        rw [hdiv, Nat.mul_comm] at this
        omega
      rw [ulAntennaData, ulDataFile, hdiv, hfile, Option.getD_some, hmod,
        List.getD_eq_getElem?_getD, hslots, Option.getD_some]
    rw [List.range_succ, List.map_append, List.map_append, List.map_singleton, List.map_singleton,
      List.foldlM_append, h₁]
    refine ⟨st.1, ?_, e₁.trans ⟨e₂.length_freq, e₂.length_time, e₂.freq_getD, e₂.time_getD,
      by rw [e₂.fdFiles, List.append_nil], by rw [e₂.tdFiles, List.append_nil]⟩
      (fun a => ite_client_succ _ k a _
        (fun j => slotBlocks fileF _ cfg.clSdrCh j ulSlots.length) (hdata _ _ hfF _ a))
      (fun a => ite_client_succ _ k a _
        (fun j => slotBlocks fileT _ cfg.clSdrCh j ulSlots.length) (hdata _ _ hfT _ a))⟩
    simp only [List.foldlM_cons, List.foldlM_nil, ulClientStep, uncheckedAt, hslots, htag,
      openDataFile, hfF, hfT, hst, bind, Except.bind, pure, Except.pure]

/-! ## The load -/

/-- The uplink data a load leaves when the files of every client are present:
antenna {lit}`i·cl_sdr_ch_ + h` holds channel {lit}`h`'s blocks of client
{lit}`i`'s files over its uplink slots, and the file lists name the clients'
files in client order. -/
def ulData (files : String → Option (List CFloat)) (directory : String) (cfg : Config) :
    UplinkData where
  txdataFreqDom := (List.range cfg.numClAntennas).map
    (ulAntennaData files directory "/ul_data_f_" cfg (cfg.fftSize * cfg.symbolPerSubframe))
  txdataTimeDom := (List.range cfg.numClAntennas).map
    (ulAntennaData files directory "/ul_data_t_" cfg cfg.sampsPerSymbol)
  txFdDataFiles := (List.range cfg.numClSdrs).map fun i => "ul_data_f_" ++ cfg.ulFileTag i
  txTdDataFiles := (List.range cfg.numClSdrs).map fun i =>
    directory ++ "/ul_data_t_" ++ cfg.ulFileTag i

private theorem eq_map_range_of_getD {xs : List (List CFloat)} {n : Nat}
    {f : Nat → List CFloat} (hl : xs.length = n) (h : ∀ a < n, xs.getD a [] = f a) :
    xs = (List.range n).map f := by
  subst hl
  apply List.ext_getElem (by simp)
  intro a h₁ _
  rw [List.getElem_map, List.getElem_range, ← h a h₁, List.getD_eq_getElem _ _ h₁]

/-- The buffers before the client loop: one empty buffer per client antenna in
each domain. -/
def ulBuffers (cfg : Config) : UplinkData :=
  { UplinkData.empty with
    txdataFreqDom := List.replicate cfg.numClAntennas []
    txdataTimeDom := List.replicate cfg.numClAntennas [] }

/-- When the client tables cover every client SDR, each client SDR has
{lit}`cl_sdr_ch_` antennas and the two data files of every client are present,
the load returns {lean}`ulData`. -/
theorem loadULData_eq_ulData (files : String → Option (List CFloat)) (directory : String)
    {cfg : Config} (hpresent : cfg.ulDataSymPresent = true)
    (hul : cfg.numClSdrs ≤ cfg.clUlSymbols.length)
    (hant : cfg.numClAntennas = cfg.numClSdrs * cfg.clSdrCh)
    (hfiles : ∀ i < cfg.numClSdrs, ulFilesPresent files directory cfg i) :
    cfg.loadULData files directory = .ok (ulData files directory cfg) := by
  obtain ⟨⟨F, T, fd, td⟩, hd, e⟩ := ulClientLoop_appends files directory cfg (ulBuffers cfg)
    (by simp [ulBuffers, hant]) (by simp [ulBuffers, hant]) hul _ le_rfl hfiles
  rw [loadULData, if_pos hpresent]
  refine hd.trans (congrArg Except.ok ?_)
  simp only [ulData, UplinkData.mk.injEq]
  refine ⟨eq_map_range_of_getD (by simpa [ulBuffers] using e.length_freq) fun a ha => ?_,
    eq_map_range_of_getD (by simpa [ulBuffers] using e.length_time) fun a ha => ?_,
    by simpa [ulBuffers, UplinkData.empty] using e.fdFiles,
    by simpa [ulBuffers, UplinkData.empty] using e.tdFiles⟩
  · simpa [ulBuffers, ← hant, ha] using e.freq_getD a
  · simpa [ulBuffers, ← hant, ha] using e.time_getD a

/-- When the files of the clients before client {lean}`k` are present but not
both of client {lean}`k`'s, the load throws {lit}`std::runtime_error` naming
client {lean}`k`'s frequency-domain file if it is missing, its time-domain file
otherwise. -/
theorem loadULData_missing_file (files : String → Option (List CFloat)) (directory : String)
    {cfg : Config} (hpresent : cfg.ulDataSymPresent = true)
    (hul : cfg.numClSdrs ≤ cfg.clUlSymbols.length)
    (hant : cfg.numClAntennas = cfg.numClSdrs * cfg.clSdrCh) {k : Nat} (hk : k < cfg.numClSdrs)
    (hbefore : ∀ i < k, ulFilesPresent files directory cfg i)
    (hmiss : ¬ ulFilesPresent files directory cfg k) :
    cfg.loadULData files directory = .error (.runtimeError
      ((if (files (directory ++ "/ul_data_f_" ++ cfg.ulFileTag k)).isSome
        then directory ++ "/ul_data_t_" ++ cfg.ulFileTag k
        else directory ++ "/ul_data_f_" ++ cfg.ulFileTag k) ++ " not found!")) := by
  obtain ⟨d, hd, -⟩ := ulClientLoop_appends files directory cfg (ulBuffers cfg)
    (by simp [ulBuffers, hant]) (by simp [ulBuffers, hant]) hul k hk.le hbefore
  obtain ⟨ulSlots, hslots⟩ : ∃ s, cfg.clUlSymbols[k]? = some s :=
    ⟨_, List.getElem?_eq_getElem (by omega)⟩
  have htag : cfg.ulDataTag ulSlots.length k = cfg.ulFileTag k := by
    rw [ulFileTag, List.getD_eq_getElem?_getD, hslots, Option.getD_some]
  have hstep : ulClientStep files directory cfg d k = .error (.runtimeError
      ((if (files (directory ++ "/ul_data_f_" ++ cfg.ulFileTag k)).isSome
        then directory ++ "/ul_data_t_" ++ cfg.ulFileTag k
        else directory ++ "/ul_data_f_" ++ cfg.ulFileTag k) ++ " not found!")) := by
    unfold ulFilesPresent at hmiss
    simp only [ulClientStep, uncheckedAt, hslots, htag, openDataFile, bind, Except.bind]
    cases hF : files (directory ++ "/ul_data_f_" ++ cfg.ulFileTag k) with
    | none => rfl
    | some fileF =>
      cases hT : files (directory ++ "/ul_data_t_" ++ cfg.ulFileTag k) with
      | none => rfl
      | some fileT => simp [hF, hT] at hmiss
  rw [loadULData, if_pos hpresent, ← Nat.add_sub_cancel' (Nat.succ_le_of_lt hk), List.range_add,
    List.foldlM_append, List.range_succ, List.foldlM_append]
  change ((List.range k).foldlM (ulClientStep files directory cfg) (ulBuffers cfg) >>= _) >>= _ = _
  rw [hd]
  simp only [bind, Except.bind, List.foldlM_cons, List.foldlM_nil, hstep]

/-- When some client SDR is counted and the client uplink table is empty, the
first iteration of the client loop reads past the end of the table, whatever
the files hold. -/
theorem loadULData_eq_undefined {cfg : Config} (hpresent : cfg.ulDataSymPresent = true)
    (hpos : 0 < cfg.numClSdrs) (hul : cfg.clUlSymbols = [])
    (files : String → Option (List CFloat)) (directory : String) :
    cfg.loadULData files directory = .error .undefined := by
  obtain ⟨n, hn⟩ := Nat.exists_eq_succ_of_ne_zero (Nat.pos_iff_ne_zero.mp hpos)
  rw [loadULData, if_pos hpresent, hn, List.range_succ_eq_map, List.foldlM_cons]
  simp [ulClientStep, uncheckedAt, hul, bind, Except.bind]

/-! ## Accepted configurations -/

/-- The client tables cover every client SDR, and each client SDR has
{lit}`cl_sdr_ch_` antennas. -/
structure ClientTables (cfg : Config) : Prop where
  numClSdrs_eq : cfg.numClSdrs = cfg.clUlSymbols.length
  numClAntennas_eq : cfg.numClAntennas = cfg.numClSdrs * cfg.clSdrCh

/-- The client stage fills the client tables from one frame per client SDR. -/
theorem readClients_clientTables {cl : ClConf} {cfg cfg' : Config}
    (h : readClients cl cfg = .ok cfg') : ClientTables cfg' := by
  simp only [readClients, bind_eq_ok] at h
  obtain ⟨_, -, _, -, _, -, _, -, _, ha, hfin⟩ := h
  have hlen := assertThat_eq_ok.mp ha
  split at hfin
  · cases hfin
    exact ⟨by simp [hlen], rfl⟩
  · simp only [bind_eq_ok, pure, Except.pure, Except.ok.injEq] at hfin
    obtain ⟨_, -, rfl⟩ := hfin
    exact ⟨by simp [readPhy, hlen], rfl⟩

/-- An accepted configuration with a client object has client tables covering
every client SDR: the client stage runs last among the stages that write
them. -/
theorem new_clientTables {env : Platform} {input : ConfInput} {numCores : Nat} {cfg : Config}
    (h : Config.new env input numCores = .ok cfg) (hc : cfg.clientPresent = true) :
    ClientTables cfg := by
  obtain ⟨c₁, c₂, c₃, h₁, h₂, h₃, rfl⟩ := new_eq_ok.mp h
  obtain ⟨_, -, rfl⟩ := setBeacon_eq_ok.mp h₂
  obtain ⟨_, -, rfl⟩ := setPilot_eq_ok.mp h₃
  obtain ⟨b₁, b₂, hb, -, hcl, hu⟩ := readConf_eq_ok.mp h₁
  obtain ⟨_, rfl⟩ := setUlDataSymPresent_eq_ok hu
  have hc₂ : b₂.clientPresent = true := hc
  unfold withClients at hcl
  split at hcl
  · exact (fun t : ClientTables b₂ => ⟨t.1, t.2⟩) (readClients_clientTables hcl)
  · -- without a client object the flag is the one the base-station stage kept
    rename_i hnone
    cases hcl
    have hc₁ : b₁.clientPresent = (initial input).clientPresent := by
      unfold withBaseStation at hb
      split at hb
      · exact (readBaseStation_eq_ok hb).2.1
      · cases hb
        rfl
    simp [hc₁, initial, hnone] at hc₂

/-- On every accepted configuration with a client object and uplink data, a
load in which both data files of every client are present returns exactly
{lean}`ulData`: each client antenna holds its channel's blocks of its client's
files, slot after slot, zero-filled past the end of a file. -/
theorem new_loadULData_eq (files : String → Option (List CFloat)) (directory : String)
    {env : Platform} {input : ConfInput} {numCores : Nat} {cfg : Config}
    (h : Config.new env input numCores = .ok cfg) (hc : cfg.clientPresent = true)
    (hpresent : cfg.ulDataSymPresent = true)
    (hfiles : ∀ i < cfg.numClSdrs, ulFilesPresent files directory cfg i) :
    cfg.loadULData files directory = .ok (ulData files directory cfg) :=
  have ht := new_clientTables h hc
  loadULData_eq_ulData files directory hpresent ht.numClSdrs_eq.le ht.numClAntennas_eq hfiles

/-- On every accepted configuration with a client object and uplink data, the
first client whose data files are not both present makes the load throw
{lit}`std::runtime_error` naming the first of its files that is missing. -/
theorem new_loadULData_missing_file (files : String → Option (List CFloat)) (directory : String)
    {env : Platform} {input : ConfInput} {numCores : Nat} {cfg : Config}
    (h : Config.new env input numCores = .ok cfg) (hc : cfg.clientPresent = true)
    (hpresent : cfg.ulDataSymPresent = true) {k : Nat} (hk : k < cfg.numClSdrs)
    (hbefore : ∀ i < k, ulFilesPresent files directory cfg i)
    (hmiss : ¬ ulFilesPresent files directory cfg k) :
    cfg.loadULData files directory = .error (.runtimeError
      ((if (files (directory ++ "/ul_data_f_" ++ cfg.ulFileTag k)).isSome
        then directory ++ "/ul_data_t_" ++ cfg.ulFileTag k
        else directory ++ "/ul_data_f_" ++ cfg.ulFileTag k) ++ " not found!")) :=
  have ht := new_clientTables h hc
  loadULData_missing_file files directory hpresent ht.numClSdrs_eq.le ht.numClAntennas_eq hk
    hbefore hmiss

/-- One client SDR on both channels with two uplink slots, without a base
station. -/
def clientUplinkInput : ConfInput where
  clients := some
    { phy := { fftSize := some 64, cpSize := some 16, ofdmSymbolPerSubframe := some 7 }
      sdrId := ["C1"]
      channel := some "AB"
      frameSchedule := ["PGUU"] }

/-- The two-channel client document is accepted on every platform, with uplink
data. -/
theorem clientUplinkInput_accepted (env : Platform) (numCores : Nat) (hins : env.InsertCompletes) :
    ∃ cfg, Config.new env clientUplinkInput numCores = .ok cfg ∧ cfg.clientPresent = true ∧
      cfg.ulDataSymPresent = true ∧ cfg.numClSdrs = 1 ∧ cfg.numClAntennas = 2 := by
  have hr := @eq_ok_of_isSome _ _ (readConf clientUplinkInput) (by decide)
  obtain ⟨p, hp⟩ := @composePilot_lts_isOk env 64 16 7 0 0 64 "lts" rfl (by decide) hins
  exact ⟨_, new_eq_of_readConf hr (by decide) hp, rfl, rfl, rfl, rfl⟩

theorem clientUplinkInput_loadULData :
    ∃ cfg, Config.new Platform.sample clientUplinkInput 8 = .ok cfg ∧
      cfg.clientPresent = true ∧ cfg.ulDataSymPresent = true ∧
      (∀ i < cfg.numClSdrs, ulFilesPresent (fun _ => some []) "data" cfg i) ∧
      cfg.loadULData (fun _ => some []) "data" = .ok (ulData (fun _ => some []) "data" cfg) :=
  let ⟨cfg, h, hc, hp, _⟩ := clientUplinkInput_accepted Platform.sample 8 Platform.sample_insertCompletes
  have hf : ∀ i < cfg.numClSdrs, ulFilesPresent (fun _ => some []) "data" cfg i :=
    fun _ _ => ⟨rfl, rfl⟩
  ⟨cfg, h, hc, hp, hf, new_loadULData_eq _ _ h hc hp hf⟩

theorem clientUplinkInput_missing_file :
    ∃ cfg, Config.new Platform.sample clientUplinkInput 8 = .ok cfg ∧
      cfg.clientPresent = true ∧ cfg.ulDataSymPresent = true ∧ 0 < cfg.numClSdrs ∧
      ¬ ulFilesPresent (fun _ => none) "data" cfg 0 ∧
      cfg.loadULData (fun _ => none) "data" =
        .error (.runtimeError ("data" ++ "/ul_data_f_" ++ cfg.ulFileTag 0 ++ " not found!")) :=
  let ⟨cfg, h, hc, hp, hn, _⟩ := clientUplinkInput_accepted Platform.sample 8 Platform.sample_insertCompletes
  have hm : ¬ ulFilesPresent (fun _ => none) "data" cfg 0 := fun h => by cases h.1
  ⟨cfg, h, hc, hp, by omega, hm,
    new_loadULData_missing_file _ _ h hc hp (by omega) (fun _ h => absurd h (Nat.not_lt_zero _)) hm⟩

/-- A base station without a client object, whose first frame has a pilot and
an uplink slot, is accepted with uplink data, one client SDR counted from the
pilot and an empty client uplink table; loading its uplink data reads that
table at index {lit}`0`, whatever the files hold. -/
theorem loadULData_fft128 :
    ∃ cfg, Config.new Platform.sample fft128Input 8 = .ok cfg ∧ cfg.ulDataSymPresent = true ∧
      cfg.numClSdrs = 1 ∧ cfg.clUlSymbols = [] ∧
      ∀ files directory, cfg.loadULData files directory = .error .undefined := by
  have hr := @eq_ok_of_isSome _ _ (readConf fft128Input) (by decide)
  obtain ⟨p, hp⟩ := @composePilot_isOk Platform.sample 128 0 4 0 0 128 "lts" (by decide)
    Platform.sample_insertCompletes
  exact ⟨_, new_eq_of_readConf hr (by decide) hp, rfl, rfl, rfl,
    loadULData_eq_undefined rfl Nat.one_pos rfl⟩

end Config
end Sounder
