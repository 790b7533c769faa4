import Sounder.Config.Schedule

/-!
# Sounder - Reciprocal-calibration schedules

In reciprocal-calibration mode the constructor does not read frame schedules: it
writes one frame per SDR of each cell.  The reference SDR sends one pilot and
receives ({lit}`'R'`) in the slots where every other SDR sends its pilots; every
other SDR sends one pilot per channel and receives in the reference's pilot
slot.  The frames are written with {lit}`std::string::replace(pos, 1, "P")` on
strings of guard slots of length {lit}`c·N - (c - 1)`.

Main results:

- Theorem {lit}`replaceAt_length`: one replacement keeps the length, except at
  {lit}`pos = size()`, where {lit}`replace` appends.
- Theorem {lit}`calibFramesOfCell_eq`: for every cell and every reference
  inside it, the generator returns the frames {lean}`calibFrame` gives slot by
  slot: slot {lit}`t` belongs to SDR {lit}`t / c`, and the last SDR's frame, and
  the reference frame when the reference is not last, run to {lit}`c·N` slots.
- Theorem {lit}`calibFramesOfCell_eq_calibPlan`: with one channel, or with the
  reference last, the frames are the reciprocity plan {lean}`calibPlan`.
- Theorem {lit}`calibFramesOfCell_ref_not_last`: with two or more channels and
  the reference before the last SDR, two frames are longer than the others and
  the slots after the reference's pilot slot are guard slots in every frame.
- Theorem {lit}`calibFramesOfCell_two_channels_ref_one`: with two channels,
  three SDRs and reference {lit}`1`, the generator writes frames of lengths
  {lit}`5`, {lit}`6` and {lit}`6`, and slot {lit}`3` carries no pilot in any
  frame.
-/

namespace Sounder

/-! ## Frames given slot by slot

The generator's frames are described as {lit}`(List.range n).map letter`: a
length and the letter of every slot. -/

section Tabulated

variable {α : Type}

theorem map_range_congr {n m : Nat} {f g : Nat → α} (hn : n = m) (h : ∀ t < n, f t = g t) :
    (List.range n).map f = (List.range m).map g := by
  subst hn
  exact List.map_congr_left fun t ht => h t (List.mem_range.mp ht)

/-- Writing one entry of a list given entry by entry. -/
theorem set_map_range (g : Nat → α) (n p : Nat) (x : α) :
    ((List.range n).map g).set p x = (List.range n).map fun t => if t = p then x else g t := by
  apply List.ext_getElem (by simp)
  intro t _ _
  simp only [List.getElem_set, List.getElem_map, List.getElem_range, eq_comm]

theorem getD_map_range (g : Nat → α) {n p : Nat} (hp : p < n) (d : α) :
    ((List.range n).map g).getD p d = g p := by
  simp [List.getD_eq_getElem?_getD, hp]

theorem replicate_eq_map_range (n : Nat) (a : α) :
    List.replicate n a = (List.range n).map fun _ => a := by
  rw [List.map_const', List.length_range]

end Tabulated

/-- Slot {lean}`t` of a frame with {lean}`c` slots per SDR belongs to SDR
{lean}`i` exactly when it is one of SDR {lean}`i`'s {lean}`c` slots. -/
theorem div_eq_iff_slot {c : Nat} (hc : 0 < c) {t i : Nat} :
    t / c = i ↔ i * c ≤ t ∧ t < i * c + c := by
  constructor
  · rintro rfl
    exact ⟨Nat.div_mul_le_self t c, Nat.lt_div_mul_add hc⟩
  · rintro ⟨h₁, h₂⟩
    exact Nat.div_eq_of_lt_le h₁ (by rw [Nat.succ_mul]; exact h₂)

/-! ## One replacement -/

/-- {lit}`std::string::replace(pos, 1, str)` with a one-letter {lean}`c`: the
letter at {lean}`pos` is overwritten; at {lean}`pos` equal to the size nothing is
removed and the letter is appended; past the end {lit}`std::out_of_range` is
thrown. -/
def replaceAt (s : Frame) (pos : Nat) (c : Char) : Except Failure Frame :=
  if pos < s.length then .ok (s.set pos c)
  else if pos = s.length then .ok (s ++ [c])
  else .error .outOfRange

/-- A replacement inside the string keeps its length; one at the end grows it by
one letter. -/
theorem replaceAt_length {s t : Frame} {pos : Nat} {c : Char}
    (h : replaceAt s pos c = .ok t) :
    t.length = if pos < s.length then s.length else s.length + 1 := by
  unfold replaceAt at h
  split at h
  · cases h
    simp [*]
  · split at h
    · cases h
      simp [*]
    · cases h

/-- A replacement inside a frame given slot by slot, or at its end, writes the
slot, and at the end appends it. -/
theorem replaceAt_map_range (g : Nat → Char) {n p : Nat} (hp : p ≤ n) (x : Char) :
    replaceAt ((List.range n).map g) p x =
      .ok ((List.range (max n (p + 1))).map fun t => if t = p then x else g t) := by
  unfold replaceAt
  rcases Nat.lt_or_eq_of_le hp with hlt | rfl
  · simp only [List.length_map, List.length_range, hlt, if_true, set_map_range,
      Nat.max_eq_left hlt]
  · simp only [List.length_map, List.length_range, lt_irrefl, if_false, if_true,
      Nat.max_eq_right (Nat.le_succ p), List.range_succ, List.map_append, List.map_singleton]
    congr 2
    exact map_range_congr rfl fun t ht => by simp [Nat.ne_of_lt ht]

/-! ## The generator -/

/-- The inner loop over channels for SDR {lean}`i`: its own frame gets a pilot
at {lit}`i·c + ch`, and the reference frame a receive slot at {lit}`c·i + ch`. -/
def calibChannelStep (numChannels i : Nat) (frames : Frame × Frame) (ch : Nat) :
    Except Failure (Frame × Frame) := do
  let own ← replaceAt frames.1 (i * numChannels + ch) 'P'
  let reference ← replaceAt frames.2 (numChannels * i + ch) 'R'
  pure (own, reference)

/-- One iteration of the loop over the cell's SDRs: a non-reference SDR gets a
fresh guard frame with its pilots and a receive slot at the reference's pilot,
and the reference frame receives in that SDR's pilot slots. -/
def calibSdrStep (numChannels calRefSdrId frameLength : Nat) (frames : List Frame)
    (i : Nat) : Except Failure (List Frame) :=
  if i = calRefSdrId then pure frames
  else do
    let (own, reference) ← (List.range numChannels).foldlM (calibChannelStep numChannels i)
      (List.replicate frameLength 'G', frames.getD calRefSdrId [])
    let own ← replaceAt own (numChannels * calRefSdrId) 'R'
    pure ((frames.set i own).set calRefSdrId reference)

/-- The frames of one cell with {lean}`nSdrs` SDRs, {lean}`numChannels` channels
per SDR and reference {lean}`calRefSdrId`.  The reference frame is written
through {lit}`operator[]`, so a reference index past the cell is undefined
behaviour. -/
def calibFramesOfCell (numChannels nSdrs calRefSdrId : Nat) :
    Except Failure (List Frame) := do
  if nSdrs ≤ calRefSdrId then throw .undefined
  let frameLength := numChannels * nSdrs - (numChannels - 1)
  let reference ← replaceAt (List.replicate frameLength 'G') (numChannels * calRefSdrId) 'P'
  let frames := (List.replicate nSdrs []).set calRefSdrId reference
  (List.range nSdrs).foldlM (calibSdrStep numChannels calRefSdrId frameLength) frames

/-- A reference index past the cell is undefined behaviour. -/
theorem calibFramesOfCell_of_le {numChannels nSdrs calRefSdrId : Nat}
    (h : nSdrs ≤ calRefSdrId) : calibFramesOfCell numChannels nSdrs calRefSdrId = .error .undefined := by
  simp [calibFramesOfCell, h, throw, throwThe, MonadExceptOf.throw, bind, Except.bind]

/-- With two channels and the reference before the last SDR, the last SDR's
second pilot lands at {lit}`pos = size()`: {lit}`replace` appends it to that
SDR's frame and a receive slot to the reference frame, so the three frames have
lengths {lit}`5`, {lit}`6`, {lit}`6`, and slot {lit}`2·r + 1 = 3` has no pilot. -/
theorem calibFramesOfCell_two_channels_ref_one :
    calibFramesOfCell 2 3 1 = .ok ["PPRGG".toList, "RRPGRR".toList, "GGRGPP".toList] ∧
      ["PPRGG".toList, "RRPGRR".toList, "GGRGPP".toList].map List.length = [5, 6, 6] ∧
      ["PPRGG".toList, "RRPGRR".toList, "GGRGPP".toList].all (fun f => f[3]? ≠ some 'P') :=
  ⟨rfl, rfl, by decide⟩

/-! ## What the generator writes -/

/-- The frame the generator writes for SDR {lean}`i`, slot by slot.  Slot
{lit}`t` belongs to SDR {lit}`t / c`.  A non-reference SDR sends its pilots in
its own slots and receives in the reference's pilot slot {lit}`c·r`; the
reference sends in {lit}`c·r`, receives in every slot of the other SDRs, and
leaves its own other slots guard slots.  The frames have {lit}`c·N - (c - 1)`
slots, except that the last SDR's pilots, and the reference's receive slots for
them, run to {lit}`c·N`. -/
def calibFrame (numChannels nSdrs calRefSdrId i : Nat) : Frame :=
  let frameLength := numChannels * nSdrs - (numChannels - 1)
  if i = calRefSdrId then
    (List.range (if calRefSdrId + 1 < nSdrs then numChannels * nSdrs else frameLength)).map
      fun t => if t = numChannels * calRefSdrId then 'P'
        else if t / numChannels = calRefSdrId then 'G' else 'R'
  else
    (List.range (if i + 1 < nSdrs then frameLength else numChannels * nSdrs)).map
      fun t => if t / numChannels = i then 'P'
        else if t = numChannels * calRefSdrId then 'R' else 'G'

/-- Every generated frame spans at least the common frame length. -/
theorem calibFrame_length_ge (c N r i : Nat) :
    c * N - (c - 1) ≤ (calibFrame c N r i).length := by
  unfold calibFrame
  split <;> rw [List.length_map, List.length_range] <;> split <;> omega

private theorem ite_slot_succ (a k t : Nat) (x y : Char) :
    (if t = a + k then x else if a ≤ t ∧ t < a + k then x else y) =
      if a ≤ t ∧ t < a + (k + 1) then x else y := by
  split_ifs <;> first | rfl | omega

/-- The loop over the first {lean}`k` channels of SDR {lean}`i`, on frames given
slot by slot that reach SDR {lean}`i`'s first slot: its slots
{lit}`i·c .. i·c + k - 1` become pilots in its own frame and receive slots in
the reference frame, each frame growing to hold them. -/
theorem calibChannelLoop {c i ℓ₁ ℓ₂ : Nat} {g h : Nat → Char} (h₁ : i * c ≤ ℓ₁)
    (h₂ : i * c ≤ ℓ₂) : ∀ k,
    (List.range k).foldlM (calibChannelStep c i) ((List.range ℓ₁).map g, (List.range ℓ₂).map h) =
      .ok ((List.range (max ℓ₁ (i * c + k))).map
            (fun t => if i * c ≤ t ∧ t < i * c + k then 'P' else g t),
           (List.range (max ℓ₂ (i * c + k))).map
            (fun t => if i * c ≤ t ∧ t < i * c + k then 'R' else h t))
  | 0 => by
    simp only [List.range_zero, List.foldlM_nil, Nat.add_zero, Nat.max_eq_left h₁,
      Nat.max_eq_left h₂]
    congr 2 <;> exact map_range_congr rfl fun t _ => (if_neg (by omega)).symm
  | k + 1 => by
    rw [List.range_succ, List.foldlM_append, calibChannelLoop h₁ h₂ k]
    simp only [List.foldlM_cons, List.foldlM_nil, calibChannelStep, Nat.mul_comm c i,
      replaceAt_map_range _ (Nat.le_max_right _ _), bind, Except.bind, pure, Except.pure]
    congr 2 <;> exact map_range_congr (by omega) fun t _ => ite_slot_succ _ _ _ _ _

/-- The frames once the loop over the cell's SDRs has visited SDRs
{lit}`0 .. k - 1`: those SDRs have their frames and the later ones none yet, and
the reference frame receives in the visited SDRs' slots. -/
def calibFramesAfter (c N r k : Nat) : List Frame :=
  (List.range N).map fun j =>
    if j = r then
      (List.range (if N ≤ k ∧ r + 1 < N then c * N else c * N - (c - 1))).map
        fun t => if t = c * r then 'P' else if t / c = r ∨ k ≤ t / c then 'G' else 'R'
    else if j < k then calibFrame c N r j else []

/-- SDR {lean}`k`'s pilots run past the common frame length only when it is
the last SDR. -/
private theorem max_frameLength_slot {c N k : Nat} (hk : k < N) :
    max (c * N - (c - 1)) (k * c + c) = if k + 1 < N then c * N - (c - 1) else c * N := by
  rw [Nat.mul_comm c N]
  split
  · have := Nat.mul_le_mul_right c (show k + 2 ≤ N by omega)
    rw [Nat.add_mul] at this
    omega
  · obtain rfl : N = k + 1 := by omega
    rw [Nat.add_one_mul]
    omega

/-- One iteration of the loop over the cell's SDRs visits one more SDR. -/
theorem calibSdrStep_after {c N r k : Nat} (hc : 0 < c) (hr : r < N) (hk : k < N) :
    calibSdrStep c r (c * N - (c - 1)) (calibFramesAfter c N r k) k =
      .ok (calibFramesAfter c N r (k + 1)) := by
  unfold calibSdrStep
  split
  · -- the reference's own iteration changes nothing
    rename_i hkr
    subst hkr
    refine congrArg Except.ok (map_range_congr rfl fun j _ => ?_)
    by_cases hjk : j = k
    · simp only [hjk, if_true, show ¬(N ≤ k ∧ k + 1 < N) by omega,
        show ¬(N ≤ k + 1 ∧ k + 1 < N) by omega, if_false]
      refine map_range_congr rfl fun t _ => ?_
      simp only [show (t / c = k ∨ k ≤ t / c) ↔ (t / c = k ∨ k + 1 ≤ t / c) by omega]
    · simp only [hjk, if_false, show j < k + 1 ↔ j < k by omega]
  · rename_i hkr
    have hq : ∀ t, t = c * r → t / c ≠ k := fun t h htk =>
      hkr (htk.symm.trans (h ▸ Nat.mul_div_cancel_left r hc))
    have hlen := @max_frameLength_slot c N k hk
    have hkc : k * c + c ≤ c * N := by
      rw [Nat.mul_comm c N, ← Nat.succ_mul]; exact Nat.mul_le_mul_right c hk
    have hrc : c * r + c ≤ c * N := by rw [← Nat.mul_succ]; exact Nat.mul_le_mul_left c hr
    have href : (calibFramesAfter c N r k).getD r [] = (List.range (c * N - (c - 1))).map
        fun t => if t = c * r then 'P' else if t / c = r ∨ k ≤ t / c then 'G' else 'R' := by
      rw [calibFramesAfter, getD_map_range _ hr, if_pos rfl, if_neg (by omega)]
    rw [href, replicate_eq_map_range, calibChannelLoop (by omega) (by omega) c]
    simp only [bind, Except.bind]
    rw [replaceAt_map_range _ (by omega)]
    simp only [pure, Except.pure, calibFramesAfter, set_map_range, ← div_eq_iff_slot hc]
    refine congrArg Except.ok (map_range_congr rfl fun j _ => ?_)
    by_cases hjr : j = r
    · -- the reference frame now receives in SDR k's slots
      simp only [hjr, if_true]
      refine map_range_congr (by rw [hlen]; split_ifs <;> omega) fun t _ => ?_
      by_cases htk : t / c = k
      · simp only [htk, if_true, hkr, Nat.not_succ_le_self, or_self, if_false,
          mt (hq t) (not_not.mpr htk)]
      · simp only [htk, if_false, show k ≤ t / c ↔ k + 1 ≤ t / c by omega]
    · by_cases hjk : j = k
      · -- SDR k's own frame
        simp only [hjr, hjk, if_false, if_true, Nat.lt_add_one, calibFrame, hkr]
        refine map_range_congr (by rw [Nat.max_eq_left (by omega), hlen]) fun t _ => ?_
        by_cases htr : t = c * r
        · simp only [htr, if_true, hq _ rfl, if_false]
        · simp only [htr, if_false]
      · simp only [hjr, hjk, if_false, show j < k + 1 ↔ j < k by omega]

/-- The loop over the first {lean}`k` SDRs of the cell. -/
theorem calibSdrLoop {c N r : Nat} (hc : 0 < c) (hr : r < N) :
    ∀ k ≤ N, (List.range k).foldlM (calibSdrStep c r (c * N - (c - 1)))
      (calibFramesAfter c N r 0) = .ok (calibFramesAfter c N r k)
  | 0, _ => rfl
  | k + 1, hk => by
    rw [List.range_succ, List.foldlM_append, calibSdrLoop hc hr k (Nat.le_of_succ_le hk)]
    simp only [bind, Except.bind, List.foldlM_cons, List.foldlM_nil, calibSdrStep_after hc hr hk]
    rfl

/-- Once every SDR is visited, every frame is the one {lean}`calibFrame` gives. -/
theorem calibFramesAfter_all {c N r : Nat} (hc : 0 < c) :
    calibFramesAfter c N r N = (List.range N).map (calibFrame c N r) := by
  refine map_range_congr rfl fun j hj => ?_
  by_cases hjr : j = r
  · subst hjr
    simp only [calibFrame, if_true, Nat.le_refl, true_and]
    refine map_range_congr rfl fun t ht => ?_
    have : t / c < N := (Nat.div_lt_iff_lt_mul hc).mpr (by
      rw [← Nat.mul_comm c N]; split_ifs at ht <;> omega)
    split_ifs <;> first | rfl | omega
  · simp only [hjr, hj, if_false, if_true]

/-- For every cell whose reference SDR lies inside it, the generator returns the
frames {lean}`calibFrame` gives, for any number of channels. -/
theorem calibFramesOfCell_eq {c N r : Nat} (hc : 0 < c) (hr : r < N) :
    calibFramesOfCell c N r = .ok ((List.range N).map (calibFrame c N r)) := by
  have hrc : c * r + c ≤ c * N := by
    rw [← Nat.mul_succ]; exact Nat.mul_le_mul_left c hr
  unfold calibFramesOfCell
  simp only [if_neg (Nat.not_le.mpr hr)]
  rw [replicate_eq_map_range, replaceAt_map_range _ (by omega), Nat.max_eq_left (by omega)]
  have h0 : (List.replicate N []).set r ((List.range (c * N - (c - 1))).map
      fun t => if t = c * r then 'P' else 'G') = calibFramesAfter c N r 0 := by
    rw [replicate_eq_map_range, set_map_range]
    refine map_range_congr rfl fun j _ => ?_
    by_cases hjr : j = r
    · simp [hjr, Nat.not_le.mpr (Nat.zero_lt_of_lt hr)]
    · simp [hjr]
  simp only [pure, Except.pure, bind, Except.bind]
  rw [h0, calibSdrLoop hc hr N le_rfl, calibFramesAfter_all hc]

/-! ## The reciprocity plan -/

/-- What reciprocal calibration asks of SDR {lean}`i` in slot {lean}`t`: the
slot belongs to SDR {lit}`t / c`, which sends its pilot there; the reference
receives every other SDR's pilots and every other SDR receives the
reference's; no other SDR does anything. -/
def calibRole (numChannels calRefSdrId i t : Nat) : Char :=
  if t / numChannels = i then 'P'
  else if i = calRefSdrId ∨ t / numChannels = calRefSdrId then 'R' else 'G'

/-- The reciprocity plan of a cell: one frame per SDR, each of the common frame
length {lit}`c·N - (c - 1)`, slot by slot as {lean}`calibRole` says. -/
def calibPlan (numChannels nSdrs calRefSdrId : Nat) : List Frame :=
  (List.range nSdrs).map fun i =>
    (List.range (numChannels * nSdrs - (numChannels - 1))).map
      (calibRole numChannels calRefSdrId i)

example : calibPlan 1 3 1 = ["PRG".toList, "RPR".toList, "GRP".toList] := by decide

/-- With one channel, or with the reference the last SDR of the cell, the
generator writes the reciprocity plan: every slot carries exactly one pilot, a
non-reference pilot is received by the reference alone, and the reference's
pilot by every other SDR. -/
theorem calibFramesOfCell_eq_calibPlan {c N r : Nat} (hc : 0 < c) (hr : r < N)
    (hfit : c = 1 ∨ r + 1 = N) : calibFramesOfCell c N r = .ok (calibPlan c N r) := by
  rw [calibFramesOfCell_eq hc hr]
  refine congrArg Except.ok (map_range_congr rfl fun i hi => ?_)
  -- inside the common frame length the reference owns only its pilot slot
  have hslot : ∀ t < c * N - (c - 1), t = c * r ↔ t / c = r := by
    rcases hfit with rfl | rfl
    · simp
    · intro t ht
      rw [div_eq_iff_slot hc, Nat.mul_comm r c]
      rw [Nat.mul_succ] at ht
      omega
  have hlen : (if r + 1 < N then c * N else c * N - (c - 1)) = c * N - (c - 1) ∧
      (i ≠ r → (if i + 1 < N then c * N - (c - 1) else c * N) = c * N - (c - 1)) := by
    rcases hfit with rfl | rfl <;> constructor <;> intros <;> split_ifs <;> omega
  by_cases hir : i = r
  · subst hir
    simp only [calibFrame, if_true, hlen.1]
    refine map_range_congr rfl fun t ht => ?_
    simp only [calibRole, hslot t ht, true_or, if_true]
    split_ifs <;> rfl
  · simp only [calibFrame, hir, if_false, hlen.2 hir]
    refine map_range_congr rfl fun t ht => ?_
    simp only [calibRole, hslot t ht, hir, false_or]

theorem calibFramesOfCell_eq_calibPlan_ab :
    (0 < 2 ∧ 2 < 3 ∧ (2 = 1 ∨ 2 + 1 = 3)) ∧ calibFramesOfCell 2 3 2 = .ok (calibPlan 2 3 2) :=
  ⟨by decide, calibFramesOfCell_eq_calibPlan (by decide) (by decide) (by decide)⟩

/-- With two or more channels and the reference before the last SDR, the last
SDR's frame and the reference frame are {lit}`c - 1` slots longer than the
others, and the slots after the reference's pilot slot are guard slots in every
frame: the reference's other channels neither send nor receive. -/
theorem calibFramesOfCell_ref_not_last {c N r : Nat} (hc : 2 ≤ c) (hr : r + 1 < N) :
    ∃ frames, calibFramesOfCell c N r = .ok frames ∧
      frames.map List.length =
        (List.range N).map (fun i => if i = r ∨ i + 1 = N then c * N else c * N - (c - 1)) ∧
      ∀ f ∈ frames, ∀ t, c * r < t → t < c * r + c → f[t]? = some 'G' := by
  have hrc : c * r + c + c ≤ c * N := by
    rw [← Nat.mul_succ, ← Nat.mul_succ]; exact Nat.mul_le_mul_left c hr
  refine ⟨_, calibFramesOfCell_eq (by omega) (by omega), ?_, ?_⟩
  · rw [List.map_map]
    refine map_range_congr rfl fun i hi => ?_
    by_cases hir : i = r
    · simp [calibFrame, hir, hr]
    · simp only [calibFrame, hir, if_false, Function.comp, List.length_map, List.length_range,
        false_or]
      split_ifs <;> omega
  · simp only [List.mem_map, List.mem_range]
    rintro f ⟨i, hi, rfl⟩ t ht₁ ht₂
    have hdiv : t / c = r :=
      (div_eq_iff_slot (by omega)).mpr (Nat.mul_comm c r ▸ ⟨ht₁.le, ht₂⟩)
    have hne : t ≠ c * r := Nat.ne_of_gt ht₁
    by_cases hir : i = r
    · simp only [calibFrame, hir, hr, if_true, List.getElem?_map,
        List.getElem?_range (show t < c * N by omega), Option.map_some', hne, hdiv, if_false]
    · have hti : t / c ≠ i := fun h => hir (h.symm.trans hdiv)
      rw [calibFrame, if_neg hir, List.getElem?_map, List.getElem?_range (by split_ifs <;> omega)]
      simp only [Option.map_some', hti, hne, if_false]

theorem calibFramesOfCell_ref_not_last_two_four_one :
    (2 ≤ 2 ∧ 1 + 1 < 4) ∧ ∃ frames, calibFramesOfCell 2 4 1 = .ok frames ∧
      frames.map List.length =
        (List.range 4).map (fun i => if i = 1 ∨ i + 1 = 4 then 2 * 4 else 2 * 4 - (2 - 1)) ∧
      ∀ f ∈ frames, ∀ t, 2 * 1 < t → t < 2 * 1 + 2 → f[t]? = some 'G' :=
  ⟨by decide, calibFramesOfCell_ref_not_last (by decide) (by decide)⟩

end Sounder
