import Sounder.Basic
import Mathlib.Algebra.BigOperators.Group.List

/-!
# Sounder - Beacon and pilot composition

The constructor composes two transmit subframes.  The beacon is fifteen STS
periods and two gold-IFFT periods, checked against the configured symbol length,
then padded with zeros to a whole subframe.  The pilot is the time-domain pilot
sequence with a cyclic prefix, repeated once per OFDM symbol of the subframe and
zero-extended to the FPGA transmit RAM.  Both are written here as functions of
the sizes the constructor has read, so that their length laws do not depend on
the rest of the constructor.

Main results:

- Theorem {lit}`beaconBody_length`: the beacon body has {lit}`15·16 + 2·128 = 496`
  samples.
- Theorem {lit}`composeBeacon_eq_ok`: the beacon is accepted exactly when the
  symbol holds the body and both zero pads.
- Theorem {lit}`length_beaconCi16`: an accepted beacon subframe has
  {lit}`prefix + subframe_size + postfix` samples.
- Theorem {lit}`composePilot_eq_ok`: the pilot is composed exactly when the
  cyclic prefix lies within the sequence and the library completes its insert,
  and then it is the packed subframe followed by {lit}`remain_size` zero words.
- Theorem {lit}`length_pilot`: {lit}`remain_size` is a {lit}`size_t`
  difference, which wraps around for a subframe longer than the transmit RAM.
- Theorem {lit}`length_pilotCi16`: a composed pilot subframe has
  {lit}`prefix + symbols·(|p| + cp) + postfix` samples for the chosen sequence
  {lit}`p`.
- Theorem {lit}`clampFftSize_mem` and {lit}`clampCpSize_le`: the clamps land in
  the supported ranges.
-/

namespace Sounder

/-- {lit}`kFpgaTxRamSize`: words of the radio's transmit RAM. -/
def kFpgaTxRamSize : Nat := 4096

/-- {lit}`kMaxSupportedFFTSize`. -/
def kMaxSupportedFFTSize : Nat := 2048

/-- {lit}`kMinSupportedFFTSize`. -/
def kMinSupportedFFTSize : Nat := 64

/-- {lit}`kMaxSupportedCPSize`. -/
def kMaxSupportedCPSize : Nat := 128

/-- Modelled from the spec: {lit}`Utils::cint16_to_uint32` is not in the source.
Each sample becomes one word with its components interleaved in the order
{lit}`"QI"` the constructor passes: quadrature in the high half-word, in-phase in
the low one; {lean}`conj` negates the quadrature component. -/
def cint16ToUint32 (xs : List CInt16) (conj : Bool) : List (BitVec 32) :=
  xs.map fun z => (if conj then -z.im else z.im) ++ z.re

@[simp]
theorem length_cint16ToUint32 (xs : List CInt16) (conj : Bool) :
    (cint16ToUint32 xs conj).length = xs.length :=
  List.length_map _ _

/-! ## Beacon -/

/-- Fifteen repetitions of the STS sequence followed by two of the gold IFFT:
the two insertion loops of the constructor. -/
def beaconBody (env : Platform) : List CInt16 :=
  (List.replicate 15 env.stsSeq).flatten ++ (List.replicate 2 env.goldIfft).flatten

/-- The beacon body has {lit}`15·16 + 2·128 = 496` samples (the spec's
arithmetic, which states {lit}`464`, is off). -/
@[simp]
theorem beaconBody_length (env : Platform) : (beaconBody env).length = 496 := by
  simp [beaconBody, env.stsSeq_length, env.goldIfft_length]

/-- The beacon members the constructor sets. -/
structure Beacon where
  beaconCi16 : List CInt16
  beaconSize : Nat
  beacon : List (BitVec 32)

/-- The beacon composition: the size check against {lit}`samps_per_symbol_`,
the packed body for the radio, and the body between the prefix zeros, the
zeros up to {lit}`subframe_size_` and the postfix zeros. -/
def composeBeacon (env : Platform) (prefixLen postfixLen subframeSize sampsPerSymbol : Nat) :
    Except Failure Beacon :=
  let body := beaconBody env
  if sampsPerSymbol < body.length + prefixLen + postfixLen then
    .error (.invalidArgument ("Minimum supported subframe_size is " ++ toString body.length))
  else
    .ok { beaconCi16 := zeros prefixLen ++ body ++ zeros (subframeSize - body.length) ++
            zeros postfixLen
          beaconSize := body.length
          beacon := cint16ToUint32 body false }

/-- The beacon is accepted exactly when the symbol holds the body and both pads,
and then its members are the padded and packed body. -/
theorem composeBeacon_eq_ok {env : Platform} {pre post sub samps : Nat} {b : Beacon} :
    composeBeacon env pre post sub samps = .ok b ↔
      496 + pre + post ≤ samps ∧
        b = { beaconCi16 := zeros pre ++ beaconBody env ++ zeros (sub - 496) ++ zeros post
              beaconSize := 496
              beacon := cint16ToUint32 (beaconBody env) false } := by
  unfold composeBeacon
  simp only [beaconBody_length]
  split
  · simp only [reduceCtorEq, false_iff, not_and]
    omega
  · simp only [Except.ok.injEq]
    constructor
    · intro h; exact ⟨by omega, h.symm⟩
    · intro h; exact h.2.symm

/-- An accepted beacon subframe spans the prefix, the whole subframe and the
postfix. -/
theorem length_beaconCi16 {env : Platform} {pre post sub samps : Nat} {b : Beacon}
    (h : composeBeacon env pre post sub samps = .ok b) (hsamps : samps = sub + pre + post) :
    b.beaconCi16.length = samps := by
  obtain ⟨hle, rfl⟩ := composeBeacon_eq_ok.mp h
  simp
  omega

/-! ## Clamps -/

/-- The two FFT-size clamps, applied in the source's order. -/
def clampFftSize (fftSize : Nat) : Nat :=
  let clamped := if fftSize > kMaxSupportedFFTSize then kMaxSupportedFFTSize else fftSize
  if clamped < kMinSupportedFFTSize then kMinSupportedFFTSize else clamped

/-- The cyclic-prefix clamp: an oversized prefix is reset to zero. -/
def clampCpSize (cpSize : Nat) : Nat :=
  if cpSize > kMaxSupportedCPSize then 0 else cpSize

/-- The clamped FFT size lies in {lit}`[64, 2048]`. -/
theorem clampFftSize_mem (fftSize : Nat) :
    kMinSupportedFFTSize ≤ clampFftSize fftSize ∧ clampFftSize fftSize ≤ kMaxSupportedFFTSize := by
  unfold clampFftSize kMinSupportedFFTSize kMaxSupportedFFTSize
  dsimp only
  split_ifs <;> omega

/-- A supported FFT size is left alone. -/
theorem clampFftSize_of_mem {fftSize : Nat} (h₁ : kMinSupportedFFTSize ≤ fftSize)
    (h₂ : fftSize ≤ kMaxSupportedFFTSize) : clampFftSize fftSize = fftSize := by
  unfold clampFftSize kMinSupportedFFTSize kMaxSupportedFFTSize at *
  dsimp only
  split_ifs <;> omega

/-- The clamped cyclic prefix is at most {lit}`128`. -/
theorem clampCpSize_le (cpSize : Nat) : clampCpSize cpSize ≤ kMaxSupportedCPSize := by
  unfold clampCpSize kMaxSupportedCPSize
  split_ifs <;> omega

/-! ## Pilot -/

/-- The time-domain pilot sequence: the LTS at FFT size {lit}`64`, else the
Zadoff-Chu sequence over the data subcarriers when it is selected.  Any other
choice only prints a message, and {lit}`pilot_sym_` keeps its empty initial
value, whose conversion the model takes as empty. -/
def pilotSym (env : Platform) (fftSize : Nat) (pilotSeq : String)
    (symbolDataSubcarrierNum : Nat) : List CInt16 :=
  if fftSize = 64 then env.ltsSeq
  else if pilotSeq = "zadoff-chu" then env.zadoffChu symbolDataSubcarrierNum
  else []

/-- The pilot members the constructor sets. -/
structure Pilot where
  pilotCi16 : List CInt16
  pilot : List (BitVec 32)

/-- The pilot composition from the clamped sizes.  The cyclic prefix is the
range {lit}`[end - cp_size, end)` of the sequence, undefined when it starts
before the beginning; it is inserted into the sequence it is taken from, with
the outcome the library gives.  The packed pilot is then zero-extended by
{lit}`remain_size = kFpgaTxRamSize - pilot_.size()` words, a {lit}`size_t`
difference: when the packed pilot is already longer, it wraps around and the
loop pushes nearly {lit}`2^64` words, which the model, with no bound on memory,
keeps. -/
def composePilot (env : Platform) (fftSize cpSize symbolPerSubframe prefixLen postfixLen
    symbolDataSubcarrierNum : Nat) (pilotSeq : String) : Except Failure Pilot :=
  let iq := pilotSym env fftSize pilotSeq symbolDataSubcarrierNum
  if iq.length < cpSize then .error .undefined
  else do
    let iqCp ← env.insertOwnTail iq cpSize
    let pilotCi16 := zeros prefixLen ++ (List.replicate symbolPerSubframe iqCp).flatten ++
      zeros postfixLen
    let packed := cint16ToUint32 pilotCi16 false
    let remainSize := toSizeT (kFpgaTxRamSize - packed.length)
    pure { pilotCi16, pilot := packed ++ List.replicate remainSize 0 }

/-- The pilot is composed exactly when the cyclic prefix lies within the
sequence and the library completes its insert; the subframe is then the prefix
zeros, the sequence with its cyclic prefix once per OFDM symbol, and the postfix
zeros, and the packed pilot is the packed subframe followed by
{lit}`remain_size` zero words. -/
theorem composePilot_eq_ok {env : Platform} {fft cp syms pre post sc : Nat} {seq : String}
    {p : Pilot} :
    composePilot env fft cp syms pre post sc seq = .ok p ↔
      cp ≤ (pilotSym env fft seq sc).length ∧
        ∃ iqCp, env.insertOwnTail (pilotSym env fft seq sc) cp = .ok iqCp ∧
          p.pilotCi16 = zeros pre ++ (List.replicate syms iqCp).flatten ++ zeros post ∧
          p.pilot = cint16ToUint32 p.pilotCi16 false ++
            List.replicate (toSizeT (kFpgaTxRamSize - p.pilotCi16.length)) 0 := by
  unfold composePilot
  dsimp only
  split
  · simp only [reduceCtorEq, false_iff, not_and]
    omega
  · simp only [bind_eq_ok, pure, Except.pure, Except.ok.injEq, length_cint16ToUint32]
    constructor
    · rintro ⟨iqCp, h, rfl⟩
      exact ⟨by omega, iqCp, h, rfl, rfl⟩
    · rintro ⟨-, iqCp, h, hci, hpl⟩
      refine ⟨iqCp, h, ?_⟩
      cases p
      simp only at hci hpl
      subst hci hpl
      rfl

/-- A composed pilot subframe spans the prefix, one cyclic prefix and sequence
per OFDM symbol, and the postfix. -/
theorem length_pilotCi16 {env : Platform} {fft cp syms pre post sc : Nat} {seq : String}
    {p : Pilot} (h : composePilot env fft cp syms pre post sc seq = .ok p) :
    p.pilotCi16.length = pre + syms * ((pilotSym env fft seq sc).length + cp) + post := by
  obtain ⟨hcp, iqCp, hins, hci, -⟩ := composePilot_eq_ok.mp h
  have hlen := env.insertOwnTail_length _ _ _ hcp hins
  rw [hci]
  simp only [List.length_append, length_zeros, List.length_flatten, List.map_replicate,
    List.sum_replicate, Nat.nsmul_eq_mul, hlen, Nat.add_comm cp]

/-- The packed pilot has {lit}`remain_size` words past the packed subframe:
exactly {lean}`kFpgaTxRamSize` words in all when the subframe fits, and
{lit}`2^64 + kFpgaTxRamSize` when it does not. -/
theorem length_pilot {env : Platform} {fft cp syms pre post sc : Nat} {seq : String}
    {p : Pilot} (h : composePilot env fft cp syms pre post sc seq = .ok p) :
    p.pilot.length = p.pilotCi16.length + toSizeT (kFpgaTxRamSize - p.pilotCi16.length) := by
  obtain ⟨-, -, -, -, hpl⟩ := composePilot_eq_ok.mp h
  rw [hpl, List.length_append, length_cint16ToUint32, List.length_replicate]

/-- A pilot whose cyclic prefix fits in the sequence is composed, when the
library completes the insert. -/
theorem composePilot_isOk {env : Platform} {fft cp syms pre post sc : Nat} {seq : String}
    (hcp : cp ≤ (pilotSym env fft seq sc).length) (hins : env.InsertCompletes) :
    ∃ p, composePilot env fft cp syms pre post sc seq = .ok p := by
  obtain ⟨iqCp, h⟩ := hins _ _ hcp
  unfold composePilot
  rw [if_neg (Nat.not_lt.mpr hcp), h]
  exact ⟨_, rfl⟩

/-- At FFT size {lit}`64` the pilot is the LTS, and it is composed whenever the
LTS covers the cyclic prefix and the library completes the insert. -/
theorem composePilot_lts_isOk {env : Platform} {fft cp syms pre post sc : Nat} {seq : String}
    (hfft : fft = 64) (hcp : cp ≤ 64) (hins : env.InsertCompletes) :
    ∃ p, composePilot env fft cp syms pre post sc seq = .ok p := by
  subst hfft
  have hlen : (pilotSym env 64 seq sc).length = 64 := by simp [pilotSym, env.ltsSeq_length]
  exact composePilot_isOk (by rw [hlen]; exact hcp) hins

end Sounder
