import Sounder.Config.Schedule

/-!
# Sounder - Parsed configuration objects

The constructor of {lit}`Config` reads two objects of the JSON configuration,
{lit}`"BaseStations"` and {lit}`"Clients"`, through {lit}`json::value(key,
default)`.  Each field below is one key the modelled code reads, as an
{lean}`Option`: {lean}`none` when the key is absent, so that the constructor
applies the default the source passes to {lit}`value`.  An object that is absent
or empty is {lean}`none` in {lean}`ConfInput`.

The {lit}`"sdr_id"` entries of a base station name device files that
{lit}`Utils::loadDevices` reads; the model takes each file as the list of serials
it holds.  Keys that no modelled function reads (frequencies, receive and
calibration gains, AGC settings, the hub file, the trace file name) are left out.

The transmit gains are JSON numbers, {lean}`JsonNumber`, since the code converts
them: the base-station gains through {lit}`value(key, 20)`, whose {lit}`int`
default makes nlohmann::json convert the number to {lit}`int`, and the client
gains through the comparator of the client guard, which takes an {lit}`int`.
Other keys are read as the values they give.
-/

namespace Sounder

/-- A JSON number as nlohmann::json keeps it: an integer literal that fits in
64 bits, or a binary floating-point value {lit}`m · 2^e`. -/
inductive JsonNumber where
  | int (v : Int)
  | float (m e : Int)
  deriving DecidableEq, Repr

namespace JsonNumber

/-- The number truncated toward zero. -/
def trunc : JsonNumber → Int
  | .int v => v
  | .float m e => if 0 ≤ e then m * 2 ^ e.toNat else m.tdiv (2 ^ (-e).toNat)

/-- The number held as a {lit}`double` and converted to {lit}`int`: its
truncation, or undefined behaviour when that is not an {lit}`int`. -/
def floatToInt (n : JsonNumber) : Except Failure Int :=
  if -2 ^ 31 ≤ n.trunc ∧ n.trunc < 2 ^ 31 then .ok n.trunc else .error .undefined

/-- {lit}`get<int>()`: an integer is converted modulo {lit}`2^32`, a floating
value as {lit}`static_cast<int>` converts a {lit}`double`. -/
def getInt : JsonNumber → Except Failure Int
  | .int v => .ok (toInt32 v)
  | n@(.float _ _) => n.floatToInt

/-- The number exceeds {lean}`cap`, compared exactly. -/
def above (cap : Int) : JsonNumber → Bool
  | .int v => cap < v
  | .float m e => if 0 ≤ e then cap < m * 2 ^ e.toNat else cap * 2 ^ (-e).toNat < m

end JsonNumber

/-- {lit}`json::value(key, default)` with an {lit}`int` default: the default
when the key is absent, else the number converted to {lit}`int`. -/
def valueInt (n : Option JsonNumber) (default : Int) : Except Failure Int :=
  match n with
  | none => .ok default
  | some n => n.getInt

/-- The physical-layer keys read from whichever object supplies them. -/
structure PhyConf where
  /-- {lit}`"ofdm_symbol_per_subframe"`, default {lit}`1`. -/
  ofdmSymbolPerSubframe : Option Nat := none
  /-- {lit}`"fft_size"`, default {lit}`0`. -/
  fftSize : Option Nat := none
  /-- {lit}`"cp_size"`, default {lit}`0`. -/
  cpSize : Option Nat := none
  /-- {lit}`"prefix"`, default {lit}`0`. -/
  prefixLen : Option Nat := none
  /-- {lit}`"postfix"`, default {lit}`0`. -/
  postfixLen : Option Nat := none
  /-- {lit}`"pilot_seq"`, default {lit}`"lts"`. -/
  pilotSeq : Option String := none
  /-- {lit}`"modulation"`, default {lit}`"QPSK"`. -/
  modulation : Option String := none
  deriving DecidableEq, Repr

/-- The {lit}`"BaseStations"` object. -/
structure BsConf where
  phy : PhyConf := {}
  /-- {lit}`"ofdm_data_subcarrier_num"`, default the FFT size. -/
  ofdmDataSubcarrierNum : Option Nat := none
  /-- {lit}`"sdr_id"`: one device file per cell, given by the serials it lists. -/
  sdrId : List (List String) := []
  /-- {lit}`"channel"`, default {lit}`"A"`. -/
  channel : Option String := none
  /-- {lit}`"txgainA"`, default {lit}`20`. -/
  txgainA : Option JsonNumber := none
  /-- {lit}`"txgainB"`, default {lit}`20`. -/
  txgainB : Option JsonNumber := none
  /-- {lit}`"reciprocal_calibration"`, default {lit}`false`. -/
  reciprocalCalibration : Option Bool := none
  /-- {lit}`"ref_sdr_index"`, default the last SDR of all cells. -/
  refSdrIndex : Option Nat := none
  /-- {lit}`"frame_schedule"`, default empty. -/
  frameSchedule : List String := []
  /-- {lit}`"task_thread"`, default {lit}`TASK_THREAD_NUM`. -/
  taskThread : Option Nat := none
  deriving DecidableEq, Repr

/-- The {lit}`"Clients"` object. -/
structure ClConf where
  phy : PhyConf := {}
  /-- {lit}`"sdr_id"`: the client serials. -/
  sdrId : List String := []
  /-- {lit}`"channel"`, default {lit}`"A"`. -/
  channel : Option String := none
  /-- {lit}`"ul_data_frame_num"`, default {lit}`1`. -/
  ulDataFrameNum : Option Nat := none
  /-- {lit}`"txgainA"`, default empty. -/
  txgainA : List JsonNumber := []
  /-- {lit}`"txgainB"`, default empty. -/
  txgainB : List JsonNumber := []
  /-- {lit}`"maxTxGainUE"`, default {lit}`81`. -/
  maxTxGainUE : Option JsonNumber := none
  /-- {lit}`"frame_schedule"`, default empty. -/
  frameSchedule : List String := []
  deriving DecidableEq, Repr

/-- The parsed configuration document: the two objects the constructor reads. -/
structure ConfInput where
  baseStations : Option BsConf := none
  clients : Option ClConf := none
  deriving DecidableEq, Repr

end Sounder
