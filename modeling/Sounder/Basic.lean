import Mathlib.Data.List.Basic
import Mathlib.Algebra.Group.Int
import Mathlib.Algebra.Order.Ring.Nat

/-!
# Sounder - C++ integers, failures and platform constants

The sounder is C++.  This module fixes how the model represents what every later
module needs from the language: the conversion of an {lit}`int` to
{lit}`size_t` that the slot queries perform, the ways a call can end without
returning a value (a thrown exception, or behaviour the standard leaves
undefined), and the constants the source uses but does not define (the
threading macros of {lit}`macros.h`, two {lit}`sizeof` values, and the CommsLib
training sequences).

Main results:

- Theorem {lit}`toSizeT_lt`: a converted {lit}`int` is below {lit}`2^64`.
- Theorem {lit}`toSizeT_natCast`: a non-negative {lit}`int` below {lit}`2^64`
  converts to itself.
- Theorem {lit}`checkedAt_eq_ok`: {lit}`std::vector::at` returns exactly the
  in-range element.
- Theorem {lit}`bind_eq_ok`: a chain of fallible steps returns exactly when each
  step does.

Modelling notes:

- Counts of cells, radios, frames and slots are natural numbers.  The source
  stores some of them in {lit}`int` after a narrowing conversion; the model does
  not narrow, so it agrees with the code while those counts stay below
  {lit}`2^31`.
- The pilot composition inserts a range of a vector into the same vector, which
  the standard does not allow.  What happens then is the library's, a field of
  {lit}`Platform`; {lit}`rangeInsertOwnTail` is what libstdc++ does.
-/

namespace Sounder

/-! ## C++ integer conversions -/

/-- The value an {lit}`int` takes when the usual arithmetic conversions turn it
into the 64-bit unsigned {lit}`size_t`: reduction modulo {lit}`2^64`. -/
def toSizeT (i : Int) : Nat :=
  (i % 2 ^ 64).toNat

/-- A converted {lit}`int` is a valid {lit}`size_t`. -/
theorem toSizeT_lt (i : Int) : toSizeT i < 2 ^ 64 := by
  unfold toSizeT
  have h0 : 0 ≤ i % 2 ^ 64 := Int.emod_nonneg i (by omega)
  have h1 : i % 2 ^ 64 < 2 ^ 64 := Int.emod_lt_of_pos i (by omega)
  omega

/-- A non-negative value below {lit}`2^64` converts to itself. -/
@[simp]
theorem toSizeT_natCast {n : Nat} (hn : n < 2 ^ 64) : toSizeT n = n := by
  unfold toSizeT
  rw [Int.emod_eq_of_lt (by omega) (by exact_mod_cast hn)]
  rfl

/-- The value an integer of up to 64 bits takes when it is converted to the
32-bit {lit}`int`: reduction modulo {lit}`2^32` into {lit}`[-2^31, 2^31)`, as
C++20 defines the conversion and as the compilers did before. -/
def toInt32 (i : Int) : Int :=
  (i + 2 ^ 31) % 2 ^ 32 - 2 ^ 31

/-! ## Failures -/

/-- How a modelled call ends without returning: the exception it throws, or
behaviour the C++ standard leaves undefined. -/
inductive Failure where
  /-- {lit}`std::invalid_argument` with its message. -/
  | invalidArgument (what : String)
  /-- {lit}`std::runtime_error` with its message. -/
  | runtimeError (what : String)
  /-- {lit}`std::out_of_range`, thrown by a checked {lit}`at` or {lit}`replace`. -/
  | outOfRange
  /-- A failed {lit}`assert`. -/
  | assertionFailed
  /-- Undefined behaviour: a division by zero, an unchecked index past the end,
  an iterator moved before the beginning, a range inserted into its own
  vector. -/
  | undefined
  deriving DecidableEq, Repr

/-- {lit}`std::vector::at`: the element at {lean}`i`, or {lit}`std::out_of_range`. -/
def checkedAt {α : Type} (xs : List α) (i : Nat) : Except Failure α :=
  match xs[i]? with
  | some x => .ok x
  | none => .error .outOfRange

/-- {lit}`at` returns exactly the elements that exist. -/
theorem checkedAt_eq_ok {α : Type} {xs : List α} {i : Nat} {x : α} :
    checkedAt xs i = .ok x ↔ xs[i]? = some x := by
  unfold checkedAt
  cases xs[i]? <;> simp

/-- {lit}`at` fails exactly past the end. -/
theorem checkedAt_eq_error {α : Type} {xs : List α} {i : Nat} {e : Failure} :
    checkedAt xs i = .error e ↔ xs.length ≤ i ∧ e = .outOfRange := by
  unfold checkedAt
  cases h : xs[i]?
  · simp_all [eq_comm]
  · simp only [reduceCtorEq, false_iff, not_and]
    intro hle
    simp [List.getElem?_eq_none hle] at h

/-- A chain of fallible steps returns exactly when its first step returns and
the rest returns from that value. -/
theorem bind_eq_ok {ε α β : Type} {x : Except ε α} {f : α → Except ε β} {b : β} :
    x >>= f = .ok b ↔ ∃ a, x = .ok a ∧ f a = .ok b := by
  cases x <;> simp [bind, Except.bind]

/-- A computation that a concrete evaluation shows to return, returns the value
read off that evaluation. -/
theorem eq_ok_of_isSome {ε α : Type} {x : Except ε α} (h : x.toOption.isSome = true) :
    x = .ok (x.toOption.get h) := by
  cases x with
  | error e => simp [Except.toOption] at h
  | ok a => rfl

/-- A computation whose optional result is {lean}`some a` returns {lean}`a`. -/
theorem eq_ok_of_toOption {ε α : Type} {x : Except ε α} {a : α} (h : x.toOption = some a) :
    x = .ok a := by
  cases x with
  | error e => cases h
  | ok b => cases h; rfl

/-- The failure a computation ends in, if it fails. -/
def failureOf {α : Type} : Except Failure α → Option Failure
  | .error e => some e
  | .ok _ => none

/-- A computation that a concrete evaluation shows to fail with {lean}`e` fails
with it. -/
theorem eq_error_of_failureOf {α : Type} {x : Except Failure α} {e : Failure}
    (h : failureOf x = some e) : x = .error e := by
  cases x <;> cases h
  rfl

/-- {lit}`assert(cond)`, with assertions enabled: returns exactly when the
condition holds. -/
def assertThat (cond : Prop) [Decidable cond] : Except Failure Unit :=
  if cond then .ok () else .error .assertionFailed

@[simp]
theorem assertThat_eq_ok {cond : Prop} [Decidable cond] {u : Unit} :
    assertThat cond = .ok u ↔ cond := by
  unfold assertThat
  split <;> simp_all

/-! ## Samples -/

/-- A complex sample of two 16-bit integers, {lit}`std::complex<int16_t>`. -/
structure CInt16 where
  re : BitVec 16
  im : BitVec 16
  deriving DecidableEq, Repr

/-- The zero sample used by every zero pad. -/
def CInt16.zero : CInt16 :=
  ⟨0, 0⟩

/-- {lit}`n` zero samples: the vectors {lit}`prefix_zpad`, {lit}`postfix_zpad`
and {lit}`post_beacon_zpad`. -/
def zeros (n : Nat) : List CInt16 :=
  List.replicate n CInt16.zero

@[simp]
theorem length_zeros (n : Nat) : (zeros n).length = n :=
  List.length_replicate n _

/-- libstdc++'s {lit}`v.insert(v.begin(), v.end() - n, v.end())`, a range of the
vector inserted into the vector itself, which the standard does not allow.
Without spare capacity the vector reallocates, copying the range before it
moves the elements, so the last {lean}`n` samples come first.  With room for
{lean}`n` more it works in place: it moves the last {lean}`n` samples to the
end, shifts the others back by {lean}`n`, and then copies from the range's old
position, which by then holds the samples {lean}`n` places earlier. -/
def rangeInsertOwnTail (spare : Bool) (v : List CInt16) (n : Nat) : List CInt16 :=
  if spare ∧ n < v.length then
    (List.range n).map (fun i =>
      if v.length - n + i < n then v.getD (v.length - n + i) CInt16.zero
      else v.getD (v.length - n + i - n) CInt16.zero) ++ v
  else v.drop (v.length - n) ++ v

/-- Either way {lean}`n` samples are inserted. -/
theorem length_rangeInsertOwnTail (spare : Bool) {v : List CInt16} {n : Nat}
    (hn : n ≤ v.length) : (rangeInsertOwnTail spare v n).length = n + v.length := by
  unfold rangeInsertOwnTail
  split <;> simp only [List.length_append, List.length_map, List.length_range, List.length_drop]
  omega

/-! ## Constants the source does not define -/

/-- The constants the source uses but does not define: two macros of
{lit}`macros.h`, two type sizes, and the CommsLib sequences after
{lit}`Utils::float_to_cint16`.  The sequence lengths are the ones the spec
states (16-sample STS, 128-sample gold IFFT, and a 64-sample LTS, which its
pilot-size law at {lit}`fft_size = 64` fixes). -/
structure Platform where
  /-- {lit}`RX_THREAD_NUM`. -/
  rxThreadNum : Nat
  /-- {lit}`TASK_THREAD_NUM`. -/
  taskThreadNum : Nat
  /-- {lit}`sizeof(Package)`, the packet header. -/
  sizeofPackage : Nat
  /-- {lit}`sizeof(std::atomic_int)`. -/
  sizeofAtomicInt : Nat
  sizeofAtomicInt_pos : 0 < sizeofAtomicInt
  /-- {lit}`CommsLib::getSequence(CommsLib::STS_SEQ)`. -/
  stsSeq : List CInt16
  stsSeq_length : stsSeq.length = 16
  /-- {lit}`CommsLib::getSequence(CommsLib::GOLD_IFFT)`. -/
  goldIfft : List CInt16
  goldIfft_length : goldIfft.length = 128
  /-- {lit}`CommsLib::getSequence(CommsLib::LTS_SEQ)`. -/
  ltsSeq : List CInt16
  ltsSeq_length : ltsSeq.length = 64
  /-- {lit}`CommsLib::getSequence(CommsLib::LTE_ZADOFF_CHU, n)`. -/
  zadoffChu : Nat → List CInt16
  /-- What the standard library makes of {lit}`v.insert(v.begin(), v.end() - n,
  v.end())` for {lit}`n ≤ v.size()`: the vector it leaves, or undefined
  behaviour. -/
  insertOwnTail : List CInt16 → Nat → Except Failure (List CInt16)
  /-- A completed insert has inserted {lit}`n` samples. -/
  insertOwnTail_length :
    ∀ v n r, n ≤ v.length → insertOwnTail v n = .ok r → r.length = n + v.length

/-- A platform with the spec's sequence lengths and zero samples, four receive
threads and one recorder thread by default, and a library that reallocates on
the insert of a vector's own tail, used to run the model on concrete
configurations. -/
def Platform.sample : Platform where
  rxThreadNum := 4
  taskThreadNum := 1
  sizeofPackage := 64
  sizeofAtomicInt := 4
  sizeofAtomicInt_pos := by decide
  stsSeq := zeros 16
  stsSeq_length := length_zeros 16
  goldIfft := zeros 128
  goldIfft_length := length_zeros 128
  ltsSeq := zeros 64
  ltsSeq_length := length_zeros 64
  zadoffChu := zeros
  insertOwnTail v n := .ok (rangeInsertOwnTail false v n)
  insertOwnTail_length _ _ _ hn h := by
    cases h
    exact length_rangeInsertOwnTail false hn

/-- The library completes every insert of a vector's own tail. -/
def Platform.InsertCompletes (env : Platform) : Prop :=
  ∀ v n, n ≤ v.length → ∃ r, env.insertOwnTail v n = .ok r

theorem Platform.sample_insertCompletes : Platform.sample.InsertCompletes :=
  fun _ _ _ => ⟨_, rfl⟩

end Sounder
