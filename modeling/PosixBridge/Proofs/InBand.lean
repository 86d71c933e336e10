import Mathlib.Algebra.Ring.Int.Defs
import Mathlib.Algebra.Ring.Nat
import PosixBridge.Proofs.Steps

/-!
# One channel for two: what the in-band encoding keeps and what it loses

The host answers a call twice over, with a word and with errno; the caller of the bridge
gets one word. Going through one word loses something exactly where the encoder and the
decoder draw their lines differently. The encoder replaces the sentinel and nothing else;
the decoder takes every negative number of a signed type for a failure, and of an id or an
address the top 4095 words.

* `Loses`: failures whose code encodes to a word that the decoder takes for a value.
* `Mistakes`: answers that are no failure and that the decoder takes for one.

> `call_decode_exact`: away from these two sets the caller learns exactly what the host
> said, and on them it does not.

No address at the start of a page is in the second set, so a mapping is never mistaken for
a failure.
-/

namespace PosixBridge

open Procedure Bridge

namespace ReturnType

/-- The codes whose encoding a caller takes for a value. -/
def Loses (t : ReturnType) (code : Int32) : Prop :=
  match t with
  | .offset | .ssize => code.toInt ≤ 0
  | .int => code.toInt ≤ 0 ∧ code.toInt ≠ -2 ^ 31
  | .ident | .pointer => ¬ (1 ≤ code.toInt ∧ code.toInt ≤ 4095)

/-- The answers, apart from the sentinel, that a caller takes for a failure. -/
def Mistakes (t : ReturnType) (answer : t.Word) : Prop :=
  match t.ctype.reading with
  | .signed => answer.toInt ≤ -2
  | .unsigned | .address => -4095 ≤ answer.toInt ∧ answer.toInt ≤ -2

/-- The sentinel reads as -1. -/
theorem toInt_sentinel (t : ReturnType) : t.sentinel.toInt = -1 := by
  cases t <;> decide

/-- The sentinel is the word that reads as -1. -/
theorem eq_sentinel_iff {t : ReturnType} {v : t.Word} : v = t.sentinel ↔ v.toInt = -1 := by
  rw [← t.toInt_sentinel]
  exact BitVec.toInt_inj.symm

/-- The signed reading of a word depends on its bits and the width only. -/
theorem toInt_eq_of_bits {t u : ReturnType} (hwidth : t.width = u.width) {v : t.Word}
    {w : u.Word} (hbits : v.toNat = w.toNat) : v.toInt = w.toInt := by
  rw [BitVec.toInt_eq_toNat_bmod, BitVec.toInt_eq_toNat_bmod, hbits]
  exact congrArg (fun n => Int.bmod w.toNat (2 ^ n : Nat)) hwidth

/-! ## The encoded code -/

/-- A caller takes a word for a failure when it is the sentinel or mistaken for one. -/
theorem isError_iff {t : ReturnType} {v : t.Word} :
    t.isError v = true ↔ v = t.sentinel ∨ t.Mistakes v := by
  rw [eq_sentinel_iff, isError, Mistakes]
  cases t.ctype.reading with
  | signed => rw [decide_eq_true_eq]; omega
  | unsigned | address => rw [decide_eq_true_eq, maxCode]; omega

/-- Every result has room for a code. -/
theorem width_ge (t : ReturnType) : 32 ≤ t.width := by cases t <;> decide

/-- An encoded code is the code's negation. The least 32-bit code is its own negation in a
type of that width. -/
theorem toInt_encode (t : ReturnType) (code : Int32) :
    (t.encode code).toInt =
      if t.width = 32 ∧ code.toInt = -2 ^ 31 then -2 ^ 31 else -code.toInt := by
  have hlow := code.le_toInt
  have hhigh := code.toInt_lt
  rw [encode, BitVec.toInt_neg, BitVec.toInt_signExtend_of_le t.width_ge, Int32.toInt_toBitVec]
  split
  · -- The one code whose negation does not fit: it wraps around to itself.
    next h => rw [show t.ctype.width = 32 from h.1, h.2]; decide
  · next h =>
    have hfits : -(2 ^ t.width / 2) ≤ -code.toInt ∧ -code.toInt < (2 ^ t.width + 1) / 2 := by
      cases t <;> simp [width, CType.width] at h ⊢ <;> omega
    exact Int.bmod_eq_of_le (by exact_mod_cast hfits.1) (by exact_mod_cast hfits.2)

/-- In 64 bits every code has a negation. -/
theorem toInt_encode_of_width_ne {t : ReturnType} (h : t.width ≠ 32) (code : Int32) :
    (t.encode code).toInt = -code.toInt := by
  rw [toInt_encode]
  exact if_neg (fun hw => h hw.1)

/-- Only the code 1 is encoded as the sentinel. -/
theorem encode_eq_sentinel_iff {t : ReturnType} {code : Int32} :
    t.encode code = t.sentinel ↔ code = 1 := by
  rw [eq_sentinel_iff, toInt_encode, ← Int32.toInt_inj]
  split
  · next h => rw [h.2]; decide
  · rw [Int32.toInt_one]
    omega

/-- The low half of an encoded code's negation is the code again. -/
theorem code_encode (t : ReturnType) (code : Int32) :
    Int32.ofBitVec ((-(t.encode code)).setWidth 32) = code := by
  have hbits : (code.toBitVec.signExtend t.width).setWidth 32 = code.toBitVec := by
    ext i hi
    have hw := t.width_ge
    rw [BitVec.getElem_setWidth, BitVec.getLsbD_signExtend, if_pos hi]
    simp [show i < t.width by omega, hi]
  rw [encode, BitVec.neg_neg, hbits, Int32.ofBitVec_toBitVec]

/-- A caller takes an encoded code for a failure unless the type loses the code. -/
theorem isError_encode (t : ReturnType) (code : Int32) :
    t.isError (t.encode code) = true ↔ ¬ t.Loses code := by
  have hlow := code.le_toInt
  have hhigh := code.toInt_lt
  have henc := t.toInt_encode code
  rw [isError_iff, eq_sentinel_iff]
  unfold Mistakes Loses
  cases t with
  | int | ident =>
    -- In 32 bits the least code is an exception.
    simp only [CType.reading, true_and] at henc ⊢
    split at henc <;> omega
  | offset | ssize | pointer =>
    rw [if_neg (fun h => absurd h.1 (by decide))] at henc
    simp only [CType.reading]
    omega

/-! ## What a caller learns -/

/-- A failed call is answered with its code. -/
@[simp] theorem inBand_sentinel (t : ReturnType) (code : Int32) :
    t.inBand t.sentinel code = t.encode code :=
  if_pos (isSentinel_iff.mpr rfl)

/-- Any other answer is passed on as it is. -/
theorem inBand_of_ne {t : ReturnType} {r : t.Word} (h : r ≠ t.sentinel) (code : Int32) :
    t.inBand r code = r :=
  if_neg (fun hs => h (isSentinel_iff.mp hs))

/-- A caller gets the host's own mark of a failure when the host has failed with the code 1. -/
theorem inBand_eq_sentinel_iff {t : ReturnType} {r : t.Word} {code : Int32} :
    t.inBand r code = t.sentinel ↔ r = t.sentinel ∧ code = 1 := by
  by_cases hr : r = t.sentinel
  · rw [hr, inBand_sentinel, encode_eq_sentinel_iff]
    exact (and_iff_right rfl).symm
  · rw [inBand_of_ne hr]
    exact iff_of_false hr (fun h => hr h.1)

theorem decode_of_isError {t : ReturnType} {v : t.Word} (h : t.isError v = true) :
    t.decode v = .error ⟨Int32.ofBitVec ((-v).setWidth 32)⟩ := by
  rw [decode_eq_error_iff, errorCode?, if_pos h]

theorem decode_of_not_isError {t : ReturnType} {v : t.Word} (h : ¬ t.isError v = true) :
    t.decode v = .ok v := by
  rw [decode_eq_ok_iff, errorCode?, if_neg h]
  exact ⟨rfl, rfl⟩

/-- A caller learns the code of a failure, unless the type loses it. -/
theorem decode_encode {t : ReturnType} {code : Int32} (h : ¬ t.Loses code) :
    t.decode (t.encode code) = .error ⟨code⟩ := by
  rw [decode_of_isError ((t.isError_encode code).mpr h), t.code_encode]

/-- A code that the type loses is taken for a success. -/
theorem decode_encode_of_loses {t : ReturnType} {code : Int32} (h : t.Loses code) :
    t.decode (t.encode code) = .ok (t.encode code) :=
  decode_of_not_isError (fun he => (t.isError_encode code).mp he h)

/-- A caller learns any other answer of the host, unless it is mistaken for a failure. -/
theorem decode_inBand_of_ne {t : ReturnType} {r : t.Word} (hr : r ≠ t.sentinel)
    (h : ¬ t.Mistakes r) (code : Int32) : t.decode (t.inBand r code) = .ok r := by
  rw [inBand_of_ne hr]
  refine decode_of_not_isError (fun he => ?_)
  rcases isError_iff.mp he with hs | hm
  · exact hr hs
  · exact h hm

/-- A success that the type mistakes is taken for a failure. -/
theorem decode_inBand_of_mistakes {t : ReturnType} {r : t.Word} (hr : r ≠ t.sentinel)
    (h : t.Mistakes r) (code : Int32) : ∃ f, t.decode (t.inBand r code) = .error f := by
  rw [inBand_of_ne hr]
  exact ⟨_, decode_of_isError (isError_iff.mpr (Or.inr h))⟩

/-- The start of a page, the topmost one included, lies below the window of error codes. -/
theorem page_not_mistaken {r : ReturnType.pointer.Word} (h : 4096 ∣ r.toNat) :
    r ≠ ReturnType.pointer.sentinel ∧ ¬ ReturnType.pointer.Mistakes r := by
  have hlt : r.toNat < 2 ^ 64 := r.isLt
  have hsigned : r.toInt = if 2 * r.toNat < 2 ^ 64 then (r.toNat : Int)
      else (r.toNat : Int) - 2 ^ 64 := BitVec.toInt_eq_toNat_cond r
  rw [Ne, eq_sentinel_iff]
  unfold Mistakes
  simp only [CType.reading]
  split at hsigned <;> omega

end ReturnType

/-- **The exact collisions of the one channel.** A call whose host answers with the word `r`
and leaves `errno` behind tells its caller of a failure with that code when `r` is the
sentinel, and of the value `r` otherwise, except on the codes that the type `Loses` and the
answers that it `Mistakes`, where it does the opposite. -/
theorem call_decode_exact (t : ReturnType) (raw : Procedure t.Word) (s : State)
    {r : t.Word} (h : (raw s).outcome = .returned r) :
    ∃ v, (Bridge.call t raw s).outcome = .returned v ∧
      (r = t.sentinel → ¬ t.Loses (raw s).state.errno →
        t.decode v = .error ⟨(raw s).state.errno⟩) ∧
      (r = t.sentinel → t.Loses (raw s).state.errno → ∃ w, t.decode v = .ok w) ∧
      (r ≠ t.sentinel → t.Mistakes r → ∃ f, t.decode v = .error f) ∧
      (r ≠ t.sentinel → ¬ t.Mistakes r → t.decode v = .ok r) ∧
      (t = .pointer → 4096 ∣ r.toNat → t.decode v = .ok r) := by
  refine ⟨t.inBand r (raw s).state.errno, ?_, ?_, ?_, ?_, ?_, ?_⟩
  · rw [Bridge.call_apply, h]
    rfl
  · rintro rfl hl
    rw [ReturnType.inBand_sentinel, ReturnType.decode_encode hl]
  · rintro rfl hl
    rw [ReturnType.inBand_sentinel]
    exact ⟨_, ReturnType.decode_encode_of_loses hl⟩
  · intro hr hm
    exact ReturnType.decode_inBand_of_mistakes hr hm _
  · intro hr hm
    exact ReturnType.decode_inBand_of_ne hr hm _
  · rintro rfl hp
    obtain ⟨hr, hm⟩ := ReturnType.page_not_mistaken hp
    exact ReturnType.decode_inBand_of_ne hr hm _

/-- The least code is its own negation, so an `int` call can fail with it and be understood;
an id call that fails with it seems to return the id 2^31. -/
theorem call_decode_exact_least_code :
    let fails (t : ReturnType) : Procedure t.Word := do
      setErrno (-2147483648)
      return t.sentinel
    (fails .int .initial).outcome = .returned ReturnType.int.sentinel ∧
      (∃ v, (Bridge.call .int (fails .int) .initial).outcome = .returned v ∧
        ReturnType.int.decode v = .error ⟨-2147483648⟩) ∧
      ∃ v, (Bridge.call .ident (fails .ident) .initial).outcome = .returned v ∧
        ∃ w, ReturnType.ident.decode v = .ok w := by
  intro fails
  refine ⟨rfl, ?_, ?_⟩
  · obtain ⟨v, hv, hknown, -⟩ :=
      call_decode_exact .int (fails .int) .initial (r := ReturnType.int.sentinel) rfl
    exact ⟨v, hv, hknown rfl (fun hl => hl.2 (by decide))⟩
  · obtain ⟨v, hv, -, hlost, -⟩ :=
      call_decode_exact .ident (fails .ident) .initial (r := ReturnType.ident.sentinel) rfl
    exact ⟨v, hv, hlost rfl (fun h => absurd h.1 (by decide))⟩

end PosixBridge
