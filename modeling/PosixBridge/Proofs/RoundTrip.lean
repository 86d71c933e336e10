import PosixBridge.Proofs.InBand

/-!
# Encoding and decoding as inverses

The encoder turns a code into a word and the decoder turns a word into a code, and neither is
quite the inverse of the other. Some codes are encoded as words that the decoder takes for
values; these are the codes that a type `Loses`. And a failure in 64 bits has more bits than a
code, so that in the `Wide` types, which count every negative number as a failure, the decoder
cuts some off.

> `encode_decode_exact`: a code is read back from its word unless the type loses it; a failure
> is restored from its code, and no two words are decoded alike, unless the type is wide; and
> what a wide type loses is what its failures have above the low 32 bits.

All of it comes down to one equation, `toInt_lowCode`: the code in a word is the word's
negation modulo 2^32, taken around zero.
-/

namespace PosixBridge

namespace ReturnType

/-- The signed types that are wider than a code. -/
def Wide (t : ReturnType) : Prop := t = .offset ∨ t = .ssize

/-! ## Code, word, code -/

/-- A code that the type does not lose is taken out as it was put in. -/
theorem errorCode?_encode {t : ReturnType} {code : Int32} (h : ¬ t.Loses code) :
    t.errorCode? (t.encode code) = some code :=
  decode_eq_error_iff.mp (decode_encode h)

theorem errorCode?_encode_of_loses {t : ReturnType} {code : Int32} (h : t.Loses code) :
    t.errorCode? (t.encode code) = none :=
  (decode_eq_ok_iff.mp (decode_encode_of_loses h)).1

/-! ## Word, code, word -/

/-- The code that the decoder finds in a word, if it takes the word for a failure. -/
def lowCode (t : ReturnType) (v : t.Word) : Int32 := Int32.ofBitVec ((-v).setWidth 32)

/-- A code is taken out of failures only, and it is the one in the low bits. -/
theorem errorCode?_eq_some_iff {t : ReturnType} {v : t.Word} {code : Int32} :
    t.errorCode? v = some code ↔ t.isError v = true ∧ t.lowCode v = code := by
  unfold errorCode?
  split
  · next h => simp [h, lowCode]
  · next h => simp [h]

theorem decode_eq_lowCode {t : ReturnType} {v : t.Word} (h : t.isError v = true) :
    t.decode v = .error ⟨t.lowCode v⟩ := decode_of_isError h

/-- The code in the low bits is the negated word, reduced to 32 bits. -/
theorem toInt_lowCode (t : ReturnType) (v : t.Word) :
    (t.lowCode v).toInt = (-v.toInt).bmod (2 ^ 32) := by
  have hdvd : 2 ^ 32 ∣ 2 ^ t.width := Nat.pow_dvd_pow 2 t.width_ge
  calc (t.lowCode v).toInt
      = ((-v).toNat : Int).bmod (2 ^ 32) := by
        rw [lowCode, Int32.toInt_ofBitVec, BitVec.toInt_setWidth]
    _ = (-v).toInt.bmod (2 ^ 32) := by
        rw [BitVec.toInt_eq_toNat_bmod, Int.bmod_bmod_of_dvd hdvd]
    _ = (-v.toInt).bmod (2 ^ 32) := by
        rw [BitVec.toInt_neg, Int.bmod_bmod_of_dvd hdvd]

/-- The words that a caller takes for failures, by their signed reading. -/
theorem isError_iff_toInt {t : ReturnType} {v : t.Word} :
    t.isError v = true ↔
      v.toInt < 0 ∧ (t.ctype.reading = .signed ∨ -4095 ≤ v.toInt) := by
  rw [isError_iff, eq_sentinel_iff, Mistakes]
  cases t.ctype.reading with
  | signed => simp; omega
  | unsigned | address => simp; omega

/-- A number is a failure when it is negative. -/
theorem isError_iff_of_signed {t : ReturnType} (ht : t.ctype.reading = .signed) {v : t.Word} :
    t.isError v = true ↔ v.toInt < 0 := by
  rw [isError_iff_toInt]
  exact and_iff_left (.inl ht)

/-- Encoding the code in a failure restores it, unless the word is too low for the code. -/
theorem encode_lowCode_iff {t : ReturnType} {v : t.Word} (h : t.isError v = true) :
    t.encode (t.lowCode v) = v ↔ (t.Wide → -2 ^ 31 < v.toInt) := by
  obtain ⟨hneg, hwindow⟩ := isError_iff_toInt.mp h
  have hcode := t.toInt_lowCode v
  rw [Int.bmod_def] at hcode
  rw [← BitVec.toInt_inj, t.toInt_encode]
  unfold Wide
  cases t with
  | int | ident =>
    -- A negative word of 32 bits is a code's negation, or the least one, its own.
    have hlow : -2 ^ 31 ≤ v.toInt := BitVec.le_toInt v
    simp at hcode ⊢
    split <;> omega
  | offset | ssize =>
    simp at hcode ⊢
    omega
  | pointer =>
    simp [CType.reading] at hwindow hcode ⊢
    omega

/-- Two failures have the same code when their words agree in the low 32 bits. -/
theorem lowCode_eq_iff {t : ReturnType} {v w : t.Word} :
    t.lowCode v = t.lowCode w ↔ v.toInt % 2 ^ 32 = w.toInt % 2 ^ 32 := by
  have hv := t.toInt_lowCode v
  have hw := t.toInt_lowCode w
  rw [Int.bmod_def] at hv hw
  rw [← Int32.toInt_inj]
  omega

/-- Two words are decoded alike when they are one and the same, or failures with one code. -/
theorem decode_eq_decode_iff {t : ReturnType} {v w : t.Word} :
    t.decode v = t.decode w ↔
      v = w ∨ t.isError v = true ∧ t.isError w = true ∧ v.toInt % 2 ^ 32 = w.toInt % 2 ^ 32 := by
  rw [← lowCode_eq_iff]
  constructor
  · intro heq
    by_cases hv : t.isError v = true
    · by_cases hw : t.isError w = true
      · rw [decode_eq_lowCode hv, decode_eq_lowCode hw] at heq
        exact .inr ⟨hv, hw, by simpa using heq⟩
      · rw [decode_of_not_isError hw] at heq
        exact .inl (decode_eq_ok_iff.mp heq).2
    · rw [decode_of_not_isError hv] at heq
      exact .inl (decode_eq_ok_iff.mp heq.symm).2.symm
  · rintro (rfl | ⟨hv, hw, hcode⟩)
    · rfl
    · rw [decode_eq_lowCode hv, decode_eq_lowCode hw, hcode]

/-- Outside the wide types a failure is told by its low 32 bits. -/
theorem eq_of_low_bits {t : ReturnType} (ht : ¬ t.Wide) {v w : t.Word}
    (hv : t.isError v = true) (hw : t.isError w = true)
    (h : v.toInt % 2 ^ 32 = w.toInt % 2 ^ 32) : v = w := by
  obtain ⟨hv, hv'⟩ := isError_iff_toInt.mp hv
  obtain ⟨hw, hw'⟩ := isError_iff_toInt.mp hw
  rw [← BitVec.toInt_inj]
  cases t with
  | int | ident =>
    have hvlow : -2 ^ 31 ≤ v.toInt := BitVec.le_toInt v
    have hwlow : -2 ^ 31 ≤ w.toInt := BitVec.le_toInt w
    omega
  | offset => exact absurd (.inl rfl) ht
  | ssize => exact absurd (.inr rfl) ht
  | pointer =>
    simp [CType.reading] at hv' hw'
    omega

/-- The words of a wide type that are taken for failures are the negative ones. -/
theorem Wide.isError_iff {t : ReturnType} (ht : t.Wide) {v : t.Word} :
    t.isError v = true ↔ v.toInt < 0 := by
  have hsigned : t.ctype.reading = .signed := by rcases ht with rfl | rfl <;> rfl
  exact isError_iff_of_signed hsigned

/-- In a wide type every code, whatever its sign, is found in a word far below the sentinel. -/
theorem Wide.decode_far_below {t : ReturnType} (ht : t.Wide) (code : Int32) :
    ∃ v : t.Word, v.toInt < -2 ^ 31 ∧ t.decode v = .error ⟨code⟩ := by
  have hlow := code.le_toInt
  have hhigh := code.toInt_lt
  let v : t.Word := BitVec.ofInt t.width (-code.toInt - 2 ^ 33)
  have hv : v.toInt = -code.toInt - 2 ^ 33 := by
    have hwidth : t.ctype.width = 64 := by rcases ht with rfl | rfl <;> rfl
    rw [BitVec.toInt_ofInt, hwidth]
    exact Int.bmod_eq_of_le (by omega) (by omega)
  refine ⟨v, by omega, ?_⟩
  rw [decode_eq_lowCode (ht.isError_iff.mpr (by omega))]
  refine congrArg (fun c => Except.error (Failure.mk c)) (Int32.toInt_inj.mp ?_)
  rw [toInt_lowCode, hv, Int.bmod_def]
  omega

end ReturnType

/-- **Encoding and decoding are inverse exactly where their formats meet.** A code is read back
from its word unless the type loses it. A failure is restored from its code, except in a wide
type at or below -2^31. Different words are decoded differently, except two negative words of a
wide type that agree modulo 2^32; so such a type decodes to each code, the sentinel's own 1, zero
and the negative ones too, some word that is far below the sentinel. -/
theorem encode_decode_exact (t : ReturnType) :
    (∀ code, ¬ t.Loses code → t.errorCode? (t.encode code) = some code) ∧
    (∀ code, t.Loses code → t.errorCode? (t.encode code) = none) ∧
    (∀ v code, t.errorCode? v = some code →
      (t.encode code = v ↔ (t.Wide → -2 ^ 31 < v.toInt))) ∧
    (¬ t.Wide → ∀ v w, t.decode v = t.decode w → v = w) ∧
    (t.Wide → ∀ v w, v ≠ w → (t.decode v = t.decode w ↔
      v.toInt < 0 ∧ w.toInt < 0 ∧ v.toInt % 2 ^ 32 = w.toInt % 2 ^ 32)) ∧
    (t.Wide → ∀ code, ∃ v, v ≠ t.sentinel ∧ v.toInt < 0 ∧ t.decode v = .error ⟨code⟩) := by
  refine ⟨fun code => ReturnType.errorCode?_encode,
    fun code => ReturnType.errorCode?_encode_of_loses, ?_, ?_, ?_, ?_⟩
  · intro v code hcode
    obtain ⟨herror, rfl⟩ := ReturnType.errorCode?_eq_some_iff.mp hcode
    exact ReturnType.encode_lowCode_iff herror
  · intro ht v w heq
    rcases ReturnType.decode_eq_decode_iff.mp heq with rfl | ⟨hv, hw, hbits⟩
    · rfl
    · exact ReturnType.eq_of_low_bits ht hv hw hbits
  · intro ht v w hne
    rw [ReturnType.decode_eq_decode_iff, ht.isError_iff, ht.isError_iff]
    exact or_iff_right hne
  · intro ht code
    obtain ⟨v, hlow, hdecode⟩ := ht.decode_far_below code
    refine ⟨v, ?_, by omega, hdecode⟩
    rw [Ne, ReturnType.eq_sentinel_iff]
    omega

end PosixBridge
