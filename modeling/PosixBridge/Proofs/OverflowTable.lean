import Mathlib.Algebra.Ring.Int.Defs
import Mathlib.Algebra.Ring.Nat
import Mathlib.Order.Bounds.Defs
import PosixBridge.Overflow

/-!
# What an overflow table is checked against

A row of a table is checked by machine arithmetic: the wrapped product is compared with the
exact one. What its flag should say is a matter of integers: the operands are patterns of 16
bits, `signed16` reads a pattern in two's complement, and the product of the two readings is in
the range of such readings or not. The two agree because wrapping is reading the low 16 bits,
and only a number in the range is read back as itself.

> `firstMismatch_exact`: the checker finds the least index at which a flag is not `Truthful`,
> and finds none exactly when all flags are.
-/

namespace PosixBridge.Overflow

/-! ## Reading 16 bits -/

/-- The low 16 bits of a number, read in two's complement. -/
def signed16 (n : Int) : Int :=
  if n % 2 ^ 16 < 2 ^ 15 then n % 2 ^ 16 else n % 2 ^ 16 - 2 ^ 16

/-- The low 16 bits, read with a sign, are the balanced remainder. -/
theorem signed16_eq_bmod (n : Int) : signed16 n = n.bmod (2 ^ 16) := by
  unfold signed16
  rw [Int.bmod_def]
  split <;> split <;> omega

/-- A number is the reading of its low bits exactly when it is in the range of readings. -/
theorem signed16_eq_self_iff {n : Int} : signed16 n = n ↔ -32768 ≤ n ∧ n ≤ 32767 := by
  unfold signed16
  split <;> omega

/-- A 16-bit word reads so when it is converted. -/
theorem toInt_toInt16 (u : UInt16) : u.toInt16.toInt = signed16 u.toNat := by
  rw [signed16_eq_bmod]
  exact BitVec.toInt_eq_toNat_bmod u.toBitVec

/-- Wrapping is reading the low bits of the exact product. -/
theorem toInt_mul (a b : Int16) : (a * b).toInt = signed16 (a.toInt * b.toInt) := by
  rw [signed16_eq_bmod, Int16.toInt_mul]

/-! ## Rows -/

namespace Row

/-- The exact product of the operands, read in two's complement. -/
def product (row : Row) : Int := signed16 row.a.toNat * signed16 row.b.toNat

/-- The product is outside the range of signed 16-bit numbers. -/
def Overflows (row : Row) : Prop := row.product < -32768 ∨ 32767 < row.product

/-- The row's flag says whether the product overflows. -/
def Truthful (row : Row) : Prop := row.flag = true ↔ row.Overflows

/-- A product overflows exactly when wrapping changes it. -/
theorem overflows_iff_wrapped_ne {row : Row} :
    row.Overflows ↔ signed16 row.product ≠ row.product := by
  rw [Ne, signed16_eq_self_iff, Overflows]
  omega

/-- The operation finds exactly the products that are out of range. -/
theorem overflows_iff {row : Row} : row.overflows = true ↔ row.Overflows := by
  rw [overflows_iff_wrapped_ne, Row.overflows, Overflow.overflows, bne_iff_ne, toInt_mul,
    toInt_toInt16, toInt_toInt16]
  rfl

theorem holds_iff {row : Row} : row.holds = true ↔ row.Truthful := by
  rw [holds, beq_iff_eq, Truthful, ← overflows_iff, Bool.eq_iff_iff]
  exact Iff.comm

end Row

/-! ## Tables -/

/-- The wrong rows of a table, by their indices. -/
def wrongRows (rows : List Row) : Set Nat := {i | ∃ row, rows[i]? = some row ∧ ¬ row.Truthful}

theorem mem_wrongRows {rows : List Row} {i : Nat} (h : i < rows.length) :
    i ∈ wrongRows rows ↔ ¬ rows[i].holds = true := by
  rw [Row.holds_iff]
  constructor
  · rintro ⟨row, hrow, hwrong⟩
    rw [List.getElem?_eq_getElem h] at hrow
    rwa [Option.some.inj hrow]
  · intro hwrong
    exact ⟨rows[i], List.getElem?_eq_getElem h, hwrong⟩

theorem lt_of_mem_wrongRows {rows : List Row} {i : Nat} (h : i ∈ wrongRows rows) :
    i < rows.length := by
  obtain ⟨row, hrow, -⟩ := h
  exact (List.getElem?_eq_some_iff.mp hrow).1

/-- What the checker finds is the least of the wrong rows. -/
theorem firstMismatch?_eq_some_iff {rows : List Row} {i : Nat} :
    firstMismatch? rows = some i ↔ IsLeast (wrongRows rows) i := by
  rw [firstMismatch?, List.findIdx?_eq_some_iff_getElem]
  constructor
  · rintro ⟨hi, hwrong, hbefore⟩
    refine ⟨(mem_wrongRows hi).mpr (by simpa using hwrong), ?_⟩
    intro j hj
    -- A wrong row further up would have been found before this one.
    refine Nat.le_of_not_lt (fun hji => hbefore j hji ?_)
    simpa using (mem_wrongRows (Nat.lt_trans hji hi)).mp hj
  · rintro ⟨hwrong, hleast⟩
    have hi := lt_of_mem_wrongRows hwrong
    refine ⟨hi, by simpa using (mem_wrongRows hi).mp hwrong, ?_⟩
    intro j hji hj
    have hmem : j ∈ wrongRows rows :=
      (mem_wrongRows (Nat.lt_trans hji hi)).mpr (by simpa using hj)
    exact absurd (hleast hmem) (Nat.not_le_of_lt hji)

/-- The checker finds nothing exactly if no row is wrong. -/
theorem firstMismatch?_eq_none_iff {rows : List Row} :
    firstMismatch? rows = none ↔ ∀ row ∈ rows, row.Truthful := by
  rw [firstMismatch?, List.findIdx?_eq_none_iff]
  refine forall₂_congr (fun row _ => ?_)
  rw [Bool.not_eq_false', Row.holds_iff]

/-- The fixture ends well exactly when no flag of the table is wrong. -/
theorem exit_verdict_eq_zero_iff {rows : List Row} :
    (verdict rows).exit = 0 ↔ ∀ row ∈ rows, row.Truthful := by
  unfold verdict
  split
  · next hnone =>
    rw [List.find?_eq_none] at hnone
    refine iff_of_true rfl (fun row hrow => Row.holds_iff.mp ?_)
    simpa using hnone row hrow
  · next row hrow =>
    have hwrong : ¬ row.holds = true := by simpa using List.find?_some hrow
    have hexit : ¬ (255 : UInt8) = 0 := by decide
    refine iff_of_false hexit (fun hall => hwrong (Row.holds_iff.mpr ?_))
    exact hall row (List.mem_of_find?_eq_some hrow)

/-- **The checker finds the first wrong row.** On a table of any length it gives the least index
of a row whose flag is not the truth about its product, and nothing exactly when every flag is;
and then, and only then, the fixture ends with 0.
The truth may be read off either way: the exact product is out of range, or differs from its low
16 bits read as a signed number. -/
theorem firstMismatch_exact (rows : List Row) :
    (∀ i, firstMismatch? rows = some i ↔ IsLeast (wrongRows rows) i) ∧
    (firstMismatch? rows = none ↔ ∀ row ∈ rows, row.Truthful) ∧
    ((verdict rows).exit = 0 ↔ ∀ row ∈ rows, row.Truthful) ∧
    ∀ row : Row, row.Overflows ↔ signed16 row.product ≠ row.product := by
  refine ⟨?_, firstMismatch?_eq_none_iff, exit_verdict_eq_zero_iff, ?_⟩
  · intro i
    exact firstMismatch?_eq_some_iff
  · intro row
    exact Row.overflows_iff_wrapped_ne

/-- The least number times -1 overflows, and no row of the boundary table is wrong. -/
example : firstMismatch? [⟨0x7FFF, 0xFFFF, false⟩, ⟨0x8000, 0xFFFF, false⟩] = some 1 ∧
    firstMismatch? boundaryRows = none := by decide

end PosixBridge.Overflow
