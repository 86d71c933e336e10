import PosixBridge.Numeral

/-!
# Overflow of 16-bit products

An acceptance fixture for checked multiplication on the guest's side: a table of operand
pairs, each with a flag that says whether the signed 16-bit product overflows. Operands
are given as bit patterns, so `0x8000` is the least number and `0xFFFF` is -1.

`Overflow.firstMismatch?` finds the first row whose flag is wrong, and `Overflow.verdict`
is what the fixture tells about a table.
-/

namespace PosixBridge.Overflow

/-- Whether wrapping changes the product of two signed 16-bit numbers. -/
def overflows (a b : Int16) : Bool := (a * b).toInt != a.toInt * b.toInt

/-- One row of a table: two operands, and whether their product is said to overflow. -/
structure Row where
  a : UInt16
  b : UInt16
  flag : Bool
  deriving DecidableEq, Repr

namespace Row

/-- Whether the row's product overflows, its operands read as signed numbers. -/
def overflows (row : Row) : Bool := Overflow.overflows row.a.toInt16 row.b.toInt16

/-- Whether the flag of a row is what the operation answers. -/
def holds (row : Row) : Bool := row.overflows == row.flag

/-- The row as it is shown in a dump of a data structure. -/
def dump (row : Row) : String :=
  "Case \x7b a: " ++ Numeral.ofNat row.a.toNat ++ ", b: " ++ Numeral.ofNat row.b.toNat ++
    ", overflows: " ++ (if row.flag then "true" else "false") ++ " \x7d"

end Row

/-- The index of the first row whose flag is wrong. -/
def firstMismatch? (rows : List Row) : Option Nat := rows.findIdx? (!·.holds)

/-- The pairs at the boundary of the 16-bit range. -/
def boundaryRows : List Row :=
  [⟨0x0000, 0x0000, false⟩,
   ⟨0x0000, 0x7FFF, false⟩,
   ⟨0x0000, 0x8000, false⟩,
   ⟨0x0001, 0x7FFF, false⟩,
   ⟨0x0001, 0x8000, false⟩,
   ⟨0x0002, 0x3FFF, false⟩,
   ⟨0x0002, 0xC000, false⟩,
   ⟨0x0002, 0x7FFF, true⟩,
   ⟨0x0002, 0x8000, true⟩,
   ⟨0x0FFF, 0x0008, false⟩,
   ⟨0x1000, 0x0008, true⟩,
   ⟨0x7FFF, 0x0000, false⟩,
   ⟨0x7FFF, 0x0001, false⟩,
   ⟨0x7FFF, 0x0002, true⟩,
   ⟨0x7FFF, 0x7FFF, true⟩,
   ⟨0x7FFF, 0x8000, true⟩,
   ⟨0x8000, 0x0000, false⟩,
   ⟨0x8000, 0x0001, false⟩,
   ⟨0x8000, 0x0002, true⟩,
   ⟨0x8000, 0x7FFF, true⟩,
   ⟨0x8000, 0x8000, true⟩,
   ⟨0xFFFF, 0x0000, false⟩,
   ⟨0xFFFF, 0x0001, false⟩,
   ⟨0xFFFF, 0xFFFF, false⟩]

/-- What the fixture leaves when it ends. -/
structure Verdict where
  exit : UInt8
  stderr : String
  deriving DecidableEq, Repr

/-- The fixture's verdict on a table: success, or the first wrong row. -/
def verdict (rows : List Row) : Verdict :=
  match rows.find? (!·.holds) with
  | none => ⟨0, ""⟩
  | some row => ⟨255, "smul_i16 mismatch at " ++ row.dump ++ "\n"⟩

end PosixBridge.Overflow
