import PosixBridge.Numeral

/-!
# Machine words and the C types they carry

A C value is a string of bits of the width of its type, `CType.Word`; the type also says
how the bits are read when the value is written down or compared with zero. Keeping the
bits and the reading apart lets values of different types be compared bit for bit, which
is what passing a value through unchanged means. The widths are those of a 64-bit host.

`CType.render` and `CType.read?` are the written form of a word; `read?_render` says that
a written word reads back as itself.
-/

namespace PosixBridge

/-- The C types in the prototypes of the host's operations, on a 64-bit host. All
pointers are one type, an address. -/
inductive CType
  | int | mode | socklen | ident | size | unsignedLong | offset | ssize | pointer
  deriving DecidableEq, Repr

/-- How a word's bits are read. -/
inductive Reading
  | signed | unsigned | address
  deriving DecidableEq, Repr

namespace CType

/-- How many bits a value has: an `int` has 32, a `long`, a size or an address 64. -/
@[reducible] def width : CType → Nat
  | .int | .mode | .socklen | .ident => 32
  | .size | .unsignedLong | .offset | .ssize | .pointer => 64

/-- How the bits of a value are read: ids, modes and lengths have no sign. -/
def reading : CType → Reading
  | .int | .offset | .ssize => .signed
  | .mode | .socklen | .ident | .size | .unsignedLong => .unsigned
  | .pointer => .address

/-- A value of the type, as its bits. -/
abbrev Word (t : CType) := BitVec t.width

/-- No type is wider than a machine word. -/
theorem width_le (t : CType) : t.width ≤ 64 := by cases t <;> decide

/-- A word in writing: decimal for numbers, hexadecimal for addresses. -/
def render (t : CType) (v : t.Word) : String :=
  match t.reading with
  | .signed => Numeral.ofInt v.toInt
  | .unsigned => Numeral.ofNat v.toNat
  | .address => Numeral.ofAddress v.toNat

/-- The word with the given signed value, if the value fits. -/
def signedWord? (t : CType) (n : Int) : Option t.Word :=
  let v := BitVec.ofInt t.width n
  if v.toInt = n then some v else none

/-- The word with the given unsigned value, if the value fits. -/
def unsignedWord? (t : CType) (n : Nat) : Option t.Word :=
  let v := BitVec.ofNat t.width n
  if v.toNat = n then some v else none

/-- Reads a written word; a number that does not fit the type is no word. -/
def read? (t : CType) (text : String) : Option t.Word :=
  match t.reading with
  | .signed => (Numeral.integer? text).bind t.signedWord?
  | .unsigned => (Numeral.natural? text).bind t.unsignedWord?
  | .address => (Numeral.address? text).bind t.unsignedWord?

theorem signedWord?_toInt (t : CType) (v : t.Word) : t.signedWord? v.toInt = some v := by
  simp [signedWord?, BitVec.ofInt_toInt]

theorem unsignedWord?_toNat (t : CType) (v : t.Word) : t.unsignedWord? v.toNat = some v := by
  simp [unsignedWord?]

/-- A written word reads back as itself, whatever its bits are. -/
theorem read?_render (t : CType) (v : t.Word) : t.read? (t.render v) = some v := by
  unfold read? render
  cases t.reading with
  | signed => simp [Numeral.integer?_ofInt, signedWord?_toInt]
  | unsigned => simp [Numeral.natural?_ofNat, unsignedWord?_toNat]
  | address => simp [Numeral.address?_ofAddress, unsignedWord?_toNat]

end CType

end PosixBridge
