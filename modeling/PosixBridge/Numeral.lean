/-!
# Numerals: the written form of integers and addresses

Every number this library reads or writes as text passes through here. An integer is
written in decimal with a leading `-` when it is negative; an address is written as `0x`
and lower-case hexadecimal digits. Both forms are unpadded.

Reading accepts what writing produces and a little more: leading zeros, an explicit `+`,
and upper-case hexadecimal digits. There is no limit on the size of a numeral; whether the
number fits a machine word is the caller's question.

Main statements: `natural?_ofNat`, `integer?_ofInt` and `address?_ofAddress`, what is
written reads back as the number it was written for.
-/

namespace PosixBridge.Numeral

/-- The value of a digit in the bases up to sixteen. -/
def digitValue? (c : Char) : Option Nat :=
  if '0' ≤ c ∧ c ≤ '9' then some (c.toNat - '0'.toNat)
  else if 'a' ≤ c ∧ c ≤ 'f' then some (c.toNat - 'a'.toNat + 10)
  else if 'A' ≤ c ∧ c ≤ 'F' then some (c.toNat - 'A'.toNat + 10)
  else none

/-- The value of a digit in the given base. -/
def digit? (base : Nat) (c : Char) : Option Nat := (digitValue? c).filter (· < base)

/-- Reads digits onto the right of the number `acc` read so far. -/
def digitsFrom? (base acc : Nat) : List Char → Option Nat
  | [] => some acc
  | c :: cs => (digit? base c).bind fun d => digitsFrom? base (acc * base + d) cs

/-- The number that a sequence of digits writes; no digits are no number. -/
def digits? (base : Nat) : List Char → Option Nat
  | [] => none
  | c :: cs => digitsFrom? base 0 (c :: cs)

/-- Reads a decimal natural number, which may carry a `+`. -/
def natural? (text : String) : Option Nat :=
  match text.toList with
  | '+' :: cs => digits? 10 cs
  | cs => digits? 10 cs

/-- Reads a decimal integer, which may carry either sign. -/
def integer? (text : String) : Option Int :=
  match text.toList with
  | '-' :: cs => (digits? 10 cs).map fun n => -(n : Int)
  | '+' :: cs => (digits? 10 cs).map Int.ofNat
  | cs => (digits? 10 cs).map Int.ofNat

/-- Reads an address: `0x` and hexadecimal digits. -/
def address? (text : String) : Option Nat :=
  match text.toList with
  | '0' :: 'x' :: cs => digits? 16 cs
  | _ => none

/-- A natural number in decimal. -/
def ofNat (n : Nat) : String := String.ofList (Nat.toDigits 10 n)

/-- An integer in decimal, with a sign if it is negative. -/
def ofInt : Int → String
  | .ofNat n => ofNat n
  | .negSucc n => "-" ++ ofNat (n + 1)

/-- An address in hexadecimal, with its prefix. -/
def ofAddress (n : Nat) : String := "0x" ++ String.ofList (Nat.toDigits 16 n)

/-! ## What is written reads back -/

/-- Reading a string of digits in two parts, the second onto the first. -/
theorem digitsFrom?_append (base acc : Nat) (xs ys : List Char) :
    digitsFrom? base acc (xs ++ ys) =
      (digitsFrom? base acc xs).bind fun n => digitsFrom? base n ys := by
  induction xs generalizing acc with
  | nil => rfl
  | cons c xs ih =>
    simp only [List.cons_append, digitsFrom?]
    cases digit? base c with
    | none => rfl
    | some d => exact ih _

theorem digit?_digitChar {base d : Nat} (hb : base ≤ 16) (hd : d < base) :
    digit? base d.digitChar = some d := by
  have small : ∀ k < 16, digitValue? k.digitChar = some k := by decide
  simp [digit?, small d (by omega), hd]

/-- Written digits are read as the number they were written for. -/
theorem digitsFrom?_toDigits {base : Nat} (h1 : 1 < base) (hb : base ≤ 16) (n : Nat) :
    digitsFrom? base 0 (Nat.toDigits base n) = some n := by
  induction n using Nat.strongRecOn with
  | ind n ih =>
    by_cases hn : n < base
    · rw [Nat.toDigits_of_lt_base hn]
      simp [digitsFrom?, digit?_digitChar hb hn]
    · have hdiv : n / base < n := Nat.div_lt_self (by omega) h1
      have hmod : n % base < base := Nat.mod_lt n (by omega)
      rw [Nat.toDigits_of_base_le h1 (by omega), digitsFrom?_append, ih _ hdiv]
      simp [digitsFrom?, digit?_digitChar hb hmod, Nat.div_add_mod']

theorem digits?_toDigits {base : Nat} (h1 : 1 < base) (hb : base ≤ 16) (n : Nat) :
    digits? base (Nat.toDigits base n) = some n := by
  have read := digitsFrom?_toDigits h1 hb n
  cases hl : Nat.toDigits base n with
  | nil => exact absurd hl Nat.toDigits_ne_nil
  | cons c cs => rwa [hl] at read

/-- A sign is no digit, so a string of digits does not begin with one. -/
theorem toDigits_ne_sign (n : Nat) (cs : List Char) :
    Nat.toDigits 10 n ≠ '+' :: cs ∧ Nat.toDigits 10 n ≠ '-' :: cs := by
  have read : digits? 10 (Nat.toDigits 10 n) = some n :=
    digits?_toDigits (by decide) (by decide) n
  constructor
  · intro h
    rw [h] at read
    exact absurd read (by simp [digits?, digitsFrom?, show digit? 10 '+' = none by decide])
  · intro h
    rw [h] at read
    exact absurd read (by simp [digits?, digitsFrom?, show digit? 10 '-' = none by decide])

/-- A natural number reads back as itself. -/
theorem natural?_ofNat (n : Nat) : natural? (ofNat n) = some n := by
  unfold natural? ofNat
  rw [String.toList_ofList]
  split
  · next h => exact absurd h (toDigits_ne_sign n _).1
  · exact digits?_toDigits (by decide) (by decide) n

/-- An integer reads back as itself, with its sign. -/
theorem integer?_ofInt (i : Int) : integer? (ofInt i) = some i := by
  cases i with
  | ofNat n =>
    unfold integer? ofInt ofNat
    simp only [String.toList_ofList]
    split
    · next h => exact absurd h (toDigits_ne_sign n _).2
    · next h => exact absurd h (toDigits_ne_sign n _).1
    · simp [digits?_toDigits]
  | negSucc n =>
    simp [integer?, ofInt, ofNat, digits?_toDigits, Int.negSucc_eq]

/-- An address reads back as itself. -/
theorem address?_ofAddress (n : Nat) : address? (ofAddress n) = some n := by
  simp [address?, ofAddress, digits?_toDigits]

end PosixBridge.Numeral
