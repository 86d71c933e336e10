import PosixBridge.CType
import PosixBridge.Failure

/-!
# Result types and the in-band encoding of failures

A host operation reports a failure in two places: it returns the sentinel, the word with
all bits set, and leaves the code in errno. The bridge has one place only, the returned
word, so it returns the code negated.

* `ReturnType.isSentinel` is the host's side of the convention.
* `ReturnType.encode` puts a code into a word: the code, sign-extended, is negated with
  wraparound.
* `ReturnType.inBand` makes one word of the host's two answers.
* `ReturnType.errorCode?` takes the code out again. A signed result is a failure whenever
  it is negative. An id or an address has no sign to spare, so only the top 4095 words
  count as failures, and large ids and addresses stay valid.
* `ReturnType.decode` is the caller's view of a word: a value or a failure.
-/

namespace PosixBridge

/-- The types of results. Each has a way of its own to tell a failure from a success. -/
inductive ReturnType
  | int | offset | ssize | ident | pointer
  deriving DecidableEq, Repr

namespace ReturnType

def all : List ReturnType := [.int, .offset, .ssize, .ident, .pointer]

/-- The C type of the result. -/
@[reducible] def ctype : ReturnType → CType
  | .int => .int
  | .offset => .offset
  | .ssize => .ssize
  | .ident => .ident
  | .pointer => .pointer

/-- How many bits a result has. -/
abbrev width (t : ReturnType) : Nat := t.ctype.width

/-- A result, as its bits. -/
abbrev Word (t : ReturnType) := t.ctype.Word

/-- A result in writing, as its C type has it. -/
def render (t : ReturnType) (v : t.Word) : String := t.ctype.render v

def read? (t : ReturnType) (text : String) : Option t.Word := t.ctype.read? text

/-- The host's mark of a failed call: all bits set. -/
def sentinel (t : ReturnType) : t.Word := BitVec.allOnes t.width

/-- Whether the host says with this word that the call failed. -/
def isSentinel (t : ReturnType) (v : t.Word) : Bool := v == t.sentinel

/-- The word that tells a caller of the given error code. -/
def encode (t : ReturnType) (code : Int32) : t.Word := -(code.toBitVec.signExtend t.width)

/-- The word a caller gets for the host's answer `raw` when the host left `errno` behind:
the code in place of the sentinel, and any other answer as it is. -/
def inBand (t : ReturnType) (raw : t.Word) (errno : Int32) : t.Word :=
  if t.isSentinel raw then t.encode errno else raw

/-- The largest code that an id or an address can carry. -/
def maxCode : Int := 4095

/-- Whether a caller takes the word for a failure. -/
def isError (t : ReturnType) (v : t.Word) : Bool :=
  match t.ctype.reading with
  | .signed => v.toInt < 0
  | .unsigned | .address => -maxCode ≤ v.toInt ∧ v.toInt < 0

/-- The error code in a word, if the word is a failure: the low 32 bits of its negation. -/
def errorCode? (t : ReturnType) (v : t.Word) : Option Int32 :=
  if t.isError v then some (Int32.ofBitVec ((-v).setWidth 32)) else none

/-- What a caller learns from a word. -/
def decode (t : ReturnType) (v : t.Word) : Except Failure t.Word :=
  match t.errorCode? v with
  | some code => .error ⟨code⟩
  | none => .ok v

@[simp] theorem isSentinel_iff {t : ReturnType} {v : t.Word} :
    t.isSentinel v = true ↔ v = t.sentinel := by simp [isSentinel]

/-- A caller learns of a failure exactly when the word carries its code. -/
theorem decode_eq_error_iff {t : ReturnType} {v : t.Word} {f : Failure} :
    t.decode v = .error f ↔ t.errorCode? v = some f.code := by
  unfold decode
  cases h : t.errorCode? v with
  | none => simp
  | some code => cases f; simp

/-- A caller learns of a success exactly when the word carries no code, and gets the word. -/
theorem decode_eq_ok_iff {t : ReturnType} {v w : t.Word} :
    t.decode v = .ok w ↔ t.errorCode? v = none ∧ v = w := by
  unfold decode
  cases h : t.errorCode? v <;> simp

end ReturnType

end PosixBridge
