import PosixBridge.Errno
import PosixBridge.FailureKind
import PosixBridge.Numeral

/-!
# Failures

A failure is an error code that a call reported. Any 32-bit code is a possible failure,
named or not, so the code is all there is to it; the name, the kind and the text are
readings of the code.

The text shows the code after the name, as in `ENOENT (errno 2)`, and alone where there is
no name, as in `errno 4000`.
-/

namespace PosixBridge

/-- A failed call, known by its error code. -/
structure Failure where
  code : Int32
  deriving DecidableEq, Repr

namespace Failure

/-- The named error behind the failure, if its code has a name. -/
def errno? (f : Failure) : Option Errno := Errno.ofCode? f.code

/-- The kind of the failure, by its code. -/
def kind (f : Failure) : FailureKind := FailureKind.ofCode f.code

/-- The failure as it is shown to people. -/
def text (f : Failure) : String :=
  let number := "errno " ++ Numeral.ofInt f.code.toInt
  match f.errno? with
  | some e => e.name ++ " (" ++ number ++ ")"
  | none => number

/-- The failure as it is shown in a dump of a data structure. -/
def dump (f : Failure) : String :=
  "PosixError \x7b code: " ++ Numeral.ofInt f.code.toInt ++ " \x7d"

end Failure

end PosixBridge
