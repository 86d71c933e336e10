import PosixBridge.Procedure

/-!
# Hosts

A host is what its operations do: each takes the arguments of its prototype, may run for
as long as it likes, set errno, even call back into the bridge, and answers with a word of
the type the host declares. The types are those of a 64-bit Linux host.

`Host.scripted` is a host whose operations all do the same thing, for running a program
without a real host behind it.
-/

namespace PosixBridge

/-- A host, as what each of its operations does with its arguments. -/
def Host := (op : Operation) → Arguments op.parameters → Procedure op.hostResult.Word

namespace Host

open Procedure

/-- No operation answers in more than 64 bits. -/
theorem setWidth_answer (op : Operation) (v : op.hostResult.Word) :
    (v.setWidth 64).setWidth op.hostResult.width = v := by
  rw [BitVec.setWidth_setWidth_of_le _ op.hostResult.ctype.width_le, BitVec.setWidth_eq]

/-- The host that answers every call by reporting it, running `body`, and returning as
many low bits of `answer` as the operation's result has. -/
def scripted (answer : BitVec 64) (body : Procedure Unit) : Host := fun op args => do
  report (.host op args)
  body
  return answer.setWidth op.hostResult.width

end Host

end PosixBridge
