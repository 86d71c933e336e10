import PosixBridge.Host
import PosixBridge.Platform

/-!
# The bridge to the host

Each exported operation makes one call to the host, with the arguments it was given, and
returns the answer. Two things tell the exported operation from the host's own:

* a failure is in the returned word (`ReturnType.inBand`), and
* errno is left as it was found, because `keepErrno` writes back on every way out the
  number it read on the way in.

`call` is the step from one convention to the other, `forward` applies it to an operation,
`stub` stands in where no host can be called, and `exported` is what a build exports.

The native build described here is that of a 64-bit Linux host: each operation calls the
host's operation of its own name, and `ioctl` passes its request on as an unsigned long.
Other systems of `Platform.nativeSystems` differ in two ways, which are left out. They have
no `dup3`, `pipe2` and `sendfile` to call, so the first two become `dup2` and `pipe` without
the flags and the third fails with `ENOSYS`; and some take the request as an int.

The log and standard error, to which a stub writes, are idealised: writing never fails and
never panics, and it leaves errno alone.
-/

namespace PosixBridge.Bridge

open Procedure

variable {α : Type}

/-- Runs `body` and restores the errno it started with, on every way out. -/
def keepErrno (body : Procedure α) : Procedure α := do
  let saved ← getErrno
  mark (.entered .keeping)
  ensuring body (do setErrno saved; mark (.left .keeping))

/-- Makes a call in the host's convention and returns its result in the bridge's: the code
in errno takes the place of the sentinel, and errno is kept. -/
def call (t : ReturnType) (raw : Procedure t.Word) : Procedure t.Word :=
  keepErrno do
    let v ← raw
    return t.inBand v (← getErrno)

/-- Calls the host's operation with the given arguments and tells its failure in band. -/
def forward (host : Host) (op : Operation) (args : Arguments op.parameters) :
    Procedure op.result.Word :=
  call op.result (op.ofHost <$> host op args)

/-- Refuses an operation: says so in a diagnostic and fails with `ENOSYS`. The arguments
are not looked at. -/
def stub (op : Operation) (_args : Arguments op.parameters) :
    Procedure (Reply op.result) := do
  let settings := (← getState).log
  return ⟨op.result.encode Errno.ENOSYS.code,
    .diagnostic settings (Diagnostic.message op.name)⟩

/-- The operation as the given build exports it. -/
def exported (build : Build) (host : Host) (op : Operation)
    (args : Arguments op.parameters) : Procedure (Reply op.result) :=
  match build with
  | .native => return ⟨← forward host op args, .silent⟩
  | .unsupported => stub op args

end PosixBridge.Bridge
