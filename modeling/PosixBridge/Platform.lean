/-!
# Which build a platform gets

The library is built natively where the host is one of the systems whose errno it knows
how to reach, unless the builder asks for the unsupported build. Both are read from raw
environment values: the name of the target system, which must be well-formed text to mean
anything, and the request, which counts as made as soon as it is set to anything at all.

`Platform.directives` are the lines that tell the build tool the outcome. That a system is
listed says which build it gets, and no more: what a native build does is described for 64-bit
Linux alone (`PosixBridge.Bridge`).
-/

namespace PosixBridge

/-- The two ways to build the library. -/
inductive Build
  /-- Operations are forwarded to the host. -/
  | native
  /-- No operation can be performed. -/
  | unsupported
  deriving DecidableEq, Repr

/-- What the build's environment says, each value absent if it is not set. -/
structure Platform where
  /-- The name of the system that is built for. -/
  system : Option ByteArray
  /-- The request for the unsupported build. -/
  unsupported : Option ByteArray

namespace Platform

/-- The systems with a native build. -/
def nativeSystems : List String :=
  ["linux", "android", "macos", "ios", "freebsd", "netbsd", "openbsd"]

/-- The name of the target system as text, empty if it is not set or not well-formed. -/
def systemName (p : Platform) : String := (p.system.bind String.fromUTF8?).getD ""

/-- The build for a platform: native on a listed system, unless the other one is requested. -/
def build (p : Platform) : Build :=
  if p.unsupported.isNone && nativeSystems.contains p.systemName then .native
  else .unsupported

/-- The line that turns the native build on. -/
def nativeDirective : String := "cargo:rustc-cfg=lind_native_posix"

/-- The lines that every build prints. -/
def fixedDirectives : List String :=
  ["cargo:rerun-if-changed=build.rs",
   "cargo:rustc-check-cfg=cfg(lind_native_posix)"]

/-- All lines that a build prints, in order. -/
def directives (p : Platform) : List String :=
  match p.build with
  | .native => fixedDirectives ++ [nativeDirective]
  | .unsupported => fixedDirectives

end Platform

end PosixBridge
