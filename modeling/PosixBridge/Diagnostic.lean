import PosixBridge.Operation

/-!
# Diagnostics

An operation that this build cannot perform says so in one line. The line goes to the
log when the log takes warnings for the bridge's target, and to standard error otherwise,
so that it is never lost and never told twice: `Output.diagnostic` fills exactly one of
the two channels.

Both channels are idealised. What is sent arrives: a logger takes every record that it says
it takes, writing to standard error never fails, and neither touches errno.
-/

namespace PosixBridge

/-- The severities of log records, the gravest first. -/
inductive LogLevel
  | error | warn | info | debug | trace
  deriving DecidableEq, Repr

namespace LogLevel

/-- The name of the level, as a log writes it. -/
def name : LogLevel → String
  | .error => "ERROR"
  | .warn => "WARN"
  | .info => "INFO"
  | .debug => "DEBUG"
  | .trace => "TRACE"

/-- How verbose a log is that shows this level and all graver ones. -/
def verbosity : LogLevel → Nat
  | .error => 1
  | .warn => 2
  | .info => 3
  | .debug => 4
  | .trace => 5

end LogLevel

/-- Which targets the installed logger takes records for. -/
inductive Accept
  | everything
  | only (target : String)
  deriving DecidableEq, Repr

namespace Accept

/-- Whether a record for the given target is taken; a target is met exactly or not at all. -/
def allows : Accept → String → Bool
  | .everything, _ => true
  | .only accepted, target => accepted == target

end Accept

/-- The settings of the log: the most verbose level it shows, if it shows any, and the
targets it accepts. -/
structure LogSettings where
  max : Option LogLevel
  accept : Accept
  deriving DecidableEq, Repr

namespace LogSettings

/-- The settings before anybody has changed them: the log is off. -/
def initial : LogSettings := ⟨none, .everything⟩

/-- Whether a record of the given level and target reaches the log. -/
def enabled (s : LogSettings) (level : LogLevel) (target : String) : Bool :=
  (match s.max with
    | none => false
    | some max => level.verbosity ≤ max.verbosity) && s.accept.allows target

/-- The name of the most verbose level shown. -/
def maxName (s : LogSettings) : String :=
  match s.max with
  | none => "OFF"
  | some level => level.name

end LogSettings

/-- A record that has reached the log. -/
structure LogRecord where
  level : LogLevel
  target : String
  message : String
  deriving DecidableEq, Repr

/-- What a call wrote besides its result. -/
structure Output where
  records : List LogRecord
  stderr : String
  deriving DecidableEq, Repr

namespace Diagnostic

/-- The target that the bridge logs under. -/
def target : String := "lind_posix"

/-- What is said of every operation that cannot be performed. -/
def notice : String := "Syscalls not supported on this OS."

/-- The notice for the operation of the given name. -/
def message (operation : String) : String := notice ++ " (" ++ operation ++ ")"

end Diagnostic

namespace Output

def silent : Output := ⟨[], ""⟩

/-- A diagnostic, sent to the one channel that the settings choose. -/
def diagnostic (s : LogSettings) (message : String) : Output :=
  if s.enabled .warn Diagnostic.target then
    ⟨[⟨.warn, Diagnostic.target, message⟩], ""⟩
  else
    ⟨[], message ++ "\n"⟩

end Output

end PosixBridge
