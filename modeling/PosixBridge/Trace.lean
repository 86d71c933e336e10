import PosixBridge.Arguments
import PosixBridge.State

/-!
# What a run leaves behind

A run reports what happened in it as a list of events, each with the errno of the running
thread just after it. The full trace also marks the points where a scope or a thread is
entered and left, which no event shows when a panic leaves them. `Trace.events` forgets
these marks.
-/

namespace PosixBridge

/-- What an exported operation gives back: its result, and what it wrote. -/
structure Reply (t : ReturnType) where
  value : t.Word
  output : Output

/-- The things that are reported. The number of a slot is absent where the slot was not in
the condition that the step needs: free for `capture`, in use for `saved` and `drop`. -/
inductive Report
  | set (value : Int32)
  /-- A call was made and answered with an encoded result. -/
  | call (type : ReturnType) (result : type.Word)
  /-- A guarded scope ended normally; errno was `inner` at its end. -/
  | guard (saved inner : Int32)
  | capture (slot : String) (value : Option Int32)
  | saved (slot : String) (value : Option Int32)
  | drop (slot : String) (value : Option Int32)
  | host (op : Operation) (args : Arguments op.parameters)
  | posix (op : Operation) (reply : Reply op.result)
  | stub (op : Operation) (reply : Reply op.result)
  | log (settings : LogSettings)
  | panic
  /-- A panic reached the end of the program. -/
  | uncaught
  | recover (panicked : Bool)
  /-- A thread ended with errno `inner`. -/
  | thread (inner : Int32)

/-- A report with the running thread's errno just after it. -/
structure Event where
  report : Report
  errno : Int32

/-- What a run can be inside of. -/
inductive Frame
  /-- A scope that restores errno when it is left. -/
  | keeping
  | thread
  deriving DecidableEq, Repr

/-- A point of a run: a report, or the way into a frame or out of it. -/
inductive Point
  | reported (report : Report)
  | entered (frame : Frame)
  | left (frame : Frame)

/-- A point of a run with the running thread's errno just after it. -/
structure Mark where
  point : Point
  errno : Int32

/-- The event at a point, if something is reported there. -/
def Mark.event? (m : Mark) : Option Event :=
  match m.point with
  | .reported report => some ⟨report, m.errno⟩
  | .entered _ | .left _ => none

/-- The points of a run, in order. -/
abbrev Trace := List Mark

/-- The events of a trace, in order. -/
def Trace.events (trace : Trace) : List Event := trace.filterMap Mark.event?

end PosixBridge
