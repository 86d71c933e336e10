import PosixBridge.Overflow

/-!
# The overflow fixture as a program

Checks the boundary table, complains on standard error about the first wrong row, and
exits with the fixture's status.
-/

/-- Runs the fixture on the boundary table. -/
def main : IO UInt32 := do
  let verdict := PosixBridge.Overflow.verdict PosixBridge.Overflow.boundaryRows
  (← IO.getStderr).putStr verdict.stderr
  return verdict.exit.toUInt32
