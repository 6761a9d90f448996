import EditorAssist.Launch
import Std.Time.DateTime.Timestamp

/-! # The program

Reads the command line and the environment, and says what is started or why nothing is. -/

namespace EditorAssist.Log

/-- The moment at which the program runs. -/
def Moment.now : IO Moment := do
  let time ← Std.Time.Timestamp.now
  let milliseconds : Int := time.toMillisecondsSinceUnixEpoch.val
  return ⟨milliseconds / 1000, (milliseconds % 1000 : Int)⟩

end EditorAssist.Log

/-- Runs the program on its arguments. -/
def main (arguments : List String) : IO UInt32 := do
  match EditorAssist.CommandLine.parse arguments with
  | .error stop =>
    IO.print stop.output
    IO.eprint stop.errors
    return stop.exitCode.toUInt32
  | .ok request =>
    let value ← IO.getEnv EditorAssist.Environment.packageModulesVariable
    match EditorAssist.Environment.ofValue value with
    | .error e =>
      IO.eprintln e.message
      return 1
    | .ok environment =>
      match EditorAssist.Launch.ofRequest request environment with
      | .error e =>
        IO.eprintln e.message
        return 1
      | .ok launch =>
        let inColor ← (← IO.getStderr).isTty
        IO.eprint (launch.errors inColor (← EditorAssist.Log.Moment.now))
        return 0
