import HomeHub.Startup
import Std.Async.Signal

/-!
The program: it starts a hub as the configuration file says, and runs until it is interrupted.
-/

namespace HomeHub

def findFile (path : String) : IO File := do
  try
    return .content (← IO.FS.readBinFile path)
  catch
    | .noFileOrDirectory .. => return .absent
    | _ => return .unreadable

def waitForInterrupt : IO Unit := do
  let interrupt ← Std.Async.Signal.Waiter.mk .sigint false
  let _ ← (← interrupt.wait).block

end HomeHub

open HomeHub in
def main (args : List String) : IO UInt32 := do
  let path := args.headD Startup.defaultPath
  let file ← findFile path
  let (result, lines) := (Startup.start { surroundings := .simulated } path file).run.run []
  lines.forM fun line => IO.println line.text
  match result with
  | .error error =>
    IO.eprintln (Startup.complaint error)
    return 1
  | .ok _ =>
    waitForInterrupt
    IO.println Startup.farewell.text
    return 0
