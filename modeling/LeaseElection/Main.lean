import Std.Time.DateTime.Timestamp
import LeaseElection.Election.Resolution
import LeaseElection.Lock.Memory
import LeaseElection.Process.Launch

/-!
# The command

Takes part in an election until it is over. Records are kept in the process; no broker is in reach
of the command, since there is no transport to one here.
-/
namespace LeaseElection.Command

def environment : IO (List (String × String)) := do
  let values ← Setting.all.mapM fun s => do
    return (← IO.getEnv s.environmentName).map fun value => (s.environmentName, value)
  return values.filterMap id

def readText (path : String) : IO (Except String String) := do
  try
    return .ok (← IO.FS.readFile path)
  catch
    | .noFileOrDirectory .. => return .error FileFault.notFound.message
    | e => return .error (toString e)

def site (s : Settings) : IO LaunchSite := do
  let hostName ← readText "/proc/sys/kernel/hostname"
  let unique := UniqueName.text (← IO.getRandomBytes 16).toList
  let content ← readText s.election.namespaceFile
  return ⟨.empty, ⟨hostName, unique, fun _ => content⟩, false⟩

def wall : IO Instant := do
  let now ← Std.Time.Timestamp.now
  return (Instant.ofNanoseconds? now.toNanosecondsSinceUnixEpoch.val).getD Instant.epoch

partial def run (p : Process) (store : MemoryStore) : IO UInt32 := do
  let now ← IO.monoNanosNow
  match p.stage, p.call with
  | .ended status, _ => return status.code.toUInt32
  | _, some call =>
    let (answer, store) := store.call p.config.key call
    run (p.react now (← wall) (.answered answer)) store
  | _, none =>
    match p.next? true with
    | none => return ExitStatus.failure.code.toUInt32
    | some (due, signal) =>
      if now < due then IO.sleep ((due - now) / 1000000 + 1).toUInt32
      run (p.react (← IO.monoNanosNow) (← wall) signal) store

def refuse (fault : LaunchFault) : IO UInt32 := do
  match fault with
  | .usage .help => Setting.all.forM fun s => IO.println ("  " ++ s.usage)
  | _ => IO.eprintln fault.message
  return fault.status.code.toUInt32

end LeaseElection.Command

open LeaseElection LeaseElection.Command in
def main (arguments : List String) : IO UInt32 := do
  match Settings.ofArguments arguments (← environment) with
  | .error e => refuse (.usage e)
  | .ok settings =>
    let now ← IO.monoNanosNow
    match (← site settings).launchWith settings none now with
    | (.ok launched, _) => run (launched.process.start now (← wall)) .empty
    | (.error fault, _) => refuse fault
