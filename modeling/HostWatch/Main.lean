import HostWatch.Command.Account
import HostWatch.Command.Run
import Std.Time.DateTime.Timestamp
/-!
# The command line

Arguments, environment, files and the clock are read here and handed to the command, and what comes
of it is written.  What the sampling script prints is read from standard input, one run after
another with a form feed between them.  Nothing is sent: requests stay without a reply.
-/

namespace HostWatch

namespace CommandLine

/-- The environment, as far as it matters. -/
def environment : IO Command.Environment :=
  Command.environmentNames.filterMapM fun name ↦ do
    return (← IO.getEnv name).map (name, ·)

/-- The home of the account. -/
def accountHome : IO (Option String) := do
  try
    let description ← IO.FS.readFile "/proc/self/status"
    let accounts ← IO.FS.readFile "/etc/passwd"
    return ((Account.number? description.toList).bind fun number ↦
      Account.home? number accounts.toList).map String.ofList
  catch _ => return none

/-- What is opened: a directory has nothing to read in it. -/
def content (opened : IO.FS.Handle) : IO Entry := do
  try
    return .file (← opened.readBinToEnd)
  catch _ => return .directory

/-- What stands at a path. -/
def entry? (p : Path) : IO (Option (Path × Entry)) := do
  try
    return some (p, ← content (← IO.FS.Handle.mk p.text .read))
  catch _ => return none

/-- The files that may matter to a run in a directory. -/
def files (directory : Path) (locations : List Location) : IO FileTree := do
  let found ← (locations.flatMap Location.trail).filterMapM entry?
  return found.foldl (fun t e ↦ t.set e.1 e.2) (.ofDirectory directory)

/-- Put something at a path. -/
def put (p : Path) : Entry → IO Unit
  | .file content => IO.FS.writeBinFile p.text content
  | .directory => IO.FS.createDirAll p.text

/-- The samples on standard input. -/
def samples : IO (List Sampler.Output) := do
  let text ← (← IO.getStdin).readToEnd
  return (splitAtPiece ['\x0c'] text.toList).map fun s ↦ ⟨encodeBytes s, []⟩

/-- The time. -/
def now : IO Instant := do
  return ⟨(← Std.Time.Timestamp.now).toNanosecondsSinceUnixEpoch.val⟩

/-- Write what was reported, and why the task failed. -/
def complain (o : Command.Outcome) : IO Unit := do
  for e in o.log do
    IO.eprintln (match e.level with
      | .warn => "WARN " ++ e.text
      | .error => "ERROR " ++ e.text)
  if let .error cause := o.result then
    IO.eprintln ("Error: " ++ cause.message)

/-- Do what is asked for, and yield the exit code. -/
def perform (env : Command.Environment) (i : Command.Invocation) : IO Nat := do
  let directory := (Path.stepsIn (← IO.currentDir).toString).foldl Path.follow []
  let home ← accountHome
  let before ← files directory (i.files env home directory)
  let taken ← if i.task.samples then samples else pure []
  let surroundings : Command.Surroundings :=
    { environment := env
      accountHome := home
      terminal := ← (← IO.getStdout).isTty
      directory
      files := before
      start := ← now
      output := fun n ↦ taken[n]?.getD ⟨[], []⟩
      ticks := taken.length
      replies := fun _ _ ↦ none }
  let outcome := Command.perform surroundings i
  for (p, e) in before.changes outcome.files do
    put p e
  IO.print outcome.stdout
  complain outcome
  return Command.exitCode (some outcome)

/-- Read the arguments and do what they ask for. -/
def run (arguments : List String) : IO Nat := do
  let env ← environment
  match Command.read? env arguments with
  | some i => perform env i
  | none =>
    IO.eprint Command.usage
    return Command.exitCode none

end CommandLine

end HostWatch

/-- The command. -/
def main (arguments : List String) : IO UInt32 := do
  return UInt32.ofNat (← HostWatch.CommandLine.run arguments)
