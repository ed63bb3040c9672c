import HostWatch.Command.Arguments
import HostWatch.Config.Problem
import HostWatch.Config.Store
import HostWatch.Display.Config
import HostWatch.Display.Status
import HostWatch.Json.Printer
import HostWatch.Rule.Report
import HostWatch.Watch.Basic
import HostWatch.Watch.Endpoint
import HostWatch.Watch.Sampler
/-!
# Running the command

A run takes its arguments and surroundings, and yields an exit code, what is printed, what is
reported, and the files as they are afterwards.  Waiting is part of the surroundings: the samples
are given, and the clock moves by what would have been waited.
-/

namespace HostWatch

namespace Command

/-- What a run depends on besides its arguments. -/
structure Surroundings where
  /-- The environment. -/
  environment : Environment
  /-- The home of the account, for an environment that names no home. -/
  accountHome : Option String
  /-- What is printed goes to a terminal. -/
  terminal : Bool
  /-- The directory where paths start. -/
  directory : Path
  /-- The files. -/
  files : FileTree
  /-- When the run starts. -/
  start : Instant
  /-- What each run of the sampling script prints. -/
  output : Nat → Sampler.Output
  /-- How many samples are taken until the machine is no longer watched. -/
  ticks : Nat
  /-- The replies to the requests of each tick. -/
  replies : Nat → Nat → Channel.Reply

/-- Why a task fails. -/
inductive Failure where
  /-- The usual configuration file has no place. -/
  | noPlace
  /-- The configuration cannot be loaded or saved. -/
  | store (cause : Config.StoreError)
  /-- The configuration has problems. -/
  | problems (count : Nat) (path : String)
  /-- The sampling script cannot be put in place. -/
  | install
  /-- There is no sample. -/
  | sample (reason : String)
  /-- The sample cannot be applied. -/
  | status (cause : StatusError)
  /-- The status page cannot be served. -/
  | endpoint (cause : Endpoint.Failure)

namespace Failure

/-- What failed, without causes. -/
def message : Failure → String
  | noPlace => "Could not determine config directory"
  | store cause => cause.messages.headD ""
  | problems count path => Display.countText count ++ " in " ++ path
  | install => "Failed to install the sampling script"
  | sample reason => Sampler.errorText reason
  | status cause => cause.message
  | endpoint cause => cause.message

end Failure

/-- What comes of a task. -/
structure Outcome where
  /-- Whether the task failed. -/
  result : Except Failure Unit
  /-- What is printed. -/
  stdout : String
  /-- What is reported. -/
  log : Log
  /-- The files afterwards. -/
  files : FileTree

/-! ## Surroundings -/

/-- Colors are wanted: if they are asked for, or else if they are not refused and a terminal is
there. -/
def colors (env : Environment) (terminal : Bool) : Bool :=
  match env.lookup "CLICOLOR_FORCE", env.lookup "NO_COLOR" with
  | none, some _ | some "0", some _ => false
  | none, none | some "0", none => terminal && env.lookup "CLICOLOR" ≠ some "0"
  | some _, _ => true

/-- The home: the one that the environment names, or else that of the account. -/
def home? (env : Environment) (accountHome : Option String) : Option String :=
  match env.lookup "HOME" with
  | none | some "" => accountHome
  | some home => some home

/-- The directory of configurations: a full path that is named for it, or one at home. -/
def configDirectory? (env : Environment) (accountHome : Option String) : Option String :=
  let atHome := (home? env accountHome).map fun home ↦ Path.joinText home ".config"
  match env.lookup "XDG_CONFIG_HOME" with
  | none => atHome
  | some path => if path.toList.head? = some '/' then some path else atHome

/-- The usual configuration file. -/
def usualConfig? (env : Environment) (accountHome : Option String) : Option String :=
  (configDirectory? env accountHome).map fun directory ↦
    Path.joinText (Path.joinText directory "boxwatch") "config.json"

namespace Surroundings

/-- Colors are wanted. -/
def colors (s : Surroundings) : Bool := Command.colors s.environment s.terminal

/-- A place that a text means. -/
def location (s : Surroundings) (text : String) : Location := ⟨text, s.directory⟩

end Surroundings

/-- The names of the environment that a run looks at. -/
def environmentNames : List String :=
  ["HOME", "XDG_CONFIG_HOME", "BOXWATCH_ADDR", "BOXWATCH_TLS_CRT", "BOXWATCH_TLS_KEY",
    "CLICOLOR", "CLICOLOR_FORCE", "NO_COLOR"]

/-- The files that a configuration file comes with: itself, its backup, the sampling script and
the last sample. -/
def configFiles (l : Location) : List Location :=
  [l, Config.backup l, l.parent.child Sampler.scriptName, l.parent.child Sampler.outputName]

/-- The files that a task names itself. -/
def Task.files (directory : Path) : Task → List Location
  | .serve _ (some (crt, key)) => [⟨crt, directory⟩, ⟨key, directory⟩]
  | _ => []

/-- The files that an invocation may read or write. -/
def Invocation.files (env : Environment) (accountHome : Option String) (directory : Path)
    (i : Invocation) : List Location :=
  i.task.files directory ++ match i.config <|> usualConfig? env accountHome with
    | some path => configFiles ⟨path, directory⟩
    | none => []

/-- The task takes samples. -/
def Task.samples : Task → Bool
  | .serve .. | .status _ => true
  | _ => false

/-! ## Tasks -/

/-- Nothing but a text is printed. -/
def say (s : Surroundings) (text : String) : Outcome := ⟨.ok (), text, [], s.files⟩

/-- What is said without a task. -/
def welcome : String :=
  Display.line "Welcome to boxwatch!" ++
    Display.line "Use 'boxwatch --help' for more information."

/-- The version. -/
def versionText : String := Display.line "boxwatch version 0.1.0"

/-- How the command is used. -/
def usage : String :=
  String.join (List.map Display.line
    ["Usage: boxwatch [-v] [-c FILE] [serve|conf|status|version]",
      "",
      "  serve [-a HOST:PORT] [--crt FILE --key FILE]  watch and serve the status",
      "  conf init [-f]                                write a fresh configuration",
      "  conf check                                    judge the configuration",
      "  status [--json]                               sample twice and show the status",
      "  version                                       name the version"])

/-- Write a fresh configuration, not over another one unless that is wanted. -/
def init (s : Surroundings) (l : Location) (force : Bool) : Outcome :=
  if s.files.exists? l ∧ !force then
    say s (Display.warning s.colors ("Config already exists at " ++ l.text) ++
      Display.line (paint s.colors .dimmed "Use --force to overwrite it."))
  else match Config.fresh.save l s.files with
    | (.error e, files) => ⟨.error (.store e), "", [], files⟩
    | (.ok (), files) =>
      ⟨.ok (), Display.line (paint s.colors (.ofColor .green) "✓ Default config written to:" ++
        " " ++ paint s.colors (.boldIn .cyan) l.text), [], files⟩

/-- Show a configuration and its problems. -/
def check (s : Surroundings) (l : Location) : Outcome :=
  match Config.load l s.files with
  | (.error e, files) => ⟨.error (.store e), "", [], files⟩
  | (.ok c, files) =>
    let (text, log) := Display.config s.colors l.text c
    match c.problems with
    | [] => ⟨.ok (), text, log, files⟩
    | problems =>
      ⟨.error (.problems problems.length l.text),
        text ++ String.join (problems.map fun p ↦ Display.failure s.colors ("  " ++ p.text)),
        log, files⟩

/-- Take a sample and apply it to a status. -/
def takeSample (data : Location) (output : Sampler.Output) (span : Duration) (status : Status)
    (files : FileTree) : Except Failure Status × FileTree × Log :=
  match Sampler.sample data output files with
  | (.error reason, files, log) => (.error (.sample reason), files, log)
  | (.ok raw, files, log) =>
    match status.applyOutput raw span with
    | .error e => (.error (.status e), files, log)
    | .ok (status, applyLog) => (.ok status, files, log ++ applyLog)

/-- The status after two samples that are one interval apart. -/
def sampleTwice (s : Surroundings) (data : Location) (interval : Duration) (files : FileTree) :
    Except Failure Status × FileTree × Log :=
  match takeSample data (s.output 0) interval .empty files with
  | (.error e, files, log) => (.error e, files, log)
  | (.ok status, files, log) =>
    let (result, files, laterLog) := takeSample data (s.output 1) interval status files
    (result, files, log ++ laterLog)

/-- A status and what became of the rules, for a program to read. -/
def statusText (c : Config) (status : Status) (now : Instant) : String :=
  Display.line (Json.pretty (.object [("status", (status.summary c.name).encode),
    ("rules", .array (c.rules.map fun r ↦ (r.report status now).encode))]))

/-- Show the status and what became of the rules. -/
def showStatus (s : Surroundings) (l : Location) (json : Bool) : Outcome :=
  match Config.load l s.files with
  | (.error e, files) => ⟨.error (.store e), "", [], files⟩
  | (.ok c, files) =>
    match Sampler.install? l.parent files with
    | none => ⟨.error .install, "", [], files⟩
    | some files =>
      let (interval, log) := c.effectiveInterval
      let announcement :=
        if json then ""
        else Display.info s.colors ("Sampling twice, " ++ interval.secondsText ++ " apart...")
      let (result, files, sampleLog) := sampleTwice s l.parent interval files
      match result with
      | .error e => ⟨.error e, announcement, log ++ sampleLog, files⟩
      | .ok status =>
        let now := s.start.after interval
        let text :=
          if json then statusText c status now
          else Display.status s.colors (status.summary c.name) status ++
            Display.verdicts s.colors c.rules status now
        ⟨.ok (), announcement ++ text, log ++ sampleLog, files⟩

/-- Watch the machine for some ticks, of which some are past. -/
def watchFor (s : Surroundings) (data : Location) (past : Nat) :
    Nat → Watch → Instant → FileTree → Watch × FileTree × Log
  | 0, w, _, files => (w, files, [])
  | ticks + 1, w, now, files =>
    let (sample, files, sampleLog) := Sampler.sample data (s.output past) files
    let (w, report) := w.tick now sample (s.replies past)
    let (w, files, log) := watchFor s data (past + 1) ticks w (now.after w.interval) files
    (w, files, sampleLog ++ report.log ++ log)

/-- Watch the machine, with its status served. -/
def serve (s : Surroundings) (l : Location) (e : Endpoint) : Outcome :=
  match Config.load l s.files with
  | (.error cause, files) => ⟨.error (.store cause), "", [], files⟩
  | (.ok c, files) =>
    let problemLog := c.problems.map fun p ↦ LogEntry.warn ("Config problem, " ++ p.text)
    match Sampler.install? l.parent files with
    | none => ⟨.error .install, "", problemLog, files⟩
    | some files =>
      let (w, watchLog) := Watch.ofConfig c
      match e.check s.directory files with
      | .error cause => ⟨.error (.endpoint cause), "", problemLog ++ watchLog, files⟩
      | .ok () =>
        let (_, files, log) := watchFor s l.parent 0 s.ticks w s.start files
        ⟨.ok (), "", problemLog ++ watchLog ++ log, files⟩

/-- A task that is about a configuration file: the one that is named, or else the usual one. -/
def withConfig (s : Surroundings) (named : Option String) (task : Location → Outcome) : Outcome :=
  match named <|> usualConfig? s.environment s.accountHome with
  | some path => task (s.location path)
  | none => ⟨.error .noPlace, "", [], s.files⟩

/-- Do what is asked for. -/
def perform (s : Surroundings) (i : Invocation) : Outcome :=
  match i.task with
  | .welcome => say s welcome
  | .version => say s versionText
  | .help => say s usage
  | .serve addr tls => withConfig s i.config fun l ↦ serve s l ⟨addr, tls⟩
  | .init force => withConfig s i.config fun l ↦ init s l force
  | .check => withConfig s i.config (check s)
  | .status json => withConfig s i.config fun l ↦ showStatus s l json

/-- Run the command, unless its arguments cannot be read. -/
def run? (s : Surroundings) (arguments : List String) : Option Outcome :=
  (read? s.environment arguments).map (perform s)

/-- The exit code of a run. -/
def exitCode : Option Outcome → Nat
  | none => 2
  | some o => match o.result with
    | .ok () => 0
    | .error _ => 1

end Command

end HostWatch
