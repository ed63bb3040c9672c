import HostWatch.Text.Search
/-!
# Arguments of the command

The command has subcommands, and each level has options of its own besides the configuration file,
which every level takes.  An option has a name and maybe letters; its value is attached or stands
next.  No option stands twice on a level, and nothing else stands beside them.
-/

namespace HostWatch

namespace Command

/-- Where options are given. -/
inductive Level where
  | root | serve | conf | init | check | status | version
  deriving DecidableEq, Repr

/-- The options. -/
inductive Key where
  | version | config | help | address | certificate | privateKey | force | json
  deriving DecidableEq, Repr

/-- How an option is given. -/
structure Choice where
  /-- The option. -/
  key : Key
  /-- Its name after two hyphens. -/
  name : String
  /-- Its letters after one hyphen. -/
  letters : List Char
  /-- It has a value. -/
  valued : Bool

/-- The options of every level. -/
def commonChoices : List Choice :=
  [⟨.config, "config", ['c'], true⟩, ⟨.help, "help", ['h'], false⟩]

/-- The options of a level. -/
def Level.choices : Level → List Choice
  | root => ⟨.version, "version", ['v', 'V'], false⟩ :: commonChoices
  | serve =>
    [⟨.address, "addr", ['a'], true⟩, ⟨.certificate, "crt", [], true⟩,
      ⟨.privateKey, "key", [], true⟩] ++ commonChoices
  | init => ⟨.force, "force", ['f'], false⟩ :: commonChoices
  | status => ⟨.json, "json", [], false⟩ :: commonChoices
  | conf | check | version => commonChoices

/-- The subcommands of a level. -/
def Level.subcommands : Level → List (String × Level)
  | root => [("serve", serve), ("conf", conf), ("status", status), ("version", version)]
  | conf => [("init", init), ("check", check)]
  | _ => []

/-- Options that are given, with their values. -/
abbrev Given := List (Key × String)

/-- The value of an option. -/
def value? (key : Key) (given : Given) : Option String := given.lookup key

/-- The option is given. -/
def isGiven (key : Key) (given : Given) : Bool := (value? key given).isSome

/-- The value of the option names a file. -/
def Key.namesFile : Key → Bool
  | config | certificate | privateKey => true
  | _ => false

/-- The value can be given to the option: a file has a name. -/
def Key.takes (key : Key) (value : String) : Bool := !key.namesFile || value ≠ ""

/-- What is read on a level. -/
structure Reading where
  /-- The options that are accepted. -/
  given : Given
  /-- The last option, if its value stood next to it: it is accepted when the level goes on to
  another option or ends. -/
  pending : Option (Key × String)

namespace Reading

/-- Nothing is read. -/
def empty : Reading := ⟨[], none⟩

/-- Accept an option, unless it is there already or does not take the value. -/
def accept? (r : Reading) (key : Key) (value : String) : Option Reading :=
  if isGiven key r.given ∨ !key.takes value then none
  else some { r with given := r.given ++ [(key, value)] }

/-- Accept what is pending. -/
def settle? (r : Reading) : Option Reading :=
  match r.pending with
  | none => some r
  | some (key, value) => accept? { r with pending := none } key value

/-- Accept an option after what is pending. -/
def give? (r : Reading) (key : Key) (value : String) : Option Reading :=
  r.settle?.bind (·.accept? key value)

end Reading

/-- An argument that cannot be the value of the option before it. -/
def isOption (argument : List Char) : Bool :=
  match argument with
  | '-' :: _ :: _ => true
  | _ => false

/-- Give an option a value that stands next. -/
def takeNext? (r : Reading) (key : Key) : List String → Option (Reading × List String)
  | [] => none
  | next :: rest =>
    if isOption next.toList then none
    else r.settle?.map fun r ↦ ({ r with pending := some (key, next) }, rest)

/-- Read letters after one hyphen; the first with a value takes what is attached to it, or else
what stands next.  What follows a cry for help does not matter. -/
def readLetters? (level : Level) (r : Reading) (rest : List String) :
    List Char → Option (Reading × List String)
  | [] => some (r, rest)
  | c :: letters =>
    match level.choices.find? fun choice ↦ choice.letters.contains c with
    | none => none
    | some choice =>
      if choice.valued then
        match letters with
        | [] => takeNext? r choice.key rest
        | '=' :: value => (r.give? choice.key (.ofList value)).map (·, rest)
        | value => (r.give? choice.key (.ofList value)).map (·, rest)
      else
        match r.give? choice.key "" with
        | none => none
        | some r => if choice.key = .help then some (r, rest) else readLetters? level r rest letters

/-- Read a name after two hyphens. -/
def readName? (level : Level) (r : Reading) (rest : List String) (argument : List Char) :
    Option (Reading × List String) :=
  let (name, attached) := match splitFirst '=' argument with
    | some (name, value) => (name, some value)
    | none => (argument, none)
  match level.choices.find? fun choice ↦ choice.name.toList = name with
  | none => none
  | some choice =>
    match choice.valued, attached with
    | true, some value => (r.give? choice.key (.ofList value)).map (·, rest)
    | true, none => takeNext? r choice.key rest
    | false, some _ => none
    | false, none => (r.give? choice.key "").map (·, rest)

/-- The levels that are gone through, the last one first, each with what is read on it. -/
abbrev Levels := List (Level × Reading)

/-- The words lead to a subcommand, or in the end to the one that explains. -/
def leadsOn : Level → List String → Bool
  | _, [] => true
  | level, word :: rest =>
    match level.subcommands.lookup word with
    | some sub => leadsOn sub rest
    | none => word = "help" && rest.isEmpty && !level.subcommands.isEmpty

/-- Read the arguments that follow on a level.  What follows a cry for help does not matter. -/
def readLevels? (outer : Levels) (level : Level) (r : Reading) (arguments : List String) :
    Option Levels :=
  if isGiven .help r.given then some ((level, r) :: outer)
  else match arguments with
  | [] => some ((level, r) :: outer)
  | argument :: rest =>
    let goOn (result : Option (Reading × List String)) : Option Levels :=
      match result with
      | none => none
      | some (r, remaining) =>
        if _h : remaining.length ≤ rest.length then readLevels? outer level r remaining else none
    match argument.toList with
    | ['-', '-'] => if rest.isEmpty then some ((level, r) :: outer) else none
    | '-' :: '-' :: name => goOn (readName? level r rest name)
    | '-' :: c :: letters => goOn (readLetters? level r rest (c :: letters))
    | _ =>
      match level.subcommands.lookup argument with
      | some sub => readLevels? ((level, r) :: outer) sub .empty rest
      | none =>
        if argument = "help" ∧ !level.subcommands.isEmpty ∧ leadsOn level rest then
          some ((level, { r with given := (.help, "") :: r.given }) :: outer)
        else none
termination_by arguments.length

/-- What is to be done. -/
inductive Task where
  /-- Say hello. -/
  | welcome
  /-- Name the version. -/
  | version
  /-- Explain the command. -/
  | help
  /-- Watch the machine and serve its status. -/
  | serve (addr : String) (tls : Option (String × String))
  /-- Write a fresh configuration. -/
  | init (force : Bool)
  /-- Judge the configuration. -/
  | check
  /-- Show the status. -/
  | status (json : Bool)
  deriving DecidableEq, Repr

/-- The names and values of the environment. -/
abbrev Environment := List (String × String)

/-- The address that is served unless another is given. -/
def defaultAddress : String := "0.0.0.0:3770"

/-- The value of an option, or else the one under a name of the environment. -/
def fromEnvironment? (env : Environment) (given : Given) (key : Key) (name : String) :
    Option String :=
  value? key given <|> env.lookup name

/-- What is to be done on a level, unless something is missing there. -/
def taskOf? (env : Environment) (given : Given) : Level → Option Task
  | .root => some (if isGiven .version given then .version else .welcome)
  | .serve =>
    let addr := (fromEnvironment? env given .address "BOXWATCH_ADDR").getD defaultAddress
    match fromEnvironment? env given .certificate "BOXWATCH_TLS_CRT",
      fromEnvironment? env given .privateKey "BOXWATCH_TLS_KEY" with
    | none, none => some (.serve addr none)
    | some crt, some key =>
      if Key.certificate.takes crt ∧ Key.privateKey.takes key then
        some (.serve addr (some (crt, key)))
      else none
    | _, _ => none
  | .conf => none
  | .init => some (.init (isGiven .force given))
  | .check => some .check
  | .status => some (.status (isGiven .json given))
  | .version => some .version

/-- A task, and the configuration file that it is about. -/
structure Invocation where
  /-- The task. -/
  task : Task
  /-- The configuration file, unless it is the usual one. -/
  config : Option String
  deriving DecidableEq, Repr

/-- The configuration file that is named on the innermost level that names one. -/
def configOf? (levels : List (Level × Given)) : Option String :=
  levels.findSome? fun l ↦ value? .config l.2

/-- What is given on each level in the end. -/
def settleAll? (levels : Levels) : Option (List (Level × Given)) :=
  levels.mapM fun l ↦ l.2.settle?.map (l.1, ·.given)

/-- What is asked for on the levels, of which the last one says what is to be done.  Those of the
outermost level can ask for the version whatever follows. -/
def invocationOf? (env : Environment) : List (Level × Given) → Option Invocation
  | [] => none
  | levels@((level, given) :: _) =>
    (taskOf? env given level).map fun task ↦
      ⟨if levels.any fun l ↦ isGiven .version l.2 then .version else task, configOf? levels⟩

/-- Read all arguments.  A cry for help comes before what is still pending. -/
def read? (env : Environment) (arguments : List String) : Option Invocation :=
  (readLevels? [] .root .empty arguments).bind fun levels ↦
    if levels.any fun l ↦ isGiven .help l.2.given then some ⟨.help, none⟩
    else (settleAll? levels).bind (invocationOf? env)

end Command

end HostWatch
