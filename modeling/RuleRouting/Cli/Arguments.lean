import RuleRouting.Cli.Similarity

/-!
# Reading the command line

The program takes one subcommand, `dispatcher` or `check`, each with the required option
`-c`/`--config-file-path <CONFIG_FILE_PATH>`; `-h`/`--help` and the `help` subcommand print
help. The rules the reading follows:

* at the top, a subcommand name selects it (`help` prints the help of the subcommands named
  after it); `--help`/`-h` prints help; `--` makes every later word a value; any other word is
  an unrecognized subcommand (with the similar subcommand names as a tip) and any other option
  is unexpected (with a similar option as a tip); no subcommand at all prints the help as an
  error;
* in a subcommand, the option's value is attached (`-cPATH`, `-c=PATH`,
  `--config-file-path=PATH`) or is the next word that is not an option; an empty value, a
  missing value, a second occurrence and a missing option are errors; a help flag prints the
  subcommand's help at once.

Help goes to standard output with status 0; errors go to standard error with status 2.
-/

namespace RuleRouting.Cli

/-- The program's subcommands. -/
inductive Command where
  | dispatcher
  | check
  deriving DecidableEq, Repr

/-- The subcommand's name. -/
def Command.name : Command → String
  | .dispatcher => "dispatcher"
  | .check => "check"

/-- What the subcommand does. -/
def Command.about : Command → String
  | .dispatcher => "Serve requests with the rules from the config file"
  | .check => "Validate the config file and build its routing rules"

/-- A command line that was read: the subcommand and the configuration file. -/
structure Invocation where
  command : Command
  configPath : String
  deriving Repr

/-- The outcome of reading the command line. -/
inductive ArgsOutcome where
  /-- Run the subcommand. -/
  | run (inv : Invocation)
  /-- Print this help on standard output and stop with status 0. -/
  | help (text : String)
  /-- Print this text on standard error and stop with status 2. -/
  | refuse (text : String)
  deriving Repr

/-- The program's name. -/
def programName : String := "waypoint"

/-- The about line of the help subcommand. -/
def helpAbout : String := "Print this message or the help of the given subcommand(s)"

/-- The option's name in messages. -/
def configOption : String := "--config-file-path <CONFIG_FILE_PATH>"

/-- The usage line of the program. -/
def rootUsage : String := programName ++ " <COMMAND>"

/-- The usage line of a subcommand. -/
def commandUsage (c : Command) : String := programName ++ " " ++ c.name ++ " " ++ configOption

/-- The usage line of the help subcommand. -/
def helpUsage : String := programName ++ " help [COMMAND]..."

/-- The program's help. -/
def rootHelp : String :=
  "Rule based request dispatcher\n\nUsage: " ++ rootUsage ++ "\n\nCommands:\n" ++
  "  dispatcher  " ++ Command.dispatcher.about ++ "\n" ++
  "  check       " ++ Command.check.about ++ "\n" ++
  "  help        " ++ helpAbout ++ "\n\nOptions:\n  -h, --help  Print help\n"

/-- A subcommand's help. -/
def commandHelp (c : Command) : String :=
  c.about ++ "\n\nUsage: " ++ commandUsage c ++ "\n\nOptions:\n" ++
  "  -c, " ++ configOption ++ "  \n" ++
  "  -h, --help                                 Print help\n"

/-- The help subcommand's help. -/
def helpCommandHelp : String :=
  helpAbout ++ "\n\nUsage: " ++ helpUsage ++ "\n\nArguments:\n" ++
  "  [COMMAND]...  Print help for the subcommand(s)\n"

/-- An error message: the message, its tips, the usage line and the pointer to help. -/
def errorText (message : String) (tips : List String) (usage : Option String)
    (pointer : Bool) : String :=
  "error: " ++ message ++
  (if tips.isEmpty then "" else "\n" ++ String.join (tips.map fun t => "\n  tip: " ++ t)) ++
  (match usage with
   | some u => "\n\nUsage: " ++ u
   | none => "") ++
  (if pointer then "\n\nFor more information, try '--help'.\n" else "\n")

/-- The subcommand a word names (the help subcommand is `none`). -/
def commandNamed? : String → Option (Option Command)
  | "dispatcher" => some (some .dispatcher)
  | "check" => some (some .check)
  | "help" => some none
  | _ => none

/-- The names of the subcommands, in order. -/
def commandNames : List String := ["dispatcher", "check", "help"]

/-- The help printed for `help` followed by subcommand names. -/
def helpFor : List String → ArgsOutcome
  | [] => .help rootHelp
  | w :: rest =>
    match commandNamed? w with
    | some (some c) =>
      match rest with
      | [] => .help (commandHelp c)
      | w' :: _ => .refuse (errorText ("unrecognized subcommand '" ++ w' ++ "'") []
          (some (commandUsage c)) true)
    | some none =>
      match rest with
      | [] => .help helpCommandHelp
      | w' :: _ => .refuse (errorText ("unrecognized subcommand '" ++ w' ++ "'") []
          (some helpUsage) false)
    | none => .refuse (errorText ("unrecognized subcommand '" ++ w ++ "'") [] (some rootUsage) true)

/-- Whether a word is a long option (`--name`, possibly with `=value`). -/
def isLong (w : String) : Bool := w.startsWith "--" && w ≠ "--"

/-- Whether a word is a short option cluster (`-x…`). -/
def isShort (w : String) : Bool := w.startsWith "-" && !w.startsWith "--" && w.length > 1

/-- The name of a long option, before any `=`. -/
def longName (w : String) : String :=
  String.ofList ((w.toList.drop 2).takeWhile (· ≠ '='))

/-- The attached value of a long option, after the first `=`. -/
def longValue? (w : String) : Option String :=
  match (w.toList.drop 2).dropWhile (· ≠ '=') with
  | _ :: v => some (String.ofList v)
  | [] => none

/-- The most similar of the choices, when one is similar. -/
def bestMatch? (word : String) (choices : List String) : Option String :=
  (suggestions word choices).getLast?

/-- The unexpected-option error at the top, with the tip it gets. -/
def rootUnknownLong (name : String) (after : List String) : ArgsOutcome :=
  let shown := "--" ++ name
  match bestMatch? name ["help"] with
  | some best =>
    .refuse (errorText ("unexpected argument '" ++ shown ++ "' found")
      ["a similar argument exists: '--" ++ best ++ "'"]
      (some (programName ++ " --" ++ best ++ " <COMMAND>")) true)
  | none =>
    let inCommand := [Command.dispatcher, Command.check].filterMap fun c =>
      match bestMatch? name ["config-file-path", "help"], after.findIdx? (· = c.name) with
      | some best, some pos => some (pos, c.name ++ " --" ++ best)
      | _, _ => none
    let tip := (inCommand.foldl (fun acc x =>
      match acc with
      | some y => if x.1 < y.1 then some x else some y
      | none => some x) none).map (·.2)
    match tip with
    | some t =>
      .refuse (errorText ("unexpected argument '" ++ shown ++ "' found") ["'" ++ t ++ "' exists"]
        (some rootUsage) true)
    | none =>
      .refuse (errorText ("unexpected argument '" ++ shown ++ "' found") [] (some rootUsage) true)

/-- The error for a word at the top that names no subcommand. -/
def rootUnknownWord (w : String) (afterEscape : Bool) : ArgsOutcome :=
  if afterEscape && (commandNamed? w).isSome then
    .refuse (errorText ("unexpected argument '" ++ w ++ "' found")
      ["subcommand '" ++ w ++ "' exists; to use it, remove the '--' before it"] (some rootUsage) true)
  else
    match suggestions w commandNames with
    | [] => .refuse (errorText ("unrecognized subcommand '" ++ w ++ "'") [] (some rootUsage) true)
    | [one] => .refuse (errorText ("unrecognized subcommand '" ++ w ++ "'")
        ["a similar subcommand exists: '" ++ one ++ "'"] (some rootUsage) true)
    | many => .refuse (errorText ("unrecognized subcommand '" ++ w ++ "'")
        ["some similar subcommands exist: " ++ ", ".intercalate (many.map fun s => "'" ++ s ++ "'")]
        (some rootUsage) true)

/-- The state of reading a subcommand's words: the value given so far, whether the option was
given without a value, and the occurrence still waiting to be settled (`some none` while it
waits for its value, `some (some v)` once the next word gave it one). -/
structure OptionState where
  value : Option String := none
  presentEmpty : Bool := false
  waiting : Option (Option String) := none

/-- The error for an empty or missing value. -/
def missingValue : ArgsOutcome :=
  .refuse (errorText ("a value is required for '" ++ configOption ++ "' but none was supplied")
    [] none true)

/-- Records one occurrence of the option with its value (or none): a second occurrence is an
error, and so is an empty value. -/
def OptionState.give (s : OptionState) (c : Command) (v : Option String) :
    Except ArgsOutcome OptionState :=
  if s.value.isSome || s.presentEmpty then
    .error (.refuse (errorText ("the argument '" ++ configOption ++ "' cannot be used multiple times")
      [] (some (commandUsage c)) true))
  else match v with
    | some "" => .error missingValue
    | some p => .ok { value := some p }
    | none => .ok { presentEmpty := true }

/-- Settles the waiting occurrence, if any. -/
def OptionState.settle (s : OptionState) (c : Command) : Except ArgsOutcome OptionState :=
  match s.waiting with
  | none => .ok s
  | some v => { s with waiting := none }.give c v

/-- The unexpected-argument error in a subcommand; a tip names the similar option, which then
also shows in the usage line. -/
def commandUnknown (c : Command) (shown : String) (tip : Option String) : ArgsOutcome :=
  let usage := match tip with
    | some "--help" => commandUsage c ++ " --help"
    | _ => commandUsage c
  .refuse (errorText ("unexpected argument '" ++ shown ++ "' found")
    (match tip with
     | some t => ["a similar argument exists: '" ++ t ++ "'"]
     | none => []) (some usage) true)

/-- Reads a subcommand's words; `escaped` is set once `--` was read. -/
def readCommand (c : Command) : List String → Bool → OptionState → ArgsOutcome
  | [], _, s =>
    match s.settle c with
    | .error e => e
    | .ok s =>
      if s.presentEmpty then missingValue
      else match s.value with
        | some p => .run { command := c, configPath := p }
        | none => .refuse (errorText ("the following required arguments were not provided:\n  " ++
            configOption) [] (some (commandUsage c)) true)
  | w :: rest, escaped, s =>
    let occurrence (attached : Option String) : ArgsOutcome :=
      match s.settle c with
      | .error e => e
      | .ok s =>
        match attached with
        | some v =>
          match s.give c (some v) with
          | .error e => e
          | .ok s => readCommand c rest escaped s
        | none => readCommand c rest escaped { s with waiting := some none }
    let helpNow : ArgsOutcome :=
      match s.settle c with
      | .error e => e
      | .ok _ => .help (commandHelp c)
    if !escaped && w = "--" then readCommand c rest true s
    else if !escaped && isLong w then
      let name := longName w
      if name = "help" then
        match longValue? w with
        | some v => .refuse (errorText ("unexpected value '" ++ v ++ "' for '--help' found; " ++
            "no more were expected") [] (some (commandUsage c ++ " --help")) true)
        | none => helpNow
      else if name = "config-file-path" then occurrence (longValue? w)
      else commandUnknown c ("--" ++ name)
        ((bestMatch? name ["config-file-path", "help"]).map fun b => "--" ++ b)
    else if !escaped && isShort w then
      match w.toList.drop 1 with
      | 'h' :: _ => helpNow
      | 'c' :: [] => occurrence none
      | 'c' :: '=' :: v => occurrence (some (String.ofList v))
      | 'c' :: v => occurrence (some (String.ofList v))
      | x :: _ => commandUnknown c ("-" ++ x.toString) none
      | [] => commandUnknown c w none
    else
      match s.waiting, escaped with
      | some none, false => readCommand c rest escaped { s with waiting := some (some w) }
      | _, _ => commandUnknown c w none

/-- Reads the words before the subcommand. -/
def readTop : List String → Bool → ArgsOutcome
  | [], _ => .refuse rootHelp
  | w :: rest, escaped =>
    if !escaped then
      match commandNamed? w with
      | some (some c) => readCommand c rest false {}
      | some none => helpFor rest
      | none =>
        if w = "--" then readTop rest true
        else if isLong w then
          let name := longName w
          if name = "help" then
            match longValue? w with
            | some v => .refuse (errorText ("unexpected value '" ++ v ++ "' for '--help' found; " ++
                "no more were expected") [] (some (programName ++ " --help <COMMAND>")) true)
            | none => .help rootHelp
          else rootUnknownLong name rest
        else if isShort w then
          match w.toList.drop 1 with
          | 'h' :: _ => .help rootHelp
          | x :: _ => .refuse (errorText ("unexpected argument '-" ++ x.toString ++ "' found") []
              (some rootUsage) true)
          | [] => rootUnknownWord w false
        else rootUnknownWord w false
    else rootUnknownWord w true

/-- Reads the command line (the words after the program's name). -/
def readArgs (args : List String) : ArgsOutcome := readTop args false

end RuleRouting.Cli
