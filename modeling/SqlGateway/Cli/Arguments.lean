import SqlGateway.Cli.Options

/-!
# The Command Line

The words of a command line are options and arguments. Options of the program may stand
before the command or after it; those after it count where both are given. An option with a
value has it behind an equality sign or as the next word, if that is no option itself; after
the word `--` no word is an option.

An option is entered when its value is known, that is when the next option or argument
begins or the line ends. So a word that is not understood is reported before an option in
front of it that lacks its value.
-/

namespace SqlGateway.Cli

/-- An option with a value. -/
inductive Valued where
  | url
  | config
  | override
  | logFile
  | param
  deriving DecidableEq, Repr

/-- An option without a value. -/
inductive Flag where
  | help
  | version
  | report
  deriving DecidableEq, Repr

/-- What the words are read as part of: the program's own options or one of its commands. -/
inductive Context where
  | program
  | check
  | exec
  | info
  deriving DecidableEq, Repr

/-- The options that a word of two dashes can name. -/
def Context.long? (context : Context) (name : String) : Option (Valued ⊕ Flag) :=
  match context, name with
  | _, "url" => some (.inl .url)
  | _, "config" => some (.inl .config)
  | _, "set" => some (.inl .override)
  | _, "log-file" => some (.inl .logFile)
  | _, "help" => some (.inr .help)
  | .program, "version" => some (.inr .version)
  | .check, "report" => some (.inr .report)
  | .exec, "param" => some (.inl .param)
  | _, _ => none

/-- The options that a letter after one dash can name. -/
def Context.short? (context : Context) (letter : Char) : Option (Valued ⊕ Flag) :=
  match context, letter with
  | _, 'h' => some (.inr .help)
  | .program, 'V' => some (.inr .version)
  | .exec, 'p' => some (.inl .param)
  | _, _ => none

/-- The command with a name. -/
def Context.ofCommand? : String → Option Context
  | "check" => some .check
  | "exec" => some .exec
  | "info" => some .info
  | _ => none

/-- The word that asks for help on a command. -/
def helpWord : String := "help"

/-- Whether a word can only be a command. -/
def isCommandWord (word : String) : Bool :=
  word == helpWord || (Context.ofCommand? word).isSome

/-! ### What is given -/

/-- The options and the argument given so far. -/
structure Given where
  url : Option String
  config : Option String
  overrides : List String
  logFile : Option (Option String)
  params : List String
  report : Bool
  sql : Option String
  deriving DecidableEq, Repr

namespace Given

/-- Nothing is given. -/
def nothing : Given := ⟨none, none, [], none, [], false, none⟩

/-- Enters a value that can be given once. -/
def once {α : Type} (old : Option α) (value : α) (make : Option α → Given) :
    Except Stop Given :=
  if old.isSome then .error .repeated else .ok (make (some value))

/-- Enters an option. Paths may not be empty; only the log file may lack its path. -/
def enter (g : Given) (option : Valued) (value : Option String) : Except Stop Given :=
  match option, value with
  | .logFile, none => once g.logFile none fun v => { g with logFile := v }
  | .logFile, some path => do
    let entered ← once g.logFile (some path) fun v => { g with logFile := v }
    if path = "" then .error .missingValue else .ok entered
  | _, none => .error .missingValue
  | .url, some url => once g.url url fun v => { g with url := v }
  | .config, some path => do
    let entered ← once g.config path fun v => { g with config := v }
    if path = "" then .error .missingValue else .ok entered
  | .override, some pair => .ok { g with overrides := g.overrides ++ [pair] }
  | .param, some pair => .ok { g with params := g.params ++ [pair] }

/-- Enters an option without a value. -/
def raise (g : Given) : Flag → Except Stop Given
  | .help => .error .help
  | .version => .error .version
  | .report => if g.report then .error .repeated else .ok { g with report := true }

/-- The options given before a command and after it together. -/
def merge (before after : Given) : Given :=
  { after with
    url := after.url.or before.url
    config := after.config.or before.config
    overrides := if after.overrides.isEmpty then before.overrides else after.overrides
    logFile := after.logFile.or before.logFile }

end Given

/-! ### Reading words -/

/-- What is read so far. -/
structure Reader where
  given : Given
  /-- The option that is not entered yet, with its value if it has one. -/
  pending : Option (Valued × Option String)
  /-- Whether no word is an option any more. -/
  plain : Bool
  deriving DecidableEq, Repr

namespace Reader

/-- Nothing is read. -/
def start : Reader := ⟨.nothing, none, false⟩

/-- Enters the pending option. -/
def settle (r : Reader) : Except Stop Reader :=
  match r.pending with
  | none => .ok r
  | some (option, value) => do
    let given ← r.given.enter option value
    return { r with given, pending := none }

/-- Whether the next word is the value of the pending option, if it is no option itself. -/
def awaits (r : Reader) : Bool :=
  !r.plain && r.pending.any fun p => p.2.isNone

/-- Begins an option with a value. -/
def begin (r : Reader) (option : Valued) (value : Option String) : Except Stop Reader := do
  let r ← r.settle
  match value with
  | none => return { r with pending := some (option, none) }
  | some value =>
    let given ← r.given.enter option (some value)
    return { r with given }

/-- Takes an option without a value. -/
def takeFlag (r : Reader) (flag : Flag) : Except Stop Reader := do
  let r ← r.settle
  let given ← r.given.raise flag
  return { r with given }

/-- Takes a word of two dashes; `body` is what follows them. -/
def takeLong (context : Context) (body : List Char) (r : Reader) : Except Stop Reader :=
  let name := String.ofList (body.takeWhile (· != '='))
  let value := match body.dropWhile (· != '=') with
    | [] => none
    | _ :: text => some (String.ofList text)
  match context.long? name, value with
  | none, _ => .error .unknownArgument
  | some (.inl option), value => r.begin option value
  | some (.inr flag), none => r.takeFlag flag
  | some (.inr _), some _ => .error .needlessValue

/-- Takes the letters after one dash. The rest of the word is the value of an option that
has one; an equality sign may stand before it. -/
def takeShort (context : Context) : List Char → Reader → Except Stop Reader
  | [], r => .ok r
  | letter :: rest, r =>
    match context.short? letter with
    | none => .error .unknownArgument
    | some (.inr flag) => do
      let r ← r.takeFlag flag
      takeShort context rest r
    | some (.inl option) =>
      match rest with
      | [] => r.begin option none
      | '=' :: value => r.begin option (some (String.ofList value))
      | value => r.begin option (some (String.ofList value))

/-- Takes a word that is no option. Only `check` and `exec` have an argument. -/
def takeArgument (context : Context) (word : String) (r : Reader) : Except Stop Reader :=
  match context with
  | .program =>
    .error (if r.plain && isCommandWord word then .unknownArgument else .unknownCommand)
  | .info => .error .unknownArgument
  | .check | .exec =>
    if r.given.sql.isSome then .error .unknownArgument
    else do
      let r ← r.settle
      return { r with given := { r.given with sql := some word } }

/-- Takes a word. -/
def take (context : Context) (word : String) (r : Reader) : Except Stop Reader :=
  if r.plain then r.takeArgument context word
  else
    match word.toList with
    | ['-', '-'] => .ok { r with plain := true }
    | '-' :: '-' :: body => r.takeLong context body
    | '-' :: letter :: letters => r.takeShort context (letter :: letters)
    | _ =>
      match r.pending with
      | some (option, none) => .ok { r with pending := some (option, some word) }
      | _ => r.takeArgument context word

end Reader

/-! ### Whole lines -/

/-- The command that is given, if its argument is not missing. -/
def commandOf (context : Context) (g : Given) : Except Stop Command :=
  match context, g.sql with
  | .program, _ => .error .missingCommand
  | .info, _ => .ok .info
  | .check, some sql => .ok (.check sql g.report)
  | .exec, some sql => .ok (.exec sql g.params)
  | .check, none | .exec, none => .error .missingArgument

/-- Reads the words after a command. -/
def readCommand (context : Context) (before : Reader) (words : List String) :
    Except Stop (Given × Command) := do
  let r ← words.foldlM (fun (r : Reader) word => r.take context word) Reader.start
  let r ← r.settle
  let command ← commandOf context r.given
  let before ← before.settle
  return (before.given.merge r.given, command)

/-- What is answered to a request for help on a command. -/
def helpOn : List String → Stop
  | [] => .help
  | [word] => if isCommandWord word then .help else .unknownCommand
  | _ => .unknownCommand

/-- Reads words up to the command and those after it. -/
def readWords (r : Reader) : List String → Except Stop (Given × Command)
  | [] => do
    let r ← r.settle
    .error (if r.given = .nothing then .nothing else .missingCommand)
  | word :: words =>
    if r.plain || r.awaits then do
      let r ← r.take .program word
      readWords r words
    else if word = helpWord then .error (helpOn words)
    else
      match Context.ofCommand? word with
      | some context => readCommand context r words
      | none => do
        let r ← r.take .program word
        readWords r words

/-- Reads a command line. `url` is the connection string of the environment, which counts if
the line has none. -/
def readLine (url : Option String) (words : List String) : Except Stop Options :=
  match readWords .start words with
  | .ok (g, command) => .ok ⟨g.url.or url, g.config, g.overrides, g.logFile, command⟩
  | .error .nothing => .error (if url.isSome then .missingCommand else .nothing)
  | .error stop => .error stop

end SqlGateway.Cli
