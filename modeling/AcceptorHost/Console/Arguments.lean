import AcceptorHost.Text.Blank
import AcceptorHost.Text.Digit
import AcceptorHost.Text.Quoted

/-!
# Command line arguments

Options may be written in full or shortened to the start of one option alone,
with their value behind an equals sign or as the next argument.  An argument
that is empty, a lone dash, a negative number or holds a space is a value and
never an option, and everything behind a double dash is a value.  The program
takes no values of its own, so those that no option uses are refused together
with unknown options.
-/

namespace AcceptorHost

/-- The options of the command line. -/
structure Options where
  config : String
  serial : Bool
  reset : Bool
  traffic : Bool
  logLevel : String
  purgeLog : Bool
  deriving DecidableEq, Repr

/-- Why the arguments do not lead to options. -/
inductive Refusal where
  /-- Help was asked for. -/
  | help
  /-- The arguments are wrong. -/
  | usage (message : String)
  deriving DecidableEq, Repr

/-- The flags that the command line knows. -/
inductive Flag where
  | help
  | config
  | serial
  | reset
  | traffic
  | logLevel
  | purgeLog
  deriving DecidableEq, Repr

namespace Flag

/-- The flag takes a value. -/
def takesValue : Flag → Bool
  | .config | .logLevel => true
  | _ => false

/-- The name of a flag in messages. -/
def title : Flag → String
  | .help => "-h/--help"
  | .config => "--config"
  | .serial => "--serial"
  | .reset => "--reset"
  | .traffic => "--traffic"
  | .logLevel => "--log-level"
  | .purgeLog => "--purge-log"

/-- The words for flags, in their order. -/
def words : List (String × Flag) :=
  [("-h", .help), ("--help", .help), ("--config", .config), ("--serial", .serial),
   ("--reset", .reset), ("--traffic", .traffic), ("--log-level", .logLevel),
   ("--purge-log", .purgeLog)]

/-- The flag of a word written in full. -/
def ofWord? (word : List Char) : Option Flag := words.lookup (String.ofList word)

end Flag

namespace Options

/-- The options without arguments. -/
def usual : Options := ⟨"config.json", false, false, false, "INFO", false⟩

/-- The options with a flag set. -/
def set (o : Options) (flag : Flag) (value : String) : Options :=
  match flag with
  | .help => o
  | .config => { o with config := value }
  | .serial => { o with serial := true }
  | .reset => { o with reset := true }
  | .traffic => { o with traffic := true }
  | .logLevel => { o with logLevel := value }
  | .purgeLog => { o with purgeLog := true }

end Options

namespace Arguments

/-- The line that shows the options. -/
def usage : String :=
  "usage: acceptor-host [-h] [--config CONFIG] [--serial] [--reset] [--traffic] "
    ++ "[--log-level LOG_LEVEL] [--purge-log]"

/-- The lines that explain the options. -/
def help : List String :=
  [usage,
   "",
   "Poll a Pyramid Apex bill acceptor over RS-232.",
   "",
   "options:",
   "  -h, --help            show this help message and exit",
   "  --config CONFIG       path to the JSON config (default: config.json)",
   "  --serial              query and print the serial number on startup",
   "  --reset               soft-reset the acceptor on startup",
   "  --traffic             print raw TX/RX frames",
   "  --log-level LOG_LEVEL",
   "  --purge-log           truncate the log file before starting"]

/-- What an option's argument holds beside the option. -/
inductive Attached where
  /-- Nothing. -/
  | nothing
  /-- A value behind an equals sign. -/
  | value (v : List Char)
  /-- Further letters behind a single dash. -/
  | letters (v : List Char)
  deriving DecidableEq, Repr

/-- What an argument is taken for. -/
inductive Role where
  /-- A value. -/
  | operand
  /-- The double dash that ends the options. -/
  | separator
  /-- An option that nobody knows. -/
  | unknown
  /-- An option with what is attached to it. -/
  | option (flag : Flag) (attached : Attached)
  deriving DecidableEq, Repr

/-- The parts of an argument before and behind its first equals sign. -/
def splitEquals (arg : List Char) : Option (List Char × List Char) :=
  if arg.contains '=' then
    some (arg.takeWhile (· != '='), (arg.dropWhile (· != '=')).drop 1)
  else none

/-- One row of characters starts with another one. -/
def startsWith (word start : List Char) : Bool := word.take start.length == start

/-- The words that start as an argument does, and what is attached to them. -/
def candidates (arg : List Char) : List (String × Flag × Attached) :=
  match arg with
  | '-' :: '-' :: _ =>
      let (start, attached) :=
        match splitEquals arg with
        | some (w, v) => (w, Attached.value v)
        | none => (arg, .nothing)
      Flag.words.filterMap fun (word, flag) =>
        if startsWith word.toList start then some (word, flag, attached) else none
  | _ =>
      Flag.words.filterMap fun (word, flag) =>
        if word.toList = arg.take 2 then some (word, flag, .letters (arg.drop 2))
        else if startsWith word.toList arg then some (word, flag, .nothing)
        else none

/-- Digits of any script, at least one. -/
def areDigits (cs : List Char) : Bool :=
  !cs.isEmpty && cs.all fun c => (Text.digitValue? c).isSome

/-- An argument reads as a negative number; one line feed may follow it. -/
def isNegativeNumber (arg : List Char) : Bool :=
  match arg with
  | '-' :: body =>
      let body := if body.getLast? = some '\n' then body.dropLast else body
      let whole := body.takeWhile (· != '.')
      match body.dropWhile (· != '.') with
      | [] => areDigits whole
      | _ :: fraction => (whole.isEmpty || areDigits whole) && areDigits fraction
  | _ => false

/-- The option of a word in full, alone or before an equals sign. -/
def inFull? (arg : List Char) : Option Role :=
  match Flag.ofWord? arg with
  | some flag => some (.option flag .nothing)
  | none =>
      match splitEquals arg with
      | some (w, v) => (Flag.ofWord? w).map fun flag => .option flag (.value v)
      | none => none

/-- The role of an argument before any double dash. -/
def role (arg : List Char) : Except Refusal Role :=
  if arg.head? ≠ some '-' ∨ arg = ['-'] then .ok .operand
  else
    match inFull? arg with
    | some r => .ok r
    | none =>
        match candidates arg with
        | [] => .ok (if isNegativeNumber arg || arg.contains ' ' then .operand else .unknown)
        | [(_, flag, attached)] => .ok (.option flag attached)
        | several =>
            .error (.usage ("ambiguous option: " ++ String.ofList arg
              ++ " could match " ++ ", ".intercalate (several.map (·.1))))

/-- The roles of all arguments. -/
def roles : List String → Except Refusal (List (String × Role))
  | [] => .ok []
  | arg :: rest =>
      if arg = "--" then .ok ((arg, .separator) :: rest.map fun a => (a, .operand))
      else do
        let r ← role arg.toList
        let others ← roles rest
        .ok ((arg, r) :: others)

/-- The refusal of a value that a flag does not take. -/
def ignored (flag : Flag) (value : List Char) : Refusal :=
  .usage ("argument " ++ flag.title ++ ": ignored explicit argument "
    ++ Text.quoted (String.ofList value))

/-- How letters behind a dash and the letter of help end the parsing. -/
def lettersRefusal : List Char → Refusal
  | [] => .help
  | 'h' :: '=' :: v => ignored .help v
  | 'h' :: rest => lettersRefusal rest
  | '-' :: rest => ignored .help ('-' :: rest)
  | _ => .help

/-- The options set by arguments, with what no option uses in its order. -/
def walk (o : Options) (extras : List String) :
    List (String × Role) → Except Refusal (Options × List String)
  | [] => .ok (o, extras)
  | (arg, .operand) :: rest | (arg, .separator) :: rest | (arg, .unknown) :: rest =>
      walk o (extras ++ [arg]) rest
  | (_, .option flag (.value v)) :: rest =>
      if flag.takesValue then walk (o.set flag (String.ofList v)) extras rest
      else .error (ignored flag v)
  | (_, .option _ (.letters v)) :: _ => .error (lettersRefusal v)
  | (_, .option flag .nothing) :: rest =>
      if flag = .help then .error .help
      else if flag.takesValue then
        match rest with
        | (v, .operand) :: others => walk (o.set flag v) extras others
        | _ => .error (.usage ("argument " ++ flag.title ++ ": expected one argument"))
      else walk (o.set flag "") extras rest

/-- The options that arguments ask for. -/
def parse (args : List String) : Except Refusal Options := do
  let all ← roles args
  let (o, extras) ← walk Options.usual [] all
  if extras.isEmpty then .ok o
  else
    .error (.usage (String.ofList
      (Text.trimEnd Text.isBlank ("unrecognized arguments: " ++ " ".intercalate extras).toList)))

end Arguments

end AcceptorHost
