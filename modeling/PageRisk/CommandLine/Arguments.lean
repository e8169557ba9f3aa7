import PageRisk.Decimal.Layout
import PageRisk.Machine

set_option autoImplicit false

/-! # Arguments of the command line

A command is named by one word or two, with options and values in any order after it. The options that
hold for every command may also come before it. A value follows its option as the next argument, after
a sign of equality, or, for an option of one letter, right behind it. After `--` nothing is an option.
After the word `help` come only the words of the command that help is wanted for. -/

namespace PageRisk.CommandLine

/-! ## Commands -/

/-- What the user wants done. -/
inductive Command where
  | analyze (hostname : String) (csp : Option String) (format : String)
  | allow (hostname : String)
  | disallow (hostname : String)
  | listAllowed
  | showThreshold
  | setThreshold (threshold : UInt32)
  | setEnabled (enabled : Bool)
  | showCache
  | clearCache
  | rules (format : String)
  | serve
  | init (force : Bool)
  deriving DecidableEq, Repr

/-- Why arguments are no `Command`. -/
inductive UsageError where
  | unknownArgument (argument : String)
  | unknownCommand (name : String)
  | missingCommand
  | missingValue (option : String)
  | unwantedValue (option : String)
  | repeated (option : String)
  | missingArgument (name : String)
  | invalidValue (value : String)
  deriving DecidableEq, Repr

/-- The wording of a usage error. -/
def UsageError.message : UsageError → String
  | unknownArgument argument => "error: unexpected argument '" ++ argument ++ "' found"
  | unknownCommand name => "error: unrecognized subcommand '" ++ name ++ "'"
  | missingCommand => "error: a subcommand is required"
  | missingValue option => "error: a value is required for '" ++ option ++ "'"
  | unwantedValue option => "error: unexpected value for '" ++ option ++ "'"
  | repeated option => "error: the argument '" ++ option ++ "' cannot be used multiple times"
  | missingArgument name => "error: the argument <" ++ name ++ "> was not provided"
  | invalidValue value => "error: invalid value '" ++ value ++ "'"

/-- What arguments come to: a `Command` with its options, help, the version, or an error. -/
inductive Invocation where
  | run (options : Options) (command : Command)
  | help
  | version
  | misuse (error : UsageError)
  deriving DecidableEq

/-! ## Words and options -/

/-- The words that have been given. -/
inductive Level where
  | top
  | analyze
  | allowlist
  | allow
  | disallow
  | listAllowed
  | threshold
  | enable
  | disable
  | cache
  | showCache
  | clearCache
  | rules
  | serve
  | init
  | help
  deriving DecidableEq, Repr

/-- The words that may come next. -/
def Level.next : Level → List (String × Level)
  | top => [("analyze", analyze), ("allowlist", allowlist), ("threshold", threshold),
      ("enable", enable), ("disable", disable), ("cache", cache), ("rules", rules),
      ("serve", serve), ("init", init), ("help", help)]
  | allowlist => [("add", allow), ("remove", disallow), ("list", listAllowed), ("help", help)]
  | cache => [("show", showCache), ("clear", clearCache), ("help", help)]
  | _ => []

/-- The options. -/
inductive Switch where
  | config
  | ephemeral
  | verbose
  | csp
  | format
  | force
  | help
  | version
  deriving DecidableEq, Repr

namespace Switch

/-- The long name of an option. -/
def long : Switch → String
  | config => "config"
  | ephemeral => "ephemeral"
  | verbose => "verbose"
  | csp => "csp"
  | format => "format"
  | force => "force"
  | help => "help"
  | version => "version"

/-- The letter of an option. -/
def letter? : Switch → Option Char
  | config => some 'c'
  | verbose => some 'v'
  | format => some 'f'
  | help => some 'h'
  | version => some 'V'
  | _ => none

/-- Whether the option takes a value. -/
def takesValue : Switch → Bool
  | config | csp | format => true
  | _ => false

end Switch

/-- The options that a command has. -/
def Level.switches (level : Level) : List Switch :=
  let everywhere := [Switch.config, .ephemeral, .verbose, .help]
  match level with
  | top => .version :: everywhere
  | analyze => .csp :: .format :: everywhere
  | rules => .format :: everywhere
  | init => .force :: everywhere
  | _ => everywhere

/-! ## Reading -/

/-- What was read so far. -/
structure Reading where
  level : Level := .top
  config : Option String := none
  ephemeral : Bool := false
  csp : Option String := none
  format : Option String := none
  force : Bool := false
  hostname : Option String := none
  threshold : Option UInt32 := none
  /-- The options that were given after the last word. -/
  seen : List Switch := []
  /-- The option whose value comes next. -/
  pending : Option Switch := none
  /-- An option with its value, which is looked at when the next option or value comes. -/
  held : Option (Switch × String) := none
  /-- What was wrong with a value that was held when a word came. Words are read on, and so may still
      lead to help. -/
  late : Option UsageError := none
  /-- Whether nothing more is an option. -/
  plain : Bool := false
  /-- Whether help is wanted; only the words of a command may follow. -/
  helping : Bool := false

/-- Why reading stops before the end. -/
abbrev Step := Except Invocation

/-- Takes note of an option after the last word; there every option stands only once. -/
def Reading.mark (r : Reading) (s : Switch) : Except UsageError Reading :=
  if r.seen.contains s then .error (.repeated s.long) else .ok { r with seen := s :: r.seen }

/-- Takes note of an option with its value, which is looked at by `settle`. A file has a name; other values
    may be empty. -/
def Reading.assign (r : Reading) (s : Switch) (value : String) : Except UsageError Reading :=
  match r.mark s, s with
  | .error e, _ => .error e
  | .ok r, .config =>
    if value.isEmpty then .error (.missingValue s.long) else .ok { r with config := some value }
  | .ok r, .csp => .ok { r with csp := some value }
  | .ok r, .format => .ok { r with format := some value }
  | .ok r, _ => .ok r

/-- Looks at the value that is `held`. -/
def Reading.settle (r : Reading) : Except UsageError Reading :=
  match r.held with
  | none => .ok r
  | some (s, value) => { r with held := none }.assign s value

/-- Goes on with `next` after the value that is `held` was looked at. -/
def Reading.settled {α : Type} (r : Reading) (next : Reading → Step α) : Step α :=
  match r.settle with
  | .ok r => next r
  | .error e => .error (.misuse e)

/-- Takes note of an option without a value, or whose value is to come. -/
def Reading.note (r : Reading) (s : Switch) : Step Reading :=
  r.settled fun r =>
    if s == .help then .error .help
    else if s == .version then .error .version
    else if s.takesValue then .ok { r with pending := some s }
    else match r.mark s, s with
      | .error e, _ => .error (.misuse e)
      | .ok r, .ephemeral => .ok { r with ephemeral := true }
      | .ok r, .force => .ok { r with force := true }
      | .ok r, _ => .ok r

/-- Takes note of an option with a value in the same argument. -/
def Reading.noteWith (r : Reading) (s : Switch) (value : String) : Step Reading :=
  r.settled fun r => match r.assign s value with
    | .ok r => .ok r
    | .error e => .error (.misuse e)

/-- Reads an option by its long name. -/
def Reading.long (r : Reading) (body : List Char) : Step Reading :=
  let (name, value) := match Text.cutAt? ['='] body with
    | some (name, value) => (name, some (String.ofList value))
    | none => (body, none)
  match r.level.switches.find? fun s => s.long.toList == name with
  | none => .error (.misuse (.unknownArgument (String.ofList ('-' :: '-' :: body))))
  | some s => match value with
    | none => r.note s
    | some value =>
      if s.takesValue then r.noteWith s value else .error (.misuse (.unwantedValue s.long))

/-- Reads options by their letters; a letter whose option takes a value ends them. -/
def Reading.letters (r : Reading) : List Char → Step Reading
  | [] => .ok r
  | c :: rest =>
    match r.level.switches.find? fun s => s.letter? == some c with
    | none => .error (.misuse (.unknownArgument (String.ofList ['-', c])))
    | some s =>
      if s.takesValue && !rest.isEmpty then
        r.noteWith s (String.ofList (match rest with
          | '=' :: value => value
          | _ => rest))
      else match r.note s with
        | .error stop => .error stop
        | .ok r => r.letters rest

/-- The number that a text stands for: digits, maybe after a sign. -/
def numberOf? (text : String) : Option Int :=
  let digits (cs : List Char) : Option Int :=
    if cs.isEmpty || !cs.all Char.isDigit then none
    else some (Int.ofNat (cs.foldl (fun n c => n * 10 + (c.toNat - '0'.toNat)) 0))
  match text.toList with
  | '+' :: rest => digits rest
  | '-' :: rest => (digits rest).map (- ·)
  | cs => digits cs

/-- The threshold that a text stands for: a `numberOf?` it that fits into 32 bits. -/
def thresholdOf? (text : String) : Option UInt32 :=
  match numberOf? text with
  | some n => if 0 ≤ n ∧ n < 4294967296 then some (UInt32.ofNat n.toNat) else none
  | none => none

/-- Takes a value without an option. -/
def Reading.value (r : Reading) (value : String) : Step Reading :=
  r.settled fun r => match r.level, r.hostname, r.threshold with
    | .analyze, none, _ | .allow, none, _ | .disallow, none, _ =>
      .ok { r with hostname := some value }
    | .threshold, _, none => match thresholdOf? value with
      | some n => .ok { r with threshold := some n }
      | none => .error (.misuse (.invalidValue value))
    | _, _, _ => .error (.misuse (.unknownArgument value))

/-- Takes a word of a command. -/
def Reading.word (r : Reading) (level : Level) : Reading :=
  match r.settle with
  | .ok r => { r with level := level, seen := [] }
  | .error e => { r with level := level, seen := [], held := none, late := r.late <|> some e }

/-- Takes a word that names the command that help is wanted for. -/
def Reading.topic (r : Reading) (word : String) : Step Reading :=
  match r.level.next.lookup word with
  | some level => .ok { r with level := level }
  | none => .error (.misuse (.unknownCommand word))

/-- Takes a value without an option, or a word. -/
def Reading.place (r : Reading) (value : String) : Step Reading :=
  if r.level.next.isEmpty then r.value value
  else match if r.plain then none else r.level.next.lookup value with
    | some .help => .ok { r with helping := true }
    | some level => .ok (r.word level)
    | none => .error (.misuse (.unknownCommand value))

/-- Reads one argument. -/
def Reading.argument (r : Reading) (argument : String) : Step Reading :=
  if r.helping then r.topic argument
  else if r.plain then r.place argument
  else match r.pending, argument.toList with
    | some s, '-' :: _ :: _ => .error (.misuse (.missingValue s.long))
    | some s, _ => .ok { r with pending := none, held := some (s, argument) }
    | none, ['-', '-'] => .ok { r with plain := true }
    | none, '-' :: '-' :: body => r.long body
    | none, '-' :: c :: rest => r.letters (c :: rest)
    | none, _ => r.place argument

/-- The command that was read. -/
def Reading.command (r : Reading) : Step Command :=
  let hostname : Step String := match r.hostname with
    | none => .error (.misuse (.missingArgument "HOSTNAME"))
    | some hostname => .ok hostname
  match r.level with
  | .top | .allowlist | .cache => .error (.misuse .missingCommand)
  | .help => .error .help
  | .analyze => hostname.map fun h => .analyze h r.csp (r.format.getD "console")
  | .allow => hostname.map .allow
  | .disallow => hostname.map .disallow
  | .listAllowed => .ok .listAllowed
  | .threshold => .ok (match r.threshold with
    | none => .showThreshold
    | some n => .setThreshold n)
  | .enable => .ok (.setEnabled true)
  | .disable => .ok (.setEnabled false)
  | .showCache => .ok .showCache
  | .clearCache => .ok .clearCache
  | .rules => .ok (.rules (r.format.getD "table"))
  | .serve => .ok .serve
  | .init => .ok (.init r.force)

/-- Reads all arguments. -/
def Reading.finish (r : Reading) : Step Invocation :=
  if r.helping then .error .help
  else match r.pending with
    | some s => .error (.misuse (.missingValue s.long))
    | none => r.settled fun r => match r.late with
      | some e => .error (.misuse e)
      | none => r.command.map fun c => .run ⟨r.config, r.ephemeral⟩ c

/-- What the arguments of a command come to: each is read by `Reading.argument`, and then
    `Reading.finish`. -/
def parse (arguments : List String) : Invocation :=
  match (arguments.foldlM Reading.argument {}).bind Reading.finish with
  | .ok invocation => invocation
  | .error invocation => invocation

end PageRisk.CommandLine
