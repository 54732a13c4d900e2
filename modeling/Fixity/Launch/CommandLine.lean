/-
This file reads command lines. A command line names a command, with options before
and after it; some options are known at every level, and the value given after the
command counts. A value stands in the same argument, after an equals sign or right
after a short name, or it is the next argument. The first kind is read at once, the
second when the next option follows or the line ends.
-/

import Fixity.Text.Ascii
import Fixity.Text.Integer

namespace Fixity.Launch

/-! ### Commands -/

/-- The options of the audit of a list of files. -/
structure AuditOptions where
  input : Option String := none
  full : Bool := false
  concurrency : Nat := 1
deriving Repr, DecidableEq

/-- The options of the service. -/
structure ServeOptions where
  host : Option String := none
  port : Option UInt16 := none
deriving Repr, DecidableEq

/-- What is to be done. -/
inductive Command where
  | audit (options : AuditOptions)
  | serve (options : ServeOptions)
deriving Repr, DecidableEq

/-- A command line that was understood. -/
structure CommandLine where
  registryUrl : Option String := none
  bucketsFile : Option String := none
  maxDays : Option Int64 := none
  command : Command
deriving Repr, DecidableEq

/-- Why a command line leads to no command: help or the version is asked for, or the line is at
fault. -/
inductive Usage where
  | help
  | version
  | nothingGiven
  | missingCommand
  | unknownCommand
  | unknownArgument
  | missingValue
  | malformedValue
  | repeatedOption
  | needlessValue
deriving Repr, DecidableEq

/-- The wording of a fault. -/
def Usage.message : Usage → String
  | help | nothingGiven => "usage: fixity-audit [OPTIONS] audit|serve [OPTIONS]"
  | version => "fixity-audit 0.1.0"
  | missingCommand => "error: a command is required: audit or serve"
  | unknownCommand => "error: there is no such command"
  | unknownArgument => "error: there is an argument that nothing takes"
  | missingValue => "error: an option lacks its value"
  | malformedValue => "error: the value of an option cannot be read"
  | repeatedOption => "error: an option is given twice"
  | needlessValue => "error: an option has a value that it does not take"

/-- The exit code. Asking for help or the version is no fault. -/
def Usage.exitCode : Usage → Nat
  | help | version => 0
  | _ => 2

namespace CommandLine

/-! ### Options -/

/-- The options of all levels. -/
inductive Key where
  | registryUrl
  | bucketsFile
  | maxDays
  | input
  | full
  | concurrency
  | host
  | port
  | help
  | version
deriving Repr, DecidableEq

/-- What is kept of an option. -/
inductive Value where
  | present
  | text (content : String)
  | number (n : Int)
deriving Repr, DecidableEq

namespace Key

/-- The long name of an option. -/
def long : Key → String
  | registryUrl => "registry-url"
  | bucketsFile => "buckets-file"
  | maxDays => "max-days-since-fixity-check"
  | input => "input"
  | full => "full"
  | concurrency => "concurrency"
  | host => "host"
  | port => "port"
  | help => "help"
  | version => "version"

/-- The short name of an option, if it has one. -/
def short? : Key → Option Char
  | input => some 'i'
  | full => some 'f'
  | help => some 'h'
  | version => some 'V'
  | _ => none

/-- The option has a value. -/
def takesValue : Key → Bool
  | full | help | version => false
  | _ => true

/-- Reads a number, first within one range and then checked against another. -/
def readNumber (first range : Text.IntegerRange) (text : String) : Except Usage Value :=
  match Text.readInteger first text.toList with
  | .ok n => if range.contains n then .ok (.number n) else .error .malformedValue
  | .error _ => .error .malformedValue

/-- Reads the value of an option. A path must not be empty. -/
def read (key : Key) (text : String) : Except Usage Value :=
  match key with
  | bucketsFile | input => if text.isEmpty then .error .missingValue else .ok (.text text)
  | maxDays => readNumber .signed64 .signed64 text
  | port => readNumber .signed64 .unsigned16 text
  | concurrency => readNumber .unsigned64 .unsigned64 text
  | _ => .ok (.text text)

end Key

/-! ### Levels -/

/-- The levels of a command line: before the command, and after either command. -/
inductive Level where
  | top
  | audit
  | serve
deriving Repr, DecidableEq

namespace Level

/-- The options that are known at every level. -/
def everywhere : List Key :=
  [.registryUrl, .bucketsFile, .maxDays, .help]

/-- The options that are known at a level. -/
def keys : Level → List Key
  | top => .version :: everywhere
  | audit => [.input, .full, .concurrency] ++ everywhere
  | serve => [.host, .port] ++ everywhere

/-- The command names that are known at a level. -/
def commands : Level → List String
  | top => ["audit", "serve", "help"]
  | _ => []

/-- The level of a command name. -/
def ofName? : String → Option Level
  | "audit" => some audit
  | "serve" => some serve
  | _ => none

/-- What is said of an argument that has no place at a level. After the mark that ends the options
even the name of a command has none. -/
def stray (level : Level) (afterMark : Bool) (argument : String) : Usage :=
  match level with
  | top => if afterMark ∧ argument ∈ level.commands then .unknownArgument else .unknownCommand
  | _ => .unknownArgument

end Level

/-- What comes of a request for help on topics, when the first may be one of the given names. -/
def helpOn (names : List String) : List String → Usage
  | [] => .help
  | topic :: rest => if topic ∈ names then helpOn [] rest else .unknownCommand

/-! ### Options that were given -/

/-- What was read so far at a level. The last option may wait for its value, or have one that is
not read yet. -/
structure Given where
  values : List (Key × Value) := []
  pending : Option (Key × Option String) := none
deriving Repr, DecidableEq

namespace Given

/-- The value of an option. -/
def value? (given : Given) (key : Key) : Option Value :=
  given.values.lookup key

/-- Keeps a value. An option is given once. -/
def put (given : Given) (key : Key) (read : Except Usage Value) : Except Usage Given :=
  if (given.value? key).isSome then .error .repeatedOption
  else read.map fun value => { values := given.values ++ [(key, value)] }

/-- Reads the value that is pending. -/
def settle (given : Given) : Except Usage Given :=
  match given.pending with
  | none => .ok given
  | some (_, none) => .error .missingValue
  | some (key, some text) => { given with pending := none }.put key (key.read text)

/-- Takes an option with the value in its argument. -/
def attach (given : Given) (key : Key) (text : String) : Except Usage Given := do
  (← given.settle).put key (key.read text)

/-- Takes an option whose value is to follow. -/
def await (given : Given) (key : Key) : Except Usage Given := do
  return { (← given.settle) with pending := some (key, none) }

/-- Takes an option that has no value. -/
def raise (given : Given) (key : Key) : Except Usage Given := do
  let given ← given.settle
  match key with
  | .help => .error .help
  | .version => .error .version
  | key => given.put key (.ok .present)

/-- Takes an option by its long name. -/
def long (given : Given) (level : Level) (name : String) (value : Option String) :
    Except Usage Given :=
  match level.keys.find? fun key => key.long == name with
  | none => .error .unknownArgument
  | some key =>
    match key.takesValue, value with
    | true, some text => given.attach key text
    | true, none => given.await key
    | false, some _ => .error .needlessValue
    | false, none => given.raise key

/-- Takes the options of an argument of short names. What follows the name of an option with a value
is that value, an equals sign before it aside. -/
def shorts (given : Given) (level : Level) : List Char → Except Usage Given
  | [] => .ok given
  | c :: rest =>
    match level.keys.find? fun key => key.short? == some c with
    | none => .error .unknownArgument
    | some key =>
      if key.takesValue then
        match rest with
        | [] => given.await key
        | '=' :: text => given.attach key (String.ofList text)
        | text => given.attach key (String.ofList text)
      else do
        let given ← given.raise key
        given.shorts level rest

/-- The option that waits for its value. -/
def awaited? (given : Given) : Option Key :=
  match given.pending with
  | some (key, none) => some key
  | _ => none

end Given

/-! ### Arguments -/

/-- What the look of an argument says of it. -/
inductive Shape where
  | endMark
  | long (name : String) (value : Option String)
  | shorts (names : List Char)
  | plain
deriving Repr, DecidableEq

/-- The shape of an argument. A lone hyphen is a plain one. -/
def Shape.of (argument : String) : Shape :=
  match argument.toList with
  | ['-', '-'] => endMark
  | '-' :: '-' :: rest =>
    match Text.splitFirst? '=' rest with
    | some (name, value) => long (String.ofList name) (some (String.ofList value))
    | none => long (String.ofList rest) none
  | '-' :: c :: rest => shorts (c :: rest)
  | _ => plain

/-- Walks through the arguments of a level, up to the name of a command and what follows it. -/
def walk (level : Level) (given : Given) : List String → Except Usage (Given × Option (Level × List String))
  | [] => .ok (given, none)
  | argument :: rest =>
    let awaited := given.awaited?
    if awaited.isNone ∧ argument ∈ level.commands then
      match Level.ofName? argument with
      | some inner => .ok (given, some (inner, rest))
      | none => .error (helpOn level.commands rest)
    else
      match Shape.of argument with
      | .endMark =>
        match rest with
        | [] => .ok (given, none)
        | next :: _ => .error (level.stray true next)
      | .long name value => do walk level (← given.long level name value) rest
      | .shorts names => do walk level (← given.shorts level names) rest
      | .plain =>
        match awaited with
        | some key => walk level { given with pending := some (key, some argument) } rest
        | none => .error (level.stray false argument)

/-! ### Whole command lines -/

/-- The text kept for an option. -/
def text? (given : Given) (key : Key) : Option String :=
  match given.value? key with
  | some (.text content) => some content
  | _ => none

/-- The number kept for an option. -/
def number? (given : Given) (key : Key) : Option Int :=
  match given.value? key with
  | some (.number n) => some n
  | _ => none

/-- The command of a level. -/
def commandOf (level : Level) (given : Given) : Command :=
  match level with
  | .serve => .serve {
      host := text? given .host
      port := (number? given .port).map fun n => UInt16.ofNat n.toNat }
  | _ => .audit {
      input := text? given .input
      full := (given.value? .full).isSome
      concurrency := ((number? given .concurrency).map Int.toNat).getD 1 }

/-- The command line of the options given before and after the command. -/
def assemble (level : Level) (outer inner : Given) : CommandLine :=
  { registryUrl := (text? inner .registryUrl).or (text? outer .registryUrl)
    bucketsFile := (text? inner .bucketsFile).or (text? outer .bucketsFile)
    maxDays := ((number? inner .maxDays).or (number? outer .maxDays)).map Int64.ofInt
    command := commandOf level inner }

/-- Reads a command line, the name of the program aside. Arguments are texts; a path whose bytes
are not UTF-8 is left out. -/
def read (arguments : List String) : Except Usage CommandLine := do
  match ← walk .top {} arguments with
  | (outer, some (level, rest)) =>
    let (inner, _) ← walk level {} rest
    let inner ← inner.settle
    let outer ← outer.settle
    return assemble level outer inner
  | (outer, none) =>
    let outer ← outer.settle
    if outer.values.isEmpty then .error .nothingGiven else .error .missingCommand

end CommandLine

end Fixity.Launch
