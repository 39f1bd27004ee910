import PaymentBooking.Text.Numeral

/-! # Arguments of the command line

A run is given a file of jobs, a file of settings and, if wanted, how many jobs may be in work at a
time. Arguments are read from left to right, and the first one that is wrong or asks for help or
for the version decides.
-/

namespace PaymentBooking.Cli

/-- What a run is asked to do. -/
structure Arguments where
  jobs : String
  settings : String
  workers : Nat
deriving DecidableEq

/-- Why there is nothing to run. -/
inductive Stop where
  /-- Help was asked for. -/
  | help
  /-- The version was asked for. -/
  | version
  /-- The arguments are wrong. -/
  | usage
deriving DecidableEq

def Stop.exitCode : Stop → Nat
  | .help => 0
  | .version => 0
  | .usage => 2

/-- What the arguments so far have given. -/
structure Given where
  jobs : Option String
  settings : Option String
  workers : Option Nat
deriving DecidableEq

namespace Given

def none : Given := ⟨.none, .none, .none⟩

def takeJobs (g : Given) (file : String) : Except Stop Given :=
  if g.jobs.isSome then .error .usage else .ok { g with jobs := some file }

def takeSettings (g : Given) (file : String) : Except Stop Given :=
  if g.settings.isSome then .error .usage else .ok { g with settings := some file }

def workersOf? (text : String) : Option Nat :=
  (Text.readUnsigned? text.toList).filter fun n => n < 2 ^ (64 : Nat)

def takeWorkers (g : Given) (text : String) : Except Stop Given :=
  match g.workers, workersOf? text with
  | .none, some n => .ok { g with workers := some n }
  | _, _ => .error .usage

/-- The arguments that have been given in full; four jobs are in work at a time unless another
number is given. -/
def finish (g : Given) : Except Stop Arguments :=
  match g.jobs, g.settings with
  | some jobs, some settings => .ok ⟨jobs, settings, g.workers.getD 4⟩
  | _, _ => .error .usage

end Given

inductive ValueOption where
  | settings
  | workers
deriving DecidableEq

def optionOf? (name : List Char) : Option ValueOption :=
  if name = "--config".toList then some .settings
  else if name = "--workers".toList then some .workers
  else none

def ValueOption.take (g : Given) (value : String) : ValueOption → Except Stop Given
  | .settings => g.takeSettings value
  | .workers => g.takeWorkers value

/-- What one argument is. -/
inductive Argument where
  /-- The end of the options. -/
  | endOfOptions
  /-- An option whose value is the next argument. -/
  | option (o : ValueOption)
  /-- An option with its value. -/
  | optionValue (o : ValueOption) (value : String)
  | stop (s : Stop)
  | file (name : String)
deriving DecidableEq

def longOption (cs : List Char) : Argument :=
  if cs = "--".toList then .endOfOptions
  else if cs = "--help".toList then .stop .help
  else if cs = "--version".toList then .stop .version
  else
    match optionOf? (cs.takeWhile (· ≠ '=')), cs.dropWhile (· ≠ '=') with
    | some o, [] => .option o
    | some o, _ :: value => .optionValue o (String.ofList value)
    | .none, _ => .stop .usage

/-- What an argument is. A single hyphen is the name of a file. -/
def classify (argument : String) : Argument :=
  match argument.toList with
  | '-' :: '-' :: cs => longOption ('-' :: '-' :: cs)
  | '-' :: 'h' :: _ => .stop .help
  | '-' :: 'V' :: _ => .stop .version
  | '-' :: _ :: _ => .stop .usage
  | _ => .file argument

def isValue (argument : String) : Bool :=
  match classify argument with
  | .file _ => true
  | _ => false

def readFiles (g : Given) (arguments : List String) : Except Stop Given :=
  arguments.foldlM Given.takeJobs g

def readArguments (g : Given) : List String → Except Stop Given
  | [] => .ok g
  | argument :: rest =>
    match classify argument with
    | .endOfOptions => readFiles g rest
    | .stop s => .error s
    | .file name => (g.takeJobs name).bind fun g => readArguments g rest
    | .optionValue o value => (o.take g value).bind fun g => readArguments g rest
    | .option o =>
      match rest with
      | value :: rest =>
        if isValue value then (o.take g value).bind fun g => readArguments g rest
        else .error .usage
      | [] => .error .usage

def Arguments.read (arguments : List String) : Except Stop Arguments :=
  (readArguments .none arguments).bind Given.finish

end PaymentBooking.Cli
