import PaymentBooking.Cli.Run
import Std.Time.Format

/-! # The program

Reads the files that the arguments name and prints what the run leaves behind.
-/

namespace PaymentBooking.Cli

def program : Program := ⟨"payment-booking", "payment-booking 0.1.0"⟩

def readFile? (name : String) : IO (Option (List UInt8)) := do
  try
    let bytes ← IO.FS.readBinFile name
    return some bytes.toList
  catch _ => return none

def readFiles? (arguments : Arguments) : IO Files := do
  let settings ← readFile? arguments.settings
  let jobs ← readFile? arguments.jobs
  return fun name => if name = arguments.settings then settings else jobs

def clockOf (today : Std.Time.PlainDate) : Clock := fun pattern =>
  match Date.of? today.year.toInt today.month.toNat today.day.toNat with
  | some date => pattern.render date
  | none => ""

/-- Any log filter will do, since nothing is logged. -/
def runtimeOf (filter : Option String) : Runtime where
  filter := filter
  accepts _ := some true
  reads _ := true
  maxPermits := 2 ^ (61 : Nat) - 1
  schedule _ := 0

def runProgram (args : List String) : IO UInt32 := do
  match Arguments.read args with
  | .error stop =>
    if stop = .usage then IO.eprintln program.usage
    for line in stop.output program do IO.print line
    return stop.exitCode.toUInt32
  | .ok arguments =>
    let files ← readFiles? arguments
    let clock := clockOf (← Std.Time.PlainDate.now)
    let runtime := runtimeOf (← IO.getEnv "RUST_LOG")
    let result := runArguments runtime clock files arguments
    for report in result.reports do IO.eprintln report
    for line in result.output do IO.print line
    return result.exitCode.toUInt32

end PaymentBooking.Cli

def main (args : List String) : IO UInt32 := PaymentBooking.Cli.runProgram args
