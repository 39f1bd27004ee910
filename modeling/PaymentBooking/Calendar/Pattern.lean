import PaymentBooking.Calendar.Date

/-! # Date patterns

A pattern writes a date by the fields `yyyy`, `MM` and `dd` and by characters that stand for
themselves. A run of one letter that is none of the fields is refused, and so is an apostrophe,
which other pattern languages use to quote letters. The same pattern can be given as a format of
conversion specifications.
-/

namespace PaymentBooking.Calendar

/-- One part of a pattern. -/
inductive PatternPart where
  | year
  | month
  | day
  | literal (c : Char)
deriving DecidableEq

/-- Why a text is no pattern. -/
inductive PatternFault where
  | quotedLiteral
  | unsupportedRun (run : String)
deriving DecidableEq

def PatternFault.message : PatternFault → String
  | .quotedLiteral => "quoted literals are not supported in ledger.date_format"
  | .unsupportedRun run => "unsupported token '" ++ run ++ "' in ledger.date_format"

abbrev Pattern := List PatternPart

namespace Pattern

/-- The parts that a run of one repeated character stands for. -/
def ofRun (run : List Char) : Except PatternFault Pattern :=
  if run.all Char.isAlpha then
    if run = ['y', 'y', 'y', 'y'] then .ok [.year]
    else if run = ['M', 'M'] then .ok [.month]
    else if run = ['d', 'd'] then .ok [.day]
    else .error (.unsupportedRun (String.ofList run))
  else if run.contains '\'' then .error .quotedLiteral
  else .ok (run.map .literal)

def parse (s : String) : Except PatternFault Pattern := do
  let parts ← (s.toList.splitBy (· == ·)).mapM ofRun
  .ok parts.flatten

def partText (d : Date) : PatternPart → List Char
  | .year => d.yearText
  | .month => d.monthText
  | .day => d.dayText
  | .literal c => [c]

def render (p : Pattern) (d : Date) : String := String.ofList (p.flatMap (partText d))

/-- A part as a conversion specification; a percent sign is doubled. -/
def partSpecification : PatternPart → List Char
  | .year => ['%', 'Y']
  | .month => ['%', 'm']
  | .day => ['%', 'd']
  | .literal c => if c = '%' then ['%', '%'] else [c]

def specification (p : Pattern) : String := String.ofList (p.flatMap partSpecification)

end Pattern

end PaymentBooking.Calendar
