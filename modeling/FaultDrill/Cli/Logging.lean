import FaultDrill.Collections.SortedMap
import FaultDrill.Text.Blank
import FaultDrill.Text.Decimal
import FaultDrill.Text.Pieces
import FaultDrill.Text.Utf8

/-!
# FaultDrill.Cli.Logging

How the log of the command line is set up: which lines it has, and in which form. Which lines it has
is said by directives with commas between them: a level for all parts of the program, or a level for
one part, for a span of work, or for a span with certain fields.
-/

namespace FaultDrill.Cli

open FaultDrill.Text

/-- The form of a log line. -/
inductive LogFormat where
  | json
  | pretty
  deriving DecidableEq, Repr

/-- The form of a name, or why there is none. -/
def LogFormat.parse : String → Except String LogFormat
  | "json" => .ok .json
  | "pretty" => .ok .pretty
  | other => .error s!"unknown log format '{other}', expected 'json' or 'pretty'"

/-- The parts of the program whose lines follow the chosen level. -/
def logTargets : List String :=
  ["faultline", "faultline_core", "faultline_engine", "faultline_injector", "faultline_invariant"]

/-- The directives of a level: the program's own parts at that level, all others at warnings. -/
def logDirectives (level : String) : String :=
  ",".intercalate ("warn" :: logTargets.map fun target => s!"{target}={level}")

/-! ### Reading directives -/

/-- Why directives cannot be read. -/
inductive LogFault where
  /-- A directive has no form of the known ones. -/
  | malformed
  /-- What should be a level is none. -/
  | level
  deriving DecidableEq, Repr

/-- The wording of a fault. The cause of a wrong level is told after the fault itself. -/
def LogFault.message : LogFault → String
  | .malformed => "invalid filter directive"
  | .level =>
    let cause := "error parsing level filter: expected one of \"off\", \"error\", \"warn\", " ++
      "\"info\", \"debug\", \"trace\", or a number 0-5"
    s!"{cause}: {cause}"

/-- Whether a text is a level: a name in any case, a number up to five, or nothing. -/
def isLogLevel (s : List Char) : Bool :=
  ["", "trace", "debug", "info", "warn", "error", "off"].contains (String.ofList (lower s)) ||
    (Decimal.read? 6 s).isSome

/-- The ranges of characters above ASCII that are neither letters nor digits. -/
def symbolRanges : List (Nat × Nat) :=
  [(0x80, 0xA9), (0xAB, 0xB1), (0xB4, 0xB4), (0xB6, 0xB8), (0xBB, 0xBB), (0xBF, 0xBF),
    (0xD7, 0xD7), (0xF7, 0xF7), (0x2000, 0x206F), (0x20A0, 0x20FF), (0x2190, 0x245F),
    (0x2500, 0x2775), (0x2794, 0x2BFF), (0x3000, 0x3004), (0x3008, 0x3020), (0xE000, 0xF8FF),
    (0xFE00, 0xFE6F), (0xFF00, 0xFF0F), (0x1F000, 0x1FAFF)]

/-- Whether a directive may start with a character, unless it starts with a bracket. -/
def startsDirective (c : Char) : Bool :=
  c.isAlphanum || c = '-' || c = ':' || c = '_' ||
    (0x80 ≤ c.toNat && !(symbolRanges.any fun (low, high) => low ≤ c.toNat && c.toNat ≤ high))

/-- The part of a directive that is being read. -/
inductive DirectivePart where
  | start
  /-- The name of a part of the program, or the level of all of them. -/
  | name
  | span
  /-- A field of a span, and whether something of it has been read. -/
  | field (begun : Bool)
  /-- After the last field of a span. -/
  | fields
  /-- After a span. -/
  | spanEnd
  /-- The level, which starts so many bytes after the start of the directive. -/
  | level (start : Nat)

/-- Reads on in a directive at a byte of it. A directive is read without the blanks around it, but
its level is taken from the text with them. -/
def readDirective (text : String) (part : DirectivePart) (position : Nat) :
    List Char → Except LogFault Unit
  | [] =>
    match part with
    | .name | .spanEnd => .ok ()
    | .level start =>
      match Utf8.decode? ((Utf8.encode text).drop start) with
      | some level => if isLogLevel level.toList then .ok () else .error .level
      | none => .error .malformed
    | _ => .error .malformed
  | c :: rest =>
    let next := position + c.utf8Size
    match part with
    | .start =>
      if c = '[' then readDirective text .span next rest
      else if startsDirective c then readDirective text .name next rest
      else .error .malformed
    | .name =>
      if c = '=' then readDirective text (.level next) next rest
      else if c = '[' then readDirective text .span next rest
      else readDirective text .name next rest
    | .span =>
      if c = ']' then readDirective text .spanEnd next rest
      else if c = '\x7b' then readDirective text (.field false) next rest
      else readDirective text .span next rest
    | .field begun =>
      if c = '\x7d' then
        if begun then readDirective text .fields next rest else .error .malformed
      else readDirective text (.field true) next rest
    | .fields =>
      if c = ']' then readDirective text .spanEnd next rest else .error .malformed
    | .spanEnd =>
      if c = '=' then readDirective text (.level next) next rest else .error .malformed
    | .level start => readDirective text (.level start) next rest

/-- Reads directives with commas between them, of which some may be empty. -/
def readDirectives (s : String) : Except LogFault Unit :=
  ((s.toList.splitOn ',').filter (!·.isEmpty)).forM fun directive =>
    readDirective (String.ofList directive) .start 0 (trim directive)

/-- The environment variable with directives that take the place of any level. -/
def logVariable : String := "RUST_LOG"

/-- Refuses a level of the log that cannot be read, unless the environment has directives that
can. -/
def checkLogLevel (env : SortedMap String String) (level : String) : Except LogFault Unit :=
  match (env.get? logVariable).map readDirectives with
  | some (.ok ()) => .ok ()
  | _ => readDirectives (logDirectives level)

end FaultDrill.Cli
