import UptimeIntake.Environment
import UptimeIntake.Telemetry.Pattern.Reader
import UptimeIntake.Text.Real
import UptimeIntake.Text.Split

/-!
# Log filters

When the text of a log filter is well formed. It is a list of directives between commas, each a
level, or a target with an optional span in square brackets, which may name a field in curly
brackets, and an optional level behind an equals sign. The field may have a value: a truth value,
a number, or else a pattern.

A directive is scanned without the white space around it, but its parts are cut out of the whole
text at the byte positions found by the scan. White space at the start thus shifts the parts, and
a part that would begin or end inside a character is a fault of its own.
-/

set_option autoImplicit false

namespace UptimeIntake

open Text

inductive FilterError where
  /-- A directive is not well formed. -/
  | malformed
  /-- A part of a directive begins or ends inside a character. -/
  | insideCharacter
  deriving DecidableEq, Repr

namespace LogFilter

def levelNames : List String := ["off", "error", "warn", "info", "debug", "trace"]

/-- The text names a level: by its name in any case, by a number up to 5, or by nothing. -/
def isLevel (cs : List Char) : Bool :=
  cs.isEmpty || (Decimal.unsigned? 5 cs).isSome ||
    levelNames.contains (String.ofList (cs.map Environment.lower))

/-- The characters behind the first `size` bytes, if they end at a character. -/
def dropBytes? (size : Nat) : List Char → Option (List Char)
  | [] => if size = 0 then some [] else none
  | c :: cs =>
    if size = 0 then some (c :: cs)
    else if c.utf8Size ≤ size then dropBytes? (size - c.utf8Size) cs
    else none

/-- The characters in the first `size` bytes, if they end at a character. -/
def takeBytes? (size : Nat) : List Char → Option (List Char)
  | [] => if size = 0 then some [] else none
  | c :: cs =>
    if size = 0 then some []
    else if c.utf8Size ≤ size then (takeBytes? (size - c.utf8Size) cs).map (c :: ·)
    else none

/-- The characters between two byte positions, if both are between characters. -/
def slice? (directive : List Char) (first last : Nat) : Option (List Char) :=
  (dropBytes? first directive).bind (takeBytes? (last - first))

/-- The text is a value of a field. Truth values are patterns too. -/
def isFieldValue (cs : List Char) : Bool :=
  isReal cs || (Pattern.read? cs).any Pattern.canMatch

/-- The text is a field: a name, and behind an equals sign a value, which a further one ends. -/
def isField (cs : List Char) : Bool :=
  !cs.isEmpty &&
    match split '=' cs with
    | _ :: value :: _ => isFieldValue value
    | _ => true

/-- Which part of a directive is being scanned. -/
inductive Part where
  /-- Nothing was scanned. -/
  | start
  /-- The target, or a level alone. -/
  | target
  /-- The span, from the given byte on. -/
  | span (first : Nat)
  /-- The fields, from the given byte on. -/
  | fields (first : Nat)
  | fieldsClosed
  | spanClosed
  /-- The level, from the given byte on. -/
  | level (first : Nat)
  deriving DecidableEq, Repr

/-- The positions are positions between characters of the directive. -/
def cut (directive : List Char) (positions : List Nat) : Except FilterError Unit :=
  if positions.all fun position => (dropBytes? position directive).isSome then .ok ()
  else .error .insideCharacter

/-- The character may begin a target. -/
def isTargetStart (c : Char) : Bool :=
  c = '-' || c = ':' || c = '_' || isAlphanumeric c

/-- Scans the character at byte `position`. -/
def step (directive : List Char) (position : Nat) (c : Char) :
    Part → Except FilterError Part
  | .start =>
    if c = '[' then .ok (.span (position + 1))
    else if isTargetStart c then .ok .target
    else .error .malformed
  | .target =>
    if c = '=' then (cut directive [position]).map fun _ => .level (position + 1)
    else if c = '[' then (cut directive [position]).map fun _ => .span (position + 1)
    else .ok .target
  | .span first =>
    if c = ']' then (cut directive [first, position]).map fun _ => .spanClosed
    else if c = '\x7b' then (cut directive [first, position]).map fun _ => .fields (position + 1)
    else .ok (.span first)
  | .fields first =>
    if c = '\x7d' then
      match slice? directive first position with
      | none => .error .insideCharacter
      | some text => if isField text then .ok .fieldsClosed else .error .malformed
    else .ok (.fields first)
  | .fieldsClosed => if c = ']' then .ok .spanClosed else .error .malformed
  | .spanClosed => if c = '=' then .ok (.level (position + 1)) else .error .malformed
  | .level first => .ok (.level first)

def scan (directive : List Char) (position : Nat) (part : Part) :
    List Char → Except FilterError Part
  | [] => .ok part
  | c :: cs =>
    match step directive position c part with
    | .error e => .error e
    | .ok part => scan directive (position + c.utf8Size) part cs

/-- The directive may end in this part. -/
def finish (directive : List Char) : Part → Except FilterError Unit
  | .target | .spanClosed => .ok ()
  | .level first =>
    match dropBytes? first directive with
    | none => .error .insideCharacter
    | some level => if isLevel level then .ok () else .error .malformed
  | .start | .span _ | .fields _ | .fieldsClosed => .error .malformed

def checkDirective (directive : List Char) : Except FilterError Unit :=
  match scan directive 0 .start (trim directive) with
  | .error e => .error e
  | .ok part => finish directive part

/-- Checks a filter: its directives one after the other, of which empty ones are passed over. -/
def check (filter : String) : Except FilterError Unit :=
  ((split ',' filter.toList).filter fun directive => !directive.isEmpty).forM checkDirective

end LogFilter

end UptimeIntake
