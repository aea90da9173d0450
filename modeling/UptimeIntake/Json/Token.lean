import UptimeIntake.Json.Value

/-!
# JSON tokens

The lexical level of JSON as a machine that takes one byte at a time. Strings are checked for the
form of their escapes and for raw control characters only; their bytes need not be UTF-8 and
their escapes need not name characters.
-/

set_option autoImplicit false

namespace UptimeIntake.Json

inductive Token where
  | openArray
  | closeArray
  | openObject
  | closeObject
  | comma
  | colon
  | null
  | bool (b : Bool)
  | number (literal : List Char)
  /-- A string, as the bytes between its quotes. -/
  | text (raw : Bytes)
  deriving DecidableEq, Repr

namespace Token

/-- Where in an escape the machine stands. -/
inductive Escape where
  | outside
  /-- Behind a backslash. -/
  | opened
  /-- Before the given number of hexadecimal digits. -/
  | digits (due : Nat)
  deriving DecidableEq, Repr

/-- Which part of a number literal was read last. -/
inductive NumberPart where
  | sign
  | zero
  /-- A digit before the point. -/
  | integer
  | point
  /-- A digit behind the point. -/
  | fraction
  | exponentMark
  | exponentSign
  | exponent
  deriving DecidableEq, Repr

/-- A literal may end behind this part. -/
def NumberPart.isComplete : NumberPart → Bool
  | zero | integer | fraction | exponent => true
  | sign | point | exponentMark | exponentSign => false

/-- The part that a character continues a number literal with, if it continues it. -/
def NumberPart.next? (part : NumberPart) (c : Char) : Option NumberPart :=
  match part with
  | sign => if c = '0' then some zero else if c.isDigit then some integer else none
  | zero =>
    if c = '.' then some point else if c = 'e' ∨ c = 'E' then some exponentMark else none
  | integer =>
    if c.isDigit then some integer
    else if c = '.' then some point
    else if c = 'e' ∨ c = 'E' then some exponentMark
    else none
  | point => if c.isDigit then some fraction else none
  | fraction =>
    if c.isDigit then some fraction else if c = 'e' ∨ c = 'E' then some exponentMark else none
  | exponentMark =>
    if c.isDigit then some exponent else if c = '+' ∨ c = '-' then some exponentSign else none
  | exponentSign => if c.isDigit then some exponent else none
  | exponent => if c.isDigit then some exponent else none

/-- The state of the machine. What was read of a token is held last first. -/
inductive Mode where
  | gap
  /-- In a word, before the letters still due. -/
  | word (due : List Char) (token : Token)
  | text (seen : Bytes) (escape : Escape)
  | number (seen : List Char) (part : NumberPart)
  deriving DecidableEq, Repr

/-- The character may stand around tokens. -/
def isSpace (c : Char) : Bool :=
  c = ' ' || c = '\t' || c = '\n' || c = '\r'

/-- The token that a single character writes. -/
def punctuation? (c : Char) : Option Token :=
  if c = '[' then some openArray
  else if c = ']' then some closeArray
  else if c = '\x7b' then some openObject
  else if c = '\x7d' then some closeObject
  else if c = ',' then some comma
  else if c = ':' then some colon
  else none

/-- The mode in which a character begins a token of several characters. -/
def begin? (c : Char) : Option Mode :=
  if c = '\"' then some (.text [] .outside)
  else if c = 'n' then some (.word ['u', 'l', 'l'] .null)
  else if c = 't' then some (.word ['r', 'u', 'e'] (.bool true))
  else if c = 'f' then some (.word ['a', 'l', 's', 'e'] (.bool false))
  else if c = '-' then some (.number [c] .sign)
  else if c = '0' then some (.number [c] .zero)
  else if c.isDigit then some (.number [c] .integer)
  else none

def gapStep (c : Char) : Option (Mode × List Token) :=
  if isSpace c then some (.gap, [])
  else
    match punctuation? c with
    | some token => some (.gap, [token])
    | none => (begin? c).map fun mode => (mode, [])

def isHexDigit (c : Char) : Bool :=
  c.isDigit || ('a' ≤ c && c ≤ 'f') || ('A' ≤ c && c ≤ 'F')

/-- The character may follow a backslash on its own. -/
def isSimpleEscape (c : Char) : Bool :=
  c = '\"' || c = '\\' || c = '/' || c = 'b' || c = 'f' || c = 'n' || c = 'r' || c = 't'

def textStep (seen : Bytes) (escape : Escape) (b : UInt8) : Option (Mode × List Token) :=
  let c := Char.ofNat b.toNat
  match escape with
  | .outside =>
    if c = '\"' then some (.gap, [.text seen.reverse])
    else if c = '\\' then some (.text (b :: seen) .opened, [])
    else if b.toNat < 0x20 then none
    else some (.text (b :: seen) .outside, [])
  | .opened =>
    if c = 'u' then some (.text (b :: seen) (.digits 4), [])
    else if isSimpleEscape c then some (.text (b :: seen) .outside, [])
    else none
  | .digits due =>
    if isHexDigit c then
      some (.text (b :: seen) (if due ≤ 1 then .outside else .digits (due - 1)), [])
    else none

/-- One step of the machine: the new mode and the tokens that are complete, in order. A number
ends where it cannot be continued, and the byte behind it is read between tokens. -/
def step (mode : Mode) (b : UInt8) : Option (Mode × List Token) :=
  let c := Char.ofNat b.toNat
  match mode with
  | .gap => gapStep c
  | .word due token =>
    match due with
    | [] => none
    | [last] => if c = last then some (.gap, [token]) else none
    | x :: due => if c = x then some (.word due token, []) else none
  | .text seen escape => textStep seen escape b
  | .number seen part =>
    match part.next? c with
    | some part => some (.number (c :: seen) part, [])
    | none =>
      if part.isComplete then
        (gapStep c).map fun (mode, tokens) => (mode, .number seen.reverse :: tokens)
      else none

/-- The tokens pending at the end of the input, if it may end here. -/
def finish? : Mode → Option (List Token)
  | .gap => some []
  | .number seen part => if part.isComplete then some [.number seen.reverse] else none
  | .word _ _ | .text _ _ => none

/-- Runs the machine behind the tokens already complete, which `seen` holds last first. -/
def scanFrom (mode : Mode) (seen : List Token) : Bytes → Option (List Token)
  | [] => (finish? mode).map fun tokens => (tokens.reverse ++ seen).reverse
  | b :: rest =>
    match step mode b with
    | some (mode, tokens) => scanFrom mode (tokens.reverse ++ seen) rest
    | none => none

def scan (document : Bytes) : Option (List Token) :=
  scanFrom .gap [] document

end Token

end UptimeIntake.Json
