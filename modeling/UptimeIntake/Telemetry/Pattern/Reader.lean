import UptimeIntake.Telemetry.Pattern.Basic
import UptimeIntake.Text.Alphanumeric

/-!
# Reading patterns

A pattern as a filter writes it. It stands in curly brackets, so no curly bracket is closed in it:
repetitions with a count and escapes with an argument in curly brackets cannot be finished and
are faults.

Sets and groups are read by machines that keep what is open around the present place. Each step
takes at least one character, so a machine needs no more steps than there are characters, and one
to end.
-/

set_option autoImplicit false

namespace UptimeIntake

open Text

namespace PatternReader

/-- Drops white space and comments. A comment goes up to the end of the line. -/
def skip (inComment : Bool) : List Char → List Char
  | [] => []
  | c :: cs =>
    if inComment then skip (c ≠ '\n') cs
    else if isBlank c then skip false cs
    else if c = '#' then skip true cs
    else c :: cs

/-- What comes next: with the flag `x`, behind white space and comments. -/
def next (verbose : Bool) (cs : List Char) : List Char :=
  if verbose then skip false cs else cs

/-- The character that a look ahead finds: with the flag `x`, the first that is neither white
space nor the sign of a comment. -/
def glance (verbose : Bool) (cs : List Char) : Option Char :=
  if verbose then
    match cs.dropWhile isBlank with
    | '#' :: rest => (rest.dropWhile isBlank).head?
    | rest => rest.head?
  else cs.head?

/-! ## Characters and escapes -/

def hexDigit? (c : Char) : Option Nat :=
  if c.isDigit then some (c.toNat - '0'.toNat)
  else if 'a' ≤ c ∧ c ≤ 'f' then some (c.toNat - 'a'.toNat + 10)
  else if 'A' ≤ c ∧ c ≤ 'F' then some (c.toNat - 'A'.toNat + 10)
  else none

/-- Reads hexadecimal digits behind those that write `n`. -/
def hexadecimal? (verbose : Bool) : Nat → Nat → List Char → Option (Nat × List Char)
  | 0, n, cs => some (n, cs)
  | digits + 1, n, cs =>
    match next verbose cs with
    | [] => none
    | c :: rest =>
      (hexDigit? c).bind fun d => hexadecimal? verbose digits (n * 16 + d) rest

def codePoint? (verbose : Bool) (digits : Nat) (cs : List Char) :
    Option (Pattern × List Char) :=
  (hexadecimal? verbose digits 0 cs).bind fun (n, rest) =>
    if n.isValidChar then some (.char ⟨Char.ofNat n, digits = 2⟩, rest) else none

def propertyName? (verbose : Bool) (cs : List Char) : Option (Pattern × List Char) :=
  match next verbose cs with
  | [] => none
  | c :: rest => if c = '\x7b' ∨ c = '\\' then none else some (.property, rest)

/-- The control character that a letter stands for behind a backslash. -/
def control? : Char → Option Char
  | 'a' => some '\x07'
  | 't' => some '\t'
  | 'n' => some '\n'
  | 'v' => some '\x0B'
  | 'f' => some '\x0C'
  | 'r' => some '\r'
  | _ => none

/-- Reads what follows a backslash. All of ASCII that is neither letter nor digit stands for
itself. -/
def escape? (verbose : Bool) : List Char → Option (Pattern × List Char)
  | [] => none
  | c :: cs =>
    match c with
    | 'x' => codePoint? verbose 2 cs
    | 'u' => codePoint? verbose 4 cs
    | 'U' => codePoint? verbose 8 cs
    | 'p' | 'P' => propertyName? verbose cs
    | 'd' | 's' | 'w' => some (.kind false, cs)
    | 'D' | 'S' | 'W' => some (.kind true, cs)
    | 'A' | 'z' => some (.edge, cs)
    | 'b' | 'B' | '<' | '>' => some (.wordEdge, cs)
    | _ =>
      match control? c with
      | some control => some (.char ⟨control, false⟩, cs)
      | none => if c.toNat < 128 ∧ ¬ c.isAlphanum then some (.char ⟨c, false⟩, cs) else none

/-! ## Sets -/

structure OpenSet where
  /-- It is what the set leaves out. -/
  negated : Bool
  /-- Nothing but hyphens was read. -/
  isFresh : Bool
  /-- The left side of an operation. -/
  left : Option CharSet
  /-- The items, last first. -/
  items : List SetItem

namespace OpenSet

def start (negated : Bool) : OpenSet := ⟨negated, true, none, []⟩

def add (s : OpenSet) (item : SetItem) : OpenSet := { s with items := item :: s.items }

def close (s : OpenSet) : CharSet :=
  let right := .item (.ofItems s.items.reverse)
  match s.left with
  | none => right
  | some left => .operation left right

/-- Makes the set as read the left side of an operation. -/
def operate (s : OpenSet) : OpenSet := { s with left := some s.close, items := [] }

end OpenSet

def classNames : List String :=
  ["alnum", "alpha", "ascii", "blank", "cntrl", "digit", "graph", "lower", "print", "punct",
   "space", "upper", "word", "xdigit"]

/-- Reads a named class behind its opening bracket: whether it is negated. -/
def className? : List Char → Option (Bool × List Char)
  | ':' :: cs =>
    let (negated, cs) : Bool × List Char :=
      match cs with
      | '^' :: rest => (true, rest)
      | _ => (false, cs)
    let name := cs.takeWhile (· ≠ ':')
    match cs.drop name.length with
    | ':' :: ']' :: rest =>
      if classNames.contains (String.ofList name) then some (negated, rest) else none
    | _ => none
  | _ => none

def openSet (verbose : Bool) (cs : List Char) : OpenSet × List Char :=
  match next verbose cs with
  | '^' :: rest => (.start true, rest)
  | rest => (.start false, rest)

def toItem? : Pattern → Option SetItem
  | .char c => some (.char c)
  | .kind negated => some (.kind negated)
  | .property => some .property
  | _ => none

def setChar? (verbose : Bool) : List Char → Option (Pattern × List Char)
  | [] => none
  | '\\' :: cs => escape? verbose cs
  | c :: cs => some (.char ⟨c, false⟩, cs)

/-- Reads an item: a range, if a hyphen follows that is neither the last character of the set nor
one of two. -/
def setItem? (verbose : Bool) (cs : List Char) : Option (SetItem × List Char) := do
  let (first, rest) ← setChar? verbose cs
  match next verbose rest with
  | '-' :: behind =>
    if glance verbose behind = some ']' ∨ glance verbose behind = some '-' then
      return (← toItem? first, '-' :: behind)
    else
      let (last, rest) ← setChar? verbose (next verbose behind)
      match first, last with
      | .char a, .char b => if a.char ≤ b.char then return (.range a b, rest) else none
      | _, _ => none
  | rest => return (← toItem? first, rest)

/-- The character, written twice, is an operation on sets. -/
def isSetOperator (c : Char) : Bool :=
  c = '&' || c = '-' || c = '~'

/-- Reads a set to its end, inside the sets `outer`. A closing bracket that comes first, and
hyphens that come first, are items. -/
def readSet (verbose : Bool) :
    Nat → List OpenSet → OpenSet → List Char → Option (Pattern × List Char)
  | 0, _, _, _ => none
  | steps + 1, outer, set, cs =>
    match next verbose cs with
    | [] => none
    | c :: rest =>
      if set.isFresh && c = '-' then
        readSet verbose steps outer (set.add (.char ⟨c, false⟩)) rest
      else if set.isFresh && set.items.isEmpty && c = ']' then
        readSet verbose steps outer { set.add (.char ⟨c, false⟩) with isFresh := false } rest
      else
        let set := { set with isFresh := false }
        if c = '[' then
          match className? rest with
          | some (negated, rest) => readSet verbose steps outer (set.add (.named negated)) rest
          | none =>
            let (inner, rest) := openSet verbose rest
            readSet verbose steps (set :: outer) inner rest
        else if c = ']' then
          match outer with
          | [] => some (.set set.negated set.close, rest)
          | around :: outer =>
            readSet verbose steps outer (around.add (.nested set.negated set.close)) rest
        else if isSetOperator c && rest.head? = some c then
          readSet verbose steps outer set.operate (rest.drop 1)
        else
          match setItem? verbose (c :: rest) with
          | none => none
          | some (item, rest) => readSet verbose steps outer (set.add item) rest

def set? (verbose : Bool) (cs : List Char) : Option (Pattern × List Char) :=
  let (set, rest) := openSet verbose cs
  readSet verbose (rest.length + 1) [] set rest

/-! ## Groups -/

def flag? : Char → Option PatternFlag
  | 'i' => some .ignoreCase
  | 'm' => some .multiLine
  | 's' => some .dotAll
  | 'U' => some .swapGreed
  | 'u' => some .unicode
  | 'R' => some .crlf
  | 'x' => some .verbose
  | _ => none

/-- What stands at the start of a group. -/
inductive Opening where
  /-- Settings alone, which end there. -/
  | settings (settings : FlagSettings)
  /-- Settings and a name, behind which the group begins. -/
  | group (settings : FlagSettings) (name : Option (List Char))

/-- Reads settings behind those in `settings`. A flag is named once, one minus sign turns off what
follows it, and something must follow it. -/
def settings? (settings : FlagSettings) (isOff : Bool) :
    List Char → Option (Opening × List Char)
  | [] => none
  | c :: cs =>
    if c = ':' ∨ c = ')' then
      if isOff && settings.all (·.2) then none
      else if c = ':' then some (.group settings none, cs)
      else if settings.isEmpty then none
      else some (.settings settings, cs)
    else if c = '-' then if isOff then none else settings? settings true cs
    else
      match flag? c with
      | none => none
      | some flag =>
        if settings.any (·.1 = flag) then none
        else settings? (settings ++ [(flag, !isOff)]) isOff cs

def isGroupName : List Char → Bool
  | [] => false
  | c :: cs =>
    (c = '_' || isAlphabetic c) &&
      cs.all fun c => c = '_' || c = '.' || c = '[' || c = ']' || isAlphanumeric c

/-- Reads a name, which is not one of `names`, and the sign that closes it. -/
def groupName? (names : List (List Char)) (cs : List Char) : Option (Opening × List Char) :=
  let name := cs.takeWhile (· ≠ '>')
  match cs.drop name.length with
  | '>' :: rest =>
    if isGroupName name && !names.contains name then some (.group [] (some name), rest) else none
  | _ => none

/-- Reads the start of a group behind its bracket. There are no conditions on what is around. -/
def opening? (names : List (List Char)) : List Char → Option (Opening × List Char)
  | '?' :: '=' :: _ | '?' :: '!' :: _ | '?' :: '<' :: '=' :: _ | '?' :: '<' :: '!' :: _ => none
  | '?' :: 'P' :: '<' :: rest | '?' :: '<' :: rest => groupName? names rest
  | '?' :: rest => settings? [] false rest
  | rest => some (.group [] none, rest)

structure OpenGroup where
  settings : FlagSettings
  /-- White space and comments are passed over from here on. -/
  verbose : Bool
  /-- The alternatives that are complete, last first. -/
  alternatives : List Pattern
  /-- The patterns of the present alternative, last first. -/
  patterns : List Pattern

namespace OpenGroup

/-- A group of which nothing was read, where white space is passed over or not around it. -/
def start (settings : FlagSettings) (verbose : Bool) : OpenGroup :=
  ⟨settings, (settings.value? .verbose).getD verbose, [], []⟩

def add (g : OpenGroup) (p : Pattern) : OpenGroup := { g with patterns := p :: g.patterns }

def set (g : OpenGroup) (settings : FlagSettings) : OpenGroup :=
  { g.add (.settings settings) with verbose := (settings.value? .verbose).getD g.verbose }

def alternate (g : OpenGroup) : OpenGroup :=
  { g with alternatives := .ofSequence g.patterns.reverse :: g.alternatives, patterns := [] }

/-- Makes the last pattern a repetition. There must be one, and not settings. -/
def repeatLast? (g : OpenGroup) : Option OpenGroup :=
  match g.patterns with
  | [] | .settings _ :: _ => none
  | p :: rest => some { g with patterns := .repeated p :: rest }

def close (g : OpenGroup) : Pattern :=
  .ofAlternatives g.alternate.alternatives.reverse

end OpenGroup

/-- Drops the sign of a lazy repetition. -/
def dropLazy : List Char → List Char
  | '?' :: cs => cs
  | cs => cs

/-- Reads a single character, an escape or a sign. -/
def single? (verbose : Bool) (c : Char) (rest : List Char) : Option (Pattern × List Char) :=
  if c = '\\' then escape? verbose rest
  else if c = '[' then set? verbose rest
  else if c = '.' then some (.any, rest)
  else if c = '^' ∨ c = '$' then some (.edge, rest)
  else some (.char ⟨c, false⟩, rest)

/-- Reads a group to the end of the text, inside the groups `outer` and behind groups with the
names `names`. -/
def readGroup : Nat → List (List Char) → List OpenGroup → OpenGroup → List Char → Option Pattern
  | 0, _, _, _, _ => none
  | steps + 1, names, outer, group, cs =>
    match next group.verbose cs with
    | [] => if outer.isEmpty then some group.close else none
    | c :: rest =>
      if c = '(' then
        match opening? names (next group.verbose rest) with
        | none => none
        | some (.settings settings, rest) =>
          readGroup steps names outer (group.set settings) rest
        | some (.group settings name, rest) =>
          readGroup steps (name.toList ++ names) (group :: outer)
            (.start settings group.verbose) rest
      else if c = ')' then
        match outer with
        | [] => none
        | around :: outer =>
          readGroup steps names outer (around.add (.group group.settings group.close)) rest
      else if c = '|' then readGroup steps names outer group.alternate rest
      else if c = '?' ∨ c = '*' ∨ c = '+' then
        match group.repeatLast? with
        | none => none
        | some group => readGroup steps names outer group (dropLazy rest)
      else if c = '\x7b' then none
      else
        match single? group.verbose c rest with
        | none => none
        | some (p, rest) => readGroup steps names outer (group.add p) rest

end PatternReader

def Pattern.read? (cs : List Char) : Option Pattern :=
  PatternReader.readGroup (cs.length + 1) [] [] (.start [] false) cs

end UptimeIntake
