import UptimeIntake.Text.Blank

/-!
# Patterns

Regular expressions for the values of fields, as far as it matters whether they can be matched.

Patterns are matched byte by byte and carry no tables of characters. Hence what would need such a
table cannot be matched: letter case and the kinds of characters while characters are taken from
all scripts, and properties and word boundaries in all scripts. With the flag `u` turned off only
ASCII counts, and then nothing may match a byte that is no part of a character.
-/

set_option autoImplicit false

namespace UptimeIntake

inductive PatternFlag where
  /-- Letters match in either case. -/
  | ignoreCase
  /-- `^` and `$` match at line breaks. -/
  | multiLine
  /-- `.` matches a line break. -/
  | dotAll
  /-- Greedy and lazy repetitions change places. -/
  | swapGreed
  /-- Characters are taken from all scripts. -/
  | unicode
  /-- A line ends with a carriage return too. -/
  | crlf
  /-- White space and comments are passed over. -/
  | verbose
  deriving DecidableEq, Repr

/-- Flags with the values that they are given. -/
abbrev FlagSettings := List (PatternFlag × Bool)

/-- The value that the settings give to a flag, if they name it. -/
def FlagSettings.value? (settings : FlagSettings) (flag : PatternFlag) : Option Bool :=
  settings.lookup flag

/-- The flags that decide what can be matched. -/
structure MatchFlags where
  /-- Letters match in either case. -/
  ignoreCase : Bool := false
  /-- Characters are taken from all scripts. -/
  unicode : Bool := true
  deriving DecidableEq, Repr

def MatchFlags.apply (f : MatchFlags) (settings : FlagSettings) : MatchFlags where
  ignoreCase := (settings.value? .ignoreCase).getD f.ignoreCase
  unicode := (settings.value? .unicode).getD f.unicode

structure PatternChar where
  char : Char
  /-- It is written by two hexadecimal digits, and means a byte where only ASCII counts. -/
  isByte : Bool := false
  deriving DecidableEq, Repr

def PatternChar.isAscii (c : PatternChar) : Bool :=
  c.char.toNat < 128

/-! ## Sets of characters -/

mutual

/-- What a set in square brackets lists. -/
inductive SetItem where
  | nothing
  | char (c : PatternChar)
  | range (first last : PatternChar)
  /-- A named class of ASCII, or what is not in it. -/
  | named (negated : Bool)
  /-- Digits, white space or letters, or what is not of the kind. -/
  | kind (negated : Bool)
  | property
  | nested (negated : Bool) (set : CharSet)
  /-- Two or more items. -/
  | union (items : List SetItem)

inductive CharSet where
  | item (item : SetItem)
  /-- An intersection or a difference. -/
  | operation (left right : CharSet)

end

def SetItem.ofItems : List SetItem → SetItem
  | [] => .nothing
  | [item] => item
  | items => .union items

mutual

def SetItem.depth : SetItem → Nat
  | .nothing | .char _ | .range _ _ | .named _ | .kind _ | .property => 0
  | .nested _ set => set.depth + 1
  | .union items => SetItem.depthAll items + 1

def SetItem.depthAll : List SetItem → Nat
  | [] => 0
  | item :: rest => max item.depth (SetItem.depthAll rest)

def CharSet.depth : CharSet → Nat
  | .item item => item.depth
  | .operation left right => max left.depth right.depth + 1

end

def PatternChar.matches (f : MatchFlags) (c : PatternChar) : Bool :=
  if f.unicode then !f.ignoreCase else c.isAscii || !c.isByte

def PatternChar.matchesInSet (f : MatchFlags) (c : PatternChar) : Bool :=
  if f.unicode then !f.ignoreCase else c.isAscii

mutual

def SetItem.canMatch (f : MatchFlags) : SetItem → Bool
  | .nothing => true
  | .char c => c.matchesInSet f
  | .range first last => first.matchesInSet f && last.matchesInSet f
  | .named negated => if f.unicode then !f.ignoreCase else !negated
  | .kind negated => !f.unicode && !negated
  | .property => false
  | .nested negated set => (f.unicode || !negated) && set.canMatch f
  | .union items => SetItem.canMatchAll f items

def SetItem.canMatchAll (f : MatchFlags) : List SetItem → Bool
  | [] => true
  | item :: rest => item.canMatch f && SetItem.canMatchAll f rest

def CharSet.canMatch (f : MatchFlags) : CharSet → Bool
  | .item item => item.canMatch f
  | .operation left right => left.canMatch f && right.canMatch f

end

/-! ## Patterns -/

inductive Pattern where
  | empty
  /-- Settings for the rest of the group. -/
  | settings (settings : FlagSettings)
  | char (c : PatternChar)
  | any
  /-- The start or end of a line or of the text. -/
  | edge
  /-- The start or end of a word, or what is not one. -/
  | wordEdge
  /-- A digit, white space or a letter, or what is not of the kind. -/
  | kind (negated : Bool)
  | property
  | set (negated : Bool) (set : CharSet)
  | repeated (pattern : Pattern)
  | group (settings : FlagSettings) (pattern : Pattern)
  /-- Two or more alternatives. -/
  | alternation (patterns : List Pattern)
  /-- Two or more patterns in sequence. -/
  | sequence (patterns : List Pattern)

namespace Pattern

def ofSequence : List Pattern → Pattern
  | [] => .empty
  | [p] => p
  | ps => .sequence ps

def ofAlternatives : List Pattern → Pattern
  | [p] => p
  | ps => .alternation ps

mutual

def depth : Pattern → Nat
  | .empty | .settings _ | .char _ | .any | .edge | .wordEdge | .kind _ | .property => 0
  | .set _ chars => chars.depth + 1
  | .repeated p => p.depth + 1
  | .group _ p => p.depth + 1
  | .alternation ps => depthAll ps + 1
  | .sequence ps => depthAll ps + 1

def depthAll : List Pattern → Nat
  | [] => 0
  | p :: ps => max p.depth (depthAll ps)

end

/-- The greatest nesting that a pattern may have. -/
def maxDepth : Nat := 250

mutual

/-- The flags behind a pattern, if it can be matched: settings hold up to the end of their group,
also in its later alternatives. -/
def flagsBehind? (f : MatchFlags) : Pattern → Option MatchFlags
  | .empty | .edge => some f
  | .settings new => some (f.apply new)
  | .char c => if c.matches f then some f else none
  | .any => if f.unicode then some f else none
  | .wordEdge => if f.unicode then none else some f
  | .kind negated => if !f.unicode && !negated then some f else none
  | .property => none
  | .set negated chars =>
    if (f.unicode || !negated) && chars.canMatch f then some f else none
  | .repeated p => flagsBehind? f p
  | .group new p => (flagsBehind? (f.apply new) p).map fun _ => f
  | .alternation ps => flagsBehindAll? f ps
  | .sequence ps => flagsBehindAll? f ps

/-- The flags behind patterns one after the other, if they can be matched. -/
def flagsBehindAll? (f : MatchFlags) : List Pattern → Option MatchFlags
  | [] => some f
  | p :: ps => (flagsBehind? f p).bind fun f => flagsBehindAll? f ps

end

def canMatch (p : Pattern) : Bool :=
  p.depth ≤ maxDepth && (flagsBehind? {} p).isSome

end Pattern

end UptimeIntake
