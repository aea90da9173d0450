import UptimeIntake.Json.Reader
import UptimeIntake.Json.Text
import UptimeIntake.Text.Decimal

/-!
# JSON values read as data

Reading a value as a string, a bounded number, a truth value, or a record of named fields. A
record is written as an object, whose unknown members are skipped, or as an array of its fields
in order, which may be cut short.
-/

set_option autoImplicit false

namespace UptimeIntake.Json.Value

open UptimeIntake.Text

def text? : Value → Option String
  | text raw => Json.Text.read? raw
  | _ => none

def bool? : Value → Option Bool
  | bool b => some b
  | _ => none

/-- The number, if its literal consists of digits and it is at most `bound`. -/
def natural? (bound : Nat) : Value → Option Nat
  | number literal =>
    if literal.all Char.isDigit ∧ Decimal.value literal ≤ bound then some (Decimal.value literal)
    else none
  | _ => none

def uint16? (v : Value) : Option UInt16 :=
  (v.natural? (UInt16.size - 1)).map UInt16.ofNat

def uint32? (v : Value) : Option UInt32 :=
  (v.natural? (UInt32.size - 1)).map UInt32.ofNat

def uint64? (v : Value) : Option UInt64 :=
  (v.natural? (UInt64.size - 1)).map UInt64.ofNat

/-- The members of an object with their names resolved, if every name denotes a string. -/
def named? (members : List (Bytes × Value)) : Option (List (String × Value)) :=
  members.mapM fun (name, v) => (Json.Text.read? name).map fun name => (name, v)

/-- No name of `names` is the name of two members. -/
def distinct (names : List String) (members : List (String × Value)) : Bool :=
  names.all fun name => members.countP (fun member => member.1 = name) ≤ 1

/-- What a record with the fields `names` holds for each of them. An object may have other
members too, and none of the fields twice; an array has the fields in order and no more. -/
def fields? (names : List String) : Value → Option (String → Option Value)
  | object members =>
    (named? members).bind fun members =>
      if distinct names members then some fun name => members.lookup name else none
  | array items =>
    if items.length ≤ names.length then some fun name => items[names.idxOf name]? else none
  | _ => none

/-- A field that may be absent or null. -/
def optional {α : Type} (read? : Value → Option α) : Option Value → Option (Option α)
  | none | some null => some none
  | some v => (read? v).map some

/-- A field that may be absent and then has a default. -/
def withDefault {α : Type} (default : α) (read? : Value → Option α) : Option Value → Option α
  | none => some default
  | some v => read? v

end UptimeIntake.Json.Value
