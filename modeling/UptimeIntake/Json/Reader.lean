import UptimeIntake.Json.Token

/-!
# Reading JSON values

The grammar of JSON as a pushdown machine over tokens. Nesting costs stack cells of the machine
only, so that its depth is not limited.
-/

set_option autoImplicit false

namespace UptimeIntake.Json

namespace Reader

/-- An array or object that is still open, up to the value being read. Parts already complete are
held last first. -/
inductive Frame where
  | array (items : List Value)
  /-- An object, in the member `name`. -/
  | object (members : List (Bytes × Value)) (name : Bytes)

/-- The state of the machine, with the open frames innermost first. -/
inductive State where
  | value (stack : List Frame)
  | arrayOpened (stack : List Frame)
  | objectOpened (stack : List Frame)
  | name (members : List (Bytes × Value)) (stack : List Frame)
  | colon (members : List (Bytes × Value)) (name : Bytes) (stack : List Frame)
  | afterItem (items : List Value) (stack : List Frame)
  | afterMember (members : List (Bytes × Value)) (stack : List Frame)
  | done (v : Value)

/-- The state behind a complete value. -/
def complete (v : Value) : List Frame → State
  | [] => .done v
  | .array items :: stack => .afterItem (v :: items) stack
  | .object members name :: stack => .afterMember ((name, v) :: members) stack

/-- The state behind the first token of a value. -/
def begin? (token : Token) (stack : List Frame) : Option State :=
  match token with
  | .null => some (complete .null stack)
  | .bool b => some (complete (.bool b) stack)
  | .number literal => some (complete (.number literal) stack)
  | .text raw => some (complete (.text raw) stack)
  | .openArray => some (.arrayOpened stack)
  | .openObject => some (.objectOpened stack)
  | .closeArray | .closeObject | .comma | .colon => none

def step (state : State) (token : Token) : Option State :=
  match state with
  | .value stack => begin? token stack
  | .arrayOpened stack =>
    match token with
    | .closeArray => some (complete (.array []) stack)
    | token => begin? token (.array [] :: stack)
  | .objectOpened stack =>
    match token with
    | .closeObject => some (complete (.object []) stack)
    | .text name => some (.colon [] name stack)
    | _ => none
  | .name members stack =>
    match token with
    | .text name => some (.colon members name stack)
    | _ => none
  | .colon members name stack =>
    match token with
    | .colon => some (.value (.object members name :: stack))
    | _ => none
  | .afterItem items stack =>
    match token with
    | .comma => some (.value (.array items :: stack))
    | .closeArray => some (complete (.array items.reverse) stack)
    | _ => none
  | .afterMember members stack =>
    match token with
    | .comma => some (.name members stack)
    | .closeObject => some (complete (.object members.reverse) stack)
    | _ => none
  | .done _ => none

def run (state : State) : List Token → Option State
  | [] => some state
  | token :: rest =>
    match step state token with
    | some state => run state rest
    | none => none

end Reader

def Value.ofTokens? (tokens : List Token) : Option Value :=
  match Reader.run (.value []) tokens with
  | some (.done v) => some v
  | _ => none

def Value.read? (document : Bytes) : Option Value :=
  (Token.scan document).bind Value.ofTokens?

end UptimeIntake.Json
