import UptimeIntake.Json.Reader
import UptimeIntake.Proofs.Json.Scanning

/-!
# The grammar of JSON

Which texts write which values. A value is written by a word, a literal, a quoted text, or its
parts in brackets with commas between them, and white space may stand around every token. The
scanner and the reader are machines, so each text is shown to take them from one state to the next,
whatever came before and comes behind.
-/

set_option autoImplicit false

namespace UptimeIntake.Json.Value

open UptimeIntake.Text Reader Token

/-- The text is read as the value, wherever a value may stand. -/
def Denotes (text : List Char) (v : Value) : Prop :=
  ∃ tokens, Scans text tokens ∧
    ∀ stack rest, run (.value stack) (tokens ++ rest) = run (complete v stack) rest

variable {text before after : List Char} {v : Value}

theorem Denotes.spaced (denotes : Denotes text v) (leading : ∀ c ∈ before, isSpace c = true)
    (trailing : ∀ c ∈ after, isSpace c = true) : Denotes (before ++ text ++ after) v := by
  obtain ⟨tokens, scans, reads⟩ := denotes
  refine ⟨tokens, ?_, reads⟩
  intro seen rest delimited
  rw [Utf8.encode_append, Utf8.encode_append, List.append_assoc, List.append_assoc,
    scanFrom_spaces leading, scans _ _ (delimited_spaces trailing delimited),
    scanFrom_spaces trailing]

theorem Denotes.read? (denotes : Denotes text v) : read? (Utf8.encode text) = some v := by
  obtain ⟨tokens, scans, reads⟩ := denotes
  have atEnd : Delimited [] := fun _ none => by cases none
  have scanned : scan (Utf8.encode text) = some tokens := by
    have whole := scans [] [] atEnd
    rw [List.append_nil, List.append_nil] at whole
    rw [scan, whole]
    simp [scanFrom, finish?]
  have parsed : ofTokens? tokens = some v := by
    have whole := reads [] []
    rw [List.append_nil] at whole
    rw [ofTokens?, whole]
    rfl
  rw [Value.read?, scanned, Option.bind_some, parsed]

/-! ## Single tokens -/

private theorem denotes_null : Denotes ['n', 'u', 'l', 'l'] .null :=
  ⟨[.null], fun _ _ _ => rfl, fun _ _ => rfl⟩

private theorem denotes_true : Denotes ['t', 'r', 'u', 'e'] (.bool true) :=
  ⟨[.bool true], fun _ _ _ => rfl, fun _ _ => rfl⟩

private theorem denotes_false : Denotes ['f', 'a', 'l', 's', 'e'] (.bool false) :=
  ⟨[.bool false], fun _ _ _ => rfl, fun _ _ => rfl⟩

private theorem denotes_number (isNumber : IsNumber text) : Denotes text (.number text) :=
  ⟨_, isNumber.scans, fun _ _ => rfl⟩

private theorem denotes_text {raw : List Char} (isQuotable : Text.IsQuotable raw) :
    Denotes ('\"' :: raw ++ ['\"']) (.text (Utf8.encode raw)) :=
  ⟨[.text (Utf8.encode raw)], fun seen rest _ => scanFrom_quoted isQuotable seen rest,
    fun _ _ => rfl⟩

/-! ## Parts in brackets -/

/-- Texts with commas between them. -/
def separated : List (List Char) → List Char
  | [] => []
  | first :: others => first ++ others.flatMap fun other => ',' :: other

/-- How the machines go through a sequence of parts in brackets. -/
structure Brackets (β : Type) where
  openChar : Char
  closeChar : Char
  openToken : Token
  closeToken : Token
  /-- The state behind the opening bracket. -/
  opened : List Frame → State
  /-- The state in which a part must follow. -/
  expecting : List β → List Frame → State
  /-- The state behind a part. -/
  behind : List β → List Frame → State
  build : List β → Value
  open_ascii : openChar.toNat < 0x80
  open_scans : gapStep openChar = some (.gap, [openToken])
  close_ascii : closeChar.toNat < 0x80
  close_scans : gapStep closeChar = some (.gap, [closeToken])
  close_delimits : isDelimiter closeChar = true
  opens : ∀ stack, Reader.step (.value stack) openToken = some (opened stack)
  /-- What may follow between commas may follow the opening bracket. -/
  enters : ∀ stack token state, Reader.step (expecting [] stack) token = some state →
    Reader.step (opened stack) token = some state
  expecting_ne_behind : ∀ parts stack, expecting [] stack ≠ behind parts stack
  continues : ∀ parts stack, Reader.step (behind parts stack) .comma = some (expecting parts stack)
  closes : ∀ parts stack,
    Reader.step (behind parts stack) closeToken = some (complete (build parts.reverse) stack)
  closes_empty : ∀ stack, Reader.step (opened stack) closeToken = some (complete (build []) stack)

namespace Brackets

def array : Brackets Value where
  openChar := '['
  closeChar := ']'
  openToken := .openArray
  closeToken := .closeArray
  opened := .arrayOpened
  expecting items stack := .value (.array items :: stack)
  behind := .afterItem
  build := .array
  open_ascii := by decide
  open_scans := rfl
  close_ascii := by decide
  close_scans := rfl
  close_delimits := rfl
  opens _ := rfl
  enters stack token state stepped := by
    cases token with
    | closeArray => cases stepped
    | _ => exact stepped
  expecting_ne_behind _ _ same := by cases same
  continues _ _ := rfl
  closes _ _ := rfl
  closes_empty _ := rfl

def object : Brackets (Bytes × Value) where
  openChar := '\x7b'
  closeChar := '\x7d'
  openToken := .openObject
  closeToken := .closeObject
  opened := .objectOpened
  expecting := .name
  behind := .afterMember
  build := .object
  open_ascii := by decide
  open_scans := rfl
  close_ascii := by decide
  close_scans := rfl
  close_delimits := rfl
  opens _ := rfl
  enters stack token state stepped := by
    cases token with
    | text name => exact stepped
    | _ => cases stepped
  expecting_ne_behind _ _ same := by cases same
  continues _ _ := rfl
  closes _ _ := rfl
  closes_empty _ := rfl

variable {β : Type} (b : Brackets β)

/-- The text is read as one more part. -/
def Adds (text : List Char) (part : β) : Prop :=
  ∃ tokens, Scans text tokens ∧ ∀ earlier stack rest,
    run (b.expecting earlier stack) (tokens ++ rest) = run (b.behind (part :: earlier) stack) rest

variable {b}

theorem run_cons_of_step {state next : State} {token : Token} (rest : List Token)
    (stepped : Reader.step state token = some next) : run state (token :: rest) = run next rest := by
  rw [run, stepped]

private theorem run_opened {tokens : List Token} {part : β}
    (reads : ∀ earlier stack rest,
      run (b.expecting earlier stack) (tokens ++ rest) = run (b.behind (part :: earlier) stack) rest)
    (stack : List Frame) (rest : List Token) :
    run (b.opened stack) (tokens ++ rest) = run (b.behind [part] stack) rest := by
  have alone := reads [] stack []
  rw [List.append_nil] at alone
  cases tokens with
  | nil => exact absurd (Option.some.inj alone) (b.expecting_ne_behind _ _)
  | cons token tokens =>
      cases stepped : Reader.step (b.expecting [] stack) token with
      | none => simp only [run, stepped, reduceCtorEq] at alone
      | some state =>
          have whole := reads [] stack rest
          rw [List.cons_append, run_cons_of_step _ stepped] at whole
          rw [List.cons_append, run_cons_of_step _ (b.enters stack token state stepped), whole]

theorem delimited_further (others : List (List Char)) {rest : Bytes} (delimited : Delimited rest) :
    Delimited (Utf8.encode (others.flatMap fun other => ',' :: other) ++ rest) := by
  cases others with
  | nil => exact delimited
  | cons other others => exact delimited_cons _ (by decide)

private theorem exists_tokens_further {parts : List (List Char × β)}
    (each : ∀ part ∈ parts, b.Adds part.1 part.2) :
    ∃ tokens, Scans ((parts.map Prod.fst).flatMap fun other => ',' :: other) tokens ∧
      ∀ earlier stack rest, run (b.behind earlier stack) (tokens ++ rest) =
        run (b.behind ((parts.map Prod.snd).reverse ++ earlier) stack) rest := by
  induction parts with
  | nil => exact ⟨[], fun _ _ _ => rfl, fun _ _ _ => rfl⟩
  | cons part parts ih =>
      obtain ⟨first, others⟩ := List.forall_mem_cons.1 each
      obtain ⟨front, frontScans, frontReads⟩ := first
      obtain ⟨tail, tailScans, tailReads⟩ := ih others
      refine ⟨.comma :: front ++ tail, ?_, ?_⟩
      · intro seen rest delimited
        rw [List.map_cons, List.flatMap_cons, List.cons_append, Utf8.encode_cons, List.append_assoc,
          scanFrom_punctuation .comma _ _ (by decide) rfl, Utf8.encode_append, List.append_assoc,
          frontScans _ _ (delimited_further _ delimited), tailScans _ _ delimited]
        simp
      · intro earlier stack rest
        rw [List.cons_append, List.cons_append, run_cons_of_step _ (b.continues earlier stack),
          List.append_assoc, frontReads, tailReads]
        simp

theorem denotes {parts : List (List Char × β)} (isSome : parts ≠ [])
    (each : ∀ part ∈ parts, b.Adds part.1 part.2) :
    Denotes (b.openChar :: (separated (parts.map Prod.fst) ++ [b.closeChar]))
      (b.build (parts.map Prod.snd)) := by
  cases parts with
  | nil => exact absurd rfl isSome
  | cons part parts =>
      obtain ⟨first, others⟩ := List.forall_mem_cons.1 each
      obtain ⟨front, frontScans, frontReads⟩ := first
      obtain ⟨tail, tailScans, tailReads⟩ := exists_tokens_further others
      refine ⟨b.openToken :: (front ++ (tail ++ [b.closeToken])), ?_, ?_⟩
      · intro seen rest delimited
        have closes : Delimited (String.utf8EncodeChar b.closeChar ++ rest) := by
          rw [Utf8.utf8EncodeChar_of_lt b.close_ascii]
          refine delimited_cons _ ?_
          rw [ofNat_byte_of_lt b.close_ascii]
          exact b.close_delimits
        rw [Utf8.encode_cons, List.append_assoc,
          scanFrom_punctuation b.openToken _ _ b.open_ascii b.open_scans, List.map_cons, separated,
          Utf8.encode_append, Utf8.encode_append, List.append_assoc, List.append_assoc,
          Utf8.encode_cons, Utf8.encode_nil, List.append_nil,
          frontScans _ _ (delimited_further _ closes), tailScans _ _ closes,
          scanFrom_punctuation b.closeToken _ _ b.close_ascii b.close_scans]
        simp
      · intro stack rest
        rw [List.cons_append, run_cons_of_step _ (b.opens stack), List.append_assoc,
          run_opened frontReads, List.append_assoc, tailReads, List.singleton_append,
          run_cons_of_step _ (b.closes _ stack)]
        simp

theorem denotes_empty {spaces : List Char} (areSpaces : ∀ c ∈ spaces, isSpace c = true) :
    Denotes (b.openChar :: (spaces ++ [b.closeChar])) (b.build []) := by
  refine ⟨[b.openToken, b.closeToken], ?_, ?_⟩
  · intro seen rest delimited
    rw [Utf8.encode_cons, List.append_assoc,
      scanFrom_punctuation b.openToken _ _ b.open_ascii b.open_scans, Utf8.encode_append,
      List.append_assoc, scanFrom_spaces areSpaces, Utf8.encode_cons, Utf8.encode_nil,
      List.append_nil, scanFrom_punctuation b.closeToken _ _ b.close_ascii b.close_scans]
    rfl
  · intro stack rest
    rw [List.cons_append, run_cons_of_step _ (b.opens stack), List.singleton_append,
      run_cons_of_step _ (b.closes_empty stack)]

private theorem adds_array (denotes : Denotes text v) : array.Adds text v := by
  obtain ⟨tokens, scans, reads⟩ := denotes
  exact ⟨tokens, scans, fun earlier stack rest => reads (.array earlier :: stack) rest⟩

end Brackets

/-! ## Members -/

/-- What is written for a member of an object: its name between quotes, a colon and its value. White
space may stand around the name. -/
structure MemberText where
  before : List Char
  /-- The name as it stands between its quotes. -/
  name : List Char
  between : List Char
  value : List Char

namespace MemberText

def write (m : MemberText) : List Char :=
  m.before ++ ('\"' :: m.name ++ ['\"'] ++ (m.between ++ ':' :: m.value))

structure IsFormed (m : MemberText) : Prop where
  before : ∀ c ∈ m.before, isSpace c = true
  name : Text.IsQuotable m.name
  between : ∀ c ∈ m.between, isSpace c = true

theorem IsFormed.adds {m : MemberText} (isFormed : m.IsFormed) (denotes : Denotes m.value v) :
    Brackets.object.Adds m.write (Utf8.encode m.name, v) := by
  obtain ⟨tokens, scans, reads⟩ := denotes
  refine ⟨.text (Utf8.encode m.name) :: .colon :: tokens, ?_, ?_⟩
  · intro seen rest delimited
    rw [write, Utf8.encode_append, List.append_assoc, scanFrom_spaces isFormed.before,
      Utf8.encode_append, List.append_assoc, scanFrom_quoted isFormed.name, Utf8.encode_append,
      List.append_assoc, scanFrom_spaces isFormed.between, Utf8.encode_cons, List.append_assoc,
      scanFrom_punctuation .colon _ _ (by decide) rfl, scans _ _ delimited]
    simp
  · intro earlier stack rest
    exact reads (.object earlier (Utf8.encode m.name) :: stack) rest

end MemberText

/-! ## Texts of a value -/

/-- The text writes the value. -/
inductive Written : List Char → Value → Prop
  | null : Written ['n', 'u', 'l', 'l'] .null
  | true : Written ['t', 'r', 'u', 'e'] (.bool true)
  | false : Written ['f', 'a', 'l', 's', 'e'] (.bool false)
  | number {literal : List Char} : IsNumber literal → Written literal (.number literal)
  | text {raw : List Char} : Text.IsQuotable raw →
      Written ('\"' :: raw ++ ['\"']) (.text (Utf8.encode raw))
  | emptyArray {spaces : List Char} : (∀ c ∈ spaces, isSpace c = true) →
      Written ('[' :: (spaces ++ [']'])) (.array [])
  | array {items : List (List Char × Value)} : items ≠ [] →
      (∀ item ∈ items, Written item.1 item.2) →
      Written ('[' :: (separated (items.map Prod.fst) ++ [']'])) (.array (items.map Prod.snd))
  | emptyObject {spaces : List Char} : (∀ c ∈ spaces, isSpace c = true) →
      Written ('\x7b' :: (spaces ++ ['\x7d'])) (.object [])
  | object {members : List (MemberText × Value)} : members ≠ [] →
      (∀ m ∈ members, m.1.IsFormed) → (∀ m ∈ members, Written m.1.value m.2) →
      Written ('\x7b' :: (separated (members.map fun m => m.1.write) ++ ['\x7d']))
        (.object (members.map fun m => (Utf8.encode m.1.name, m.2)))
  | spaced {before text after : List Char} {v : Value} : (∀ c ∈ before, isSpace c = true) →
      (∀ c ∈ after, isSpace c = true) → Written text v → Written (before ++ text ++ after) v

private theorem denotes_array {items : List (List Char × Value)} (isSome : items ≠ [])
    (each : ∀ item ∈ items, Denotes item.1 item.2) :
    Denotes ('[' :: (separated (items.map Prod.fst) ++ [']'])) (.array (items.map Prod.snd)) :=
  Brackets.array.denotes isSome fun item member => Brackets.adds_array (each item member)

private theorem denotes_object {members : List (MemberText × Value)} (isSome : members ≠ [])
    (formed : ∀ m ∈ members, m.1.IsFormed) (each : ∀ m ∈ members, Denotes m.1.value m.2) :
    Denotes ('\x7b' :: (separated (members.map fun m => m.1.write) ++ ['\x7d']))
      (.object (members.map fun m => (Utf8.encode m.1.name, m.2))) := by
  have adds : ∀ part ∈ members.map fun m => (m.1.write, (Utf8.encode m.1.name, m.2)),
      Brackets.object.Adds part.1 part.2 := by
    rw [List.forall_mem_map]
    intro m member
    exact (formed m member).adds (each m member)
  have denotes := Brackets.object.denotes (mt List.map_eq_nil_iff.1 isSome) adds
  rw [List.map_map, List.map_map] at denotes
  exact denotes

theorem Written.denotes (written : Written text v) : Denotes text v := by
  induction written with
  | null => exact denotes_null
  | true => exact denotes_true
  | false => exact denotes_false
  | number isNumber => exact denotes_number isNumber
  | text isQuotable => exact denotes_text isQuotable
  | emptyArray areSpaces => exact Brackets.array.denotes_empty areSpaces
  | array isSome _ ih => exact denotes_array isSome ih
  | emptyObject areSpaces => exact Brackets.object.denotes_empty areSpaces
  | object isSome formed _ ih => exact denotes_object isSome formed ih
  | spaced leading trailing _ ih => exact ih.spaced leading trailing

theorem Written.read? (written : Written text v) : read? (Utf8.encode text) = some v :=
  written.denotes.read?

end UptimeIntake.Json.Value
