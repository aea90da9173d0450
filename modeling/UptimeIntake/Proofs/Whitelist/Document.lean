import UptimeIntake.Proofs.Octets
import UptimeIntake.Proofs.Text.Split
import UptimeIntake.Proofs.Whitelist.Fetch

/-!
# Which keys a document lists

Every line lists at most one key, whatever the lines around it: a document has the keys of its
lines, and two documents joined by a line break have the keys of both.
-/

set_option autoImplicit false

namespace UptimeIntake

open Text

namespace WhitelistDocument

/-- A line of the document, without the carriage return that may end it. -/
inductive IsLine (document : List Char) : List Char → Prop
  | plain {line : List Char} : IsPiece '\n' document line → ¬ ['\r'] <:+ line → IsLine document line
  | returned {line : List Char} : IsPiece '\n' document (line ++ ['\r']) → IsLine document line

/-- Trimmed, the line is not empty and no comment, and its first cell is the key, with white space
around it and quotes around that. -/
inductive LineLists (key : SubmitterKey) : List Char → Prop
  | intro {line bare cell rest trimmed unquoted digits : List Char} :
      Trims isBlank line bare → bare ≠ [] → bare.head? ≠ some '#' →
      bare = cell ++ rest → ',' ∉ cell → (rest = [] ∨ ∃ others, rest = ',' :: others) →
      Trims isBlank cell trimmed → Trims (· = '\"') trimmed unquoted →
      Octets.Spelling key digits unquoted → LineLists key line

def Lists (document : List Char) (key : SubmitterKey) : Prop :=
  ∃ line, IsLine document line ∧ LineLists key line

/-- The keys that reading finds, none if it fails. -/
def found (document : String) : List SubmitterKey :=
  match read document with
  | .ok whitelist => whitelist.keys
  | .error _ => []

/-! ## Lines -/

variable {line document : List Char} {key : SubmitterKey}

def isEntry (bare : List Char) : Bool :=
  !bare.isEmpty && bare.head? != some '#'

theorem isEntry_iff {bare : List Char} :
    isEntry bare = true ↔ bare ≠ [] ∧ bare.head? ≠ some '#' := by
  simp [isEntry]

theorem key?_eq_some_iff {bare : List Char} :
    key? bare = some key ↔ ∃ trimmed unquoted digits,
      Trims isBlank (bare.takeWhile (· ≠ ',')) trimmed ∧ Trims (· = '\"') trimmed unquoted ∧
        Octets.Spelling key digits unquoted := by
  rw [key?, cell, Octets.parse?_eq_some_iff]
  constructor
  · rintro ⟨digits, spelling⟩
    exact ⟨_, _, digits, trim_eq_iff.1 rfl, trims_iff.2 rfl, spelling⟩
  · rintro ⟨trimmed, unquoted, digits, trims, unquotes, spelling⟩
    rw [trim_eq_iff.2 trims, trims_iff.1 unquotes]
    exact ⟨digits, spelling⟩

theorem lineLists_iff : LineLists key line ↔ isEntry (trim line) = true ∧ key? (trim line) = some key := by
  rw [isEntry_iff, key?_eq_some_iff]
  constructor
  · intro lists
    cases lists with
    | intro trims nonempty noComment split free bounded cellTrims unquotes spelling =>
        have first := takeWhile_ne_eq_iff.2 ⟨free, _, split, bounded⟩
        rw [trim_eq_iff.2 trims, first]
        exact ⟨⟨nonempty, noComment⟩, _, _, _, cellTrims, unquotes, spelling⟩
  · rintro ⟨⟨nonempty, noComment⟩, trimmed, unquoted, digits, cellTrims, unquotes, spelling⟩
    obtain ⟨free, rest, split, bounded⟩ :=
      takeWhile_ne_eq_iff.1 (rfl : (trim line).takeWhile (· ≠ ',') = _)
    exact .intro (trim_eq_iff.1 rfl) nonempty noComment split free bounded cellTrims unquotes spelling

theorem trim_append_return (line : List Char) : trim (line ++ ['\r']) = trim line := by
  have isBlank_return : ∀ c ∈ ['\r'], isBlank c = true := List.forall_mem_singleton.2 rfl
  exact trim_eq_iff.2 ((trims_append_iff isBlank_return).2 (trim_eq_iff.1 rfl))

private theorem mem_keys_iff_split :
    key ∈ keys document ↔ ∃ piece ∈ split '\n' document, LineLists key piece := by
  have entries_eq : entries document = ((split '\n' document).map trim).filter isEntry := rfl
  simp only [keys, entries_eq, List.mem_filterMap, List.mem_filter, List.mem_map, lineLists_iff]
  constructor
  · rintro ⟨_, ⟨⟨piece, member, rfl⟩, isEntry⟩, isKey⟩
    exact ⟨piece, member, isEntry, isKey⟩
  · rintro ⟨piece, member, isEntry, isKey⟩
    exact ⟨_, ⟨⟨piece, member, rfl⟩, isEntry⟩, isKey⟩

theorem lineLists_append_return : LineLists key (line ++ ['\r']) ↔ LineLists key line := by
  rw [lineLists_iff, lineLists_iff, trim_append_return]

theorem mem_keys_iff : key ∈ keys document ↔ Lists document key := by
  rw [mem_keys_iff_split]
  constructor
  · rintro ⟨piece, member, lists⟩
    have isPiece := mem_split_iff.1 member
    by_cases returned : ['\r'] <:+ piece
    · obtain ⟨line, rfl⟩ := returned
      exact ⟨line, .returned isPiece, lineLists_append_return.1 lists⟩
    · exact ⟨piece, .plain isPiece returned, lists⟩
  · rintro ⟨line, isLine, lists⟩
    cases isLine with
    | plain isPiece _ => exact ⟨line, isPiece.mem_split, lists⟩
    | returned isPiece => exact ⟨_, isPiece.mem_split, lineLists_append_return.2 lists⟩

/-! ## Documents one after the other -/

theorem keys_append_cons (before after : List Char) :
    keys (before ++ '\n' :: after) = keys before ++ keys after := by
  simp only [keys, entries, split_append_cons, List.map_append, List.filter_append,
    List.filterMap_append]

/-- The carriage return goes to the last line alone, which is trimmed. -/
theorem keys_append_return (document : List Char) : keys (document ++ ['\r']) = keys document := by
  induction size : document.length using Nat.strongRecOn generalizing document with
  | _ n ih =>
      by_cases broken : '\n' ∈ document
      · obtain ⟨first, rest, rfl, _⟩ := List.eq_append_cons_of_mem broken
        have shorter : rest.length < n := by
          simp only [List.length_append, List.length_cons] at size
          omega
        rw [List.append_assoc, List.cons_append, keys_append_cons, keys_append_cons,
          ih rest.length shorter rest rfl]
      · have unbroken : '\n' ∉ document ++ ['\r'] := by simpa using broken
        simp only [keys, entries, split_of_not_mem broken, split_of_not_mem unbroken,
          List.map_singleton, trim_append_return]

/-! ## What is found -/

theorem mem_found_iff {document : String} : key ∈ found document ↔ Lists document.toList key := by
  rw [← mem_keys_iff, found, read]
  cases none : (keys document.toList).isEmpty with
  | true => simp [List.isEmpty_iff.1 none]
  | false => exact Whitelist.mem_ofList

private theorem found_append_break (before after : String) :
    key ∈ found (before ++ "\n" ++ after) ↔ key ∈ found before ∨ key ∈ found after := by
  have lines : (before ++ "\n" ++ after).toList = before.toList ++ '\n' :: after.toList := by
    simp [String.toList_append]
  simp only [mem_found_iff, ← mem_keys_iff, lines, keys_append_cons, List.mem_append]

private theorem found_append_return_break (before after : String) :
    key ∈ found (before ++ "\r\n" ++ after) ↔ key ∈ found before ∨ key ∈ found after := by
  have lines : (before ++ "\r\n" ++ after).toList =
      (before.toList ++ ['\r']) ++ '\n' :: after.toList := by
    simp [String.toList_append]
  simp only [mem_found_iff, ← mem_keys_iff, lines, keys_append_cons, keys_append_return,
    List.mem_append]

theorem exists_read_iff {document : String} :
    (∃ whitelist, read document = .ok whitelist) ↔ ∃ key, Lists document.toList key := by
  simp only [← mem_keys_iff, ← List.isEmpty_eq_false_iff_exists_mem, read]
  cases (keys document.toList).isEmpty with
  | true => simp
  | false => simp

/-- A document is read as the set of the keys that its lines list, and refused with the number of
its entries if they list none. With a line break between them, with or without a carriage return,
two documents list the keys of both. Only the lines that list keys count, not their order or how
often they occur. -/
theorem document_read_as_keys_of_its_lines :
    (∀ document whitelist, read document = .ok whitelist →
      whitelist.keys ≠ [] ∧ ∀ key, key ∈ whitelist ↔ Lists document.toList key) ∧
    (∀ document, (∃ whitelist, read document = .ok whitelist) ↔
      ∃ key, Lists document.toList key) ∧
    (∀ document, (∀ key, ¬ Lists document.toList key) →
      read document = .error (.parse ("no submitter keys in " ++
        toString (entries document.toList).length ++ " entries"))) ∧
    (∀ before after key, key ∈ found (before ++ "\n" ++ after) ↔
      key ∈ found before ∨ key ∈ found after) ∧
    (∀ before after key, key ∈ found (before ++ "\r\n" ++ after) ↔
      key ∈ found before ∨ key ∈ found after) ∧
    ∀ first second : String,
      (∀ line key, IsLine first.toList line → LineLists key line → IsLine second.toList line) →
        ∀ key ∈ found first, key ∈ found second := by
  refine ⟨?_, fun document => exists_read_iff, ?_, fun before after key =>
    found_append_break before after, fun before after key =>
    found_append_return_break before after, ?_⟩
  · intro document whitelist accepted
    have isList := isListOf_of_read accepted
    refine ⟨isList.nonempty, fun key => ?_⟩
    rw [isList.mem_iff, mem_keys_iff]
  · intro document listsNone
    have empty : keys document.toList = [] := by
      rw [List.eq_nil_iff_forall_not_mem]
      exact fun key member => listsNone key (mem_keys_iff.1 member)
    rw [read, empty]
    rfl
  · intro first second covers key member
    obtain ⟨line, isLine, lists⟩ := mem_found_iff.1 member
    exact mem_found_iff.2 ⟨line, covers line key isLine lists, lists⟩

end WhitelistDocument

end UptimeIntake
