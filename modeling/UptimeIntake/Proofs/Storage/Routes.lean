import UptimeIntake.Proofs.Storage.Location

/-!
# Routes of paths

Which paths a file store refuses, and where the others lead by their text alone: idle segments
dropped, to a place strictly below the root, whatever the root. So do the texts of the directory on
the way and of the temporary file.
-/

set_option autoImplicit false

namespace UptimeIntake

/-! ## Refused paths -/

/-- The path is empty, starts at the top or at a dot, or steps up somewhere. -/
inductive Location.IsRefused (path : String) : Prop where
  | empty : path = "" → IsRefused path
  | fromTop {rest} : path.toList = '/' :: rest → IsRefused path
  | fromDot {rest} : path.toList = '.' :: rest → (rest = [] ∨ ∃ others, rest = '/' :: others) →
      IsRefused path
  | stepsUp : Text.IsPiece '/' path.toList ['.', '.'] → IsRefused path

theorem isIdleSegment_iff {segment : List Char} :
    isIdleSegment segment = true ↔ segment = [] ∨ segment = ['.'] := by
  simp only [isIdleSegment, Bool.or_eq_true, decide_eq_true_eq]

theorem stepsUp_iff {cs : List Char} :
    (pathSegments cs).contains ['.', '.'] = true ↔ Text.IsPiece '/' cs ['.', '.'] := by
  rw [List.contains_iff_mem, pathSegments, Text.mem_split_iff]

theorem Location.escapes_iff {path : String} : escapes path.toList = true ↔ IsRefused path := by
  have first : (pathSegments path.toList).head?.all isIdleSegment = true ↔
      path.toList.takeWhile (· ≠ '/') = [] ∨ path.toList.takeWhile (· ≠ '/') = ['.'] := by
    rw [pathSegments, Text.head?_split, Option.all_some, isIdleSegment_iff]
  rw [escapes, Bool.or_eq_true, first, stepsUp_iff, Text.takeWhile_ne_eq_iff,
    Text.takeWhile_ne_eq_iff]
  constructor
  · rintro ((⟨_, rest, isRest, rfl | ⟨others, rfl⟩⟩ | ⟨_, rest, isRest, bounded⟩) | up)
    · exact .empty (String.toList_eq_nil_iff.1 isRest)
    · exact .fromTop isRest
    · exact .fromDot isRest bounded
    · exact .stepsUp up
  · intro refused
    cases refused with
    | empty isEmpty =>
        exact .inl (.inl ⟨List.not_mem_nil, [], String.toList_eq_nil_iff.2 isEmpty, .inl rfl⟩)
    | fromTop isRest => exact .inl (.inl ⟨List.not_mem_nil, _, isRest, .inr ⟨_, rfl⟩⟩)
    | fromDot isRest bounded => exact .inl (.inr ⟨by decide, _, isRest, bounded⟩)
    | stepsUp up => exact .inr up

instance (path : String) : Decidable (Location.IsRefused path) :=
  decidable_of_iff _ Location.escapes_iff

/-! ## Routes -/

/-- Where a path leads by its text alone: from the top, or else from wherever one is, along these
names. Segments that stand for the place before them are dropped. -/
structure PathRoute where
  fromTop : Bool
  names : List String
  deriving DecidableEq

def PathRoute.onward (r : PathRoute) (names : List String) : PathRoute :=
  ⟨r.fromTop, r.names ++ names⟩

/-- The names in these segments. -/
def namesIn (segments : List (List Char)) : List String :=
  (segments.filter fun segment => !isIdleSegment segment).map String.ofList

def routeOf (path : String) : PathRoute :=
  ⟨path.toList.head? = some '/', namesIn (pathSegments path.toList)⟩

theorem namesIn_append (front back : List (List Char)) :
    namesIn (front ++ back) = namesIn front ++ namesIn back := by
  rw [namesIn, List.filter_append, List.map_append]
  rfl

private theorem namesIn_idle {segments : List (List Char)}
    (areIdle : ∀ segment ∈ segments, isIdleSegment segment = true) : namesIn segments = [] := by
  have noName : segments.filter (fun segment => !isIdleSegment segment) = [] := by
    rw [List.filter_eq_nil_iff]
    intro segment member
    rw [areIdle segment member]
    decide
  rw [namesIn, noName, List.map_nil]

theorem namesIn_name {segment : List Char} (isName : isIdleSegment segment = false) :
    namesIn [segment] = [String.ofList segment] := by
  rw [namesIn, List.filter_cons_of_pos (by rw [isName]; rfl)]
  rfl

theorem names_routeOf_slash (front back : String) :
    (routeOf (front ++ "/" ++ back)).names = (routeOf front).names ++ (routeOf back).names := by
  have text : (front ++ "/" ++ back).toList = front.toList ++ '/' :: back.toList := by
    simp only [String.toList_append, List.append_assoc]
    rfl
  simp only [routeOf, text, pathSegments, Text.split_append_cons, namesIn_append]

theorem fromTop_routeOf_append {front : String} (filled : front ≠ "") (back : String) :
    (routeOf (front ++ back)).fromTop = (routeOf front).fromTop := by
  have nonempty : front.toList ≠ [] := mt String.toList_eq_nil_iff.1 filled
  simp only [routeOf, String.toList_append, List.head?_append_of_ne_nil _ nonempty]

private theorem names_routeOf_append {front : String} (closed : front.toList.getLast? = some '/')
    (back : String) :
    (routeOf (front ++ back)).names = (routeOf front).names ++ (routeOf back).names := by
  obtain ⟨before, isFront⟩ := List.getLast?_eq_some_iff.1 closed
  have cut : front = String.ofList before ++ "/" := by
    rw [← String.toList_inj, isFront]
    simp
  have frontNames := names_routeOf_slash (String.ofList before) ""
  rw [String.append_empty, ← cut] at frontNames
  rw [frontNames, cut, names_routeOf_slash]
  exact congrArg (· ++ (routeOf back).names) (List.append_nil _).symm

/-- A path that does not start at the top leads on from the root. -/
theorem routeOf_joinPath (root : String) {path : String} (relative : path.toList.head? ≠ some '/') :
    routeOf (joinPath root path) = (routeOf root).onward (routeOf path).names := by
  rw [joinPath, if_neg relative]
  cases last : root.toList.getLast? with
  | none =>
      obtain rfl := String.toList_eq_nil_iff.1 (List.getLast?_eq_none_iff.1 last)
      rw [Option.all_none, if_pos rfl, String.empty_append, routeOf, decide_eq_false relative]
      rfl
  | some c =>
      have filled : root ≠ "" := by
        rintro rfl
        cases last
      rw [Option.all_some]
      by_cases closed : c = '/'
      · rw [if_pos (decide_eq_true closed), PathRoute.onward, ← names_routeOf_append (closed ▸ last),
          ← fromTop_routeOf_append filled path]
      · rw [if_neg (mt of_decide_eq_true closed), PathRoute.onward, ← names_routeOf_slash,
          String.append_assoc, ← fromTop_routeOf_append filled]

/-! ## Segments inside -/

theorem exists_idle_end (segments : List (List Char)) :
    ∃ idle, segments = trimSegments segments ++ idle ∧ ∀ s ∈ idle, isIdleSegment s = true := by
  refine ⟨(segments.reverse.takeWhile isIdleSegment).reverse, ?_, fun s member => ?_⟩
  · rw [trimSegments, ← List.reverse_append, List.takeWhile_append_dropWhile, List.reverse_reverse]
  · exact List.mem_takeWhile_imp (List.mem_reverse.1 member)

theorem namesIn_trimSegments (segments : List (List Char)) :
    namesIn (trimSegments segments) = namesIn segments := by
  obtain ⟨idle, isWhole, areIdle⟩ := exists_idle_end segments
  conv => rhs; rw [isWhole, namesIn_append, namesIn_idle areIdle, List.append_nil]

theorem isPrefix_trimSegments (segments : List (List Char)) : trimSegments segments <+: segments := by
  obtain ⟨idle, isWhole, _⟩ := exists_idle_end segments
  exact ⟨idle, isWhole.symm⟩

private theorem not_isIdle_of_getLast? {segments : List (List Char)} {last : List Char}
    (isLast : (trimSegments segments).getLast? = some last) : isIdleSegment last = false := by
  have stopped := List.head?_dropWhile_not isIdleSegment segments.reverse
  rw [trimSegments, List.getLast?_reverse] at isLast
  rw [isLast] at stopped
  exact stopped

/-- Segments of a path that a file store takes: the first is a name, and none steps up. -/
structure AreInside (segments : List (List Char)) : Prop where
  noSlash : ∀ segment ∈ segments, '/' ∉ segment
  named : ∀ first, segments.head? = some first → isIdleSegment first = false
  noUp : ['.', '.'] ∉ segments

variable {segments way : List (List Char)} {last : List Char}

theorem AreInside.of_prefix {front : List (List Char)} (inside : AreInside segments)
    (isFront : front <+: segments) : AreInside front where
  noSlash segment member := inside.noSlash segment (isFront.mem member)
  named first isFirst := by
    obtain ⟨rest, rfl⟩ := isFront
    cases front with
    | nil => cases isFirst
    | cons other front => exact inside.named first isFirst
  noUp member := inside.noUp (isFront.mem member)

private theorem AreInside.trimSegments_ne_nil (inside : AreInside segments)
    (nonempty : segments ≠ []) :
    trimSegments segments ≠ [] := by
  intro noName
  obtain ⟨idle, isWhole, areIdle⟩ := exists_idle_end segments
  rw [noName, List.nil_append] at isWhole
  cases segments with
  | nil => exact nonempty rfl
  | cons first rest =>
      have isIdle := areIdle first (isWhole ▸ List.mem_cons_self)
      rw [inside.named first rfl] at isIdle
      cases isIdle

private theorem AreInside.concat (inside : AreInside way) (noSlash : '/' ∉ last)
    (isName : isIdleSegment last = false) (noUp : last ≠ ['.', '.']) :
    AreInside (way ++ [last]) where
  noSlash := List.forall_mem_append.2 ⟨inside.noSlash, List.forall_mem_singleton.2 noSlash⟩
  named first isFirst := by
    cases way with
    | nil =>
        obtain rfl := Option.some.inj isFirst
        exact isName
    | cons other rest => exact inside.named first isFirst
  noUp member := by
    cases List.mem_append.1 member with
    | inl onWay => exact inside.noUp onWay
    | inr isLast => exact noUp (List.mem_singleton.1 isLast).symm

theorem AreInside.relative (inside : AreInside segments) :
    (joinSegments segments).head? ≠ some '/' := by
  intro fromTop
  cases segments with
  | nil => cases fromTop
  | cons first rest =>
      have pieces := pathSegments_joinSegments (List.cons_ne_nil first rest) inside.noSlash
      obtain ⟨others, isText⟩ := List.head?_eq_some_iff.1 fromTop
      rw [isText] at pieces
      obtain rfl : [] = first := (List.cons.inj pieces).1
      exact absurd (inside.named [] rfl) (by decide)

theorem AreInside.joinSegments_ne_nil (inside : AreInside segments) (nonempty : segments ≠ []) :
    joinSegments segments ≠ [] :=
  UptimeIntake.joinSegments_ne_nil nonempty inside.noSlash fun isFirst =>
    absurd (inside.named [] isFirst) (by decide)

/-- Wherever the root is, the path leads on from there along these names, and none of them steps
up. -/
structure LeadsOn (path : String) (names : List String) : Prop where
  noUp : ".." ∉ names
  route : ∀ root, routeOf (joinPath root path) = (routeOf root).onward names

theorem AreInside.leadsOn (inside : AreInside segments) :
    LeadsOn (String.ofList (joinSegments segments)) (namesIn segments) where
  noUp member := by
    obtain ⟨segment, isName, isUp⟩ := List.mem_map.1 member
    obtain rfl : segment = ['.', '.'] := String.ofList_injective isUp
    exact inside.noUp (List.mem_filter.1 isName).1
  route root := by
    have relative : (String.ofList (joinSegments segments)).toList.head? ≠ some '/' := by
      rw [String.toList_ofList]
      exact inside.relative
    have names : (routeOf (String.ofList (joinSegments segments))).names = namesIn segments := by
      simp only [routeOf, String.toList_ofList]
      cases segments with
      | nil => rfl
      | cons first rest =>
          rw [pathSegments_joinSegments (List.cons_ne_nil first rest) inside.noSlash]
    rw [routeOf_joinPath root relative, names]

private theorem pathSegments_ne_nil (cs : List Char) : pathSegments cs ≠ [] := by
  rw [pathSegments, Text.split_eq_splitOn]
  exact List.splitOn_ne_nil '/' cs

/-! ## Locations -/

namespace Location

variable {path : String} {l : Location}

private theorem areInside_of_not_isRefused (taken : ¬ IsRefused path) :
    AreInside (pathSegments path.toList) where
  noSlash segment member := (Text.mem_split_iff.1 member).free
  named first isFirst := by
    rw [← escapes_iff, escapes, isFirst, Bool.or_eq_true, not_or] at taken
    exact Bool.eq_false_iff.2 taken.1
  noUp member := taken (.stepsUp (Text.mem_split_iff.1 member))

/-- A location by the segments of its path. -/
structure IsAt (l : Location) (path : String) (way : List (List Char)) (last : List Char) :
    Prop where
  inside : AreInside (pathSegments path.toList)
  trimmed : trimSegments (pathSegments path.toList) = way ++ [last]
  isName : isIdleSegment last = false
  folder : l.folder = .ofSegments (trimSegments way)
  name : l.name = String.ofList last
  text : l.text = path

theorem exists_isAt (taken : ¬ IsRefused path) :
    ∃ l way last, parse? path = some l ∧ l.IsAt path way last := by
  have inside := areInside_of_not_isRefused taken
  have notRefused : escapes path.toList = false :=
    Bool.eq_false_iff.2 fun refused => taken (escapes_iff.1 refused)
  obtain ⟨last, isLast⟩ := Option.ne_none_iff_exists'.1
    (mt List.getLast?_eq_none_iff.1 (inside.trimSegments_ne_nil (pathSegments_ne_nil path.toList)))
  obtain ⟨way, isWay⟩ := List.getLast?_eq_some_iff.1 isLast
  have dropped : (trimSegments (pathSegments path.toList)).dropLast = way := by
    rw [isWay, List.dropLast_concat]
  refine ⟨⟨.ofSegments (trimSegments way), String.ofList last, path,
    (pathSegments path.toList).getLast?.any isIdleSegment⟩, way, last, ?_, ?_⟩
  · rw [parse?, notRefused]
    simp only [isLast, dropped]
    rfl
  · exact ⟨inside, isWay, not_isIdle_of_getLast? isLast, rfl, rfl, rfl⟩

variable {way : List (List Char)} {last : List Char}

theorem IsAt.areInside_name (isAt : l.IsAt path way last) : AreInside (way ++ [last]) :=
  isAt.inside.of_prefix (isAt.trimmed ▸ isPrefix_trimSegments _)

theorem IsAt.areInside_folder (isAt : l.IsAt path way last) : AreInside (trimSegments way) :=
  isAt.areInside_name.of_prefix
    ((isPrefix_trimSegments way).trans (List.prefix_append way [last]))

theorem IsAt.names_folder (isAt : l.IsAt path way last) : l.folder.names = namesIn way := by
  rw [isAt.folder, ← namesIn_trimSegments]
  rfl

theorem IsAt.leadsOn_text (isAt : l.IsAt path way last) : LeadsOn l.text l.full := by
  have leads := isAt.inside.leadsOn
  rw [joinSegments_pathSegments, String.ofList_toList, ← namesIn_trimSegments, isAt.trimmed,
    namesIn_append, namesIn_name isAt.isName] at leads
  rw [isAt.text, full, isAt.names_folder, isAt.name]
  exact leads

theorem IsAt.leadsOn_folder (isAt : l.IsAt path way last) :
    LeadsOn l.folder.text l.folder.names := by
  have leads := isAt.areInside_folder.leadsOn
  rw [namesIn_trimSegments, ← isAt.names_folder] at leads
  rw [isAt.folder] at leads ⊢
  exact leads

private theorem IsAt.text_temporary (isAt : l.IsAt path way last) (number : Nat) :
    (l.temporary number).text =
      String.ofList (joinSegments (trimSegments way ++ [temporaryName last number])) := by
  have folderText : l.folder.text = String.ofList (joinSegments (trimSegments way)) := by
    rw [isAt.folder]
    rfl
  have name : l.name ++ "." ++ toString number ++ ".tmp" =
      String.ofList (temporaryName last number) := by
    rw [isAt.name, ofList_temporaryName]
  simp only [temporary, name, Directory.join, folderText]
  by_cases atRoot : trimSegments way = []
  · have noText : String.ofList (joinSegments []) = "" := rfl
    have alone : joinSegments ([] ++ [temporaryName last number]) = temporaryName last number :=
      List.intercalate_singleton
    rw [atRoot, alone, if_pos noText]
  · have filled : String.ofList (joinSegments (trimSegments way)) ≠ "" := by
      rw [Ne, String.ofList_eq_empty_iff]
      exact isAt.areInside_folder.joinSegments_ne_nil atRoot
    simp only [if_neg filled, joinSegments_concat atRoot, String.ofList_append, String.ofList_cons,
      String.append_assoc]
    rfl

theorem IsAt.leadsOn_temporary (isAt : l.IsAt path way last) (number : Nat) :
    LeadsOn (l.temporary number).text (l.temporary number).full := by
  have noSlash := isAt.areInside_name.noSlash last (List.mem_append_right _ List.mem_cons_self)
  have long : 2 < (temporaryName last number).length := by
    simp only [temporaryName, List.length_append, List.length_cons]
    have ending : ".tmp".toList.length = 4 := rfl
    omega
  have isName := not_isIdle_of_long long
  have inside := isAt.areInside_folder.concat (noSlash_temporaryName noSlash number) isName
    (ne_up_of_long long)
  have leads := inside.leadsOn
  rw [← isAt.text_temporary, namesIn_append, namesIn_trimSegments, namesIn_name isName,
    ← isAt.names_folder, ofList_temporaryName, ← isAt.name] at leads
  exact leads

end Location

end UptimeIntake
