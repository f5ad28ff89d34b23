/-
Where a path inside a directory leads.

A path is followed segment by segment.  A name goes down into it, an empty segment and `.` stay,
and `..` goes back up: above a name it takes the name away, at the root it does nothing, and above
the start of a relative path it is a level up.  A join should lead where the path leads that is
written behind its directory.

It does as long as `..` only meets names.  The segments of the directory are taken off one by one
as they are written, so that a `.` among them counts as a level, and above a `..` of an absolute
directory nothing is taken off at all.

* `Place`, `Place.ofPath` — where a path leads;
* `climb` — how many levels a path goes up above its directory;
* `climbs` — whether a directory can be left upwards by so many levels;
* `ofStack_foldl_push` — the stack of a join leads where the segments lead;
* `ofPath_join_iff` — a join leads to the right place from just the directories that can be left.
-/
import MapStyle.Sprite.RelativePath

namespace MapStyle.RelativePath

/-! ### Places -/

/-- A place: from the root or from the start so many levels up, and down along some names. -/
structure Place where
  absolute : Bool
  /-- The levels up, which a path from the root never has. -/
  up : Nat
  /-- The names on the way down, the last first. -/
  names : List String
deriving DecidableEq, Repr

namespace Place

/-- The root, or where a relative path starts. -/
def start (absolute : Bool) : Place := ⟨absolute, 0, []⟩

/-- One segment further. -/
def enter (place : Place) (segment : String) : Place :=
  if segment = "" ∨ segment = "." then place
  else if segment = ".." then
    match place.names with
    | _ :: names => { place with names := names }
    | [] => if place.absolute then place else { place with up := place.up + 1 }
  else { place with names := segment :: place.names }

/-- Where a path leads. -/
def ofPath (path : String) : Place :=
  (Text.split '/' path).foldl enter (start (path.startsWith "/"))

/-- Where the segments of a stack lead, the last of which comes first. -/
def ofStack (absolute : Bool) (stack : List String) : Place :=
  stack.foldr (fun segment place => place.enter segment) (start absolute)

variable {place : Place} {absolute : Bool} {segment : String} {stack : List String}

@[simp] theorem ofStack_cons :
    ofStack absolute (segment :: stack) = (ofStack absolute stack).enter segment := rfl

theorem ofStack_eq_foldl : ofStack absolute stack = stack.reverse.foldl enter (start absolute) := by
  rw [List.foldl_reverse]
  rfl

theorem enter_stay (hstay : segment = "" ∨ segment = ".") : place.enter segment = place := by
  rw [enter.eq_def, if_pos hstay]

theorem enter_name (hstay : ¬ (segment = "" ∨ segment = ".")) (hup : segment ≠ "..") :
    place.enter segment = { place with names := segment :: place.names } := by
  rw [enter.eq_def, if_neg hstay, if_neg hup]

theorem enter_up :
    place.enter ".." =
      match place.names with
      | _ :: names => { place with names := names }
      | [] => if place.absolute then place else { place with up := place.up + 1 } := rfl

theorem enter_name_up (hstay : ¬ (segment = "" ∨ segment = ".")) (hup : segment ≠ "..") :
    (place.enter segment).enter ".." = place := by
  rw [enter_name hstay hup, enter_up]

@[simp] theorem absolute_enter : (place.enter segment).absolute = place.absolute := by
  rw [enter]
  split
  · rfl
  split
  · split
    · rfl
    · split <;> rfl
  · rfl

@[simp] theorem absolute_ofStack : (ofStack absolute stack).absolute = absolute := by
  induction stack with
  | nil => rfl
  | cons segment stack ih => rw [ofStack_cons, absolute_enter, ih]

/-- Going up stays where it is at the root alone. -/
theorem enter_up_eq_self_iff :
    place.enter ".." = place ↔ place.absolute = true ∧ place.names = [] := by
  obtain ⟨absolute, up, names⟩ := place
  cases names with
  | cons name names => simp [enter_up]
  | nil => cases absolute <;> simp [enter_up]

theorem foldl_enter_filter (segments : List String) :
    (segments.filter (· ≠ "")).foldl enter place = segments.foldl enter place := by
  induction segments generalizing place with
  | nil => rfl
  | cons segment segments ih =>
    by_cases hempty : segment = ""
    · subst hempty
      exact ih
    · rw [List.filter_cons_of_pos (by simpa using hempty)]
      exact ih

end Place

open Place

/-! ### Climbing -/

/-- How many levels some segments go up above where they start. -/
def climb : List String → Nat
  | [] => 0
  | segment :: rest =>
    if segment = "" ∨ segment = "." then climb rest
    else if segment = ".." then climb rest + 1
    else climb rest - 1

/-- Whether a directory, its last segment first, can be left upwards by so many levels: neither a
segment that stays nor, from the root, a `..` is in the way, except where they lead to the root. -/
def climbs (absolute : Bool) : Nat → List String → Bool
  | 0, _ => true
  | _ + 1, [] => true
  | levels + 1, segment :: below =>
    if segment = "" ∨ segment = "." then
      absolute && (ofStack absolute below).names.isEmpty && climbs absolute levels below
    else if segment = ".." then !absolute || (ofStack absolute (segment :: below)).names.isEmpty
    else climbs absolute levels below

theorem climb_ups (n : Nat) : climb (List.replicate n "..") = n := by
  induction n with
  | zero => rfl
  | succ n ih => exact congrArg (· + 1) ih

section Stack

variable {absolute : Bool} {levels : Nat} {segment : String} {stack below segments : List String}

theorem push_stay (hstay : segment = "" ∨ segment = ".") : push absolute stack segment = stack := by
  rw [push.eq_def, if_pos hstay]

theorem push_name (hstay : ¬ (segment = "" ∨ segment = ".")) (hup : segment ≠ "..") :
    push absolute stack segment = segment :: stack := by
  rw [push.eq_def, if_neg hstay, if_neg hup]

theorem push_up_above_up :
    push absolute (".." :: below) ".." =
      if absolute then ".." :: below else ".." :: ".." :: below := rfl

theorem push_up_above (hup : segment ≠ "..") : push absolute (segment :: below) ".." = below :=
  if_neg hup

theorem mem_push {name : String} (h : name ∈ push absolute stack segment) :
    name ∈ stack ∨ name = segment := by
  rw [push.eq_def] at h
  split at h
  · exact .inl h
  split at h
  · next hup =>
    split at h
    · split at h
      · split at h
        · exact .inl h
        · exact (List.mem_cons.mp h).symm.imp_right (·.trans hup.symm)
      · exact .inl (List.mem_cons_of_mem _ h)
    · split at h
      · cases h
      · exact .inr ((List.mem_singleton.mp h).trans hup.symm)
  · exact (List.mem_cons.mp h).symm

theorem climbs_stay_iff (hstay : segment = "" ∨ segment = ".") :
    climbs absolute (levels + 1) (segment :: below) = true ↔
      (ofStack absolute below).enter ".." = ofStack absolute below ∧
        climbs absolute levels below = true := by
  rw [climbs, if_pos hstay, enter_up_eq_self_iff, absolute_ofStack, Bool.and_eq_true,
    Bool.and_eq_true, List.isEmpty_iff]

theorem climbs_up_iff :
    climbs absolute (levels + 1) (".." :: below) = true ↔
      (absolute = true → (ofStack absolute (".." :: below)).enter ".." =
        ofStack absolute (".." :: below)) := by
  rw [enter_up_eq_self_iff, absolute_ofStack]
  show (!absolute || _) = true ↔ _
  rw [Bool.or_eq_true, List.isEmpty_iff]
  cases absolute <;> simp

theorem climbs_name (hstay : ¬ (segment = "" ∨ segment = ".")) (hup : segment ≠ "..") :
    climbs absolute (levels + 1) (segment :: below) = climbs absolute levels below := by
  rw [climbs, if_neg hstay, if_neg hup]

theorem climbs_mono {fewer : Nat} (hle : fewer ≤ levels) (h : climbs absolute levels stack = true) :
    climbs absolute fewer stack = true := by
  induction stack generalizing fewer levels with
  | nil => cases fewer <;> rfl
  | cons last below ih =>
    cases fewer with
    | zero => rfl
    | succ fewer =>
      obtain ⟨levels, rfl⟩ := Nat.exists_eq_add_of_le' (Nat.le_trans (Nat.succ_pos fewer) hle)
      have hbelow (h : climbs absolute levels below = true) := ih (Nat.le_of_succ_le_succ hle) h
      by_cases hstay : last = "" ∨ last = "."
      · obtain ⟨hroot, h⟩ := (climbs_stay_iff hstay).mp h
        exact (climbs_stay_iff hstay).mpr ⟨hroot, hbelow h⟩
      · by_cases hup : last = ".."
        · subst hup
          exact climbs_up_iff.mpr (climbs_up_iff.mp h)
        · rw [climbs_name hstay hup] at h ⊢
          exact hbelow h

theorem climbs_of_names (h : ∀ segment ∈ stack,
    segment ≠ "" ∧ segment ≠ "." ∧ (absolute = true → segment ≠ "..")) :
    climbs absolute levels stack = true := by
  induction stack generalizing levels with
  | nil => cases levels <;> rfl
  | cons last below ih =>
    obtain ⟨⟨hempty, hdot, habove⟩, hbelow⟩ := List.forall_mem_cons.mp h
    cases levels with
    | zero => rfl
    | succ levels =>
      by_cases hup : last = ".."
      · subst hup
        exact climbs_up_iff.mpr fun habsolute => absurd rfl (habove habsolute)
      · rw [climbs_name (not_or.mpr ⟨hempty, hdot⟩) hup]
        exact ih hbelow

/-- From a directory that can be left, a step up of the stack leads up. -/
theorem ofStack_push_up (h : climbs absolute (levels + 1) stack = true) :
    ofStack absolute (push absolute stack "..") = (ofStack absolute stack).enter ".." ∧
      climbs absolute levels (push absolute stack "..") = true := by
  cases stack with
  | nil => cases absolute <;> cases levels <;> exact ⟨rfl, rfl⟩
  | cons last below =>
    by_cases hup : last = ".."
    · subst hup
      rw [push_up_above_up]
      cases absolute with
      | false => cases levels <;> exact ⟨rfl, rfl⟩
      | true =>
        refine ⟨(climbs_up_iff.mp h rfl).symm, ?_⟩
        cases levels with
        | zero => rfl
        | succ levels => exact climbs_up_iff.mpr (climbs_up_iff.mp h)
    · rw [push_up_above hup, ofStack_cons]
      by_cases hstay : last = "" ∨ last = "."
      · obtain ⟨hroot, hbelow⟩ := (climbs_stay_iff hstay).mp h
        rw [enter_stay hstay]
        exact ⟨hroot.symm, hbelow⟩
      · rw [climbs_name hstay hup] at h
        exact ⟨(enter_name_up hstay hup).symm, h⟩

/-- **The stack leads where the segments lead**, if the directory can be left by as many levels as
they climb. -/
theorem ofStack_foldl_push (h : climbs absolute (climb segments) stack = true) :
    ofStack absolute (segments.foldl (push absolute) stack) =
      segments.foldl enter (ofStack absolute stack) := by
  induction segments generalizing stack with
  | nil => rfl
  | cons segment rest ih =>
    rw [List.foldl_cons, List.foldl_cons]
    rw [climb] at h
    by_cases hstay : segment = "" ∨ segment = "."
    · rw [if_pos hstay] at h
      rw [push_stay hstay, enter_stay hstay, ih h]
    · rw [if_neg hstay] at h
      by_cases hup : segment = ".."
      · subst hup
        obtain ⟨hplace, hrest⟩ := ofStack_push_up h
        rw [ih hrest, hplace]
      · rw [if_neg hup] at h
        have hrest : climbs absolute (climb rest) (segment :: stack) = true := by
          cases hclimb : climb rest with
          | zero => rfl
          | succ levels =>
            rw [hclimb, Nat.add_sub_cancel] at h
            rwa [climbs_name hstay hup]
        rw [push_name hstay hup, ih hrest, ofStack_cons]

/-- A directory from which every climb of some levels is right can be left by so many. -/
theorem climbs_of_foldl_push (h : ∀ n ≤ levels,
    ofStack absolute ((List.replicate n "..").foldl (push absolute) stack) =
      (List.replicate n "..").foldl enter (ofStack absolute stack)) :
    climbs absolute levels stack = true := by
  induction stack generalizing levels with
  | nil => cases levels <;> rfl
  | cons last below ih =>
    cases levels with
    | zero => rfl
    | succ levels =>
      have hone : ofStack absolute (push absolute (last :: below) "..") =
          (ofStack absolute (last :: below)).enter ".." := h 1 (Nat.succ_pos levels)
      by_cases hup : last = ".."
      · subst hup
        refine climbs_up_iff.mpr fun habsolute => ?_
        rw [push_up_above_up, if_pos habsolute] at hone
        exact hone.symm
      · rw [push_up_above hup] at hone
        -- What is left of a longer climb starts below the last segment.
        have hbelow : climbs absolute levels below = true := by
          refine ih fun n hn => ?_
          have hlater := h (n + 1) (Nat.succ_le_succ hn)
          rwa [List.replicate_succ, List.foldl_cons, List.foldl_cons, push_up_above hup,
            ← hone] at hlater
        by_cases hstay : last = "" ∨ last = "."
        · rw [ofStack_cons, enter_stay hstay] at hone
          exact (climbs_stay_iff hstay).mpr ⟨hone.symm, hbelow⟩
        · rwa [climbs_name hstay hup]

/-- A stack holds segments of its directory and of the path. -/
theorem mem_foldl_push {name : String} (h : name ∈ segments.foldl (push absolute) stack) :
    name ∈ stack ∨ name ≠ "" ∧ name ∈ segments := by
  induction segments generalizing stack with
  | nil => exact .inl h
  | cons segment rest ih =>
    have hpush : name ∈ push absolute stack segment →
        name ∈ stack ∨ name ≠ "" ∧ name = segment := by
      intro hname
      by_cases hstay : segment = "" ∨ segment = "."
      · rw [push_stay hstay] at hname
        exact .inl hname
      · have hsegment : segment ≠ "" := fun hempty => hstay (.inl hempty)
        rcases mem_push hname with hname | rfl
        · exact .inl hname
        · exact .inr ⟨hsegment, rfl⟩
    rcases ih h with hname | ⟨hne, hname⟩
    · rcases hpush hname with hname | ⟨hne, rfl⟩
      · exact .inl hname
      · exact .inr ⟨hne, List.mem_cons_self⟩
    · exact .inr ⟨hne, List.mem_cons_of_mem _ hname⟩

end Stack

/-! ### Paths -/

section Path

variable {absolute : Bool} {stack : List String} {directory path : String} {levels : Nat}

theorem toList_slash : ("/" : String).toList = ['/'] := rfl

theorem startsWith_slash_iff : path.startsWith "/" = true ↔ path.toList.head? = some '/' := by
  rw [String.startsWith_string_iff, toList_slash, List.singleton_prefix_iff_head?_eq_some]

theorem startsWith_directory :
    (directory ++ "/" ++ path).startsWith "/" = (directory ++ "/").startsWith "/" := by
  rw [Bool.eq_iff_iff, startsWith_slash_iff, startsWith_slash_iff]
  simp only [String.toList_append, toList_slash, List.head?_append, List.head?_cons]
  cases directory.toList.head? <;> simp

/-- The segments of a directory or path hold no separator. -/
theorem mem_segments {segment : String} (h : segment ∈ segments directory) :
    segment ≠ "" ∧ '/' ∉ segment.toList := by
  obtain ⟨hmem, hne⟩ := List.mem_filter.mp (List.mem_reverse.mp h)
  exact ⟨by simpa using hne, Text.not_mem_of_mem_split hmem⟩

/-- Segments that are joined do not begin with the separator. -/
theorem startsWith_text (h : ∀ segment ∈ stack, segment ≠ "" ∧ '/' ∉ segment.toList) :
    (text absolute stack).startsWith "/" = absolute := by
  cases absolute with
  | true =>
    rw [startsWith_slash_iff, text, if_pos rfl, String.toList_append, toList_slash]
    rfl
  | false =>
    rw [text, if_neg Bool.false_ne_true, String.empty_append, ← Bool.not_eq_true]
    intro hslash
    by_cases hempty : stack.reverse = []
    · rw [hempty, startsWith_slash_iff] at hslash
      cases hslash
    · -- A separator in front would have an empty segment before it.
      obtain ⟨cs, hcs⟩ := String.startsWith_string_iff.mp hslash
      have hfront : "/".intercalate stack.reverse = "" ++ "/" ++ String.ofList cs := by
        rw [← String.toList_inj, ← hcs]
        simp
      have hsplit : stack.reverse = "" :: Text.split '/' (String.ofList cs) := by
        rw [← Text.split_intercalate toList_slash hempty fun segment hsegment =>
          (h segment (List.mem_reverse.mp hsegment)).2, hfront, Text.split_append toList_slash]
        rfl
      have hmem : "" ∈ stack := List.mem_reverse.mp (by rw [hsplit]; exact List.mem_cons_self)
      exact (h "" hmem).1 rfl

/-- The text of a stack leads where the stack leads. -/
theorem ofPath_text (h : ∀ segment ∈ stack, segment ≠ "" ∧ '/' ∉ segment.toList) :
    ofPath (text absolute stack) = ofStack absolute stack := by
  have hjoined : (Text.split '/' ("/".intercalate stack.reverse)).foldl enter (start absolute) =
      ofStack absolute stack := by
    rw [ofStack_eq_foldl]
    by_cases hempty : stack.reverse = []
    · rw [hempty]
      rfl
    · rw [Text.split_intercalate toList_slash hempty]
      intro segment hsegment
      exact (h segment (List.mem_reverse.mp hsegment)).2
  rw [ofPath, startsWith_text h, ← hjoined, text]
  cases absolute with
  | false => rw [if_neg Bool.false_ne_true, String.empty_append]
  | true =>
    rw [if_pos rfl, ← String.empty_append (s := "/"), Text.split_append toList_slash]
    rfl

theorem ofPath_directory_append :
    ofPath (directory ++ "/" ++ path) =
      (Text.split '/' path).foldl enter
        (ofStack ((directory ++ "/").startsWith "/") (segments (directory ++ "/"))) := by
  have hdirectory : Text.split '/' (directory ++ "/") = Text.split '/' directory ++ [""] := by
    have hsplit := Text.split_append toList_slash directory ""
    rwa [String.append_empty] at hsplit
  have hstack : segments (directory ++ "/") =
      ((Text.split '/' directory).filter (· ≠ "")).reverse := by
    rw [segments, hdirectory, List.filter_append]
    simp
  rw [ofPath, startsWith_directory, Text.split_append toList_slash, List.foldl_append,
    ofStack_eq_foldl, hstack, List.reverse_reverse, foldl_enter_filter]

/-- Where a path inside a directory is taken to lead. -/
theorem ofPath_join (h : path.startsWith "/" = false) :
    ofPath (join (directory ++ "/") path) =
      ofStack ((directory ++ "/").startsWith "/")
        ((Text.split '/' path).foldl (push ((directory ++ "/").startsWith "/"))
          (segments (directory ++ "/"))) := by
  rw [join, h, if_neg Bool.false_ne_true]
  refine ofPath_text fun segment hsegment => ?_
  rcases mem_foldl_push hsegment with hsegment | ⟨hne, hsegment⟩
  · exact mem_segments hsegment
  · exact ⟨hne, Text.not_mem_of_mem_split hsegment⟩

/-- A path that goes up and does nothing else. -/
theorem split_ups (n : Nat) :
    Text.split '/' (text false (List.replicate (n + 1) "..")) = List.replicate (n + 1) ".." := by
  rw [text, if_neg Bool.false_ne_true, String.empty_append, List.reverse_replicate]
  refine Text.split_intercalate toList_slash (by simp) fun segment hsegment => ?_
  rw [List.eq_of_mem_replicate hsegment]
  decide

/-- **A join leads to the right place from just the directories that can be left.**  Every path
that climbs no more than some levels leads where it leads behind the directory, just if the
directory can be left by so many levels; and from a directory of names alone every path does. -/
theorem ofPath_join_iff (directory : String) :
    (∀ levels,
      (∀ path, path.startsWith "/" = false → climb (Text.split '/' path) ≤ levels →
        ofPath (join (directory ++ "/") path) = ofPath (directory ++ "/" ++ path)) ↔
      climbs ((directory ++ "/").startsWith "/") levels (segments (directory ++ "/")) = true) ∧
    ((∀ segment ∈ segments (directory ++ "/"), segment ≠ "." ∧
        ((directory ++ "/").startsWith "/" = true → segment ≠ "..")) →
      ∀ path, path.startsWith "/" = false →
        ofPath (join (directory ++ "/") path) = ofPath (directory ++ "/" ++ path)) := by
  have hjoin {path : String} (hpath : path.startsWith "/" = false)
      (h : climbs ((directory ++ "/").startsWith "/") (climb (Text.split '/' path))
        (segments (directory ++ "/")) = true) :
      ofPath (join (directory ++ "/") path) = ofPath (directory ++ "/" ++ path) := by
    rw [ofPath_join hpath, ofPath_directory_append]
    exact ofStack_foldl_push h
  refine ⟨fun levels => ⟨fun h => ?_, fun h path hpath hclimb => ?_⟩, fun h path hpath => ?_⟩
  · refine climbs_of_foldl_push fun n hn => ?_
    cases n with
    | zero => rfl
    | succ n =>
      have hups : ∀ segment ∈ List.replicate (n + 1) "..", segment ≠ "" ∧ '/' ∉ segment.toList := by
        intro segment hsegment
        rw [List.eq_of_mem_replicate hsegment]
        decide
      have hpath : (text false (List.replicate (n + 1) "..")).startsWith "/" = false :=
        startsWith_text hups
      have hplace := h _ hpath (by rwa [split_ups, climb_ups])
      rwa [ofPath_join hpath, ofPath_directory_append, split_ups] at hplace
  · exact hjoin hpath (climbs_mono hclimb h)
  · refine hjoin hpath (climbs_of_names fun segment hsegment => ?_)
    exact ⟨(mem_segments hsegment).1, h segment hsegment⟩

/-- Behind `.` a level up leads to the start and not above it, and below the root a `..` is not
left at all. -/
theorem ofPath_join_ne :
    ofPath (join "./" "../x") ≠ ofPath ("./" ++ "../x") ∧
    ofPath (join "/a/b/../" "../x") ≠ ofPath ("/a/b/../" ++ "../x") := by
  have hdot : ofPath (join "./" "../x") = ⟨false, 0, ["x"]⟩ ∧
      ofPath ("./" ++ "../x") = ⟨false, 1, ["x"]⟩ := by decide +kernel
  have hup : ofPath (join "/a/b/../" "../x") = ⟨true, 0, ["x", "a"]⟩ ∧
      ofPath ("/a/b/../" ++ "../x") = ⟨true, 0, ["x"]⟩ := by decide +kernel
  rw [hdot.1, hdot.2, hup.1, hup.2]
  exact ⟨by decide, by decide⟩

end Path

end MapStyle.RelativePath
