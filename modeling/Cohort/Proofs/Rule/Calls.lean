import Cohort.Proofs.Names
import Cohort.Rule.Library.Standard

/-! # Calls of the standard library

    Rules reach functions by their names.  A library that is put together
    answers with what was registered last under a name; the names of the
    standard library are distinct, so each of them is the function that stands
    beside it in the lists, at any time. -/

namespace Cohort.Rule

/-- Of the functions that are registered together, the last of a name is called. -/
theorem Library.get?_registerAll (fs : List (String × Function)) (name : String) :
    (Library.empty.registerAll fs).get? name = fs.reverse.lookup name := by
  have hmap : ∀ l : Library,
      (l.registerAll fs).functions = fs.foldl (fun m e => m.insert e.1 e.2) l.functions := by
    induction fs with
    | nil => exact fun _ => rfl
    | cons f fs ih => exact fun l => ih (l.register f.1 f.2)
  rw [Library.get?, hmap]
  exact NameMap.get?_ofList fs name

namespace Standard

open Strings

/-- The functions of the standard library, as they are registered. -/
def entries (r : PatternLibrary) (now : Int64) : List (String × Function) :=
  Strings.functions ++ functions r now

/-- What a call of a function answers; nothing when there is none of the name. -/
def call? (r : PatternLibrary) (now : Int64) (name : String) (arguments : List Value) :
    Option (Except FunctionFault Value) :=
  ((library r now).get? name).map fun f => f arguments

variable {r : PatternLibrary} {now : Int64} {name : String}

theorem nodup_names (r : PatternLibrary) (now : Int64) : ((entries r now).map Prod.fst).Nodup := by
  have hnames : (entries r now).map Prod.fst =
      (entries ⟨fun _ => .error ""⟩ 0).map Prod.fst := rfl
  rw [hnames]
  decide

/-- Every entry is called by its name. -/
theorem call?_of_mem {f : Function} (h : (name, f) ∈ entries r now) (arguments : List Value) :
    call? r now name arguments = some (f arguments) := by
  have hnodup : ((entries r now).reverse.map Prod.fst).Nodup := by
    rw [List.map_reverse, List.nodup_reverse]
    exact nodup_names r now
  have hget : (library r now).get? name = some f := by
    rw [library, Library.get?_registerAll]
    exact (lookup_eq_some_iff_mem hnodup).mpr (List.mem_reverse.mpr h)
  rw [call?, hget, Option.map_some]

theorem call?_one {f : Value → Except FunctionFault Value} (h : one name f ∈ entries r now)
    (a : Value) : call? r now name [a] = some (f a) :=
  call?_of_mem h [a]

theorem call?_two {f : Value → Value → Except FunctionFault Value}
    (h : two name f ∈ entries r now) (a b : Value) : call? r now name [a, b] = some (f a b) :=
  call?_of_mem h [a, b]

theorem call?_three {f : Value → Value → Value → Except FunctionFault Value}
    (h : three name f ∈ entries r now) (a b c : Value) :
    call? r now name [a, b, c] = some (f a b c) :=
  call?_of_mem h [a, b, c]

/-! ## Functions by name -/

theorem call?_contains (r : PatternLibrary) (now : Int64) (s x : Value) :
    call? r now "fn:contains" [s, x] = some (.ok (.bool (isInfix (chars x) (chars s)))) := by
  have hmem : two "fn:contains" (fun s x => .ok (.bool (isInfix (chars x) (chars s))))
      ∈ entries r now := by
    simp [entries, Strings.functions]
  exact call?_two hmem s x

theorem call?_indexOf (r : PatternLibrary) (now : Int64) (s x : Value) :
    call? r now "fn:indexOf" [s, x] = some (.ok (indexOf (chars s) (chars x))) := by
  have hmem : two "fn:indexOf" (fun s x => .ok (indexOf (chars s) (chars x)))
      ∈ entries r now := by
    simp [entries, Strings.functions]
  exact call?_two hmem s x

theorem call?_length (r : PatternLibrary) (now : Int64) (v : Value) :
    call? r now "fn:length" [v] = some (Strings.length v) := by
  have hmem : one "fn:length" Strings.length ∈ entries r now := by
    simp [entries, Strings.functions]
  exact call?_one hmem v

theorem call?_substring (r : PatternLibrary) (now : Int64) (s first last : Value) :
    call? r now "fn:substring" [s, first, last] = some (substring s first last) := by
  have hmem : three "fn:substring" substring ∈ entries r now := by
    simp [entries, Strings.functions]
  exact call?_three hmem s first last

theorem call?_substringBefore (r : PatternLibrary) (now : Int64) (s x : Value) :
    call? r now "fn:substringBefore" [s, x]
      = some (.ok (ofChars (before (chars s) (chars x)))) := by
  have hmem : two "fn:substringBefore" (fun s x => .ok (ofChars (before (chars s) (chars x))))
      ∈ entries r now := by
    simp [entries, Strings.functions]
  exact call?_two hmem s x

theorem call?_substringAfter (r : PatternLibrary) (now : Int64) (s x : Value) :
    call? r now "fn:substringAfter" [s, x]
      = some (.ok (ofChars (after (chars s) (chars x)))) := by
  have hmem : two "fn:substringAfter" (fun s x => .ok (ofChars (after (chars s) (chars x))))
      ∈ entries r now := by
    simp [entries, Strings.functions]
  exact call?_two hmem s x

theorem call?_join (r : PatternLibrary) (now : Int64) (items separator : Value) :
    call? r now "fn:join" [items, separator] = some (joinItems items separator) := by
  have hmem : two "fn:join" joinItems ∈ entries r now := by
    simp [entries, Strings.functions]
  exact call?_two hmem items separator

theorem call?_split (r : PatternLibrary) (now : Int64) (s d : Value) :
    call? r now "fn:split" [s, d]
      = some (.ok (.list ((split (chars s) (chars d)).map ofChars))) := by
  have hmem : two "fn:split" (fun s d => .ok (.list ((split (chars s) (chars d)).map ofChars)))
      ∈ entries r now := by
    simp [entries, Strings.functions]
  exact call?_two hmem s d

theorem call?_matches (r : PatternLibrary) (now : Int64) (s pattern : Value) :
    call? r now "matrix:matches" [s, pattern] = some (isMatch r s pattern) := by
  have hmem : two "matrix:matches" (isMatch r) ∈ entries r now := by
    simp [entries, functions]
  exact call?_two hmem s pattern

theorem call?_versionInRange (r : PatternLibrary) (now : Int64) (v start stop : Value) :
    call? r now "matrix:versionInRange" [v, start, stop]
      = some (.ok (versionInRange v start stop)) := by
  have hmem : three "matrix:versionInRange" (fun v start stop => .ok (versionInRange v start stop))
      ∈ entries r now := by
    simp [entries, functions]
  exact call?_three hmem v start stop

end Standard

end Cohort.Rule
