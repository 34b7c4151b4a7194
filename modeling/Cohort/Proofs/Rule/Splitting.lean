import Cohort.Pattern.Engine
import Cohort.Proofs.Rule.Calls
import Cohort.Proofs.Text.Runs

/-! # Splitting and joining

    To join, a rule gives one separator that is put between the texts as a
    whole; to split, it gives a set of characters, and parts without
    characters are dropped.  Between two joined texts a separator of several
    characters leaves parts that are empty, and only those: the runs of the
    joined text are the texts. -/

namespace Cohort.Rule.Strings

open Standard

/-! ## Characters -/

/-- The characters that split a text. -/
theorem contains_eq_false_iff {d : List Char} {c : Char} : d.contains c = false ↔ c ∉ d := by
  rw [← Bool.not_eq_true, List.contains_iff_mem]

/-- What a text is split into are its runs. -/
theorem runs_split (s d : List Char) : Text.Runs d.contains s (split s d) := by
  obtain ⟨runs, hruns⟩ := Text.exists_runs d.contains s
  rw [split, hruns.filter_pieces]
  exact hruns

/-- **JOINED TEXTS ARE RUNS**, when none of them is empty or has a character of the separator. -/
theorem runs_join {d : List Char} (hd : d ≠ []) {parts : List (List Char)}
    (hparts : ∀ part ∈ parts, Text.IsRun d.contains part) :
    Text.Runs d.contains (join d parts) parts := by
  fun_induction join d parts with
  | case1 => exact .nil
  | case2 a => exact .last (hparts a List.mem_cons_self)
  | case3 a b rest ih =>
      obtain ⟨ha, hrest⟩ := List.forall_mem_cons.mp hparts
      refine Text.Runs.append_run ha hd (fun c hc => ?_) (ih hrest)
      exact List.contains_iff_mem.mpr hc

/-! ## Strings -/

variable (r : PatternLibrary) (now : Int64)

theorem map_chars_string (parts : List String) :
    (parts.map Value.string).map chars = parts.map String.toList := by
  rw [List.map_map]
  rfl

theorem call?_join_strings (parts : List String) (d : String) :
    call? r now "fn:join" [.list (parts.map .string), .string d]
      = some (.ok (.string (String.ofList (join d.toList (parts.map String.toList))))) := by
  rw [call?_join, joinItems, map_chars_string]
  rfl

/-- What a call gives back are the runs, as strings. -/
theorem call?_split_of_runs {s d : Value} {parts : List String}
    (h : Text.Runs (chars d).contains (chars s) (parts.map String.toList)) :
    call? r now "fn:split" [s, d] = some (.ok (.list (parts.map .string))) := by
  have hmap : (parts.map String.toList).map ofChars = parts.map Value.string := by
    rw [List.map_map]
    refine List.map_congr_left fun part _ => ?_
    exact congrArg Value.string String.ofList_toList
  rw [call?_split, split, h.filter_pieces, hmap]

theorem isRun_toList_iff {d : List Char} {part : String} :
    Text.IsRun d.contains part.toList ↔ part ≠ "" ∧ ∀ c ∈ part.toList, c ∉ d := by
  constructor
  · rintro ⟨hsome, hclean⟩
    refine ⟨?_, fun c hc => contains_eq_false_iff.mp (hclean c hc)⟩
    rintro rfl
    exact hsome rfl
  · rintro ⟨hsome, hclean⟩
    refine ⟨fun hnil => hsome ?_, fun c hc => contains_eq_false_iff.mpr (hclean c hc)⟩
    rw [← String.ofList_toList (s := part), hnil]

/-- **SPLITTING UNDOES JOINING, AND LOSES DELIMITERS ONLY**: texts that are not empty and have no
    character of a separator come back, in order, when they are joined by it and split at it.  Any
    value splits at any other, both read as texts, into parts that are the longest runs without a
    delimiter: none is empty, none has a delimiter, and in order they hold all other characters. -/
theorem split_undoes_join :
    (∀ (parts : List String) (d : String), d ≠ "" →
      (∀ part ∈ parts, part ≠ "" ∧ ∀ c ∈ part.toList, c ∉ d.toList) →
      ∃ joined, call? r now "fn:join" [.list (parts.map .string), .string d]
          = some (.ok (.string joined)) ∧
        call? r now "fn:split" [.string joined, .string d]
          = some (.ok (.list (parts.map .string)))) ∧
    (∀ s d : Value, ∃ parts : List String,
      call? r now "fn:split" [s, d] = some (.ok (.list (parts.map .string))) ∧
      (∀ part ∈ parts, part ≠ "" ∧ ∀ c ∈ part.toList, c ∉ (text d).toList) ∧
      parts.flatMap String.toList = (text s).toList.filter (fun c => decide (c ∉ (text d).toList)) ∧
      Text.Runs (text d).toList.contains (text s).toList (parts.map String.toList)) := by
  constructor
  · intro parts d hd hparts
    have hsome : d.toList ≠ [] := by
      intro hnil
      rw [← String.ofList_toList (s := d), hnil] at hd
      exact hd rfl
    have hrun : ∀ part ∈ parts.map String.toList, Text.IsRun d.toList.contains part := by
      intro part hpart
      obtain ⟨x, hx, rfl⟩ := List.mem_map.mp hpart
      exact isRun_toList_iff.mpr (hparts x hx)
    have hruns := runs_join hsome hrun
    refine ⟨_, call?_join_strings r now parts d, call?_split_of_runs r now ?_⟩
    show Text.Runs d.toList.contains (String.ofList _).toList _
    rw [String.toList_ofList]
    exact hruns
  · intro s d
    have hsplit := runs_split (chars s) (chars d)
    have hstrings : ((split (chars s) (chars d)).map String.ofList).map String.toList
        = split (chars s) (chars d) := by
      rw [List.map_map]
      exact (List.map_congr_left fun x _ => String.toList_ofList).trans (List.map_id _)
    rw [← hstrings] at hsplit
    refine ⟨_, call?_split_of_runs r now hsplit, ?_, ?_, hsplit⟩
    · intro part hpart
      exact isRun_toList_iff.mp (hsplit.isRun _ (List.mem_map_of_mem hpart))
    · rw [List.flatMap_def, hsplit.flatten_eq]
      refine List.filter_congr fun c _ => ?_
      simp [chars]

/-- A comma and a blank stand between the languages, and an empty part between them. -/
theorem languages_come_back :
    (", " ≠ "" ∧
      ∀ part ∈ ["en", "fr", "pt"], part ≠ "" ∧ ∀ c ∈ part.toList, c ∉ ", ".toList) ∧
    ∃ joined, call? Pattern.Engine.library 0 "fn:join"
          [.list (["en", "fr", "pt"].map .string), .string ", "]
        = some (.ok (.string joined)) ∧
      call? Pattern.Engine.library 0 "fn:split" [.string joined, .string ", "]
        = some (.ok (.list (["en", "fr", "pt"].map .string))) := by
  have hparts : ∀ part ∈ ["en", "fr", "pt"], part ≠ "" ∧ ∀ c ∈ part.toList, c ∉ ", ".toList := by
    simp
  exact ⟨⟨by decide, hparts⟩,
    (split_undoes_join Pattern.Engine.library 0).1 _ ", " (by decide) hparts⟩

end Cohort.Rule.Strings
