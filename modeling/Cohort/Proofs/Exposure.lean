import Cohort.Exposure
import Cohort.Proofs.Resolution.Locality

/-! # Exposures are exact

    Marks go through composites to marking observers, which may be shared, so
    that one call can reach the same marking observer more than once and one
    marking observer can be told by many calls.  What a board comes to is
    nevertheless said in one line: a test is marked on a marking observer if
    it is one of the result and some call has told the observer of it.  This
    is an invariant of calls, by induction on the observer that is called and
    then on the calls.  Results, snapshots and lines of exposures are read off
    it. -/

namespace Cohort

/-! ## Narrowed results -/

namespace ResolvedGroups

/-- The result with all tests but those that are kept left out. -/
structure Narrows (r : ResolvedGroups) (keep : String → Prop) (s : ResolvedGroups) :
    Prop where
  version : s.version = r.version
  artifact : s.artifact = r.artifact
  groups : ∀ n g, s.groups.get? n = some g ↔ r.groups.get? n = some g ∧ keep n
  dynamic : ∀ n, n ∈ s.dynamic ↔ n ∈ r.dynamic ∧ keep n

theorem narrows_filtered (r : ResolvedGroups) {p : String → Bool} {keep : String → Prop}
    (h : ∀ n, p n = true ↔ keep n) : r.Narrows keep (r.filtered p) where
  version := rfl
  artifact := rfl
  groups n _ := NameMap.get?_filter_eq_some_iff.trans (and_congr_right fun _ => h n)
  dynamic n := NameSet.mem_filter.trans (and_congr_right fun _ => h n)

/-- What is kept of a result makes up the whole narrowed result. -/
theorem Narrows.unique {r s s' : ResolvedGroups} {keep keep' : String → Prop}
    (h : r.Narrows keep s) (h' : r.Narrows keep' s') (hkeep : ∀ n, keep n ↔ keep' n) :
    s = s' := by
  obtain ⟨version, groups, dynamic, artifact⟩ := s
  obtain ⟨version', groups', dynamic', artifact'⟩ := s'
  obtain rfl : version = version' := h.version.trans h'.version.symm
  obtain rfl : artifact = artifact' := h.artifact.trans h'.artifact.symm
  obtain rfl : groups = groups' := by
    refine NameMap.ext_get? fun n => Option.ext fun g => ?_
    rw [h.groups n g, h'.groups n g, hkeep]
  obtain rfl : dynamic = dynamic' := by
    refine NameSet.ext_mem fun n => ?_
    rw [h.dynamic n, h'.dynamic n, hkeep]
  rfl

/-! ### Lines of exposures -/

/-- The elements of the line of exposures, each with the test it is about. -/
def exposures (r : ResolvedGroups) : List (String × String) :=
  let logged := r.groups.entries.filter fun e => r.isLogged e.1 e.2
  logged.map (fun e => (e.1, groupText e.1 e.2)) ++
    (logged.filter fun e => !e.2.allocationId.isEmpty).map
      fun e => (e.1, e.2.allocationId ++ ":" ++ groupText e.1 e.2)

theorem loggingElements_eq (r : ResolvedGroups) :
    r.loggingElements = r.exposures.map Prod.snd := by
  rw [loggingElements, exposures, List.map_append, List.map_map, List.map_map]
  rfl

/-- Whether a test is silent is looked up through the narrowed result, with the same
    answer. -/
theorem isLogged_filtered (r : ResolvedGroups) {p : String → Bool} {n : String}
    {g : TestGroup} (hg : r.groups.get? n = some g) (hp : p n = true) :
    (r.filtered p).isLogged n g = r.isLogged n g := by
  have hcontains : (r.filtered p).groups.contains n = r.groups.contains n := by
    rw [filtered, NameMap.contains_filter, NameMap.contains, hg]
    exact hp
  rw [isLogged, isLogged, definition?, definition?, hcontains]
  rfl

/-- Only tests of the result are exposed. -/
theorem contains_of_mem_exposures {r : ResolvedGroups} {e : String × String}
    (he : e ∈ r.exposures) : r.groups.contains e.1 = true := by
  have hin : ∀ e' ∈ r.groups.entries.filter fun e => r.isLogged e.1 e.2,
      r.groups.contains e'.1 = true := by
    intro e' he'
    exact NameMap.contains_iff.mpr ⟨e'.2, NameMap.get?_eq_some_iff.mpr (List.mem_filter.mp he').1⟩
  rcases List.mem_append.mp he with h | h
  · obtain ⟨e', he', rfl⟩ := List.mem_map.mp h
    exact hin e' he'
  · obtain ⟨e', he', rfl⟩ := List.mem_map.mp h
    exact hin e' (List.mem_filter.mp he').1

/-- A narrowed result has the exposures of the tests that were kept, in their order. -/
theorem exposures_filtered (r : ResolvedGroups) (p : String → Bool) :
    (r.filtered p).exposures = r.exposures.filter fun e => p e.1 := by
  have hlogged : (r.filtered p).groups.entries.filter
        (fun e => (r.filtered p).isLogged e.1 e.2)
      = (r.groups.entries.filter fun e => r.isLogged e.1 e.2).filter fun e => p e.1 := by
    show (r.groups.entries.filter fun e => p e.1).filter _ = _
    rw [List.filter_filter, List.filter_filter]
    refine List.filter_congr ?_
    intro e he
    cases hp : p e.1 with
    | false => rw [Bool.and_false, Bool.false_and]
    | true =>
        rw [r.isLogged_filtered (NameMap.get?_eq_some_iff.mpr he) hp, Bool.and_true,
          Bool.true_and]
  rw [exposures, exposures, hlogged, List.filter_append, List.filter_map, List.filter_map]
  exact congrArg₂ (· ++ ·) rfl (congrArg _ (List.filter_comm _ _ _))

/-- Its elements are those of the result, without those of all other tests. -/
theorem loggingElements_filtered (r : ResolvedGroups) (p : String → Bool) :
    (r.filtered p).loggingElements
      = (r.exposures.filter fun e => (r.filtered p).groups.contains e.1).map Prod.snd := by
  rw [loggingElements_eq, exposures_filtered]
  refine congrArg _ (List.filter_congr ?_)
  intro e he
  obtain ⟨g, hg⟩ := NameMap.contains_iff.mp (contains_of_mem_exposures he)
  rw [filtered, NameMap.contains_filter, hg]
  rfl

end ResolvedGroups

/-! ## What a call does -/

namespace Observer

variable {r : ResolvedGroups} {size : Nat} {told told' : Nat → String → Prop}
  {board : Board} {test : String}

/-- The marking observers of one result, with marks for the tests of the result that
    they were told of. -/
structure Holds (r : ResolvedGroups) (size : Nat) (told : Nat → String → Prop)
    (board : Board) : Prop where
  size : board.length = size
  original : ∀ (k : Nat) (m : Marks), board[k]? = some m → m.original = r
  marked : ∀ (k : Nat) (m : Marks), board[k]? = some m →
    ∀ n, n ∈ m.marked ↔ r.groups.contains n = true ∧ told k n

theorem Holds.congr (h : Holds r size told board) (htold : ∀ k n, told k n ↔ told' k n) :
    Holds r size told' board where
  size := h.size
  original := h.original
  marked k m hm n := (h.marked k m hm n).trans (and_congr_right fun _ => htold k n)

/-- In the beginning nobody was told anything. -/
theorem holds_start (r : ResolvedGroups) (size : Nat) :
    Holds r size (fun _ _ => False) (List.replicate size (Marks.start r)) where
  size := List.length_replicate
  original k m hm := by
    rw [List.eq_of_mem_replicate (List.mem_of_getElem? hm)]
    rfl
  marked k m hm n := by
    rw [List.eq_of_mem_replicate (List.mem_of_getElem? hm)]
    constructor
    · intro hn
      exact absurd hn (NameSet.not_mem_empty n)
    · exact fun h => h.2.elim

/-- A mark is one for a test of the result. -/
theorem mem_marked_mark {m : Marks} {n : String} :
    n ∈ (m.mark test).marked ↔
      n ∈ m.marked ∨ (m.original.groups.contains n = true ∧ n = test) := by
  rw [Marks.mark]
  cases hin : m.original.groups.contains test with
  | true =>
      rw [if_pos rfl, NameSet.mem_insert]
      constructor
      · rintro (rfl | h)
        · exact Or.inr ⟨hin, rfl⟩
        · exact Or.inl h
      · rintro (h | ⟨-, rfl⟩)
        · exact Or.inr h
        · exact Or.inl rfl
  | false =>
      rw [if_neg Bool.false_ne_true]
      constructor
      · exact Or.inl
      · rintro (h | ⟨h, rfl⟩)
        · exact h
        · rw [hin] at h
          exact nomatch h

theorem original_mark (m : Marks) (test : String) : (m.mark test).original = m.original := by
  rw [Marks.mark]
  split
  · rfl
  · rfl

mutual

/-- A call tells all marking observers that the observer reaches, and no other. -/
theorem Holds.mark : ∀ (o : Observer) {told : Nat → String → Prop} {board : Board},
    Holds r size told board →
    Holds r size (fun k n => told k n ∨ (k ∈ o.reached ∧ n = test)) (o.mark test board)
  | .marking number, _, board, h => by
      have hat : ∀ (k : Nat) (m' : Marks), (board.modify number (·.mark test))[k]? = some m' →
          ∃ m, board[k]? = some m ∧ m' = if number = k then m.mark test else m := by
        intro k m' hm'
        rw [List.getElem?_modify] at hm'
        obtain ⟨m, hm, rfl⟩ := Option.map_eq_some_iff.mp hm'
        exact ⟨m, hm, rfl⟩
      refine ⟨?_, ?_, ?_⟩
      · exact (List.length_modify _ _ _).trans h.size
      · intro k m' hm'
        obtain ⟨m, hm, rfl⟩ := hat k m' hm'
        split
        · rw [original_mark, h.original k m hm]
        · exact h.original k m hm
      · intro k m' hm' n
        obtain ⟨m, hm, rfl⟩ := hat k m' hm'
        have hreached : k ∈ (Observer.marking number).reached ↔ number = k := by
          rw [reached, List.mem_singleton, eq_comm]
        rw [hreached]
        split
        · next hk =>
            rw [mem_marked_mark, h.marked k m hm, h.original k m hm]
            simp only [hk, true_and]
            tauto
        · next hk =>
            rw [h.marked k m hm]
            simp only [hk, false_and, or_false]
  | .composite _ observers, _, _, h => h.markEach observers

theorem Holds.markEach : ∀ (os : List Observer) {told : Nat → String → Prop} {board : Board},
    Holds r size told board →
    Holds r size (fun k n => told k n ∨ (k ∈ reachedBy os ∧ n = test)) (markEach test os board)
  | [], _, _, h => h.congr fun k n => by
      simp only [reachedBy, List.not_mem_nil, false_and, or_false]
  | o :: rest, _, _, h => by
      refine ((h.mark o).markEach rest).congr ?_
      intro k n
      rw [reachedBy, List.mem_append]
      tauto

end

/-! ## What an observer answers -/

mutual

/-- A test is marked on an observer if it is marked on a marking observer that the
    observer reaches. -/
theorem isMarked_iff {n : String} : ∀ o : Observer, o.isMarked board n = true ↔
    ∃ k ∈ o.reached, ∃ m, board[k]? = some m ∧ n ∈ m.marked
  | .marking number => by
      rw [isMarked, Option.any_eq_true]
      simp only [reached, List.mem_singleton, exists_eq_left, Marks.isMarked,
        NameSet.contains_iff]
  | .composite _ observers => isMarkedOnAny_iff observers

theorem isMarkedOnAny_iff {n : String} :
    ∀ os : List Observer, isMarkedOnAny board n os = true ↔
      ∃ k ∈ reachedBy os, ∃ m, board[k]? = some m ∧ n ∈ m.marked
  | [] => by
      simp only [isMarkedOnAny, reachedBy, List.not_mem_nil, Bool.false_eq_true, false_and,
        exists_false]
  | o :: rest => by
      rw [isMarkedOnAny, Bool.or_eq_true, isMarked_iff o, isMarkedOnAny_iff rest, reachedBy]
      simp only [List.mem_append, or_and_right, exists_or]

end

theorem isMarkedOnAny_eq_true {n : String} {os : List Observer} :
    isMarkedOnAny board n os = true ↔ ∃ o ∈ os, o.isMarked board n = true := by
  induction os with
  | nil => simp [isMarkedOnAny]
  | cons o rest ih => simp [isMarkedOnAny, ih]

/-- The observer is one of the marking observers of a result, or a composite for the
    result. -/
def Over (r : ResolvedGroups) (size : Nat) : Observer → Prop
  | .marking number => number < size
  | .composite original _ => original = r

theorem Holds.original_eq (h : Holds r size told board) {o : Observer}
    (ho : o.Over r size) : o.original board = r := by
  cases o with
  | marking number =>
      have hnumber : number < board.length := h.size.symm ▸ ho
      have hm := List.getElem?_eq_getElem hnumber
      rw [Observer.original, hm]
      exact h.original number _ hm
  | composite original observers => exact ho

/-- The observer answers with the tests of the result that a marking observer was told
    of which it reaches. -/
theorem Holds.narrows (h : Holds r size told board) {o : Observer} (ho : o.Over r size) :
    r.Narrows (fun n => r.groups.contains n = true ∧ ∃ k ∈ o.reached, k < size ∧ told k n)
      (o.result board) := by
  rw [result, h.original_eq ho]
  refine r.narrows_filtered ?_
  intro n
  rw [isMarked_iff]
  constructor
  · rintro ⟨k, hk, m, hm, hn⟩
    obtain ⟨hin, htold⟩ := (h.marked k m hm n).mp hn
    obtain ⟨hlt, -⟩ := List.getElem?_eq_some_iff.mp hm
    exact ⟨hin, k, hk, h.size ▸ hlt, htold⟩
  · rintro ⟨hin, k, hk, hlt, htold⟩
    have hm := List.getElem?_eq_getElem (h.size.symm ▸ hlt)
    exact ⟨k, hk, _, hm, (h.marked k _ hm n).mpr ⟨hin, htold⟩⟩

end Observer

/-! ## Whole runs -/

namespace Exposure

open Observer

/-- What is done with observers. -/
inductive Step where
  | markUsed (o : Observer) (test : String)
  | markAllUsed (o : Observer) (tests : List String)
  | snapshot (o : Observer)

/-- The board after some steps, and the snapshots that were taken. -/
structure Run where
  board : Board
  taken : List ResolvedGroups

/-- One more step. -/
def Run.next (run : Run) : Step → Run
  | .markUsed o test => { run with board := o.mark test run.board }
  | .markAllUsed o tests => { run with board := o.markAll tests run.board }
  | .snapshot o => { run with taken := run.taken ++ [o.result run.board] }

/-- The steps from a start without marks. -/
def runOf (r : ResolvedGroups) (size : Nat) (steps : List Step) : Run :=
  steps.foldl Run.next ⟨List.replicate size (Marks.start r), []⟩

/-- The step tells a marking observer of a test. -/
def Step.Tells (k : Nat) (n : String) : Step → Prop
  | .markUsed o test => k ∈ o.reached ∧ n = test
  | .markAllUsed o tests => k ∈ o.reached ∧ n ∈ tests
  | .snapshot _ => False

/-- Some step tells a marking observer of a test. -/
def Told (steps : List Step) (k : Nat) (n : String) : Prop :=
  ∃ step ∈ steps, step.Tells k n

variable {r : ResolvedGroups} {size : Nat} {told : Nat → String → Prop}

theorem holds_markAll {board : Board} (h : Holds r size told board) (o : Observer)
    (tests : List String) :
    Holds r size (fun k n => told k n ∨ (k ∈ o.reached ∧ n ∈ tests))
      (o.markAll tests board) := by
  induction tests generalizing told board with
  | nil =>
      refine h.congr fun k n => ?_
      simp only [List.not_mem_nil, and_false, or_false]
  | cons test rest ih =>
      refine (ih (h.mark o)).congr fun k n => ?_
      rw [List.mem_cons]
      tauto

/-- A step tells whom it tells, and changes nothing else on the board. -/
theorem holds_next {run : Run} (h : Holds r size told run.board) (step : Step) :
    Holds r size (fun k n => told k n ∨ step.Tells k n) (run.next step).board := by
  cases step with
  | markUsed o test => exact h.mark o
  | markAllUsed o tests => exact holds_markAll h o tests
  | snapshot o => exact h.congr fun k n => (or_iff_left id).symm

theorem holds_foldl {run : Run} (h : Holds r size told run.board) (steps : List Step) :
    Holds r size (fun k n => told k n ∨ Told steps k n)
      (steps.foldl Run.next run).board := by
  induction steps generalizing told run with
  | nil =>
      refine h.congr fun k n => ?_
      simp only [Told, List.not_mem_nil, false_and, exists_false, or_false]
  | cons step rest ih =>
      refine (ih (holds_next h step)).congr fun k n => ?_
      simp only [Told, List.mem_cons, or_and_right, exists_or, exists_eq_left, or_assoc]

/-- **A BOARD KNOWS ITS CALLS**: after any steps, each marking observer has the tests
    of the result that some step told it of. -/
theorem holds_runOf (r : ResolvedGroups) (size : Nat) (steps : List Step) :
    Holds r size (Told steps) (runOf r size steps).board := by
  have hstart : Holds r size (fun _ _ => False)
      (Run.mk (List.replicate size (Marks.start r)) []).board := holds_start r size
  exact (holds_foldl hstart steps).congr fun _ _ => or_iff_right id

/-- Snapshots are only added to. -/
theorem taken_foldl (run : Run) (steps : List Step) :
    ∃ more, (steps.foldl Run.next run).taken = run.taken ++ more := by
  induction steps generalizing run with
  | nil => exact ⟨[], (List.append_nil _).symm⟩
  | cons step rest ih =>
      obtain ⟨more, hmore⟩ := ih (run.next step)
      rw [List.foldl_cons, hmore]
      cases step with
      | markUsed o test => exact ⟨more, rfl⟩
      | markAllUsed o tests => exact ⟨more, rfl⟩
      | snapshot o => exact ⟨o.result run.board :: more, List.append_assoc _ _ _⟩

/-- **EXPOSURES ARE EXACT**, whatever is done with any number of observers of a result.
    An observer answers with the result narrowed to the resolved tests that a
    marking observer was told of which it reaches; for a composite these are
    the tests that one of its observers answers with.  Only who was told of
    which resolved test matters, and not when, how often or by which call.  A
    snapshot stays what it was when it was taken.  And the line of exposures of
    an answer is that of the result without the elements of all other tests. -/
theorem exposure_is_exact (r : ResolvedGroups) (size : Nat) (steps : List Step) :
    let board := (runOf r size steps).board
    (∀ o : Observer, o.Over r size →
      r.Narrows (fun n => r.groups.contains n = true ∧
        ∃ k ∈ o.reached, k < size ∧ Told steps k n) (o.result board)) ∧
    (∀ observers : List Observer,
      r.Narrows (fun n => ∃ o ∈ observers, o.isMarked board n = true)
        ((Observer.composite r observers).result board)) ∧
    (∀ steps', (∀ k n, r.groups.contains n = true → (Told steps k n ↔ Told steps' k n)) →
      ∀ o : Observer, o.Over r size →
        o.result board = o.result (runOf r size steps').board) ∧
    (∀ (o : Observer) (later : List Step), ∃ more,
      (runOf r size (steps ++ .snapshot o :: later)).taken
        = (runOf r size steps).taken ++ o.result board :: more) ∧
    (∀ o : Observer, o.Over r size →
      r.loggingElements = r.exposures.map Prod.snd ∧
      (o.result board).loggingElements
        = (r.exposures.filter fun e => (o.result board).groups.contains e.1).map Prod.snd) := by
  intro board
  have hholds := holds_runOf r size steps
  refine ⟨?_, ?_, ?_, ?_, ?_⟩
  · intro o ho
    exact hholds.narrows ho
  · intro observers
    exact r.narrows_filtered fun n => isMarkedOnAny_eq_true
  · intro steps' hsame o ho
    refine (hholds.narrows ho).unique ((holds_runOf r size steps').narrows ho) ?_
    intro n
    refine and_congr_right fun hn => ?_
    simp only [hsame _ n hn]
  · intro o later
    rw [runOf, List.foldl_append, List.foldl_cons]
    obtain ⟨more, hmore⟩ := taken_foldl ((runOf r size steps).next (.snapshot o)) later
    refine ⟨more, hmore.trans ?_⟩
    exact List.append_assoc _ _ _
  · intro o ho
    refine ⟨r.loggingElements_eq, ?_⟩
    rw [result, hholds.original_eq ho]
    exact r.loggingElements_filtered _

open Resolver in
/-- What the visitor of the family is resolved to. -/
def familyGroups : ResolvedGroups :=
  (plainResolver.resolve family visitor NameMap.empty .all ForceGroups.none (fun _ => 0.5)
    Session.fresh).1

/-- Both marking observers, the second of them once more behind another composite. -/
def nested : Observer :=
  .composite familyGroups [.marking 1, .composite familyGroups [.marking 0, .marking 1]]

/-- The child is marked on both, and the parent on the first alone. -/
def familySteps : List Step :=
  [.markUsed nested "child", .markAllUsed (.marking 0) ["stranger", "parent", "child"]]

/-- The second marking observer answers with the child alone, and so does its line of
    exposures. -/
theorem child_exposed_alone :
    let s := (Observer.marking 1).result (runOf familyGroups 2 familySteps).board
    s.groups.contains "child" = true ∧ s.groups.contains "parent" = false ∧
    s.loggingElements = ["child1", "#A1:child1"] := by
  intro s
  obtain ⟨hnarrows, -, -, -, hlogged⟩ := exposure_is_exact familyGroups 2 familySteps
  have hover : (Observer.marking 1).Over familyGroups 2 := Nat.lt_succ_self 1
  have hchild : s.groups.contains "child" = true := by
    obtain ⟨g, hg⟩ := NameMap.contains_iff.mp
      (show familyGroups.groups.contains "child" = true by decide +kernel)
    refine NameMap.contains_iff.mpr ⟨g, ((hnarrows _ hover).groups "child" g).mpr ⟨hg, ?_⟩⟩
    exact ⟨NameMap.contains_iff.mpr ⟨g, hg⟩, 1, List.mem_singleton_self 1, Nat.lt_succ_self 1,
      _, List.mem_cons_self, by decide, rfl⟩
  have hparent : s.groups.contains "parent" = false := by
    refine Bool.eq_false_iff.mpr fun h => ?_
    obtain ⟨g, hg⟩ := NameMap.contains_iff.mp h
    obtain ⟨-, -, k, hk, -, step, hstep, htells⟩ := ((hnarrows _ hover).groups "parent" g).mp hg
    obtain rfl := List.mem_singleton.mp hk
    -- neither of the steps tells the second observer of the parent
    rcases List.mem_pair.mp hstep with rfl | rfl
    · exact absurd htells.2 (by decide)
    · exact absurd htells.1 (by decide)
  have hexposures : familyGroups.exposures = [("child", "child1"), ("parent", "parent1"),
      ("child", "#A1:child1"), ("parent", "#A1:parent1")] := by decide +kernel
  refine ⟨hchild, hparent, ?_⟩
  rw [(hlogged _ hover).2, hexposures]
  show (List.filter (fun e => s.groups.contains e.1) _).map Prod.snd = _
  simp [hchild, hparent]

end Exposure

end Cohort
