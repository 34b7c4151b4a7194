import Cohort.Proofs.Text.Pieces

/-! # Runs between delimiters

    A text and a set of delimiters have one way to be told apart: the longest
    runs without a delimiter, in order.  What is said here once as a relation,
    without an algorithm, is what the pieces of a text come to when the empty
    ones are dropped.  So whatever puts delimiters between given texts, one or
    several, leaves the texts as its runs. -/

namespace Cohort.Text

variable {α : Type} {p : α → Bool} {c : α} {s : List α} {runs : List (List α)}

/-- A part of a text between delimiters: there is something in it, and no delimiter. -/
structure IsRun (p : α → Bool) (run : List α) : Prop where
  ne_nil : run ≠ []
  clean : ∀ c ∈ run, p c = false

/-- The longest runs of a text without delimiters, in order. -/
inductive Runs (p : α → Bool) : List α → List (List α) → Prop where
  | nil : Runs p [] []
  | delimiter {c : α} {s : List α} {runs : List (List α)} :
      p c = true → Runs p s runs → Runs p (c :: s) runs
  | last {run : List α} : IsRun p run → Runs p run [run]
  | run {run : List α} {c : α} {s : List α} {runs : List (List α)} :
      IsRun p run → p c = true → Runs p s runs → Runs p (run ++ c :: s) (run :: runs)

theorem isRun_singleton (hc : p c = false) : IsRun p [c] := by
  refine ⟨List.cons_ne_nil c [], ?_⟩
  intro x hx
  rw [List.mem_singleton.mp hx]
  exact hc

theorem IsRun.cons {run : List α} (hc : p c = false) (h : IsRun p run) : IsRun p (c :: run) :=
  ⟨List.cons_ne_nil c run, List.forall_mem_cons.mpr ⟨hc, h.clean⟩⟩

/-! ## Every text has runs -/

/-- One more character in front, no delimiter: it joins the first run or is a new one. -/
theorem Runs.exists_cons (hc : p c = false) (h : Runs p s runs) :
    ∃ runs', Runs p (c :: s) runs' := by
  cases h with
  | nil => exact ⟨_, .last (isRun_singleton hc)⟩
  | delimiter hd hrest => exact ⟨_, .run (isRun_singleton hc) hd hrest⟩
  | last hrun => exact ⟨_, .last (hrun.cons hc)⟩
  | run hrun hd hrest => exact ⟨_, .run (hrun.cons hc) hd hrest⟩

theorem exists_runs (p : α → Bool) (s : List α) : ∃ runs, Runs p s runs := by
  induction s with
  | nil => exact ⟨[], .nil⟩
  | cons c s ih =>
      obtain ⟨runs, hruns⟩ := ih
      cases hc : p c with
      | true => exact ⟨runs, hruns.delimiter hc⟩
      | false => exact hruns.exists_cons hc

/-! ## What runs are -/

theorem Runs.isRun (h : Runs p s runs) : ∀ run ∈ runs, IsRun p run := by
  induction h with
  | nil => simp
  | delimiter _ _ ih => exact ih
  | last hrun => simpa using hrun
  | run hrun _ _ ih => exact List.forall_mem_cons.mpr ⟨hrun, ih⟩

/-- Nothing is lost but the delimiters, and nothing changes its place. -/
theorem Runs.flatten_eq (h : Runs p s runs) : runs.flatten = s.filter fun c => !p c := by
  have hclean : ∀ {run : List α}, IsRun p run → run.filter (fun c => !p c) = run := by
    intro run hrun
    refine List.filter_eq_self.mpr fun c hc => ?_
    rw [hrun.clean c hc]
    rfl
  induction h with
  | nil => rfl
  | delimiter hc _ ih => simp [hc, ih]
  | last hrun => simp [hclean hrun]
  | run hrun hc _ ih => simp [hclean hrun, hc, ih]

/-- **THE PIECES THAT ARE LEFT ARE THE RUNS**, whatever stands between them. -/
theorem Runs.filter_pieces (h : Runs p s runs) :
    (pieces p s).filter (fun piece => !piece.isEmpty) = runs := by
  have hsome : ∀ {run : List α}, IsRun p run →
      (pieces p run).filter (fun piece => !piece.isEmpty) = [run] := by
    intro run hrun
    rw [pieces_eq_singleton hrun.clean]
    simpa using hrun.ne_nil
  induction h with
  | nil => rfl
  | delimiter hc _ ih =>
      rw [← List.nil_append (_ :: _), pieces_append_cons hc, List.filter_append, ih]
      rfl
  | last hrun => exact hsome hrun
  | run hrun hc _ ih =>
      rw [pieces_append_cons hc, List.filter_append, hsome hrun, ih, List.singleton_append]

/-! ## Delimiters between given texts -/

/-- Delimiters in front make no run. -/
theorem Runs.append_delimiters {d : List α} (hd : ∀ c ∈ d, p c = true) (h : Runs p s runs) :
    Runs p (d ++ s) runs := by
  induction d with
  | nil => exact h
  | cons c d ih =>
      obtain ⟨hc, hd⟩ := List.forall_mem_cons.mp hd
      exact (ih hd).delimiter hc

/-- A run, some delimiters and a text: one run more than the text has. -/
theorem Runs.append_run {run d : List α} (hrun : IsRun p run) (hsome : d ≠ [])
    (hd : ∀ c ∈ d, p c = true) (h : Runs p s runs) : Runs p (run ++ d ++ s) (run :: runs) := by
  cases d with
  | nil => exact absurd rfl hsome
  | cons c d =>
      obtain ⟨hc, hd⟩ := List.forall_mem_cons.mp hd
      rw [List.append_assoc]
      exact .run hrun hc (h.append_delimiters hd)

end Cohort.Text
