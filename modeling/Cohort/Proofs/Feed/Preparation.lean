import Cohort.Feed
import Cohort.Proofs.Consistency
import Cohort.Proofs.Resolution.Locality

/-! # What a feed serves

    Before an artifact is served, the tests that cannot be served are dropped.
    What is left is the largest consistent part of the artifact: nothing is
    wrong with it, every other consistent part lies in it, and its tests are
    resolved as they were among all others. -/

namespace Cohort.Feed

open InSession Consistency Resolver

variable (l : Rule.Library) (path : String) (a : Artifact)

/-- The definition is in order, whatever clients provide. -/
abbrev Sound (test : String) (d : Definition) : Prop :=
  Fine l Provided.syntaxOnly test d

/-- A part of an artifact. -/
def restrict (a : Artifact) (keep : String → Bool) : Artifact :=
  { a with tests := a.tests.filter fun name _ => keep name }

theorem get?_restrict (keep : String → Bool) (n : String) :
    (restrict a keep).tests.get? n = if keep n then a.tests.get? n else none :=
  NameMap.get?_filter_names keep a.tests n

/-- A part that leaves no name out is the whole. -/
theorem restrict_eq_self {keep : String → Bool} (h : ∀ name, keep name = true) :
    restrict a keep = a := by
  rw [restrict, NameMap.filter_eq_self fun name _ _ => h name]

/-- The tests that verification finds no problem with. -/
def kept : Artifact :=
  restrict a fun name =>
    !(verifyAll l Provided.syntaxOnly path a).value.contains name

/-- In whichever session, just the tests without a problem are left. -/
theorem fst_dropInvalidTests (s : Session) :
    (dropInvalidTests l path a s).1 = kept l path a := by
  rw [dropInvalidTests, fst_bind, steady_verifyAll l Provided.syntaxOnly path a s]
  show restrict a (fun name => !_ && !(NameMap.empty : Problems).contains name) = _
  have hnone : ∀ name, (NameMap.empty : Problems).contains name = false := fun _ => rfl
  simp only [hnone, Bool.not_false, Bool.and_true]
  rfl

/-- **WHAT IS KEPT**: the tests that can be served, with their definitions. -/
theorem get?_kept_eq_some_iff {n : String} {d : Definition} :
    (kept l path a).tests.get? n = some d
      ↔ a.tests.get? n = some d ∧ Servable (Sound l) a.tests n := by
  rw [kept, get?_restrict]
  cases hn : a.tests.contains n with
  | false =>
      rw [NameMap.contains_eq_false_iff.mp hn, ite_self]
      constructor
      · intro h
        exact nomatch h
      · rintro ⟨h, -⟩
        exact nomatch h
  | true =>
      rw [← get?_verifyAll_eq_none_iff l Provided.syntaxOnly path a hn,
        ← NameMap.contains_eq_false_iff]
      cases (verifyAll l Provided.syntaxOnly path a).value.contains n with
      | false => simp
      | true => simp

theorem contains_kept_iff {n : String} :
    (kept l path a).tests.contains n = true ↔ Servable (Sound l) a.tests n := by
  rw [NameMap.contains_iff]
  constructor
  · rintro ⟨d, hd⟩
    exact ((get?_kept_eq_some_iff l path a).mp hd).2
  · intro h
    obtain ⟨d, hd⟩ := NameMap.contains_iff.mp h.contains
    exact ⟨d, (get?_kept_eq_some_iff l path a).mpr ⟨hd, h⟩⟩

/-- The parents of what is kept are kept. -/
theorem closedPart_kept : ClosedPart (kept l path a).tests a.tests := by
  refine ⟨fun hd => ((get?_kept_eq_some_iff l path a).mp hd).1, ?_⟩
  intro n p hn hp _
  exact (contains_kept_iff l path a).mpr (((contains_kept_iff l path a).mp hn).parent hp)

/-! ## The largest consistent part -/

/-- Nothing is wrong with what is kept. -/
theorem verifyAll_kept (source : String) :
    (verifyAll l Provided.syntaxOnly source (kept l path a)).value = NameMap.empty := by
  rw [verifyAll_eq_empty_iff]
  intro n hn
  refine ((contains_kept_iff l path a).mp hn).alone ?_
  intro m hm
  exact (closedPart_kept l path a).get?_eq ((contains_kept_iff l path a).mpr hm)

/-- A consistent part is kept. -/
theorem contains_kept_of_restrict {keep : String → Bool} {source n : String}
    (hpart : (verifyAll l Provided.syntaxOnly source (restrict a keep)).value
      = NameMap.empty)
    (hn : a.tests.contains n = true) (hkeep : keep n = true) :
    (kept l path a).tests.contains n = true := by
  have hin : (restrict a keep).tests.contains n = true := by
    rw [NameMap.contains, get?_restrict, if_pos hkeep]
    exact hn
  -- what serves a test in the part is there in the whole
  have hservable := (verifyAll_eq_empty_iff l Provided.syntaxOnly source _).mp hpart n hin
  refine (contains_kept_iff l path a).mpr (hservable.mono ?_)
  intro m d hd
  exact (NameMap.get?_filter_eq_some_iff.mp hd).1

/-- There is nothing more to drop. -/
theorem kept_kept : kept l path (kept l path a) = kept l path a := by
  refine restrict_eq_self _ ?_
  intro name
  rw [verifyAll_kept]
  rfl

/-- **THE LARGEST CONSISTENT PART**: an artifact without its invalid tests is
    consistent, its definitions are those of the whole, and every consistent
    part of the whole lies in it.  Nothing is dropped from it again, and each
    of its tests is in the group it would be in among all tests, if rules are
    told the same time. -/
theorem dropInvalidTests_largest (s : Session) :
    let b := (dropInvalidTests l path a s).1
    (∀ source s', (verifyAll l Provided.syntaxOnly source b s').1 = NameMap.empty) ∧
    (∀ n d, b.tests.get? n = some d → a.tests.get? n = some d) ∧
    (∀ keep source s',
      (verifyAll l Provided.syntaxOnly source (restrict a keep) s').1 = NameMap.empty →
      ∀ n, a.tests.contains n = true → keep n = true → b.tests.contains n = true) ∧
    (∀ s', (dropInvalidTests l path b s').1 = b) ∧
    (∀ (r : Resolver) ids context requested force draws draws' s' s'' n,
      b.tests.contains n = true → r.selects a requested n = true →
      FixedChain a.tests n →
      (r.resolve b ids context requested force draws s').1.groups.get? n
        = (r.resolve a ids context requested force draws' s'').1.groups.get? n) := by
  intro b
  have hb : b = kept l path a := fst_dropInvalidTests l path a s
  rw [hb]
  refine ⟨?_, ?_, ?_, ?_, ?_⟩
  · intro source s'
    rw [steady_verifyAll l Provided.syntaxOnly source _ s', verifyAll_kept]
  · intro n d hd
    exact ((get?_kept_eq_some_iff l path a).mp hd).1
  · intro keep source s' hpart n hn hkeep
    rw [steady_verifyAll l Provided.syntaxOnly source _ s'] at hpart
    exact contains_kept_of_restrict l path a hpart hn hkeep
  · intro s'
    rw [fst_dropInvalidTests, kept_kept]
  · intro r ids context requested force draws draws' s' s'' n hn hselected hfixed
    exact (r.get?_groups_congr ids context force draws' draws hselected
      ((closedPart_kept l path a).sameChain hn).symm hfixed s'' s').symm

/-- The family, beside a stranger with a test below it, and beside a test that
    depends on itself. -/
def tangle : Artifact :=
  snapshot [("parent", parentTest), ("child", childTest), ("stranger", strangerTest),
    ("guest", evenSplit "g" (some ⟨"stranger", 1⟩)),
    ("loop", evenSplit "l" (some ⟨"loop", 1⟩))]

/-- What is served of the tangle. -/
def servedOfTangle : Artifact :=
  (dropInvalidTests plainLibrary "feed" tangle Session.fresh).1

/-- Of the tangle only the family is kept, and its child is resolved as before. -/
theorem family_in_tangle :
    servedOfTangle.tests.names = ["child", "parent"] ∧
    (verifyAll plainLibrary Provided.syntaxOnly "feed" servedOfTangle
      Session.fresh).1 = NameMap.empty ∧
    servedOfTangle.tests.contains "parent" = true ∧
    (dropInvalidTests plainLibrary "feed" servedOfTangle Session.fresh).1
      = servedOfTangle ∧
    (plainResolver.resolve servedOfTangle visitor NameMap.empty .all ForceGroups.none
        (fun _ => 0.25) Session.fresh).1.groups.get? "child"
      = (plainResolver.resolve tangle visitor NameMap.empty .all ForceGroups.none
        (fun _ => 0.75) Session.fresh).1.groups.get? "child" := by
  obtain ⟨hconsistent, -, hlargest, honce, hsame⟩ :=
    dropInvalidTests_largest plainLibrary "feed" tangle Session.fresh
  refine ⟨by decide +kernel, hconsistent "feed" Session.fresh, ?_,
    honce Session.fresh, ?_⟩
  · exact hlargest (fun name => name == "parent") "feed" Session.fresh
      (by decide +kernel) "parent" (by decide +kernel) rfl
  · exact hsame plainResolver visitor NameMap.empty .all ForceGroups.none _ _ _ _ "child"
      (by decide +kernel) (by decide +kernel) (fixedChain_child rfl rfl)

end Cohort.Feed
