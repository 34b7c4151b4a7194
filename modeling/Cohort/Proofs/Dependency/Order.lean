import Cohort.Proofs.Dependency.Walk

/-! # The order of a request

    A request needs the tests it names and all tests above them.  Gathering
    them stops at a test that is there already, which loses nothing, because
    what is gathered is closed under parents whenever a chain is left.  The
    gathered tests are a closed part of all tests, so the walk through them
    is a walk by the depths of the whole. -/

namespace Cohort

variable {tests : Tests} {names : List String} {n : String}

/-! ## Gathering chains -/

/-- The parent of each of these tests is one of them, or it is no test. -/
def ParentClosed (tests : Tests) (found : NameSet) : Prop :=
  ∀ m ∈ found, ∀ p, parentAmong tests m = some p → p ∈ found

/-- The result is what was found before, with the tests of the names and all
    tests above them. -/
structure Gathers (tests : Tests) (names : List String)
    (found result : NameSet) : Prop where
  sound : ∀ m ∈ result, m ∈ found ∨
    tests.contains m = true ∧ ∃ x ∈ names, OnChain tests x m
  closed : ParentClosed tests result
  kept : ∀ m ∈ found, m ∈ result
  named : ∀ x ∈ names, tests.contains x = true → x ∈ result

/-- A chain is being gathered and goes on with `next`: it is the only parent
    that may be left. -/
structure Gathering (tests : Tests) (found : NameSet) (next : Option String) : Prop where
  found_tests : ∀ m ∈ found, tests.contains m = true
  next_test : ∀ x, next = some x → tests.contains x = true
  closed : ∀ m ∈ found, ∀ p, parentAmong tests m = some p →
    p ∈ found ∨ next = some p

/-- One more test of the chain is gathered. -/
theorem Gathering.insert {found : NameSet} {x : String}
    (h : Gathering tests found (some x)) :
    Gathering tests (found.insert x) (parentAmong tests x) := by
  refine ⟨?_, fun p hp => (parentAmong_eq_some_iff.mp hp).2, ?_⟩
  · intro m hm
    rcases NameSet.mem_insert.mp hm with rfl | hm
    · exact h.next_test m rfl
    · exact h.found_tests m hm
  · intro m hm p hp
    rcases NameSet.mem_insert.mp hm with rfl | hm
    · exact Or.inr hp
    · refine Or.inl (NameSet.mem_insert.mpr ?_)
      rcases h.closed m hm p hp with hp | hp
      · exact Or.inr hp
      · exact Or.inl (Option.some.inj hp).symm

/-- When all tests are gathered, nothing is left. -/
theorem Gathering.mem_of_size_le {found : NameSet} {next : Option String}
    (h : Gathering tests found next) (hsize : tests.size ≤ found.size) {m : String}
    (hm : tests.contains m = true) : m ∈ found :=
  NameMap.mem_of_size_le found.nodup_toList h.found_tests hsize hm

/-- What is gathered from a test is added.  Every step of the chain takes one
    more test in, so the room lasts until all tests are taken in. -/
theorem gathers_addChain {room : Nat} {found : NameSet} {next : Option String}
    (h : Gathering tests found next) (hroom : tests.size ≤ found.size + room) :
    Gathers tests next.toList found (addChain tests room found next) := by
  induction room generalizing found next with
  | zero =>
      refine ⟨fun m hm => Or.inl hm, ?_, fun m hm => hm,
        fun x _ hx => h.mem_of_size_le hroom hx⟩
      intro m _ p hp
      exact h.mem_of_size_le hroom (parentAmong_eq_some_iff.mp hp).2
  | succ room ih =>
      cases next with
      | none =>
          refine ⟨fun m hm => Or.inl hm, ?_, fun m hm => hm, fun x hx => nomatch hx⟩
          intro m hm p hp
          exact (h.closed m hm p hp).resolve_right nofun
      | some x =>
          rw [addChain]
          split
          · next hx =>
              -- the chain meets what is there already, and stops: nothing is left
              have hx := NameSet.contains_iff.mp hx
              refine ⟨fun m hm => Or.inl hm, ?_, fun m hm => hm, ?_⟩
              · intro m hm p hp
                rcases h.closed m hm p hp with hp | hp
                · exact hp
                · exact Option.some.inj hp ▸ hx
              · intro y hy _
                obtain rfl := List.mem_singleton.mp hy
                exact hx
          · next hx =>
              have hx := NameSet.contains_eq_false_iff.mp (Bool.not_eq_true _ ▸ hx)
              -- a new test takes one unit of room
              have hrest := ih h.insert (by rw [NameSet.size_insert hx]; omega)
              refine ⟨?_, hrest.closed, ?_, ?_⟩
              · intro m hm
                rcases hrest.sound m hm with hm | ⟨hin, p, hp, hchain⟩
                · rcases NameSet.mem_insert.mp hm with rfl | hm
                  · exact Or.inr ⟨h.next_test m rfl, m, List.mem_singleton_self m,
                      Relation.ReflTransGen.refl⟩
                  · exact Or.inl hm
                · have hxp := (parentAmong_eq_some_iff.mp (Option.mem_toList.mp hp)).1
                  exact Or.inr ⟨hin, x, List.mem_singleton_self x, hchain.head hxp⟩
              · intro m hm
                exact hrest.kept m (NameSet.mem_insert.mpr (Or.inr hm))
              · intro y hy _
                obtain rfl := List.mem_singleton.mp hy
                exact hrest.kept y (NameSet.mem_insert.mpr (Or.inl rfl))

/-- What is gathered in two rounds is gathered for the names of both. -/
theorem Gathers.append {names' : List String} {found between result : NameSet}
    (h : Gathers tests names found between) (h' : Gathers tests names' between result) :
    Gathers tests (names ++ names') found result := by
  refine ⟨?_, h'.closed, fun m hm => h'.kept m (h.kept m hm), ?_⟩
  · intro m hm
    rcases h'.sound m hm with hm | ⟨hin, x, hx, hchain⟩
    · rcases h.sound m hm with hm | ⟨hin, x, hx, hchain⟩
      · exact Or.inl hm
      · exact Or.inr ⟨hin, x, List.mem_append.mpr (Or.inl hx), hchain⟩
    · exact Or.inr ⟨hin, x, List.mem_append.mpr (Or.inr hx), hchain⟩
  · intro x hx hin
    rcases List.mem_append.mp hx with hx | hx
    · exact h'.kept x (h.named x hx hin)
    · exact h'.named x hx hin

/-- What is gathered besides tests are tests. -/
theorem Gathers.contains {found result : NameSet} (h : Gathers tests names found result)
    (hfound : ∀ m ∈ found, tests.contains m = true) :
    ∀ m ∈ result, tests.contains m = true := by
  intro m hm
  rcases h.sound m hm with hm | ⟨hin, -⟩
  · exact hfound m hm
  · exact hin

/-- Nothing has to be gathered for names of no test. -/
theorem gathers_of_missing {found : NameSet} (hclosed : ParentClosed tests found)
    (hmissing : ∀ x ∈ names, tests.contains x = false) :
    Gathers tests names found found := by
  refine ⟨fun m hm => Or.inl hm, hclosed, fun m hm => hm, ?_⟩
  intro x hx hin
  rw [hmissing x hx] at hin
  cases hin

/-- One name after the other is gathered. -/
private theorem gathers_foldl {found : NameSet}
    (hfound : ∀ m ∈ found, tests.contains m = true)
    (hclosed : ParentClosed tests found) :
    Gathers tests names found (names.foldl (fun found name =>
      if tests.contains name then addChain tests tests.size found (some name)
      else found) found) := by
  induction names generalizing found with
  | nil => exact gathers_of_missing hclosed fun x hx => nomatch hx
  | cons name names ih =>
      have hfirst : Gathers tests [name] found
          (if tests.contains name then addChain tests tests.size found (some name)
          else found) := by
        cases hname : tests.contains name with
        | true =>
            have hstart : Gathering tests found (some name) := by
              refine ⟨hfound, ?_, fun m hm p hp => Or.inl (hclosed m hm p hp)⟩
              rintro x ⟨⟩
              exact hname
            exact gathers_addChain hstart (Nat.le_add_left tests.size found.size)
        | false =>
            refine gathers_of_missing hclosed ?_
            intro x hx
            rw [List.mem_singleton.mp hx]
            exact hname
      exact hfirst.append (ih (hfirst.contains hfound) hfirst.closed)

theorem gathers_withDependencies (tests : Tests) (names : List String) :
    Gathers tests names NameSet.empty (withDependencies tests names) :=
  gathers_foldl (fun _ hm => absurd hm (NameSet.not_mem_empty _))
    (fun _ hm => absurd hm (NameSet.not_mem_empty _))

/-- **THE CLOSURE**: the tests on the chains of the names, and no others. -/
theorem mem_withDependencies_iff :
    n ∈ withDependencies tests names
      ↔ tests.contains n = true ∧ ∃ x ∈ names, OnChain tests x n := by
  have hgathers := gathers_withDependencies tests names
  constructor
  · intro h
    exact (hgathers.sound n h).resolve_left (NameSet.not_mem_empty n)
  · rintro ⟨hn, x, hx, hchain⟩
    induction hchain with
    | refl => exact hgathers.named x hx hn
    | tail _ hmp ih =>
        exact hgathers.closed _ (ih hmp.contains) _
          (parentAmong_eq_some_iff.mpr ⟨hmp, hn⟩)

/-! ## The walk through what is gathered -/

/-- The gathered tests. -/
def gathered (tests : Tests) (names : List String) : Tests :=
  tests.filter fun name _ => (withDependencies tests names).contains name

theorem contains_gathered_iff :
    (gathered tests names).contains n = true
      ↔ tests.contains n = true ∧ ∃ x ∈ names, OnChain tests x n := by
  rw [NameMap.contains_iff, ← mem_withDependencies_iff]
  constructor
  · rintro ⟨d, hd⟩
    exact NameSet.contains_iff.mp (NameMap.get?_filter_eq_some_iff.mp hd).2
  · intro h
    obtain ⟨d, hd⟩ := NameMap.contains_iff.mp (mem_withDependencies_iff.mp h).1
    exact ⟨d, NameMap.get?_filter_eq_some_iff.mpr ⟨hd, NameSet.contains_iff.mpr h⟩⟩

theorem closedPart_gathered (tests : Tests) (names : List String) :
    ClosedPart (gathered tests names) tests := by
  refine ⟨fun hd => (NameMap.get?_filter_eq_some_iff.mp hd).1, ?_⟩
  intro n p hn hp hin
  obtain ⟨-, x, hx, hchain⟩ := contains_gathered_iff.mp hn
  exact contains_gathered_iff.mpr ⟨hin, x, hx, hchain.tail hp⟩

theorem evaluationOrder_eq_walkOf (tests : Tests) (names : List String) :
    evaluationOrder tests names = walkOf (gathered tests names) := rfl

/-- **WHAT IS ORDERED**: the tests on the chains of the names whose own chain
    ends. -/
theorem mem_evaluationOrder_iff :
    n ∈ evaluationOrder tests names
      ↔ (∃ x ∈ names, OnChain tests x n) ∧ ∃ k, AtDepth tests k n := by
  rw [evaluationOrder_eq_walkOf, mem_walkOf_iff]
  constructor
  · rintro ⟨k, hk⟩
    have hn := hk.contains
    exact ⟨(contains_gathered_iff.mp hn).2,
      k, ((closedPart_gathered tests names).sameChain hn).atDepth hk⟩
  · rintro ⟨hchain, k, hk⟩
    have hn := contains_gathered_iff.mpr ⟨hk.contains, hchain⟩
    exact ⟨k, ((closedPart_gathered tests names).sameChain hn).symm.atDepth hk⟩

theorem parentsFirst_evaluationOrder (tests : Tests) (names : List String) :
    ParentsFirst tests (evaluationOrder tests names) := by
  rw [evaluationOrder_eq_walkOf]
  have hpart := closedPart_gathered tests names
  have hfirst := parentsFirst_walkOf (gathered tests names)
  have hin : ∀ a ∈ walkOf (gathered tests names),
      (gathered tests names).contains a = true := by
    intro a ha
    obtain ⟨k, hk⟩ := mem_walkOf_iff.mp ha
    exact hk.contains
  constructor
  · refine hfirst.pairwise.imp_of_mem ?_
    intro a b ha _ hab
    exact ⟨hab.1, fun hdep => hab.2 ((hpart.dependsOn_iff (hin a ha)).mpr hdep)⟩
  · intro a ha hdep
    exact hfirst.not_self a ha ((hpart.dependsOn_iff (hin a ha)).mpr hdep)

end Cohort
