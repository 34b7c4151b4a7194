import Cohort.Session

/-! # What is computed in a session

    Work in a session fills caches and writes a log, and neither of them may
    show in its result.  Work of that kind is steady: it comes to the same in
    every session.  Caches keep nothing but parses, so asking them is steady,
    and steady work in a row is steady. -/

namespace Cohort

/-- Asking for a rule through a cache gives the answer to the rule. -/
theorem Rule.Cache.fst_evaluate (c : Rule.Cache) (l : Rule.Library)
    (rule : Option String) (scope : Rule.Scope) :
    (c.evaluate l rule scope).1 = Rule.evaluate l rule scope := by
  simp only [Rule.Cache.evaluate, Rule.evaluate]
  cases rule with
  | none => rfl
  | some rule =>
      -- blank rules do not reach the cache
      by_cases hblank : Text.isBlankText rule = true
      · simp only [hblank, if_true]
      · simp only [hblank, Bool.false_eq_true, if_false]
        rw [Rule.Cache.parsed_fst]

namespace InSession

variable {α β : Type} {x : InSession α} {f : α → InSession β}

/-- The result is the same in every session. -/
def Steady (x : InSession α) : Prop :=
  ∀ s, (x s).1 = x.value

/-- Work with the same result in every session. -/
theorem steady_of_forall {v : α} (h : ∀ s, (x s).1 = v) : Steady x := by
  intro s
  rw [h s]
  exact (h Session.fresh).symm

theorem steady_pure (v : α) : Steady (pure v : InSession α) :=
  steady_of_forall fun _ => rfl

@[simp] theorem value_pure (v : α) : (pure v : InSession α).value = v := rfl

/-- The second part goes on in the session that the first one leaves. -/
theorem fst_bind (x : InSession α) (f : α → InSession β) (s : Session) :
    ((x >>= f) s).1 = (f (x s).1 (x s).2).1 := rfl

theorem value_bind (hf : ∀ a, Steady (f a)) :
    (x >>= f).value = (f x.value).value :=
  hf x.value (x Session.fresh).2

theorem Steady.bind (hx : Steady x) (hf : ∀ a, Steady (f a)) :
    Steady (x >>= f) := by
  intro s
  rw [fst_bind, hf, hx s, value_bind hf]

/-! ## Reports and rules -/

theorem steady_report (e : Event) : Steady (report e) :=
  steady_of_forall fun _ => rfl

/-- Whatever the cache of a place holds, its rule is parsed. -/
theorem fst_parsed (site : RuleSite) (rule : String) (s : Session) :
    (parsed site rule s).1 = Rule.parse rule :=
  Rule.Cache.parsed_fst _ rule

theorem steady_parsed (site : RuleSite) (rule : String) : Steady (parsed site rule) :=
  steady_of_forall (fst_parsed site rule)

/-- Whatever the cache of a place holds, its rule is answered as without it. -/
theorem fst_evaluate (l : Rule.Library) (site : RuleSite) (rule : Option String)
    (scope : Rule.Scope) (s : Session) :
    (evaluate l site rule scope s).1 = (Rule.evaluate l rule scope).outcome := by
  rw [← Rule.Cache.fst_evaluate (s.caches.get site)]
  rfl

theorem steady_evaluate (l : Rule.Library) (site : RuleSite) (rule : Option String)
    (scope : Rule.Scope) : Steady (evaluate l site rule scope) :=
  steady_of_forall (fst_evaluate l site rule scope)

/-! ## What is reported -/

/-- The log is only added to, and all that is added has the property. -/
def ReportsOnly (p : Event → Prop) (x : InSession α) : Prop :=
  ∀ s, ∃ added, (x s).2.log = s.log ++ added ∧ ∀ e ∈ added, p e

variable {p : Event → Prop}

/-- Work that leaves the log as it is reports nothing. -/
theorem reportsOnly_of_log (h : ∀ s, (x s).2.log = s.log) : ReportsOnly p x :=
  fun s => ⟨[], (h s).trans (List.append_nil _).symm, nofun⟩

theorem reportsOnly_pure (v : α) : ReportsOnly p (pure v : InSession α) :=
  reportsOnly_of_log fun _ => rfl

theorem reportsOnly_evaluate (l : Rule.Library) (site : RuleSite)
    (rule : Option String) (scope : Rule.Scope) :
    ReportsOnly p (evaluate l site rule scope) :=
  reportsOnly_of_log fun _ => rfl

theorem reportsOnly_report {e : Event} (h : p e) : ReportsOnly p (report e) :=
  fun _ => ⟨[e], rfl, fun _ he => List.mem_singleton.mp he ▸ h⟩

/-- What follows steady work is reported after what that work came to. -/
theorem ReportsOnly.bind (hx : ReportsOnly p x) (hsteady : Steady x)
    (hf : ReportsOnly p (f x.value)) : ReportsOnly p (x >>= f) := by
  intro s
  obtain ⟨added, hadded, hp⟩ := hx s
  obtain ⟨more, hmore, hp'⟩ := hf (x s).2
  refine ⟨added ++ more, ?_, ?_⟩
  · show (f (x s).1 (x s).2).2.log = s.log ++ (added ++ more)
    rw [hsteady s, hmore, hadded, List.append_assoc]
  · intro e he
    rcases List.mem_append.mp he with h | h
    · exact hp e h
    · exact hp' e h

end InSession

end Cohort
