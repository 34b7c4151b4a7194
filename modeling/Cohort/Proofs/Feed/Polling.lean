import Cohort.Proofs.Feed.History

/-! # A feed that is looked after

    A feed in the background is looked after turn by turn, and between two turns
    others may refresh it.  A turn leaves the feed alone or refreshes it, so
    whatever holds of a feed with a history holds of it.  A turn that does not
    fail leaves the feed up to date, and then the same turn again does nothing.
    While the file is broken, every turn looks at it again, and the waits
    between the turns grow up to a limit. -/

namespace Cohort

/-! ## Waiting -/

namespace RefreshPolicy

variable (p : RefreshPolicy) {failures : Nat}

/-- After a failure no wait is longer than the limit. -/
theorem backoff_le (h : failures ≠ 0) : p.backoff failures ≤ p.maxBackoff := by
  obtain ⟨n, rfl⟩ := Nat.exists_eq_succ_of_ne_zero h
  exact Nat.min_le_right _ _

/-- **ONE MORE FAILURE** doubles the wait, up to the limit. -/
theorem backoff_succ (h : failures ≠ 0) (hlt : failures < 32) :
    p.backoff (failures + 1) = min (2 * p.backoff failures) p.maxBackoff := by
  obtain ⟨n, rfl⟩ := Nat.exists_eq_succ_of_ne_zero h
  have hpow : Nat.pow 2 (n + 1) = 2 * Nat.pow 2 n := Nat.mul_comm _ _
  have hdouble : p.initialBackoff * (2 * Nat.pow 2 n) = 2 * (p.initialBackoff * Nat.pow 2 n) :=
    Nat.mul_left_comm _ _ _
  rw [backoff, backoff, if_pos hlt, if_pos (by omega : n < 32), hpow, hdouble]
  omega

/-- More failures in a row never make for a shorter wait. -/
theorem backoff_le_succ (h : failures ≠ 0) : p.backoff failures ≤ p.backoff (failures + 1) := by
  obtain hlt | hle := Nat.lt_or_ge failures 32
  · have hlimit := p.backoff_le h
    rw [p.backoff_succ h hlt]
    omega
  · obtain ⟨n, rfl⟩ := Nat.exists_eq_succ_of_ne_zero h
    -- the factor has reached its own limit, or is about to
    have hfactor : (if n < 32 then Nat.pow 2 n else factorLimit) ≤ factorLimit := by
      split
      · next hn =>
          have hlast : n = 31 := by omega
          subst hlast
          decide
      · exact Nat.le_refl _
    have hproduct := Nat.mul_le_mul_left p.initialBackoff hfactor
    rw [backoff, backoff, if_neg (Nat.not_lt.mpr hle)]
    omega

theorem backoff_mono {later : Nat} (h : failures ≠ 0) (hle : failures ≤ later) :
    p.backoff failures ≤ p.backoff later := by
  induction hle with
  | refl => exact Nat.le_refl _
  | step hn ih =>
      have hpos : 0 < failures := Nat.pos_of_ne_zero h
      exact Nat.le_trans ih (p.backoff_le_succ (Nat.ne_of_gt (Nat.lt_of_lt_of_le hpos hn)))

end RefreshPolicy

namespace Watch

open Feed

variable {w : Wording} {l : Rule.Library} {path : String} {t t' : Watch}
  {files looks : List FileLook} {file : FileLook}

/-! ## One turn -/

/-- **A TURN** leaves everything as it is, or refreshes the feed and counts the
    failures. -/
theorem turn_cases (w : Wording) (t : Watch) (file : FileLook) (s : Session) :
    (t.failures = 0 ∧ t.feed.isStale file = false ∧ (t.turn w file s).1 = t) ∨
    ((t.failures ≠ 0 ∨ t.feed.isStale file = true) ∧
      ((∃ outcome, (t.feed.refresh w file s).1.1 = .ok outcome ∧
          (t.turn w file s).1 = ⟨(t.feed.refresh w file s).1.2, 0⟩) ∨
        ∃ e, (t.feed.refresh w file s).1.1 = .error e ∧
          (t.turn w file s).1
            = ⟨(t.feed.refresh w file s).1.2, min (t.failures + 1) factorLimit⟩)) := by
  by_cases hidle : (t.failures = 0 && !t.feed.isStale file) = true
  · refine Or.inl ?_
    obtain ⟨hzero, hstale⟩ := Bool.and_eq_true_iff.mp hidle
    refine ⟨of_decide_eq_true hzero, (Bool.not_eq_true' _).mp hstale, ?_⟩
    rw [turn, if_pos hidle]
    rfl
  · refine Or.inr ⟨?_, ?_⟩
    · by_contra hnone
      rw [not_or, not_not, Bool.not_eq_true] at hnone
      exact hidle (by simp [hnone.1, hnone.2])
    · rw [turn, if_neg hidle, InSession.fst_bind]
      obtain ⟨outcome, feed⟩ := (t.feed.refresh w file s).1
      cases outcome with
      | ok outcome => exact Or.inl ⟨outcome, rfl, rfl⟩
      | error e => exact Or.inr ⟨e, rfl, rfl⟩

/-- The feed is looked after with one more refresh, or with none. -/
theorem feed_turn (w : Wording) (t : Watch) (file : FileLook) (s : Session) :
    (t.turn w file s).1.feed = t.feed ∨
      (t.turn w file s).1.feed = (t.feed.refresh w file s).1.2 := by
  obtain ⟨-, -, heq⟩ | ⟨-, ⟨outcome, -, heq⟩ | ⟨e, -, heq⟩⟩ := turn_cases w t file s
  · exact Or.inl (congrArg feed heq)
  · exact Or.inr (congrArg feed heq)
  · exact Or.inr (congrArg feed heq)

/-- **UP TO DATE**: a turn that did not fail has read the file as it is. -/
theorem isStale_turn (hf : Watches l path t.feed) {s : Session}
    (h : (t.turn w file s).1.failures = 0) : (t.turn w file s).1.feed.isStale file = false := by
  obtain ⟨-, hfresh, heq⟩ | ⟨-, ⟨outcome, hok, heq⟩ | ⟨e, -, heq⟩⟩ := turn_cases w t file s
  · rw [heq]
    exact hfresh
  · obtain ⟨state, a, rfl, -, hcase⟩ := refresh_of_ok hf hok
    rw [heq]
    obtain ⟨-, -, hafter⟩ | ⟨-, -, hafter⟩ := hcase
    · rw [hafter]
      exact bne_self_eq_false _
    · rw [hafter]
      exact bne_self_eq_false _
  · rw [heq] at h
    have hpos : 0 < factorLimit := by decide
    have hmin : min (t.failures + 1) factorLimit = 0 := h
    omega

/-- A file that has not changed is left alone. -/
theorem turn_eq_self (hzero : t.failures = 0) (hfresh : t.feed.isStale file = false)
    (s : Session) : (t.turn w file s).1 = t := by
  obtain ⟨-, -, heq⟩ | ⟨hlook | hlook, -⟩ := turn_cases w t file s
  · exact heq
  · exact absurd hzero hlook
  · rw [hfresh] at hlook
    cases hlook

/-- A turn has failed just when the file holds no artifact and was looked at. -/
theorem failures_turn_ne_zero_iff (hf : Watches l path t.feed) (s : Session) :
    (t.turn w file s).1.failures ≠ 0
      ↔ (t.failures ≠ 0 ∨ t.feed.isStale file = true) ∧
        ∃ e, Artifact.ofFile w path (file.map (·.content)) = .error e := by
  obtain ⟨hzero, hfresh, heq⟩ | ⟨hlook, ⟨outcome, hok, heq⟩ | ⟨e, herror, heq⟩⟩ :=
    turn_cases w t file s
  · rw [heq]
    refine iff_of_false (fun hne => hne hzero) ?_
    rintro ⟨hne | hstale, -⟩
    · exact hne hzero
    · rw [hfresh] at hstale
      cases hstale
  · rw [heq]
    refine iff_of_false (fun hne => hne rfl) ?_
    rintro ⟨-, e, he⟩
    rw [(fst_refresh_eq_error_iff hf).mpr he] at hok
    cases hok
  · rw [heq]
    refine iff_of_true ?_ ⟨hlook, e, (fst_refresh_eq_error_iff hf).mp herror⟩
    have hpos : 0 < factorLimit := by decide
    show min (t.failures + 1) factorLimit ≠ 0
    omega

/-! ## Turn after turn -/

/-- The watch has had these looks at its file, the last one first: turns of its
    own, and refreshes that others asked for. -/
inductive HasTurned (w : Wording) (t : Watch) : List FileLook → Watch → Prop where
  | began : HasTurned w t [] t
  | turned {looks : List FileLook} {t' : Watch} (file : FileLook) (s : Session) :
      HasTurned w t looks t' → HasTurned w t (file :: looks) (t'.turn w file s).1
  | refreshed {looks : List FileLook} {t' : Watch} (file : FileLook) (s : Session) :
      HasTurned w t looks t' →
      HasTurned w t (file :: looks) { t' with feed := (t'.feed.refresh w file s).1.2 }

/-- **ALL TURNS**: the feed has a history of those looks that were not passed over. -/
theorem HasTurned.exists_hasSeen (h : HasTurned w t looks t')
    (hseen : HasSeen w l path files t.feed) :
    ∃ seen, seen.Sublist looks ∧ HasSeen w l path (seen ++ files) t'.feed := by
  induction h with
  | began => exact ⟨[], List.Sublist.refl _, hseen⟩
  | turned file s _ ih =>
      obtain ⟨seen, hsub, hbefore⟩ := ih
      obtain heq | heq := feed_turn w _ file s
      · rw [heq]
        exact ⟨seen, hsub.cons file, hbefore⟩
      · rw [heq]
        exact ⟨file :: seen, hsub.cons_cons file, hbefore.refreshed file s⟩
  | refreshed file s _ ih =>
      obtain ⟨seen, hsub, hbefore⟩ := ih
      exact ⟨file :: seen, hsub.cons_cons file, hbefore.refreshed file s⟩

/-- What is served stays served, or something else takes its place. -/
theorem HasTurned.isSome_served (h : HasTurned w t looks t')
    (hseen : HasSeen w l path files t.feed) (hserved : t.feed.served.isSome = true) :
    t'.feed.served.isSome = true := by
  induction h with
  | began => exact hserved
  | @turned looks t' file s hbefore ih =>
      obtain ⟨seen, -, hhistory⟩ := hbefore.exists_hasSeen hseen
      obtain heq | heq := feed_turn w t' file s
      · rw [heq]
        exact ih
      · rw [heq]
        exact isSome_served_refresh hhistory.keeps.watches file s ih
  | @refreshed looks t' file s hbefore ih =>
      obtain ⟨seen, -, hhistory⟩ := hbefore.exists_hasSeen hseen
      exact isSome_served_refresh hhistory.keeps.watches file s ih

/-- **WHILE THE FILE IS BROKEN**, failures add up, and so do the waits. -/
theorem HasTurned.failures_le (h : HasTurned w t looks t')
    (hseen : HasSeen w l path files t.feed) (hlimit : t.failures ≤ factorLimit)
    (hbroken : ∀ file ∈ looks, ∃ e, Artifact.ofFile w path (file.map (·.content)) = .error e) :
    t.failures ≤ t'.failures ∧ t'.failures ≤ factorLimit := by
  induction h with
  | began => exact ⟨Nat.le_refl _, hlimit⟩
  | @turned looks t' file s hbefore ih =>
      obtain ⟨⟨e, he⟩, hothers⟩ := List.forall_mem_cons.mp hbroken
      obtain ⟨hle, hlimit'⟩ := ih hothers
      obtain ⟨seen, -, hhistory⟩ := hbefore.exists_hasSeen hseen
      obtain ⟨-, -, heq⟩ | ⟨-, ⟨outcome, hok, -⟩ | ⟨e', -, heq⟩⟩ := turn_cases w t' file s
      · rw [heq]
        exact ⟨hle, hlimit'⟩
      · -- what is broken cannot be loaded
        rw [(fst_refresh_eq_error_iff hhistory.keeps.watches).mpr he] at hok
        cases hok
      · rw [heq]
        show t.failures ≤ min (t'.failures + 1) factorLimit ∧
          min (t'.failures + 1) factorLimit ≤ factorLimit
        omega
  | refreshed file s _ ih => exact ih (List.forall_mem_cons.mp hbroken).2

/-- **A WATCHED FEED KEEPS UP**, whatever turns it has had and whoever refreshed it
    in between.

    It is a feed with a history, which serves something if it did at first.  A
    turn that does not fail leaves it up to date, and the same turn again leaves
    it alone.  A turn fails just when the file is looked at, since it has changed
    or the last turn failed, and holds no artifact; what is served is kept then,
    and after the wait, which has a limit, the next turn looks at the file even if
    it has not changed.  As long as the file holds no artifact whenever it is
    looked at, the waits do not get shorter. -/
theorem watched_feed_keeps_up (h : HasTurned w t looks t')
    (hseen : HasSeen w l path files t.feed) :
    (∃ seen, seen.Sublist looks ∧ HasSeen w l path (seen ++ files) t'.feed) ∧
    (t.feed.served.isSome = true → t'.feed.served.isSome = true) ∧
    (∀ file s, let next := (t'.turn w file s).1
      next.failures = 0 →
        next.feed.isStale file = false ∧ ∀ s', (next.turn w file s').1 = next) ∧
    (∀ file s, let next := (t'.turn w file s).1
      (next.failures ≠ 0
        ↔ (t'.failures ≠ 0 ∨ t'.feed.isStale file = true) ∧
          ∃ e, Artifact.ofFile w path (file.map (·.content)) = .error e) ∧
      (next.failures ≠ 0 → next.feed.served = t'.feed.served ∧
        (∀ p : RefreshPolicy, wait p next ≤ p.maxBackoff) ∧
        ∀ file' s', (next.turn w file' s').1.feed = (next.feed.refresh w file' s').1.2)) ∧
    (t.failures ≠ 0 → t.failures ≤ factorLimit →
      (∀ file ∈ looks, ∃ e, Artifact.ofFile w path (file.map (·.content)) = .error e) →
      ∀ p : RefreshPolicy, wait p t ≤ wait p t') := by
  obtain ⟨seen, hsub, hhistory⟩ := h.exists_hasSeen hseen
  have hf : Watches l path t'.feed := hhistory.keeps.watches
  refine ⟨⟨seen, hsub, hhistory⟩, h.isSome_served hseen, ?_, ?_, ?_⟩
  · intro file s next hzero
    have hfresh := isStale_turn hf hzero
    exact ⟨hfresh, turn_eq_self hzero hfresh⟩
  · intro file s next
    refine ⟨failures_turn_ne_zero_iff hf s, fun hne => ⟨?_, fun p => p.backoff_le hne, ?_⟩⟩
    · obtain ⟨-, -, heq⟩ | ⟨-, ⟨outcome, -, heq⟩ | ⟨e, herror, heq⟩⟩ := turn_cases w t' file s
      · exact congrArg (·.feed.served) heq
      · exact absurd (congrArg Watch.failures heq) hne
      · have hkept := congrArg Feed.served (snd_refresh_of_error hf herror)
        exact (congrArg (·.feed.served) heq).trans hkept
    · intro file' s'
      obtain ⟨hzero, -⟩ | ⟨-, ⟨outcome, -, heq⟩ | ⟨e, -, heq⟩⟩ := turn_cases w next file' s'
      · exact absurd hzero hne
      · exact congrArg Watch.feed heq
      · exact congrArg Watch.feed heq
  · intro hne hlimit hbroken p
    exact p.backoff_mono hne (h.failures_le hseen hlimit hbroken).1

end Watch

end Cohort
