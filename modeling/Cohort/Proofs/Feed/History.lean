import Mathlib.Logic.Relation
import Cohort.Proofs.Feed.Preparation

/-! # The history of a feed

    A feed looks at its file again and again, and finds it missing, broken, or
    holding some artifact.  Whatever it has found so far, it serves nothing but
    consistent parts of artifacts that it has read.  A look that fails changes
    what is served as little as one that finds the version that is served
    already, so a feed that serves something never stops to. -/

namespace Cohort.Feed

open InSession Consistency

variable {w : Wording} {l : Rule.Library} {path : String}

/-! ## One look at the file -/

/-- What a feed gets from its file: the tests of its artifact that can be served. -/
def reading (w : Wording) (l : Rule.Library) (path : String) (file : FileLook) :
    Except LoadError Artifact :=
  (Artifact.ofFile w path (file.map (·.content))).map (kept l path)

/-- A file that can be read is there and holds an artifact, whose version is that of
    the part that is served. -/
theorem exists_of_reading {file : FileLook} {b : Artifact}
    (h : reading w l path file = .ok b) :
    ∃ state a, file = .ok state ∧ Artifact.ofText w path state.content = .ok a ∧
      b = kept l path a ∧ b.version = a.version := by
  cases file with
  | error detail => exact nomatch h
  | ok state =>
      have h : (Artifact.ofText w path state.content).map (kept l path) = .ok b := h
      cases htext : Artifact.ofText w path state.content with
      | error e =>
          rw [htext] at h
          exact nomatch h
      | ok a =>
          rw [htext] at h
          obtain rfl : kept l path a = b := Except.ok.inj h
          exact ⟨state, a, rfl, htext, rfl, rfl⟩

/-- What a look leaves of a feed, and what it comes to, once the file is read. -/
def afterReading (f : Feed) (file : FileLook) :
    Except LoadError Artifact → Except LoadError RefreshOutcome × Feed
  | .error e => (.error e, { f with lastError := some e.message })
  | .ok b =>
      let seen := { f with lastModified := file.toOption.map (·.modified), lastError := none }
      if f.served.map (·.version) = some b.version then (.ok .unchanged, seen)
      else (.ok (.loaded b.version), { seen with served := some b })

/-- The feed watches the file and drops the tests that cannot be served. -/
structure Watches (l : Rule.Library) (path : String) (f : Feed) : Prop where
  path_eq : f.path = path
  prepare_eq : f.prepare = dropInvalid l

theorem fst_load {f : Feed} (hf : Watches l path f) (file : FileLook)
    (s : Session) : (f.load w file s).1 = reading w l path file := by
  rw [load, hf.path_eq, hf.prepare_eq, reading]
  cases Artifact.ofFile w path (file.map (·.content)) with
  | error e => rfl
  | ok a => exact congrArg Except.ok (fst_dropInvalidTests l path a s)

/-- A look at the file does not depend on the session. -/
theorem fst_refresh {f : Feed} (hf : Watches l path f) (file : FileLook)
    (s : Session) : (f.refresh w file s).1 = f.afterReading file (reading w l path file) := by
  rw [refresh, fst_bind, fst_load hf]
  cases reading w l path file with
  | error e => rfl
  | ok b =>
      simp only [afterReading, fst_bind, publish]
      split
      · rfl
      · rfl

/-- A look fails when the file holds no artifact, with the same error. -/
theorem fst_refresh_eq_error_iff {f : Feed} (hf : Watches l path f)
    {file : FileLook} {s : Session} {e : LoadError} :
    (f.refresh w file s).1.1 = .error e
      ↔ Artifact.ofFile w path (file.map (·.content)) = .error e := by
  rw [fst_refresh hf, reading]
  cases Artifact.ofFile w path (file.map (·.content)) with
  | error e' =>
      -- the same error, of a reading here and of a look there
      rw [Except.map, afterReading]
      constructor
      · intro h
        exact congrArg Except.error (Except.error.inj h)
      · intro h
        exact congrArg Except.error (Except.error.inj h)
  | ok a =>
      rw [Except.map, afterReading]
      constructor
      · intro h
        split at h
        · exact nomatch h
        · exact nomatch h
      · intro h
        exact nomatch h

/-- **A LOOK THAT FAILS** records its message, and changes nothing else. -/
theorem snd_refresh_of_error {f : Feed} (hf : Watches l path f) {file : FileLook}
    {s : Session} {e : LoadError} (h : (f.refresh w file s).1.1 = .error e) :
    (f.refresh w file s).1.2 = { f with lastError := some e.message } := by
  have herror := (fst_refresh_eq_error_iff hf).mp h
  rw [fst_refresh hf, reading, herror]
  rfl

/-- **A LOOK THAT SUCCEEDS** has found an artifact: either its version was served
    already and what is served stays, or what it holds is served from now on. -/
theorem refresh_of_ok {f : Feed} (hf : Watches l path f) {file : FileLook}
    {s : Session} {outcome : RefreshOutcome} (h : (f.refresh w file s).1.1 = .ok outcome) :
    ∃ state a, file = .ok state ∧ Artifact.ofText w path state.content = .ok a ∧
      ((f.served.map (·.version) = some a.version ∧ outcome = .unchanged ∧
          (f.refresh w file s).1.2
            = { f with lastModified := some state.modified, lastError := none }) ∨
        (f.served.map (·.version) ≠ some a.version ∧ outcome = .loaded a.version ∧
          (f.refresh w file s).1.2
            = { f with lastModified := some state.modified, lastError := none,
                       served := some (kept l path a) })) := by
  rw [fst_refresh hf] at h ⊢
  cases hread : reading w l path file with
  | error e =>
      rw [hread] at h
      exact nomatch h
  | ok b =>
      obtain ⟨state, a, rfl, htext, rfl, hversion⟩ := exists_of_reading hread
      refine ⟨state, a, rfl, htext, ?_⟩
      rw [hread, afterReading, hversion] at h
      rw [afterReading, hversion]
      by_cases hserved : f.served.map (·.version) = some a.version
      · rw [if_pos hserved] at h
        rw [if_pos hserved]
        exact Or.inl ⟨hserved, (Except.ok.inj h).symm, rfl⟩
      · rw [if_neg hserved] at h
        rw [if_neg hserved]
        exact Or.inr ⟨hserved, (Except.ok.inj h).symm, rfl⟩

/-! ## Histories -/

/-- A feed was started or spawned, and has looked at its file in these states, the
    last one first.  Each look may find another session. -/
inductive HasSeen (w : Wording) (l : Rule.Library) (path : String) :
    List FileLook → Feed → Prop where
  | started {file : FileLook} {f : Feed} {s : Session} :
      (start w l path file s).1 = .ok f → HasSeen w l path [file] f
  | spawned (file : FileLook) (s : Session) :
      HasSeen w l path [file] (spawn w l path file s).1
  | refreshed {files : List FileLook} {f : Feed} (file : FileLook)
      (s : Session) : HasSeen w l path files f →
      HasSeen w l path (file :: files) (f.refresh w file s).1.2

/-- One more look at the file leads from one feed to the other. -/
def Refreshes (w : Wording) (f f' : Feed) : Prop :=
  ∃ file s, f' = (f.refresh w file s).1.2

/-- What holds of a feed with a history: it watches its file the usual way, and
    what it serves was read from one of the states it has seen. -/
structure Keeps (w : Wording) (l : Rule.Library) (path : String) (files : List FileLook)
    (f : Feed) : Prop where
  watches : Watches l path f
  served_read : ∀ b, f.served = some b → ∃ file ∈ files, reading w l path file = .ok b

/-- **ONE LOOK**: what is served afterwards was served before, or was read from the
    file just now. -/
theorem Keeps.refresh {files : List FileLook} {f : Feed}
    (h : Keeps w l path files f) (file : FileLook) (s : Session) :
    Keeps w l path (file :: files) (f.refresh w file s).1.2 := by
  rw [fst_refresh h.watches]
  have hold : ∀ b, f.served = some b → ∃ state ∈ file :: files, reading w l path state = .ok b := by
    intro b hb
    obtain ⟨state, hstate, hread⟩ := h.served_read b hb
    exact ⟨state, List.mem_cons_of_mem _ hstate, hread⟩
  cases hread : reading w l path file with
  | error e => exact ⟨⟨h.watches.path_eq, h.watches.prepare_eq⟩, hold⟩
  | ok b =>
      rw [afterReading]
      split
      · exact ⟨⟨h.watches.path_eq, h.watches.prepare_eq⟩, hold⟩
      · refine ⟨⟨h.watches.path_eq, h.watches.prepare_eq⟩, ?_⟩
        rintro _ ⟨⟩
        exact ⟨file, List.mem_cons_self, hread⟩

theorem keeps_new (w : Wording) (l : Rule.Library) (path : String) :
    Keeps w l path [] (new path (dropInvalid l)) :=
  ⟨⟨rfl, rfl⟩, fun _ hb => nomatch hb⟩

/-- **ALL LOOKS**: this holds of every feed with a history. -/
theorem HasSeen.keeps {files : List FileLook} {f : Feed}
    (h : HasSeen w l path files f) : Keeps w l path files f := by
  induction h with
  | @started file f s hstart =>
      -- a start that succeeds leaves what the first look leaves
      have hfirst : ((new path (dropInvalid l)).refresh w file s).1.2 = f := by
        have hmap : (((new path (dropInvalid l)).refresh w file s).1.1.map fun _ =>
            ((new path (dropInvalid l)).refresh w file s).1.2) = .ok f := hstart
        cases hlook : ((new path (dropInvalid l)).refresh w file s).1.1 with
        | error e =>
            rw [hlook] at hmap
            exact nomatch hmap
        | ok outcome =>
            rw [hlook] at hmap
            exact Except.ok.inj hmap
      exact hfirst ▸ (keeps_new w l path).refresh file s
  | spawned file s =>
      have hspawn : (spawn w l path file s).1
          = ((new path (dropInvalid l)).refresh w file s).1.2 := by
        rw [spawn, fst_bind]
        obtain ⟨outcome, g⟩ := ((new path (dropInvalid l)).refresh w file s).1
        cases outcome with
        | error e => rfl
        | ok outcome => rfl
      rw [hspawn]
      exact (keeps_new w l path).refresh file s
  | refreshed file s _ ih => exact ih.refresh file s

/-! ## What is served -/

/-- What is served stays served, or something else takes its place. -/
theorem isSome_served_refresh {f : Feed} (hf : Watches l path f) (file : FileLook)
    (s : Session) (h : f.served.isSome = true) :
    (f.refresh w file s).1.2.served.isSome = true := by
  rw [fst_refresh hf]
  cases reading w l path file with
  | error e => exact h
  | ok b =>
      rw [afterReading]
      split
      · exact h
      · rfl

/-- **ONCE SERVED, EVER SERVED**: whatever a feed finds later. -/
theorem isSome_served_of_refreshes {files : List FileLook} {f f' : Feed}
    (hf : Keeps w l path files f) (h : f.served.isSome = true)
    (hlater : Relation.ReflTransGen (Refreshes w) f f') : f'.served.isSome = true := by
  have hboth : (∃ files, Keeps w l path files f') ∧ f'.served.isSome = true := by
    induction hlater with
    | refl => exact ⟨⟨files, hf⟩, h⟩
    | tail _ hlook ih =>
        obtain ⟨⟨seen, hkeeps⟩, hserved⟩ := ih
        obtain ⟨file, s, rfl⟩ := hlook
        exact ⟨⟨file :: seen, hkeeps.refresh file s⟩,
          isSome_served_refresh hkeeps.watches file s hserved⟩
  exact hboth.2

/-- **A FEED KEEPS A GOOD ARTIFACT**, whatever its history.

    A look that fails leaves what is served and the time of the last change
    that was read, and its message is recorded.  A look succeeds when the file
    holds an artifact.  It clears the error and leaves the version of the file
    served: if that version was served already, the very same artifact goes on
    being served, and otherwise the one just read without the tests that cannot
    be served.  What is served was always read in this way from a state the file
    was in, and nothing is wrong with it.  And a feed that serves something
    serves something ever after. -/
theorem feed_keeps_good {files : List FileLook} {f : Feed}
    (h : HasSeen w l path files f) :
    (∀ file s e, (f.refresh w file s).1.1 = .error e →
      let f' := (f.refresh w file s).1.2
      f'.served = f.served ∧ f'.lastModified = f.lastModified ∧
        f'.lastError = some e.message) ∧
    (∀ file s outcome, (f.refresh w file s).1.1 = .ok outcome →
      let f' := (f.refresh w file s).1.2
      f'.lastError = none ∧
      ∃ state a, file = .ok state ∧ Artifact.ofText w path state.content = .ok a ∧
        f'.lastModified = some state.modified ∧
        f'.served.map (·.version) = some a.version ∧
        (outcome = .unchanged ↔ f.served.map (·.version) = some a.version) ∧
        (outcome = .unchanged → f'.served = f.served) ∧
        (outcome ≠ .unchanged → outcome = .loaded a.version ∧
          ∀ s', f'.served = some (dropInvalidTests l path a s').1)) ∧
    (∀ file s e, (f.refresh w file s).1.1 = .error e
      ↔ Artifact.ofFile w path (file.map (·.content)) = .error e) ∧
    (∀ b, f.served = some b →
      (∃ state a, .ok state ∈ files ∧ Artifact.ofText w path state.content = .ok a ∧
        ∀ s, b = (dropInvalidTests l path a s).1) ∧
      ∀ source s, (verifyAll l Provided.syntaxOnly source b s).1 = NameMap.empty) ∧
    (f.served.isSome = true →
      ∀ f', Relation.ReflTransGen (Refreshes w) f f' → f'.served.isSome = true) := by
  have hkeeps := h.keeps
  refine ⟨?_, ?_, ?_, ?_, ?_⟩
  · intro file s e he
    rw [snd_refresh_of_error hkeeps.watches he]
    exact ⟨rfl, rfl, rfl⟩
  · intro file s outcome ho
    obtain ⟨state, a, rfl, htext, hcase⟩ := refresh_of_ok hkeeps.watches ho
    rcases hcase with ⟨hserved, rfl, hafter⟩ | ⟨hserved, rfl, hafter⟩
    · rw [hafter]
      exact ⟨rfl, state, a, rfl, htext, rfl, hserved, iff_of_true rfl hserved,
        fun _ => rfl, fun hne => absurd rfl hne⟩
    · rw [hafter]
      exact ⟨rfl, state, a, rfl, htext, rfl, rfl, iff_of_false nofun hserved,
        nofun, fun _ => ⟨rfl, fun s' => by rw [fst_dropInvalidTests]⟩⟩
  · intro file s e
    exact fst_refresh_eq_error_iff hkeeps.watches
  · intro b hb
    obtain ⟨file, hfile, hread⟩ := hkeeps.served_read b hb
    obtain ⟨state, a, rfl, htext, rfl, -⟩ := exists_of_reading hread
    refine ⟨⟨state, a, hfile, htext, ?_⟩, ?_⟩
    · intro s
      exact (fst_dropInvalidTests l path a s).symm
    · intro source s
      rw [steady_verifyAll l Provided.syntaxOnly source _ s, verifyAll_kept]
  · intro hserved f' hlater
    exact isSome_served_of_refreshes hkeeps hserved hlater

/-- An artifact of one test, which has no buckets. -/
def hollowText : String :=
  "\x7b\"audit\": \x7b\"version\": \"7\"\x7d, \"tests\": \x7b\"hollow\": " ++
    "\x7b\"testType\": \"USER\", \"salt\": \"h\", \"buckets\": [], \"allocations\": []\x7d\x7d\x7d"

/-- A feed whose file was missing at first and holds the hollow test now. -/
def hollowFeed : Feed :=
  ((spawn .plain Resolver.plainLibrary "feed" (.error "no such file") Session.fresh).1.refresh
    .plain (.ok ⟨hollowText, 10⟩) Session.fresh).1.2

/-- The hollow test is not served, and the version it came with is served on when
    the file breaks. -/
theorem hollow_version_outlives_file :
    HasSeen .plain Resolver.plainLibrary "feed" [.ok ⟨hollowText, 10⟩, .error "no such file"]
      hollowFeed ∧
    (hollowFeed.refresh .plain (.ok ⟨"?", 20⟩) Session.fresh).1.1
      = .error (.notJson (Wording.plain.notJson "?")) ∧
    (hollowFeed.refresh .plain (.ok ⟨"?", 20⟩) Session.fresh).1.2.served = hollowFeed.served ∧
    hollowFeed.served.map (·.tests.names) = some [] := by
  have hseen : HasSeen .plain Resolver.plainLibrary "feed"
      [.ok ⟨hollowText, 10⟩, .error "no such file"] hollowFeed :=
    .refreshed _ _ (.spawned _ _)
  have hbroken : (hollowFeed.refresh .plain (.ok ⟨"?", 20⟩) Session.fresh).1.1
      = .error (.notJson (Wording.plain.notJson "?")) := by decide +kernel
  obtain ⟨hfails, -⟩ := feed_keeps_good hseen
  exact ⟨hseen, hbroken, (hfails _ _ _ hbroken).1, by decide +kernel⟩

end Cohort.Feed
