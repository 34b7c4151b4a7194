import Cohort.Proofs.Json.Hereditary
import Cohort.Proofs.Json.Written
import Cohort.Yaml

/-! # Documents in order

    A document that was read has the members of its objects in the order of
    their names, each name once.  Whatever reads it, and whatever is read from
    it, what is written of it is in order, too, and so it comes back unchanged
    when its text is read. -/

namespace Cohort

namespace Json

mutual

/-- The members of every object are in the order of their names, each name once. -/
def IsOrdered : Json → Prop
  | .array items => AreOrdered items
  | .object members => Increasing Prod.fst members ∧ HaveOrdered members
  | _ => True

/-- The same of every item. -/
def AreOrdered : List Json → Prop
  | [] => True
  | v :: rest => v.IsOrdered ∧ AreOrdered rest

/-- The same of every member. -/
def HaveOrdered : List (String × Json) → Prop
  | [] => True
  | (_, v) :: rest => v.IsOrdered ∧ HaveOrdered rest

end

theorem areOrdered_iff {items : List Json} : AreOrdered items ↔ ∀ v ∈ items, v.IsOrdered := by
  induction items with
  | nil => exact ⟨fun _ => nofun, fun _ => trivial⟩
  | cons v rest ih => rw [AreOrdered, ih, List.forall_mem_cons]

theorem haveOrdered_iff {members : List (String × Json)} :
    HaveOrdered members ↔ ∀ m ∈ members, m.2.IsOrdered := by
  induction members with
  | nil => exact ⟨fun _ => nofun, fun _ => trivial⟩
  | cons m rest ih => rw [HaveOrdered, ih, List.forall_mem_cons]

/-- An object of a map is in order when the values of the map are. -/
theorem isOrdered_ofMap {m : NameMap Json} (h : ∀ name v, m.get? name = some v → v.IsOrdered) :
    (ofMap m).IsOrdered :=
  ⟨m.increasing, haveOrdered_iff.mpr fun e he => h e.1 e.2 (NameMap.get?_eq_some_iff.mpr he)⟩

theorem isOrdered_ofMembers {members : List (String × Json)}
    (h : ∀ m ∈ members, m.2.IsOrdered) : (ofMembers members).IsOrdered := by
  rw [ofMembers_eq]
  exact isOrdered_ofMap fun name v hv => h (name, v) (NameMap.mem_of_get?_ofList hv)

/-! ## Nothing is moved -/

/-- Members in order are those of a map. -/
theorem ofMembers_of_increasing {members : List (String × Json)}
    (h : Increasing Prod.fst members) : ofMembers members = .object members := by
  rw [ofMembers_eq]
  exact congrArg ofMap (NameMap.ofList_entries ⟨members, h⟩)

mutual

/-- A document in order is its own normal form. -/
theorem normal_of_isOrdered : ∀ {v : Json}, v.IsOrdered → v.normal = v
  | .null, _ => rfl
  | .bool _, _ => rfl
  | .number _, _ => rfl
  | .string _, _ => rfl
  | .array _, h => congrArg Json.array (normalItems_of_areOrdered h)
  | .object members, h => by
      rw [normal, normalMembers_of_haveOrdered h.2, ofMembers_of_increasing h.1]

theorem normalItems_of_areOrdered : ∀ {items : List Json}, AreOrdered items →
    normalItems items = items
  | [], _ => rfl
  | _ :: _, h => congrArg₂ List.cons (normal_of_isOrdered h.1) (normalItems_of_areOrdered h.2)

theorem normalMembers_of_haveOrdered : ∀ {members : List (String × Json)}, HaveOrdered members →
    normalMembers members = members
  | [], _ => rfl
  | (k, _) :: _, h => congrArg₂ List.cons (congrArg (Prod.mk k) (normal_of_isOrdered h.1))
      (normalMembers_of_haveOrdered h.2)

end

/-! ## Order is handed on -/

theorem map_fst_toMembers_ofMembers (members : List (String × Json)) :
    (Value.toMembers (Value.ofMembers members)).map Prod.fst = members.map Prod.fst := by
  induction members with
  | nil => rfl
  | cons m rest ih => exact congrArg (m.1 :: ·) ih

/-- Only the names matter for the order of entries. -/
theorem increasing_iff_of_names {α β : Type} {xs : List (String × α)} {ys : List (String × β)}
    (h : xs.map Prod.fst = ys.map Prod.fst) :
    Increasing Prod.fst xs ↔ Increasing Prod.fst ys := by
  rw [Increasing, Increasing, ← List.pairwise_map (f := Prod.fst), h, List.pairwise_map]

mutual

/-- A value is written in the order in which it was read. -/
theorem isOrdered_value : ∀ {v : Json}, v.IsOrdered → (Value.ofJson v).toJson.IsOrdered
  | .null, _ => trivial
  | .bool _, _ => trivial
  | .number n, _ => by
      rw [Value.ofJson]
      unfold Value.ofNumber
      split
      · split
        · trivial
        · rw [Value.toJson]
          split <;> trivial
      · rw [Value.toJson]
        split <;> trivial
  | .string _, _ => trivial
  | .array _, h => areOrdered_value h
  | .object members, h =>
      ⟨(increasing_iff_of_names (map_fst_toMembers_ofMembers members)).mpr h.1,
        haveOrdered_value h.2⟩

theorem areOrdered_value : ∀ {items : List Json}, AreOrdered items →
    AreOrdered (Value.toItems (Value.ofItems items))
  | [], _ => trivial
  | _ :: _, h => ⟨isOrdered_value h.1, areOrdered_value h.2⟩

theorem haveOrdered_value : ∀ {members : List (String × Json)}, HaveOrdered members →
    HaveOrdered (Value.toMembers (Value.ofMembers members))
  | [], _ => trivial
  | (_, _) :: _, h => ⟨isOrdered_value h.1, haveOrdered_value h.2⟩

end

/-- Whatever is read from a document in order is written as one. -/
theorem hereditary_isOrdered : Hereditary IsOrdered where
  bool _ := trivial
  string _ := trivial
  int64 _ := trivial
  float _ _ := trivial
  array := areOrdered_iff
  member h hmem := haveOrdered_iff.mp h.2 _ hmem
  ofMap := isOrdered_ofMap
  value := isOrdered_value

/-! ## What is read is in order -/

/-- A lexeme that is a value by itself is in order. -/
def Lexeme.IsOrdered : Lexeme → Prop
  | .scalar v => v.IsOrdered
  | _ => True

theorem isOrdered_of_word? {cs : List Char} {v : Json} (h : word? cs = some v) :
    v.IsOrdered := by
  rw [word?] at h
  split_ifs at h
  · cases h
    trivial
  · cases h
    trivial
  · cases h
    trivial
  · obtain ⟨n, -, rfl⟩ := Option.map_eq_some_iff.mp h
    trivial

theorem Lexeme.isOrdered_of_punctuation? {c : Char} {l : Lexeme} (h : punctuation? c = some l) :
    l.IsOrdered := by
  rw [punctuation?] at h
  split_ifs at h
  all_goals
    cases h
    trivial

theorem Lexeme.isOrdered_of_mem_stepBetween {c : Char} {l : Lexeme}
    (h : l ∈ (stepBetween c).2) : l.IsOrdered := by
  rw [stepBetween] at h
  split_ifs at h
  · cases h
  · cases h
  · cases hsign : punctuation? c with
    | none =>
        rw [hsign] at h
        cases h
    | some l' =>
        rw [hsign] at h
        exact List.mem_singleton.mp h ▸ isOrdered_of_punctuation? hsign

/-- **ONE CHARACTER** completes lexemes in order. -/
theorem Mode.isOrdered_of_step {m m' : Mode} {c : Char} {ls : List Lexeme}
    (h : m.step c = some (m', ls)) : ∀ l ∈ ls, l.IsOrdered := by
  have hnone : ∀ l ∈ ([] : List Lexeme), l.IsOrdered := fun _ => nofun
  cases m with
  | between =>
      obtain ⟨-, rfl⟩ := Prod.mk.inj (Option.some.inj h)
      exact fun l => Lexeme.isOrdered_of_mem_stepBetween
  | word read =>
      rw [step] at h
      split_ifs at h
      · obtain ⟨v, hv, heq⟩ := Option.map_eq_some_iff.mp h
        obtain ⟨-, rfl⟩ := Prod.mk.inj heq
        exact List.forall_mem_cons.mpr
          ⟨isOrdered_of_word? hv, fun l => Lexeme.isOrdered_of_mem_stepBetween⟩
      · cases h
        exact hnone
  | text read =>
      rw [step] at h
      split_ifs at h
      · cases h
        exact List.forall_mem_singleton.mpr trivial
      · cases h
        exact hnone
      · cases h
        exact hnone
  | escape read =>
      rw [step] at h
      split_ifs at h
      · cases h
        exact hnone
      · obtain ⟨e, -, heq⟩ := Option.map_eq_some_iff.mp h
        cases heq
        exact hnone
  | code read left value high =>
      obtain ⟨d, -, h⟩ := Option.bind_eq_some_iff.mp h
      split_ifs at h
      · obtain ⟨next, -, heq⟩ := Option.map_eq_some_iff.mp h
        cases heq
        exact hnone
      · cases h
        exact hnone
  | pair read high =>
      rw [step] at h
      split_ifs at h
      cases h
      exact hnone
  | pairEscape read high =>
      rw [step] at h
      split_ifs at h
      cases h
      exact hnone

theorem Mode.isOrdered_of_finish {m : Mode} {ls : List Lexeme} (h : m.finish = some ls) :
    ∀ l ∈ ls, l.IsOrdered := by
  cases m with
  | between =>
      cases h
      exact fun _ => nofun
  | word read =>
      obtain ⟨v, hv, rfl⟩ := Option.map_eq_some_iff.mp h
      exact List.forall_mem_singleton.mpr (isOrdered_of_word? hv)
  | _ => cases h

/-- **ALL CHARACTERS**: the lexemes of a text are in order. -/
theorem isOrdered_of_lexemes {cs : List Char} {found ls : List Lexeme} {m : Mode}
    (hfound : ∀ l ∈ found, l.IsOrdered) (h : lexemes found m cs = some ls) :
    ∀ l ∈ ls, l.IsOrdered := by
  induction cs generalizing found m with
  | nil =>
      obtain ⟨last, hlast, rfl⟩ := Option.map_eq_some_iff.mp h
      intro l hl
      rw [List.mem_reverse, List.mem_append, List.mem_reverse] at hl
      exact hl.elim (Mode.isOrdered_of_finish hlast l) (hfound l)
  | cons c cs ih =>
      rw [lexemes] at h
      cases hstep : m.step c with
      | none =>
          rw [hstep] at h
          cases h
      | some result =>
          rw [hstep] at h
          refine ih ?_ h
          intro l hl
          rw [List.mem_append, List.mem_reverse] at hl
          exact hl.elim (Mode.isOrdered_of_step hstep l) (hfound l)

/-- What an open array or object holds is in order. -/
def Frame.HoldsOrdered : Frame → Prop
  | .array items => AreOrdered items
  | .object members _ => HaveOrdered members

/-- The same of what is awaited in one. -/
def Awaited.HoldsOrdered : Awaited → Prop
  | .name members => HaveOrdered members
  | .colon members _ => HaveOrdered members
  | .moreItems items => AreOrdered items
  | .moreMembers members => HaveOrdered members
  | .nothing v => v.IsOrdered
  | _ => True

namespace Assembly

/-- Whatever was put together so far is in order. -/
structure HoldsOrdered (a : Assembly) : Prop where
  awaited : a.awaited.HoldsOrdered
  stack : ∀ f ∈ a.stack, f.HoldsOrdered

variable {a b : Assembly} {v : Json} {l : Lexeme} {stack : List Frame} {depth : Nat}

theorem holdsOrdered_put (hv : v.IsOrdered) (hstack : ∀ f ∈ stack, f.HoldsOrdered) :
    (put v stack depth).HoldsOrdered := by
  cases stack with
  | nil => exact ⟨hv, fun _ => nofun⟩
  | cons f stack =>
      obtain ⟨hf, hrest⟩ := List.forall_mem_cons.mp hstack
      cases f with
      | array items => exact ⟨⟨hv, hf⟩, hrest⟩
      | object members name => exact ⟨⟨hv, hf⟩, hrest⟩

theorem holdsOrdered_of_start (depth : Nat) (hl : l.IsOrdered)
    (hstack : ∀ f ∈ stack, f.HoldsOrdered) (h : start stack depth l = some b) :
    b.HoldsOrdered := by
  cases l with
  | openArray =>
      obtain ⟨-, ⟨⟩⟩ := Option.ite_none_right_eq_some.mp h
      exact ⟨trivial, hstack⟩
  | openObject =>
      obtain ⟨-, ⟨⟩⟩ := Option.ite_none_right_eq_some.mp h
      exact ⟨trivial, hstack⟩
  | text s =>
      cases h
      exact holdsOrdered_put trivial hstack
  | scalar v =>
      cases h
      exact holdsOrdered_put hl hstack
  | _ => cases h

/-- **ONE LEXEME** keeps everything in order. -/
theorem HoldsOrdered.step (ha : a.HoldsOrdered) (hl : l.IsOrdered) (h : a.step l = some b) :
    b.HoldsOrdered := by
  obtain ⟨awaited, stack, depth⟩ := a
  obtain ⟨hawaited, hstack⟩ := ha
  -- names are put in order only where an object is closed; before that nothing is asked of them
  cases awaited with
  | value => exact holdsOrdered_of_start depth hl hstack h
  | firstItem =>
      have hopen : ∀ f ∈ Frame.array [] :: stack, f.HoldsOrdered :=
        List.forall_mem_cons.mpr ⟨trivial, hstack⟩
      cases l with
      | closeArray =>
          cases h
          exact holdsOrdered_put trivial hstack
      | _ => exact holdsOrdered_of_start depth hl hopen h
  | firstName =>
      cases l with
      | closeObject =>
          cases h
          exact holdsOrdered_put ⟨List.Pairwise.nil, trivial⟩ hstack
      | text s =>
          cases h
          exact ⟨trivial, hstack⟩
      | _ => cases h
  | name members =>
      cases l with
      | text s =>
          cases h
          exact ⟨hawaited, hstack⟩
      | _ => cases h
  | colon members name =>
      cases l with
      | colon =>
          cases h
          exact ⟨trivial, List.forall_mem_cons.mpr ⟨hawaited, hstack⟩⟩
      | _ => cases h
  | moreItems items =>
      cases l with
      | comma =>
          cases h
          exact ⟨trivial, List.forall_mem_cons.mpr ⟨hawaited, hstack⟩⟩
      | closeArray =>
          cases h
          refine holdsOrdered_put (areOrdered_iff.mpr fun v hv => ?_) hstack
          exact areOrdered_iff.mp hawaited v (List.mem_reverse.mp hv)
      | _ => cases h
  | moreMembers members =>
      cases l with
      | comma =>
          cases h
          exact ⟨hawaited, hstack⟩
      | closeObject =>
          cases h
          refine holdsOrdered_put (isOrdered_ofMembers fun m hm => ?_) hstack
          exact haveOrdered_iff.mp hawaited m (List.mem_reverse.mp hm)
      | _ => cases h
  | nothing v => cases l <;> cases h

/-- **ALL LEXEMES**: what they make up is in order. -/
theorem HoldsOrdered.run {ls : List Lexeme} (ha : a.HoldsOrdered) (hls : ∀ l ∈ ls, l.IsOrdered)
    (h : a.run ls = some v) : v.IsOrdered := by
  induction ls generalizing a with
  | nil =>
      obtain ⟨awaited, stack, depth⟩ := a
      cases awaited with
      | nothing document =>
          cases h
          exact ha.awaited
      | _ => cases h
  | cons l ls ih =>
      obtain ⟨hl, hls⟩ := List.forall_mem_cons.mp hls
      rw [Assembly.run] at h
      cases hstep : a.step l with
      | none =>
          rw [hstep] at h
          cases h
      | some b =>
          rw [hstep] at h
          exact ih (ha.step hl hstep) hls h

end Assembly

/-- A document that was read from a text is in order. -/
theorem isOrdered_of_parse? {text : String} {v : Json} (h : parse? text = some v) :
    v.IsOrdered := by
  obtain ⟨ls, hls, hrun⟩ := Option.bind_eq_some_iff.mp h
  have hstart : Assembly.HoldsOrdered ⟨.value, [], 0⟩ := ⟨trivial, fun _ => nofun⟩
  have hfound : ∀ l ∈ ([] : List Lexeme), l.IsOrdered := fun _ => nofun
  exact hstart.run (isOrdered_of_lexemes hfound hls) hrun

end Json

namespace Yaml

open Json

theorem isOrdered_numberJson (n : JsonNumber) : (numberJson n).IsOrdered := by
  cases n with
  | whole n => trivial
  | float x =>
      rw [numberJson]
      split <;> trivial

mutual

/-- A document that is written in YAML is in order. -/
theorem isOrdered_of_toJson? : ∀ (y : Yaml) {v : Json}, y.toJson? = some v → v.IsOrdered
  | .null, _, h => by
      cases h
      trivial
  | .bool _, _, h => by
      cases h
      trivial
  | .number n, _, h => by
      cases h
      exact isOrdered_numberJson n
  | .string _, _, h => by
      cases h
      trivial
  | .sequence ys, _, h => by
      obtain ⟨items, hitems, rfl⟩ := Option.map_eq_some_iff.mp h
      exact areOrdered_of_toItems? ys hitems
  | .mapping entries, _, h => by
      obtain ⟨members, hmembers, rfl⟩ := Option.map_eq_some_iff.mp h
      exact isOrdered_ofMembers (haveOrdered_iff.mp (haveOrdered_of_toMembers? entries hmembers))
  | .tagged _ y, _, h => by
      obtain ⟨v, hv, rfl⟩ := Option.map_eq_some_iff.mp h
      exact ⟨List.pairwise_singleton _ _, isOrdered_of_toJson? y hv, trivial⟩

theorem areOrdered_of_toItems? : ∀ (ys : List Yaml) {items : List Json},
    toItems? ys = some items → AreOrdered items
  | [], _, h => by
      cases h
      trivial
  | y :: rest, _, h => by
      rw [toItems?] at h
      cases hy : y.toJson? with
      | none =>
          rw [hy] at h
          cases h
      | some v =>
          rw [hy] at h
          obtain ⟨items, hitems, rfl⟩ := Option.map_eq_some_iff.mp h
          exact ⟨isOrdered_of_toJson? y hy, areOrdered_of_toItems? rest hitems⟩

theorem haveOrdered_of_toMembers? : ∀ (entries : List (Yaml × Yaml))
    {members : List (String × Json)}, toMembers? entries = some members → HaveOrdered members
  | [], _, h => by
      cases h
      trivial
  | (k, y) :: rest, _, h => by
      rw [toMembers?] at h
      cases hk : keyText? k with
      | none =>
          rw [hk] at h
          cases h
      | some name =>
          cases hy : y.toJson? with
          | none =>
              rw [hk, hy] at h
              cases h
          | some v =>
              rw [hk, hy] at h
              obtain ⟨members, hmembers, rfl⟩ := Option.map_eq_some_iff.mp h
              exact ⟨isOrdered_of_toJson? y hy, haveOrdered_of_toMembers? rest hmembers⟩

end

end Yaml

end Cohort
