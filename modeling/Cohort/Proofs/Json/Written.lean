import Mathlib.Data.List.Forall2
import Mathlib.Data.List.TakeWhile
import Cohort.Proofs.Json.Lexing
import Cohort.Proofs.Json.Proper

/-! # What is written is read

    A document that is written over several lines is read as the same document:
    its text has the lexemes of its parts in order, and from these the machine
    that keeps the open arrays and objects puts the parts together again.  Two
    things may stand in the way.  A floating-point number may be read as another
    one than it was written for, and arrays and objects may stand in too many
    others.  The members of an object come back in order, however they were
    written. -/

namespace Cohort

namespace Json

open Decimal

/-! ## Whole numbers -/

/-- Digits of a number that stays below the limit are all taken. -/
theorem takeDigits_of_lt {n : Nat} {cs : List Char} (h : naturalFrom n cs < digitLimit) :
    takeDigits n cs = (naturalFrom n cs, []) := by
  induction cs generalizing n with
  | nil => rfl
  | cons c cs ih =>
      have hnext : 10 * n + digitValue c < digitLimit :=
        Nat.lt_of_le_of_lt (le_naturalFrom _ cs) h
      rw [takeDigits, if_pos hnext]
      exact ih h

theorem isWholePart_toDigits (n : Nat) : isWholePart (Nat.toDigits 10 n) = true := by
  obtain rfl | hpos := Nat.eq_zero_or_pos n
  · rfl
  · have hne := head?_toDigits_ne_zero hpos
    obtain ⟨c, cs, hcons⟩ := List.exists_cons_of_ne_nil (Nat.toDigits_ne_nil (n := n) (b := 10))
    rw [hcons] at hne ⊢
    unfold isWholePart
    split
    case h_1 heq => cases heq
    case h_2 => rfl
    case h_3 heq =>
      cases heq
      exact bne_iff_ne.mpr fun hc => hne (congrArg some hc)

/-- Digits are read as a whole number, as long as it has at most sixty-four bits. -/
theorem unsignedNumber?_toDigits (negative : Bool) {n : Nat} (hn : n < digitLimit) :
    unsignedNumber? negative (Nat.toDigits 10 n) =
      if !negative then some (.whole n)
      else if n = 0 then some (.float (-0.0))
      else if n ≤ Nat.pow 2 63 then some (.whole (-(n : Int)))
      else some (.float (-(Float.ofNat n))) := by
  have hall : ∀ c ∈ Nat.toDigits 10 n, isDigit c = true := fun _ => isDigit_of_mem_toDigits
  have htake : (Nat.toDigits 10 n).takeWhile isDigit = Nat.toDigits 10 n :=
    List.takeWhile_eq_self_iff.mpr hall
  have hdrop : (Nat.toDigits 10 n).dropWhile isDigit = [] := List.dropWhile_eq_nil_iff.mpr hall
  have hdigits : takeDigits 0 (Nat.toDigits 10 n) = (n, []) := by
    have hnatural : naturalFrom 0 (Nat.toDigits 10 n) = n := natural_toDigits n
    rw [takeDigits_of_lt (hnatural.trans_lt hn), hnatural]
  simp [unsignedNumber?, htake, hdrop, hdigits, isWholePart_toDigits]

/-- Without a minus sign in front a number is read as it is. -/
theorem number?_toDigits (n : Nat) :
    number? (Nat.toDigits 10 n) = unsignedNumber? false (Nat.toDigits 10 n) := by
  unfold number?
  split
  case h_1 cs hcons =>
    have hdigit : isDigit '-' = true :=
      isDigit_of_mem_toDigits (hcons ▸ List.mem_cons_self : '-' ∈ Nat.toDigits 10 n)
    cases hdigit
  case h_2 => rfl

/-- **WHOLE NUMBERS** of sixty-four bits are read from their own texts. -/
theorem number?_toString {n : Int} (h : (JsonNumber.whole n).isProper = true) :
    number? (toString n).toList = some (.whole n) := by
  rw [JsonNumber.isProper, Bool.and_eq_true, decide_eq_true_eq, decide_eq_true_eq] at h
  by_cases hn : 0 ≤ n
  · have hlt : n.toNat < digitLimit := (Int.toNat_lt hn).mpr h.2
    rw [toList_toString_of_nonneg hn, number?_toDigits, unsignedNumber?_toDigits false hlt,
      Int.toNat_of_nonneg hn]
    rfl
  · have hneg : n < 0 := Int.not_le.mp hn
    have hlimit : digitLimit = 2 * Nat.pow 2 63 := rfl
    have hle : (-n).toNat ≤ Nat.pow 2 63 := Int.toNat_le.mpr (Int.neg_le_of_neg_le h.1)
    have hlt : (-n).toNat < digitLimit := by
      have hpos : 0 < Nat.pow 2 63 := by decide
      omega
    have hread := unsignedNumber?_toDigits true hlt
    rw [if_neg (by decide), if_neg (by omega), if_pos hle,
      Int.toNat_of_nonneg (by omega), Int.neg_neg] at hread
    rw [toList_toString_of_neg hneg]
    exact hread

end Json

/-- The number is read as itself from its text. A whole number is, if a document can hold it; a
float is rounded more than once when it is read, and may come back as another one. -/
def JsonNumber.readsBack : JsonNumber → Bool
  | .whole n => (JsonNumber.whole n).isProper
  | .float x => decide (Json.number? (JsonNumber.float x).text.toList = some (.float x))

namespace Json

theorem number?_text {n : JsonNumber} (h : n.readsBack = true) :
    number? n.text.toList = some n := by
  cases n with
  | whole n => exact number?_toString h
  | float x => exact of_decide_eq_true h

/-! ## What comes back -/

mutual

/-- Every number is read as itself from its text, and there are at most so many arrays and objects
inside one another. -/
def readsBackWithin (room : Nat) : Json → Bool
  | .number n => n.readsBack
  | .array items => room != 0 && itemsReadBackWithin (room - 1) items
  | .object members => room != 0 && membersReadBackWithin (room - 1) members
  | _ => true

/-- The same of every item. -/
def itemsReadBackWithin (room : Nat) : List Json → Bool
  | [] => true
  | v :: rest => readsBackWithin room v && itemsReadBackWithin room rest

/-- The same of every member. -/
def membersReadBackWithin (room : Nat) : List (String × Json) → Bool
  | [] => true
  | (_, v) :: rest => readsBackWithin room v && membersReadBackWithin room rest

end

/-- The text of the document can be read. -/
def ReadsBack (v : Json) : Prop :=
  v.readsBackWithin maxDepth = true

instance (v : Json) : Decidable v.ReadsBack :=
  inferInstanceAs (Decidable (_ = _))

mutual

/-- The document with the members of every object in order; of two with one name the later
counts. -/
def normal : Json → Json
  | .array items => .array (normalItems items)
  | .object members => ofMembers (normalMembers members)
  | v => v

/-- The same of every item. -/
def normalItems : List Json → List Json
  | [] => []
  | v :: rest => normal v :: normalItems rest

/-- The same of every member. -/
def normalMembers : List (String × Json) → List (String × Json)
  | [] => []
  | (k, v) :: rest => (k, normal v) :: normalMembers rest

end

/-! ## Lexemes -/

mutual

/-- The lexemes of a document. -/
def lexemesOf : Json → List Lexeme
  | .array items =>
      .openArray :: (List.intercalate [.comma] (lexemesOfItems items) ++ [.closeArray])
  | .object members =>
      .openObject :: (List.intercalate [.comma] (lexemesOfMembers members) ++ [.closeObject])
  | .string s => [.text s]
  | v => [.scalar v]

/-- The lexemes of every item. -/
def lexemesOfItems : List Json → List (List Lexeme)
  | [] => []
  | v :: rest => lexemesOf v :: lexemesOfItems rest

/-- The lexemes of every member. -/
def lexemesOfMembers : List (String × Json) → List (List Lexeme)
  | [] => []
  | (k, v) :: rest => (.text k :: .colon :: lexemesOf v) :: lexemesOfMembers rest

end

/-- Each of the texts has its lexemes. -/
def EachLexes (parts : List String) (lss : List (List Lexeme)) : Prop :=
  List.Forall₂ (fun part ls => LexesAtEnd part.toList ls) parts lss

/-- Commas part the lexemes of the parts, one a line. -/
theorem lexesAtEnd_separated (level : Nat) {parts : List String} {lss : List (List Lexeme)}
    (h : EachLexes parts lss) :
    LexesAtEnd (separated ("," ++ newLine level) parts).toList
      (List.intercalate [.comma] lss) := by
  induction h with
  | nil => exact lexes_nil.atEnd
  | @cons part ls parts lss hpart hparts ih =>
      cases hparts with
      | nil =>
          rw [separated, List.intercalate_singleton]
          exact hpart
      | @cons next ls' parts lss hnext hparts =>
          have htext : (separated ("," ++ newLine level) (part :: next :: parts)).toList
              = part.toList ++ ',' :: '\n' :: List.replicate (2 * level) ' ' ++
                (separated ("," ++ newLine level) (next :: parts)).toList := by
            simp [separated, String.toList_append, toList_newLine]
          have hcomma : Lexes (',' :: '\n' :: List.replicate (2 * level) ' ') [.comma] :=
            (lexes_punctuation rfl).append (lexes_newLine level)
          rw [htext, List.intercalate_cons_cons]
          exact (hpart.append rfl hcomma).append_atEnd ih

/-- The parts between two brackets. -/
theorem lexes_bracketed (level : Nat) {opening closing : String} {l l' : Lexeme}
    (hopening : Lexes opening.toList [l]) (hclosing : Lexes closing.toList [l'])
    {parts : List String} {lss : List (List Lexeme)} (h : EachLexes parts lss) :
    Lexes (bracketed level opening closing parts).toList
      (l :: (List.intercalate [.comma] lss ++ [l'])) := by
  cases h with
  | nil =>
      have htext : (bracketed level opening closing []).toList
          = opening.toList ++ closing.toList := String.toList_append
      rw [htext]
      exact hopening.append hclosing
  | @cons part ls parts lss hpart hparts =>
      have hbetween := lexesAtEnd_separated (level + 1) (.cons hpart hparts)
      have htext : (bracketed level opening closing (part :: parts)).toList
          = opening.toList ++ '\n' :: List.replicate (2 * (level + 1)) ' ' ++
            (separated ("," ++ newLine (level + 1)) (part :: parts)).toList ++
            '\n' :: (List.replicate (2 * level) ' ' ++ closing.toList) := by
        simp [bracketed, String.toList_append, toList_newLine]
      have hend : Lexes ('\n' :: (List.replicate (2 * level) ' ' ++ closing.toList)) [l'] :=
        (lexes_newLine level).append hclosing
      rw [htext]
      exact ((hopening.append (lexes_newLine (level + 1))).append_atEnd hbetween).append rfl hend

/-- The same for brackets that are one sign each. -/
theorem lexes_between (level : Nat) (opening closing : Char) {l l' : Lexeme}
    (hopening : punctuation? opening = some l) (hclosing : punctuation? closing = some l')
    {parts : List String} {lss : List (List Lexeme)} (h : EachLexes parts lss) :
    Lexes (bracketed level (String.singleton opening) (String.singleton closing) parts).toList
      (l :: (List.intercalate [.comma] lss ++ [l'])) := by
  refine lexes_bracketed level ?_ ?_ h
  · rw [String.toList_singleton]
    exact lexes_punctuation hopening
  · rw [String.toList_singleton]
    exact lexes_punctuation hclosing

mutual

/-- A document over several lines has its lexemes. -/
theorem lexesAtEnd_prettyAt {room : Nat} (level : Nat) : ∀ v : Json,
    v.readsBackWithin room = true → LexesAtEnd (prettyAt level v).toList v.lexemesOf
  | .null, _ => lexesAtEnd_null
  | .bool true, _ => lexesAtEnd_true
  | .bool false, _ => lexesAtEnd_false
  | .number _, h => lexesAtEnd_number (number?_text h)
  | .string s, _ => (lexes_quoted s).atEnd
  | .array items, h =>
      (lexes_between level '[' ']' rfl rfl
        (eachLexes_prettyItems (level + 1) items (Bool.and_eq_true_iff.mp h).2)).atEnd
  | .object members, h =>
      (lexes_between level '\x7b' '\x7d' rfl rfl
        (eachLexes_prettyMembers (level + 1) members (Bool.and_eq_true_iff.mp h).2)).atEnd

theorem eachLexes_prettyItems {room : Nat} (level : Nat) : ∀ items : List Json,
    itemsReadBackWithin room items = true →
      EachLexes (prettyItems level items) (lexemesOfItems items)
  | [], _ => .nil
  | v :: rest, h =>
      .cons (lexesAtEnd_prettyAt level v (Bool.and_eq_true_iff.mp h).1)
        (eachLexes_prettyItems level rest (Bool.and_eq_true_iff.mp h).2)

theorem eachLexes_prettyMembers {room : Nat} (level : Nat) : ∀ members : List (String × Json),
    membersReadBackWithin room members = true →
      EachLexes (prettyMembers level members) (lexemesOfMembers members)
  | [], _ => .nil
  | (k, v) :: rest, h => by
      obtain ⟨hv, hrest⟩ := Bool.and_eq_true_iff.mp h
      have htext : (Text.documentQuoted k ++ ": " ++ prettyAt level v).toList
          = (Text.documentQuoted k).toList ++ [':'] ++ [' '] ++ (prettyAt level v).toList := by
        simp [String.toList_append]
      have hcolon : Lexes [':'] [.colon] := lexes_punctuation rfl
      have hblank : Lexes [' '] [] := lexes_spaces (List.forall_mem_singleton.mpr rfl)
      refine .cons ?_ (eachLexes_prettyMembers level rest hrest)
      rw [htext]
      exact (((lexes_quoted k).append hcolon).append hblank).append_atEnd
        (lexesAtEnd_prettyAt level v hv)

end

/-- The text of a document has its lexemes and no others. -/
theorem lexemes_pretty {v : Json} (h : v.ReadsBack) :
    lexemes [] .between v.pretty.toList = some v.lexemesOf := by
  have hend := lexesAtEnd_prettyAt 0 v h [] [] (fun _ => nofun)
  rw [List.append_nil, List.append_nil] at hend
  rw [pretty, hend, lexemes]
  simp [Mode.finish]

/-! ## Putting the parts together -/

variable {room depth : Nat} {stack : List Frame} {ls : List Lexeme}

/-- Where the first item of an array may begin, it begins as a value does. -/
theorem run_firstItem (v : Json) : Assembly.run ⟨.firstItem, stack, depth⟩ (v.lexemesOf ++ ls)
    = Assembly.run ⟨.value, .array [] :: stack, depth⟩ (v.lexemesOf ++ ls) := by
  cases v <;> rfl

/-- An array or object may be opened as long as there is room. -/
theorem depth_lt_of_room (hroom : (room != 0) = true) (h : depth + room ≤ maxDepth) :
    depth < maxDepth ∧ depth + 1 + (room - 1) ≤ maxDepth := by
  have hpos : room ≠ 0 := by simpa using hroom
  omega

theorem intercalate_comma (first : List Lexeme) (others : List (List Lexeme)) :
    List.intercalate [Lexeme.comma] (first :: others)
      = first ++ others.flatMap fun next => .comma :: next := by
  induction others generalizing first with
  | nil => rw [List.intercalate_singleton, List.flatMap_nil, List.append_nil]
  | cons next others ih =>
      rw [List.intercalate_cons_cons, ih, List.flatMap_cons, List.append_assoc]
      rfl

mutual

/-- The lexemes of a document make up the document with its members in order. -/
theorem run_lexemesOf : ∀ (v : Json) {room depth : Nat} (stack : List Frame) (ls : List Lexeme),
    v.readsBackWithin room = true → depth + room ≤ maxDepth →
      Assembly.run ⟨.value, stack, depth⟩ (v.lexemesOf ++ ls)
        = (Assembly.put v.normal stack depth).run ls
  | .null, _, _, _, _, _, _ => rfl
  | .bool _, _, _, _, _, _, _ => rfl
  | .number _, _, _, _, _, _, _ => rfl
  | .string _, _, _, _, _, _, _ => rfl
  | .array items, room, depth, stack, ls, h, hdepth => by
      -- the room of a document is what the depth may still grow by
      obtain ⟨hroom, hitems⟩ := Bool.and_eq_true_iff.mp h
      obtain ⟨hlt, hinner⟩ := depth_lt_of_room hroom hdepth
      have hopen : Assembly.step ⟨.value, stack, depth⟩ .openArray
          = some ⟨.firstItem, stack, depth + 1⟩ := if_pos hlt
      rw [lexemesOf, List.cons_append, Assembly.run, hopen]
      cases items with
      | nil => rfl
      | cons v rest =>
          obtain ⟨hv, hrest⟩ := Bool.and_eq_true_iff.mp hitems
          simp only [lexemesOfItems, intercalate_comma, List.append_assoc]
          rw [run_firstItem, run_lexemesOf v _ _ hv hinner]
          exact run_moreItems rest [v.normal] stack ls hrest hinner
  | .object members, room, depth, stack, ls, h, hdepth => by
      obtain ⟨hroom, hmembers⟩ := Bool.and_eq_true_iff.mp h
      obtain ⟨hlt, hinner⟩ := depth_lt_of_room hroom hdepth
      have hopen : Assembly.step ⟨.value, stack, depth⟩ .openObject
          = some ⟨.firstName, stack, depth + 1⟩ := if_pos hlt
      rw [lexemesOf, List.cons_append, Assembly.run, hopen]
      match members with
      | [] => rfl
      | (k, v) :: rest =>
          obtain ⟨hv, hrest⟩ := Bool.and_eq_true_iff.mp hmembers
          have hname (behind : List Lexeme) :
              Assembly.run ⟨.firstName, stack, depth + 1⟩ (.text k :: .colon :: behind)
                = Assembly.run ⟨.value, .object [] k :: stack, depth + 1⟩ behind := rfl
          simp only [lexemesOfMembers, intercalate_comma, List.append_assoc, List.cons_append,
            List.nil_append]
          rw [hname, run_lexemesOf v _ _ hv hinner]
          exact run_moreMembers rest [(k, v.normal)] stack ls hrest hinner

/-- Behind an item, the others and the closing bracket. -/
theorem run_moreItems : ∀ (items : List Json) {room depth : Nat} (done : List Json)
    (stack : List Frame) (ls : List Lexeme),
    itemsReadBackWithin room items = true → depth + room ≤ maxDepth →
      Assembly.run ⟨.moreItems done, stack, depth⟩
          ((lexemesOfItems items).flatMap (fun next => .comma :: next) ++ .closeArray :: ls)
        = (Assembly.put (.array (done.reverse ++ normalItems items)) stack (depth - 1)).run ls
  | [], _, _, done, _, _, _, _ => by
      rw [normalItems, List.append_nil]
      rfl
  | v :: rest, room, depth, done, stack, ls, h, hdepth => by
      obtain ⟨hv, hrest⟩ := Bool.and_eq_true_iff.mp h
      have hcomma (behind : List Lexeme) :
          Assembly.run ⟨.moreItems done, stack, depth⟩ (.comma :: behind)
            = Assembly.run ⟨.value, .array done :: stack, depth⟩ behind := rfl
      simp only [lexemesOfItems, List.flatMap_cons, List.cons_append, List.append_assoc]
      rw [hcomma, run_lexemesOf v _ _ hv hdepth]
      refine (run_moreItems rest (v.normal :: done) stack ls hrest hdepth).trans ?_
      rw [List.reverse_cons, List.append_assoc]
      rfl

/-- Behind a member, the others and the closing brace. -/
theorem run_moreMembers : ∀ (members : List (String × Json)) {room depth : Nat}
    (done : List (String × Json)) (stack : List Frame) (ls : List Lexeme),
    membersReadBackWithin room members = true → depth + room ≤ maxDepth →
      Assembly.run ⟨.moreMembers done, stack, depth⟩
          ((lexemesOfMembers members).flatMap (fun next => .comma :: next) ++ .closeObject :: ls)
        = (Assembly.put (ofMembers (done.reverse ++ normalMembers members)) stack
            (depth - 1)).run ls
  | [], _, _, done, _, _, _, _ => by
      rw [normalMembers, List.append_nil]
      rfl
  | (k, v) :: rest, room, depth, done, stack, ls, h, hdepth => by
      obtain ⟨hv, hrest⟩ := Bool.and_eq_true_iff.mp h
      have hname (behind : List Lexeme) :
          Assembly.run ⟨.moreMembers done, stack, depth⟩ (.comma :: .text k :: .colon :: behind)
            = Assembly.run ⟨.value, .object done k :: stack, depth⟩ behind := rfl
      simp only [lexemesOfMembers, List.flatMap_cons, List.cons_append, List.append_assoc]
      rw [hname, run_lexemesOf v _ _ hv hdepth]
      refine (run_moreMembers rest ((k, v.normal) :: done) stack ls hrest hdepth).trans ?_
      rw [List.reverse_cons, List.append_assoc]
      rfl

end

/-- **WHAT IS WRITTEN IS READ**: the text of a document is read as that document,
    with its members in order. -/
theorem parse?_pretty {v : Json} (h : v.ReadsBack) : parse? v.pretty = some v.normal := by
  have hrun := run_lexemesOf v [] [] h (Nat.le_of_eq (Nat.zero_add maxDepth))
  rw [List.append_nil] at hrun
  rw [parse?, lexemes_pretty h, Option.bind_some, hrun]
  rfl

end Json

end Cohort
