import Cohort.Rule.Error
import Cohort.Text.Class
import Cohort.Decimal.Reader

/-! # Cutting a rule into tokens

`Token.read` takes the token at the front of a text and leaves the rest; `Token.readAll` repeats it
to the end. Blanks part tokens and are otherwise ignored. Signs that other expression languages
have and this one has not are refused by name. -/

namespace Cohort.Rule.Token

/-- The part of a string literal behind its opening quote: its characters and what follows the
closing quote. A backslash takes the next character as it is. -/
def stringBody? (quote : Char) : List Char → Option (List Char × List Char)
  | [] => none
  | '\\' :: [] => none
  | '\\' :: c :: cs => (stringBody? quote cs).map fun r => (c :: r.1, r.2)
  | c :: cs =>
      if c = quote then some ([], cs)
      else (stringBody? quote cs).map fun r => (c :: r.1, r.2)

/-- Starts a word. -/
def startsWord (c : Char) : Bool :=
  Text.isAlphabetic c || c == '_' || c == '$'

/-- Continues a word. -/
def continuesWord (c : Char) : Bool :=
  Text.isAlphanumeric c || c == '_' || c == '$'

/-- A number: digits, and a fraction when a digit follows the point. -/
def readNumber (cs : List Char) : Except Malformed (Token × List Char) :=
  let whole := cs.takeWhile Decimal.isDigit
  let rest := cs.dropWhile Decimal.isDigit
  let fraction := (rest.drop 1).takeWhile Decimal.isDigit
  if rest.head? = some '.' ∧ fraction ≠ [] then
    .ok (.float (Decimal.nearestFloat (Decimal.naturalFrom (Decimal.natural whole) fraction)
      (-(fraction.length : Int))), (rest.drop 1).dropWhile Decimal.isDigit)
  else match Decimal.fit64? (Decimal.natural whole) with
    | some n => .ok (.int n, rest)
    | none => .error (.badNumber (String.ofList whole))

/-- A sign of one or two characters. -/
def readSign (c : Char) (cs : List Char) : Except Malformed (Token × List Char) :=
  match c, cs with
  | '=', '=' :: cs => .ok (.op .equal, cs)
  | '!', '=' :: cs => .ok (.op .notEqual, cs)
  | '<', '=' :: cs => .ok (.op .lessEqual, cs)
  | '>', '=' :: cs => .ok (.op .greaterEqual, cs)
  | '&', '&' :: cs => .ok (.op .both, cs)
  | '|', '|' :: cs => .ok (.op .either, cs)
  | '-', '>' :: _ => .error .lambda
  | '+', '=' :: _ => .error .concatenation
  | '=', _ => .error .assignment
  | ';', _ => .error .sequence
  | '\x7b', _ => .error .braceLiteral
  | '<', cs => .ok (.op .less, cs)
  | '>', cs => .ok (.op .greater, cs)
  | '!', cs => .ok (.op .not, cs)
  | '+', cs => .ok (.op .plus, cs)
  | '-', cs => .ok (.op .minus, cs)
  | '*', cs => .ok (.op .times, cs)
  | '/', cs => .ok (.op .divide, cs)
  | '%', cs => .ok (.op .modulo, cs)
  | '(', cs => .ok (.openParen, cs)
  | ')', cs => .ok (.closeParen, cs)
  | '[', cs => .ok (.openBracket, cs)
  | ']', cs => .ok (.closeBracket, cs)
  | '.', cs => .ok (.dot, cs)
  | ',', cs => .ok (.comma, cs)
  | '?', cs => .ok (.question, cs)
  | ':', cs => .ok (.colon, cs)
  | c, _ => .error (.unexpectedCharacter c)

/-- The token at the front of `c :: cs`, where `c` is no blank, and the characters behind it. -/
def read (c : Char) (cs : List Char) : Except Malformed (Token × List Char) :=
  if Decimal.isDigit c then readNumber (c :: cs)
  else if c = '\'' ∨ c = '"' then
    match stringBody? c cs with
    | some (body, rest) => .ok (.text (String.ofList body), rest)
    | none => .error .openString
  else if startsWord c then
    .ok (ofWord (String.ofList (c :: cs.takeWhile continuesWord)), cs.dropWhile continuesWord)
  else readSign c cs

/-! ## A token is never empty -/

/-- Dropping characters makes no list longer. -/
theorem length_dropWhile_le (p : Char → Bool) (cs : List Char) :
    (cs.dropWhile p).length ≤ cs.length :=
  (List.dropWhile_suffix p).length_le

/-- A string literal ends within the text. -/
theorem length_stringBody? {quote : Char} {cs body rest : List Char}
    (h : stringBody? quote cs = some (body, rest)) : rest.length ≤ cs.length := by
  fun_induction stringBody? quote cs generalizing body with
  | case1 => simp at h
  | case2 => simp at h
  | case3 c cs ih =>
      obtain ⟨r, hr, he⟩ := Option.map_eq_some_iff.mp h
      cases he
      have := ih hr
      simp only [List.length_cons]
      omega
  | case4 cs _ =>
      cases h
      simp
  | case5 c cs _ _ hne ih =>
      obtain ⟨r, hr, he⟩ := Option.map_eq_some_iff.mp h
      cases he
      have := ih hr
      simp only [List.length_cons]
      omega

/-- A number takes at least its first digit. -/
theorem length_readNumber {c : Char} {cs rest : List Char} {t : Token} (hc : Decimal.isDigit c)
    (h : readNumber (c :: cs) = .ok (t, rest)) : rest.length ≤ cs.length := by
  have hd : (c :: cs).dropWhile Decimal.isDigit = cs.dropWhile Decimal.isDigit := by
    simp [hc]
  have hle := length_dropWhile_le Decimal.isDigit cs
  simp only [readNumber, hd] at h
  split at h
  · cases h
    have h₁ := length_dropWhile_le Decimal.isDigit ((cs.dropWhile Decimal.isDigit).drop 1)
    have h₂ : ((cs.dropWhile Decimal.isDigit).drop 1).length
        ≤ (cs.dropWhile Decimal.isDigit).length := by simp
    omega
  · split at h
    · cases h
      exact hle
    · cases h

/-- A sign takes at least its first character. -/
theorem length_readSign {c : Char} {cs rest : List Char} {t : Token}
    (h : readSign c cs = .ok (t, rest)) : rest.length ≤ cs.length := by
  unfold readSign at h
  split at h <;> cases h <;> simp

/-- Whatever the token, the text behind it is shorter than the text it was read from. -/
theorem length_read {c : Char} {cs rest : List Char} {t : Token}
    (h : read c cs = .ok (t, rest)) : rest.length ≤ cs.length := by
  unfold read at h
  split at h
  · next hc => exact length_readNumber hc h
  · split at h
    · split at h
      · next hb =>
          cases h
          exact length_stringBody? hb
      · cases h
    · split at h
      · cases h
        exact length_dropWhile_le _ _
      · exact length_readSign h

/-- All tokens of a text. -/
def readAll (cs : List Char) : Except Malformed (List Token) :=
  match cs with
  | [] => .ok []
  | c :: cs =>
      if Text.isBlank c then readAll cs
      else match h : read c cs with
        | .error e => .error e
        | .ok (t, rest) =>
            have : rest.length < (c :: cs).length := Nat.lt_succ_of_le (length_read h)
            (readAll rest).map (t :: ·)
termination_by cs.length
decreasing_by all_goals (simp only [List.length_cons] at *; omega)

end Cohort.Rule.Token
