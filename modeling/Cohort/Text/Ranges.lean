/-! # Ranges of code points

Properties of characters are sets of code points, and the sets are long: most are kept as
text, in hexadecimal, and read once. `Ranges` holds such a set in increasing order, `Shifts`
a map that moves each code point of a run by the same amount. -/

namespace Cohort.Text

/-- The value of a hexadecimal digit in lower case. -/
def hexValue? (c : Char) : Option Nat :=
  if '0' ≤ c ∧ c ≤ '9' then some (c.toNat - '0'.toNat)
  else if 'a' ≤ c ∧ c ≤ 'f' then some (c.toNat - 'a'.toNat + 10)
  else none

/-- A hexadecimal number; characters that are no digits are passed over. -/
def hexNumber (cs : List Char) : Nat :=
  cs.foldl (fun n c => match hexValue? c with
    | some d => 16 * n + d
    | none => n) 0

/-- The pieces of a list between the elements that satisfy `p`, empty ones included. -/
def pieces {α : Type} (p : α → Bool) : List α → List (List α)
  | [] => [[]]
  | c :: cs =>
      if p c then [] :: pieces p cs
      else match pieces p cs with
        | [] => [[c]]
        | w :: ws => (c :: w) :: ws

/-- What parts the words of a table. -/
def partsWords (c : Char) : Bool :=
  c == ' ' || c == '\n'

/-! ## Sets -/

/-- A set of code points: pairs of a first and a last one. -/
structure Ranges where
  bounds : List (Nat × Nat)

/-- Reads `lo-hi` and single numbers, parted by blanks and new lines. -/
def Ranges.ofText (s : String) : Ranges :=
  ⟨(pieces partsWords s.toList).filterMap fun w =>
    match pieces (· == '-') w with
    | [[]] => none
    | [a] => some (hexNumber a, hexNumber a)
    | a :: b :: _ => some (hexNumber a, hexNumber b)
    | [] => none⟩

/-- The character lies in one of the ranges. -/
def Ranges.contains (r : Ranges) (c : Char) : Bool :=
  r.bounds.any fun b => b.1 ≤ c.toNat && c.toNat ≤ b.2

/-! ## Maps -/

/-- A run of code points `first`, `first + step`, …, `last`, all moved by `offset`. -/
structure Shift where
  first : Nat
  last : Nat
  step : Nat
  offset : Int

/-- A map of characters given by runs; a character in no run is left alone. -/
structure Shifts where
  runs : List Shift

/-- Reads one run: `first`, then `-last` (every code point) or `~last` (every second one) where
there is more than one, then `>n` (up) or `<n` (down). -/
def Shift.ofWord (w : List Char) : Shift :=
  let up := w.contains '>'
  let stepTwo := w.contains '~'
  match pieces (fun c => c == '>' || c == '<' || c == '-' || c == '~') w with
  | [a, d] => ⟨hexNumber a, hexNumber a, 1, if up then hexNumber d else -(hexNumber d : Int)⟩
  | [a, b, d] => ⟨hexNumber a, hexNumber b, if stepTwo then 2 else 1,
      if up then hexNumber d else -(hexNumber d : Int)⟩
  | _ => ⟨1, 0, 1, 0⟩

/-- Reads runs parted by blanks and new lines. -/
def Shifts.ofText (s : String) : Shifts :=
  ⟨((pieces partsWords s.toList).filter (!·.isEmpty)).map Shift.ofWord⟩

/-- Where the run takes a code point of it. -/
def Shift.image? (r : Shift) (c : Char) : Option Char :=
  if r.first ≤ c.toNat ∧ c.toNat ≤ r.last ∧ (c.toNat - r.first) % r.step = 0 then
    some (Char.ofNat ((c.toNat : Int) + r.offset).toNat)
  else none

/-- The image of a character. -/
def Shifts.apply (m : Shifts) (c : Char) : Char :=
  (m.runs.findSome? (·.image? c)).getD c

/-- Characters whose image is several characters: `c=d+e`, parted by blanks and new lines. -/
def expansionsOfText (s : String) : List (Char × List Char) :=
  (pieces partsWords s.toList).filterMap fun w =>
    match pieces (fun c => c == '=' || c == '+') w with
    | a :: ds@(_ :: _) => some (Char.ofNat (hexNumber a), ds.map (Char.ofNat ∘ hexNumber))
    | _ => none

end Cohort.Text
