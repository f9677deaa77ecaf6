import EntityQuery.Text.Normal.CombiningClass
import EntityQuery.Text.Normal.Composition
import EntityQuery.Text.Normal.Decomposition
import EntityQuery.Text.Normal.Mark

/-!
# Normal forms

The decomposed and the composed canonical normal form of a text. Decomposition takes every character
apart and puts the marks after each starter in order of their classes; composition then joins each
starter with the marks, and with the starter right after it, that it has a composition with.

* `nfd`, `nfc`: the two forms;
* `withoutMarks`: the composed form of a text whose marks have been taken away.
-/

namespace EntityQuery.Text.Normal

/-! ## Decomposed form -/

/-- Puts a character in front of a text in canonical order: a mark goes behind the marks of lower
classes. -/
def place (c : Char) : List Char → List Char
  | [] => [c]
  | d :: ds =>
    if 0 < combiningClass d ∧ combiningClass d < combiningClass c then d :: place c ds
    else c :: d :: ds

/-- The canonical order: each run of marks sorted by class, marks of one class kept in place. -/
def canonicalOrder (cs : List Char) : List Char := cs.foldr place []

/-- The decomposed form. -/
def nfd (cs : List Char) : List Char := canonicalOrder (cs.flatMap decomposition)

/-! ## Composed form -/

/-- The composed form of a starter and the characters after it. The marks held back, last one first,
stand between the starter and the rest; `last` is the class of the last of them. A character meets
the starter if nothing is held back or the last mark held back is of a lower class. -/
def composeFrom (starter : Char) (held : List Char) (last : Nat) : List Char → List Char
  | [] => starter :: held.reverse
  | c :: cs =>
    let joined := if held.isEmpty || last < combiningClass c then composition? starter c else none
    match joined with
    | some s => composeFrom s held last cs
    | none =>
      if combiningClass c = 0 then starter :: (held.reverse ++ composeFrom c [] 0 cs)
      else composeFrom starter (c :: held) (combiningClass c) cs

/-- The composed form of a text in decomposed form. -/
def compose : List Char → List Char
  | [] => []
  | c :: cs => if combiningClass c = 0 then composeFrom c [] 0 cs else c :: compose cs

/-- The composed form. -/
def nfc (cs : List Char) : List Char := compose (nfd cs)

/-- The composed form without marks: letters lose their accents and keep their case. -/
def withoutMarks (cs : List Char) : List Char := nfc ((nfd cs).filter (!isMark ·))

end EntityQuery.Text.Normal
