/-!
# White space

Blanks are the 25 characters with the Unicode property `White_Space`. Text is trimmed of them at
both ends, and split by them into words.

* `trim`, `words`: a text without the blanks around it, and the words between blanks;
* `flatten_words`: the words hold every character that is not blank, in order.
-/

namespace EntityQuery.Text

/-- A character with the property `White_Space`. -/
def isBlank (c : Char) : Bool :=
  let n := c.toNat
  (0x09 ≤ n && n ≤ 0x0D) || n == 0x20 || n == 0x85 || n == 0xA0 || n == 0x1680 ||
    (0x2000 ≤ n && n ≤ 0x200A) || n == 0x2028 || n == 0x2029 || n == 0x202F || n == 0x205F ||
    n == 0x3000

/-- The characters without the blanks at the end. -/
def trimRight (cs : List Char) : List Char := (cs.reverse.dropWhile isBlank).reverse

/-- The characters without the blanks at either end. -/
def trim (cs : List Char) : List Char := trimRight (cs.dropWhile isBlank)

/-- The maximal runs of characters that are not blank, in order. -/
def words (cs : List Char) : List (List Char) := (cs.splitOnP isBlank).filter (!·.isEmpty)

@[simp] theorem words_nil : words [] = [] := by simp [words]

theorem words_cons_of_isBlank {c : Char} (h : isBlank c = true) (cs : List Char) :
    words (c :: cs) = words cs := by
  simp [words, List.splitOnP_cons_eq_if_modifyHead, h]

private theorem flatten_pieces (cs : List Char) :
    (cs.splitOnP isBlank).flatten = cs.filter (!isBlank ·) := by
  induction cs with
  | nil => simp
  | cons c cs ih =>
    rw [List.splitOnP_cons_eq_if_modifyHead]
    split
    · simp_all
    · cases hp : cs.splitOnP isBlank with
      | nil => exact absurd hp (List.splitOnP_ne_nil _ _)
      | cons v vs => simp_all

private theorem flatten_filter_not_isEmpty (ws : List (List Char)) :
    (ws.filter (!·.isEmpty)).flatten = ws.flatten := by
  induction ws with
  | nil => rfl
  | cons w ws ih => cases w <;> simp_all

theorem flatten_words (cs : List Char) : (words cs).flatten = cs.filter (!isBlank ·) := by
  rw [words, flatten_filter_not_isEmpty, flatten_pieces]

end EntityQuery.Text
