import Mathlib.Data.String.Basic
import Mathlib.Tactic

/-!
# The order of bytes

Texts are compared by their characters, and their UTF-8 bytes compare in the same way: a lesser
character has lesser bytes, none of them a prefix of the greater character's.

* `Text.bytes`: the UTF-8 bytes of a text;
* **`Text.bytes_lt_iff`**: the order of texts is the order of their bytes.
-/

namespace EntityQuery.Text

/-- The UTF-8 bytes of a text. -/
def bytes (s : String) : List UInt8 := s.toUTF8.data.toList

theorem bytes_eq (s : String) : bytes s = s.toList.flatMap String.utf8EncodeChar := by
  have h : s.toUTF8 = s.toList.utf8Encode := (String.utf8Encode_toList (b := s)).symm
  rw [bytes, h, List.utf8Encode, List.toList_data_toByteArray]

theorem cons_lt_cons_of_lt {a b : ℕ} {xs ys : List UInt8} (hb : b < 256) (h : a < b) :
    UInt8.ofNat a :: xs < UInt8.ofNat b :: ys :=
  List.cons_lt_cons_iff.2 (.inl ((UInt8.ofNat_lt_iff_lt (lt_trans h hb) hb).2 h))

theorem cons_lt_cons_of_eq {a b : ℕ} {xs ys : List UInt8} (h : a = b) (ht : xs < ys) :
    UInt8.ofNat a :: xs < UInt8.ofNat b :: ys :=
  List.cons_lt_cons_iff.2 (.inr ⟨congrArg _ h, ht⟩)

/-- The bytes of a lesser character are less, whatever follows. -/
theorem utf8EncodeChar_append_lt {c d : Char} (h : c < d) (xs ys : List UInt8) :
    String.utf8EncodeChar c ++ xs < String.utf8EncodeChar d ++ ys := by
  have hv : c.val.toNat < d.val.toNat := h
  have hd : d.val.toNat < 1114112 := by
    rcases d.valid with hd | hd
    · exact lt_trans hd (by decide)
    · exact hd.2
  unfold String.utf8EncodeChar
  generalize c.val.toNat = m at hv
  generalize d.val.toNat = n at hv hd
  dsimp only
  -- more bytes have a greater first byte; of as many bytes the first that differs decides
  split_ifs <;> simp only [List.cons_append, List.nil_append] <;>
    first
    | omega
    | exact cons_lt_cons_of_lt (by omega) (by omega)
    | skip
  · by_cases h1 : m / 64 = n / 64
    · refine cons_lt_cons_of_eq (by omega) ?_
      exact cons_lt_cons_of_lt (by omega) (by omega)
    · exact cons_lt_cons_of_lt (by omega) (by omega)
  · by_cases h1 : m / 4096 = n / 4096
    · refine cons_lt_cons_of_eq (by omega) ?_
      by_cases h2 : m / 64 = n / 64
      · refine cons_lt_cons_of_eq (by omega) ?_
        exact cons_lt_cons_of_lt (by omega) (by omega)
      · exact cons_lt_cons_of_lt (by omega) (by omega)
    · exact cons_lt_cons_of_lt (by omega) (by omega)
  · by_cases h1 : m / 262144 = n / 262144
    · refine cons_lt_cons_of_eq (by omega) ?_
      by_cases h2 : m / 4096 = n / 4096
      · refine cons_lt_cons_of_eq (by omega) ?_
        by_cases h3 : m / 64 = n / 64
        · refine cons_lt_cons_of_eq (by omega) ?_
          exact cons_lt_cons_of_lt (by omega) (by omega)
        · exact cons_lt_cons_of_lt (by omega) (by omega)
      · exact cons_lt_cons_of_lt (by omega) (by omega)
    · exact cons_lt_cons_of_lt (by omega) (by omega)

theorem flatMap_utf8EncodeChar_lt {cs ds : List Char} (h : cs < ds) :
    cs.flatMap String.utf8EncodeChar < ds.flatMap String.utf8EncodeChar := by
  induction ds generalizing cs with
  | nil => exact absurd h (List.not_lt_nil cs)
  | cons d ds ih =>
    rw [List.flatMap_cons]
    cases cs with
    | nil =>
      obtain ⟨b, bs, hb⟩ := List.exists_cons_of_ne_nil (@String.utf8EncodeChar_ne_nil d)
      rw [hb]
      exact List.nil_lt_cons _ _
    | cons c cs =>
      rw [List.flatMap_cons]
      rcases List.cons_lt_cons_iff.1 h with hcd | ⟨rfl, hcs⟩
      · exact utf8EncodeChar_append_lt hcd _ _
      · exact List.append_left_lt (ih hcs)

/-- **The order of texts is the order of their bytes.** -/
theorem bytes_lt_iff {s t : String} : bytes s < bytes t ↔ s < t := by
  have hlt : ∀ {s t : String}, s < t → bytes s < bytes t := by
    intro s t h
    rw [bytes_eq, bytes_eq]
    exact flatMap_utf8EncodeChar_lt (String.lt_iff_toList_lt.1 h)
  refine ⟨fun h => ?_, hlt⟩
  rcases lt_trichotomy s t with hst | rfl | hts
  · exact hst
  · exact absurd h (List.lt_irrefl _)
  · exact absurd h (List.lt_asymm (hlt hts))

end EntityQuery.Text
