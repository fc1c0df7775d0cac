import Mathlib.Data.List.Lex
import Mathlib.Data.String.Basic

/-!
# Texts compare like their bytes

Texts are ordered by their characters, and byte sequences by their bytes. For the bytes of texts in UTF-8 this is the same
order (`bytes_lt_iff`): the first byte of a character tells how many follow, and among characters of one length
the bytes are the digits of the character, the most significant ones first.
-/

set_option autoImplicit false

namespace ModuleLint.Text

/-- The bytes of a text in UTF-8. -/
def bytes (s : String) : List UInt8 := s.toByteArray.data.toList

/-- A text is written character by character. -/
theorem bytes_eq_flatMap (s : String) : bytes s = s.toList.flatMap String.utf8EncodeChar := by
  unfold bytes
  rw [← String.utf8Encode_toList]
  unfold List.utf8Encode
  simp

section Encoding

variable {m n v w : Nat} {xs ys : List UInt8}

/-- Bytes are compared by their numbers, and then by what follows. -/
theorem cons_ofNat_lt (hm : m < 256) (hn : n < 256) (h : m < n ∨ m = n ∧ xs < ys) :
    UInt8.ofNat m :: xs < UInt8.ofNat n :: ys := by
  rw [List.cons_lt_cons_iff]
  rcases h with hlt | ⟨rfl, hlt⟩
  · left
    rw [UInt8.lt_iff_toNat_lt, UInt8.toNat_ofNat', UInt8.toNat_ofNat']
    omega
  · exact .inr ⟨rfl, hlt⟩

/-- The last byte of a character holds its lowest six bits. -/
theorem one_trailing_lt (h : v % 64 < w % 64) :
    UInt8.ofNat (v % 64 + 128) :: xs < UInt8.ofNat (w % 64 + 128) :: ys :=
  cons_ofNat_lt (by omega) (by omega) (.inl (by omega))

/-- The last two bytes hold its lowest twelve bits. -/
theorem two_trailing_lt (h : v % 4096 < w % 4096) :
    UInt8.ofNat (v / 64 % 64 + 128) :: UInt8.ofNat (v % 64 + 128) :: xs
      < UInt8.ofNat (w / 64 % 64 + 128) :: UInt8.ofNat (w % 64 + 128) :: ys := by
  apply cons_ofNat_lt (by omega) (by omega)
  rcases Nat.lt_or_ge (v / 64 % 64) (w / 64 % 64) with hlt | hge
  · exact .inl (by omega)
  · exact .inr ⟨by omega, one_trailing_lt (by omega)⟩

/-- The last three bytes hold its lowest eighteen bits. -/
theorem three_trailing_lt (h : v % 262144 < w % 262144) :
    UInt8.ofNat (v / 4096 % 64 + 128) :: UInt8.ofNat (v / 64 % 64 + 128) :: UInt8.ofNat (v % 64 + 128) :: xs
      < UInt8.ofNat (w / 4096 % 64 + 128) :: UInt8.ofNat (w / 64 % 64 + 128) :: UInt8.ofNat (w % 64 + 128)
        :: ys := by
  apply cons_ofNat_lt (by omega) (by omega)
  rcases Nat.lt_or_ge (v / 4096 % 64) (w / 4096 % 64) with hlt | hge
  · exact .inl (by omega)
  · exact .inr ⟨by omega, two_trailing_lt (by omega)⟩

/-- Of two characters the smaller one has the smaller bytes, whatever follows. -/
theorem utf8EncodeChar_append_lt {c d : Char} (h : c < d) :
    String.utf8EncodeChar c ++ xs < String.utf8EncodeChar d ++ ys := by
  have hval : c.val.toNat < d.val.toNat := h
  have hd : d.val.toNat < 1114112 := by
    rcases d.valid with hlow | ⟨-, hhigh⟩
    · omega
    · exact hhigh
  simp only [String.utf8EncodeChar]
  generalize c.val.toNat = v at hval
  generalize d.val.toNat = w at hval hd
  split_ifs
  -- the first byte decides, except between characters of the same length
  all_goals try exact cons_ofNat_lt (by omega) (by omega) (.inl (by omega))
  · apply cons_ofNat_lt (by omega) (by omega)
    rcases Nat.lt_or_ge (v / 64) (w / 64) with hlt | hge
    · exact .inl (by omega)
    · exact .inr ⟨by omega, one_trailing_lt (by omega)⟩
  · apply cons_ofNat_lt (by omega) (by omega)
    rcases Nat.lt_or_ge (v / 4096) (w / 4096) with hlt | hge
    · exact .inl (by omega)
    · exact .inr ⟨by omega, two_trailing_lt (by omega)⟩
  · apply cons_ofNat_lt (by omega) (by omega)
    rcases Nat.lt_or_ge (v / 262144) (w / 262144) with hlt | hge
    · exact .inl (by omega)
    · exact .inr ⟨by omega, three_trailing_lt (by omega)⟩

end Encoding

/-- The order of characters is that of the bytes they are written in. -/
theorem bytes_lt_bytes {s t : String} (h : s < t) : bytes s < bytes t := by
  rw [bytes_eq_flatMap, bytes_eq_flatMap]
  rw [String.lt_iff_toList_lt] at h
  generalize s.toList = cs at h
  generalize t.toList = ds at h
  induction h with
  | @nil d ds =>
    obtain ⟨b, rest, hb⟩ := List.exists_cons_of_ne_nil (String.utf8EncodeChar_ne_nil (c := d))
    rw [List.flatMap_cons, hb]
    exact List.nil_lt_cons b _
  | cons _ ih =>
    rw [List.flatMap_cons, List.flatMap_cons]
    exact List.append_left_lt ih
  | rel hlt =>
    rw [List.flatMap_cons, List.flatMap_cons]
    exact utf8EncodeChar_append_lt hlt

/-- The order of texts is that of their bytes. -/
theorem bytes_lt_iff {s t : String} : bytes s < bytes t ↔ s < t := by
  refine ⟨fun h => ?_, bytes_lt_bytes⟩
  rcases lt_trichotomy s t with hlt | rfl | hlt
  · exact hlt
  · exact absurd h (List.lt_irrefl _)
  · exact absurd h (List.lt_asymm (bytes_lt_bytes hlt))

end ModuleLint.Text
