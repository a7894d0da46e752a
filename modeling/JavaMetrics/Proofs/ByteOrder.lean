import JavaMetrics.Dict

set_option autoImplicit false

namespace JavaMetrics.Text

def bytes (s : String) : List UInt8 := s.toUTF8.data.toList

theorem bytes_eq (s : String) : bytes s = s.toList.flatMap String.utf8EncodeChar := by
  have h : s.toByteArray = s.toList.utf8Encode := by
    rw [← String.toByteArray_ofList, String.ofList_toList]
  rw [bytes, String.toUTF8_eq_toByteArray, h, List.utf8Encode, List.toList_data_toByteArray]

theorem cons_ofNat_lt {m n : Nat} {xs ys : List UInt8} (hm : m < 256) (hn : n < 256)
    (h : m < n ∨ m = n ∧ xs < ys) : UInt8.ofNat m :: xs < UInt8.ofNat n :: ys := by
  rw [List.cons_lt_cons_iff]
  rcases h with h | ⟨rfl, h⟩
  · left
    rw [UInt8.lt_iff_toNat_lt, UInt8.toNat_ofNat_of_lt' hm, UInt8.toNat_ofNat_of_lt' hn]
    exact h
  · exact .inr ⟨rfl, h⟩

theorem encode_lt {c d : Char} (h : c < d) (cs ds : List UInt8) :
    String.utf8EncodeChar c ++ cs < String.utf8EncodeChar d ++ ds := by
  have hv : c.val.toNat < d.val.toNat := h
  have hd : d.val.toNat < 0x110000 := by
    rcases d.valid with hd | hd
    · exact Nat.lt_trans hd (by decide)
    · exact hd.2
  simp only [String.utf8EncodeChar]
  generalize c.val.toNat = m at *
  generalize d.val.toNat = n at *
  repeat' split
  -- A shorter code starts with a smaller byte; this leaves the codes of two, three and four bytes.
  all_goals try exact cons_ofNat_lt (by omega) (by omega) (.inl (by omega))
  · apply cons_ofNat_lt (by omega) (by omega)
    by_cases h₁ : m / 64 = n / 64
    · exact .inr ⟨by omega, cons_ofNat_lt (by omega) (by omega) (.inl (by omega))⟩
    · exact .inl (by omega)
  · apply cons_ofNat_lt (by omega) (by omega)
    by_cases h₁ : m / 4096 = n / 4096
    · refine .inr ⟨by omega, cons_ofNat_lt (by omega) (by omega) ?_⟩
      by_cases h₂ : m / 64 = n / 64
      · exact .inr ⟨by omega, cons_ofNat_lt (by omega) (by omega) (.inl (by omega))⟩
      · exact .inl (by omega)
    · exact .inl (by omega)
  · apply cons_ofNat_lt (by omega) (by omega)
    by_cases h₁ : m / 262144 = n / 262144
    · refine .inr ⟨by omega, cons_ofNat_lt (by omega) (by omega) ?_⟩
      by_cases h₂ : m / 4096 = n / 4096
      · refine .inr ⟨by omega, cons_ofNat_lt (by omega) (by omega) ?_⟩
        by_cases h₃ : m / 64 = n / 64
        · exact .inr ⟨by omega, cons_ofNat_lt (by omega) (by omega) (.inl (by omega))⟩
        · exact .inl (by omega)
      · exact .inl (by omega)
    · exact .inl (by omega)

theorem flatMap_encode_lt {cs ds : List Char} (h : cs < ds) :
    cs.flatMap String.utf8EncodeChar < ds.flatMap String.utf8EncodeChar := by
  induction cs generalizing ds with
  | nil =>
    cases ds with
    | nil => exact absurd h (List.lt_irrefl [])
    | cons d ds =>
      cases he : String.utf8EncodeChar d with
      | nil => exact absurd he String.utf8EncodeChar_ne_nil
      | cons x xs => simp [he]
  | cons c cs ih =>
    cases ds with
    | nil => exact absurd h (List.not_lt_nil _)
    | cons d ds =>
      simp only [List.flatMap_cons]
      rcases List.cons_lt_cons_iff.1 h with hcd | ⟨rfl, hrest⟩
      · exact encode_lt hcd _ _
      · exact List.append_left_lt (ih hrest)

/-- The order of texts is the order of their bytes. -/
theorem bytes_lt_iff (s t : String) : bytes s < bytes t ↔ s < t := by
  have key : ∀ {s t : String}, s < t → bytes s < bytes t := by
    intro s t h
    rw [bytes_eq, bytes_eq]
    exact flatMap_encode_lt (String.lt_iff.1 h)
  refine ⟨fun h => ?_, key⟩
  rcases text_lt_or_eq_or_gt s t with hst | rfl | hts
  · exact hst
  · exact absurd h (List.lt_irrefl _)
  · exact absurd (key hts) (List.lt_asymm h)

end JavaMetrics.Text
