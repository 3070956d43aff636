import Mathlib.Tactic
import MermaidTidy.Text.Utf8

/-!
# Bytes and texts

Bytes that can be decoded are those of the decoded text, and no two texts have the same bytes.

* `encodeUtf8_of_decodeUtf8`: encoding gives the decoded bytes back;
* `encodeUtf8_injective`.
-/

namespace MermaidTidy.Text

variable {a b c d : UInt8} {n : Nat}

/-! ### Bytes as numbers -/

theorem isContinuation_iff : isContinuation b = true ↔ 0x80 ≤ b.toNat ∧ b.toNat < 0xC0 := by
  simp [isContinuation, UInt8.le_iff_toNat_le, UInt8.lt_iff_toNat_lt]

theorem isSecond_iff : isSecond a b = true ↔
    (0x80 ≤ b.toNat ∧ b.toNat < 0xC0) ∧ (a.toNat = 0xE0 → 0xA0 ≤ b.toNat) ∧
      (a.toNat = 0xED → b.toNat < 0xA0) ∧ (a.toNat = 0xF0 → 0x90 ≤ b.toNat) ∧
        (a.toNat = 0xF4 → b.toNat < 0x90) := by
  simp only [isSecond, Bool.and_eq_true, isContinuation_iff, Bool.not_eq_true', Bool.and_eq_false_imp,
    beq_iff_eq, decide_eq_false_iff_not, ← UInt8.toNat_inj, UInt8.le_iff_toNat_le,
    UInt8.lt_iff_toNat_lt, not_lt, not_le, and_assoc]
  rfl

/-- The first byte of a character tells its length. -/
theorem utf8Length?_cases (h : utf8Length? a = some n) :
    n = 1 ∧ a.toNat < 0x80 ∨ n = 2 ∧ 0xC2 ≤ a.toNat ∧ a.toNat < 0xE0 ∨
      n = 3 ∧ 0xE0 ≤ a.toNat ∧ a.toNat < 0xF0 ∨ n = 4 ∧ 0xF0 ≤ a.toNat ∧ a.toNat < 0xF5 := by
  simp only [utf8Length?, UInt8.lt_iff_toNat_lt] at h
  split_ifs at h with h₁ h₂ h₃ h₄ h₅
  · cases h
    exact .inl ⟨rfl, h₁⟩
  · cases h
    exact .inr (.inl ⟨rfl, not_lt.1 h₂, h₃⟩)
  · cases h
    exact .inr (.inr (.inl ⟨rfl, not_lt.1 h₃, h₄⟩))
  · cases h
    exact .inr (.inr (.inr ⟨rfl, not_lt.1 h₄, h₅⟩))

/-! ### One character -/

theorem toNat_val_ofNat (h : n.isValidChar) : (Char.ofNat n).val.toNat = n := by
  unfold Char.ofNat
  rw [dif_pos h]
  rfl

theorem ofNat_eq_of_toNat_eq (h : n = a.toNat) : UInt8.ofNat n = a := by
  rw [h, UInt8.ofNat_toNat]

theorem utf8EncodeChar_one (ha : a.toNat < 0x80) :
    String.utf8EncodeChar (Char.ofNat a.toNat) = [a] := by
  have hval := toNat_val_ofNat (n := a.toNat) (.inl (by omega))
  simp only [String.utf8EncodeChar, hval]
  rw [if_pos (by omega), UInt8.ofNat_toNat]

theorem utf8EncodeChar_two (ha : 0xC2 ≤ a.toNat) (ha' : a.toNat < 0xE0) (hb : isSecond a b = true) :
    String.utf8EncodeChar (Char.ofNat ((a.toNat - 0xC0) * 64 + payload b)) = [a, b] := by
  have hb := isSecond_iff.1 hb
  unfold payload
  have hval := toNat_val_ofNat (n := (a.toNat - 0xC0) * 64 + b.toNat % 64) (.inl (by omega))
  simp only [String.utf8EncodeChar, hval]
  rw [if_neg (by omega), if_pos (by omega), ofNat_eq_of_toNat_eq (a := a) (by omega),
    ofNat_eq_of_toNat_eq (a := b) (by omega)]

theorem utf8EncodeChar_three (ha : 0xE0 ≤ a.toNat) (ha' : a.toNat < 0xF0) (hb : isSecond a b = true)
    (hc : isContinuation c = true) :
    String.utf8EncodeChar (Char.ofNat (((a.toNat - 0xE0) * 64 + payload b) * 64 + payload c)) =
      [a, b, c] := by
  have hb := isSecond_iff.1 hb
  have hc := isContinuation_iff.1 hc
  unfold payload
  have hvalid : (((a.toNat - 0xE0) * 64 + b.toNat % 64) * 64 + c.toNat % 64).isValidChar := by
    unfold Nat.isValidChar
    omega
  simp only [String.utf8EncodeChar, toNat_val_ofNat hvalid]
  rw [if_neg (by omega), if_neg (by omega), if_pos (by omega),
    ofNat_eq_of_toNat_eq (a := a) (by omega), ofNat_eq_of_toNat_eq (a := b) (by omega),
    ofNat_eq_of_toNat_eq (a := c) (by omega)]

theorem utf8EncodeChar_four (ha : 0xF0 ≤ a.toNat) (ha' : a.toNat < 0xF5) (hb : isSecond a b = true)
    (hc : isContinuation c = true) (hd : isContinuation d = true) :
    String.utf8EncodeChar (Char.ofNat
      ((((a.toNat - 0xF0) * 64 + payload b) * 64 + payload c) * 64 + payload d)) = [a, b, c, d] := by
  have hb := isSecond_iff.1 hb
  have hc := isContinuation_iff.1 hc
  have hd := isContinuation_iff.1 hd
  unfold payload
  have hvalid : ((((a.toNat - 0xF0) * 64 + b.toNat % 64) * 64 + c.toNat % 64) * 64 +
      d.toNat % 64).isValidChar := by
    unfold Nat.isValidChar
    omega
  simp only [String.utf8EncodeChar, toNat_val_ofNat hvalid]
  rw [if_neg (by omega), if_neg (by omega), if_neg (by omega),
    ofNat_eq_of_toNat_eq (a := a) (by omega), ofNat_eq_of_toNat_eq (a := b) (by omega),
    ofNat_eq_of_toNat_eq (a := c) (by omega), ofNat_eq_of_toNat_eq (a := d) (by omega)]

/-- The bytes that are read are those of the character. -/
theorem utf8EncodeChar_append_of_utf8Step {r rest : List UInt8} {x : Char}
    (h : utf8Step a r = .ok (x, rest)) : String.utf8EncodeChar x ++ rest = a :: r := by
  cases hlen : utf8Length? a with
  | none => simp [utf8Step, hlen] at h
  | some n =>
    rcases utf8Length?_cases hlen with ⟨rfl, ha⟩ | ⟨rfl, ha, ha'⟩ | ⟨rfl, ha, ha'⟩ | ⟨rfl, ha, ha'⟩
    · simp only [utf8Step, hlen] at h
      cases h
      rw [utf8EncodeChar_one ha, List.singleton_append]
    · rcases r with _ | ⟨b, r⟩
      · simp [utf8Step, hlen] at h
      · simp only [utf8Step, hlen] at h
        split_ifs at h with hb
        cases h
        rw [utf8EncodeChar_two ha ha' hb]
        rfl
    · rcases r with _ | ⟨b, _ | ⟨c, r⟩⟩
      · simp [utf8Step, hlen] at h
      · simp only [utf8Step, hlen] at h
        split_ifs at h
      · simp only [utf8Step, hlen] at h
        split_ifs at h with hb hc
        cases h
        rw [utf8EncodeChar_three ha ha' hb hc]
        rfl
    · rcases r with _ | ⟨b, _ | ⟨c, _ | ⟨d, r⟩⟩⟩
      · simp [utf8Step, hlen] at h
      · simp only [utf8Step, hlen] at h
        split_ifs at h
      · simp only [utf8Step, hlen] at h
        split_ifs at h
      · simp only [utf8Step, hlen] at h
        split_ifs at h with hb hc hd
        cases h
        rw [utf8EncodeChar_four ha ha' hb hc hd]
        rfl

/-! ### Texts -/

theorem encodeUtf8_of_decodeUtf8From {position : Nat} {bs : List UInt8} {t : Text}
    (h : decodeUtf8From position bs = .ok t) : encodeUtf8 t = bs := by
  fun_induction decodeUtf8From position bs generalizing t with
  | case1 =>
    cases h
    rfl
  | case2 => cases h
  | case3 position a r x rest hstep _ ih =>
    cases hrest : decodeUtf8From (position + x.utf8Size) rest with
    | error fault =>
      rw [hrest] at h
      cases h
    | ok u =>
      rw [hrest] at h
      cases h
      rw [encodeUtf8, List.flatMap_cons, ← encodeUtf8, ih hrest,
        utf8EncodeChar_append_of_utf8Step hstep]

/-- Bytes that can be decoded are those of the decoded text. -/
theorem encodeUtf8_of_decodeUtf8 {bs : List UInt8} {t : Text} (h : decodeUtf8 bs = .ok t) :
    encodeUtf8 t = bs := encodeUtf8_of_decodeUtf8From h

/-- No two texts have the same bytes. -/
theorem encodeUtf8_injective : Function.Injective encodeUtf8 := by
  intro t u h
  have hbytes : t.utf8Encode = u.utf8Encode := congrArg List.toByteArray h
  have hdecode := congrArg ByteArray.utf8Decode? hbytes
  rw [List.utf8Decode?_utf8Encode, List.utf8Decode?_utf8Encode] at hdecode
  exact congrArg Array.toList (Option.some.inj hdecode)

end MermaidTidy.Text
