import BoundedCrawl.Url.Percent
import Mathlib.Data.Bool.AllAny
import Mathlib.Data.List.TakeDrop
set_option autoImplicit false

/-!
# Encoded texts stay as they are

An escape is a percent sign and two digits, and no part of a URL encodes these
(`SparesEscapes`).  So what has been encoded holds nothing that would be encoded
(`not_needs_of_mem_encode`), and encoding it again changes nothing (`encode_encode`).
-/

namespace BoundedCrawl.Url

/-! ## Encoding -/

/-- The characters that are encoded are none of those that escapes are made of. -/
def SparesEscapes (needs : Char → Bool) : Prop :=
  ∀ c ∈ "%0123456789ABCDEF".toList, needs c = false

theorem sparesEscapes_inPath : SparesEscapes inPath := List.all_iff_forall_prop.mp (by decide)

theorem sparesEscapes_inUserInfo : SparesEscapes inUserInfo :=
  List.all_iff_forall_prop.mp (by decide)

theorem sparesEscapes_inSpecialQuery : SparesEscapes inSpecialQuery :=
  List.all_iff_forall_prop.mp (by decide)

theorem mem_of_mem_encodeByte {b : UInt8} {c : Char} (h : c ∈ encodeByte b) :
    c ∈ "%0123456789ABCDEF".toList := by
  have hdigits : ∀ n ∈ List.range 16, capitalDigit n ∈ "%0123456789ABCDEF".toList := by decide
  have hbyte : b.toNat < 256 := b.toNat_lt
  simp only [encodeByte, List.mem_cons, List.not_mem_nil, or_false] at h
  rcases h with rfl | rfl | rfl
  · decide
  · exact hdigits _ (List.mem_range.mpr (by omega))
  · exact hdigits _ (List.mem_range.mpr (by omega))

variable {needs : Char → Bool} {text : List Char}

/-- An encoded text is made of what need not be encoded and of escapes. -/
theorem mem_encode {c : Char} (h : c ∈ encode needs text) :
    (c ∈ text ∧ needs c = false) ∨ c ∈ "%0123456789ABCDEF".toList := by
  obtain ⟨d, hd, hc⟩ := List.mem_flatMap.mp h
  split at hc
  · obtain ⟨b, -, hb⟩ := List.mem_flatMap.mp hc
    exact .inr (mem_of_mem_encodeByte hb)
  · rename_i hneeds
    obtain rfl := List.mem_singleton.mp hc
    exact .inl ⟨hd, Bool.not_eq_true _ ▸ hneeds⟩

/-- An encoded text holds nothing that would be encoded. -/
theorem not_needs_of_mem_encode (hspares : SparesEscapes needs) {c : Char}
    (h : c ∈ encode needs text) : needs c = false := by
  rcases mem_encode h with hplain | hescape
  · exact hplain.2
  · exact hspares c hescape

theorem encode_eq_self (h : ∀ c ∈ text, needs c = false) : encode needs text = text := by
  unfold encode
  induction text with
  | nil => rfl
  | cons c rest ih =>
    rw [List.flatMap_cons, ih fun d hd => h d (List.mem_cons_of_mem _ hd),
      h c List.mem_cons_self]
    rfl

/-- Encoding a text twice is encoding it once. -/
theorem encode_encode (hspares : SparesEscapes needs) :
    encode needs (encode needs text) = encode needs text :=
  encode_eq_self fun _ hc => not_needs_of_mem_encode hspares hc

/-! ## Decoding -/

theorem decodeBytes_of_plain (h : '%' ∉ text) :
    decodeBytes text = text.flatMap String.utf8EncodeChar := by
  induction text with
  | nil => rfl
  | cons c rest ih =>
    rw [List.mem_cons, not_or] at h
    rw [List.flatMap_cons, ← ih h.2]
    rw [decodeBytes]
    exact fun _ _ _ heq => absurd heq.symm h.1

theorem readAll_of_ascii (h : ∀ c ∈ text, Text.isAscii c = true) :
    Text.Utf8.readAll none (text.flatMap String.utf8EncodeChar) = text := by
  induction text with
  | nil => rfl
  | cons c rest ih =>
    have hc : c.toNat < 128 := of_decide_eq_true (h c List.mem_cons_self)
    have hbytes : String.utf8EncodeChar c = [UInt8.ofNat c.toNat] :=
      if_pos (Nat.le_of_lt_succ hc)
    have hbyte : (UInt8.ofNat c.toNat).toNat = c.toNat := by
      rw [UInt8.toNat_ofNat', Nat.mod_eq_of_lt (by omega)]
    rw [List.flatMap_cons, hbytes, List.singleton_append, Text.Utf8.readAll, hbyte,
      Text.Utf8.read, Text.Utf8.begin, if_pos hc, Char.ofNat_toNat]
    exact congrArg (c :: ·) (ih fun d hd => h d (List.mem_cons_of_mem _ hd))

theorem decode_eq_self (hascii : ∀ c ∈ text, Text.isAscii c = true) (hplain : '%' ∉ text) :
    decode text = text := by
  rw [decode, decodeBytes_of_plain hplain]
  exact readAll_of_ascii hascii

end BoundedCrawl.Url
