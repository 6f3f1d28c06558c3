import BoundedCrawl.Proofs.Domain.Names
import BoundedCrawl.Proofs.Hosts.Addresses
import BoundedCrawl.Proofs.Url.Percent
set_option autoImplicit false

/-!
# A host is read as it is written

However a host of a scheme with domain names was typed, what is read from it is settled
(`isSettled_of_readDomain`), and a settled host is read from its own writing
(`readDomain_toText`).  An address goes the same way as a name on that path: its digits and dots
are a domain name first, and only then an address.
-/

namespace BoundedCrawl.Host

/-- A host as it stands in a URL: a name that is looked up as it is and is no address, or an
address that fits its bytes. -/
def IsSettled : Host → Prop
  | name text => (∃ labels, Domain.IsName labels text) ∧ text ≠ [] ∧ endsInNumber text = false
  | ipv4 address => address < 4294967296
  | ipv6 pieces => pieces.length = 8 ∧ ∀ piece ∈ pieces, piece < 65536

/-! ## An address as a name -/

theorem digit_standing {c : Char} {n : Nat} (h : c ∈ Nat.toDigits 10 n) :
    Text.isAscii c = true ∧ Domain.isSettled c = true ∧ Domain.isForbidden c = false := by
  have hall : ∀ d ∈ List.range 10, Text.isAscii (Nat.digitChar d) = true ∧
      (Nat.digitChar d).toLower = Nat.digitChar d ∧
      Domain.isForbidden (Nat.digitChar d) = false := by decide
  obtain ⟨d, hd, rfl⟩ := Text.exists_digit_of_mem_toDigits (by decide) h
  obtain ⟨hascii, hsmall, hfree⟩ := hall d (List.mem_range.mpr hd)
  exact ⟨hascii, (Domain.isSettled_iff_of_isAscii hascii).mpr hsmall, hfree⟩

theorem all_isAscii_toDigits (n : Nat) : (Nat.toDigits 10 n).all Text.isAscii = true :=
  List.all_eq_true.mpr fun _ hc => (digit_standing hc).1

theorem isLabel_toDigits (n : Nat) : Domain.IsLabel (Nat.toDigits 10 n) := by
  apply Domain.IsLabel.of_ascii
  · exact fun _ hc => ⟨(digit_standing hc).1, (digit_standing hc).2.1⟩
  · exact notMem_toDigits (by decide) (by decide) n (by decide)
  · rintro ⟨rest, hrest⟩
    have hx : 'x' ∉ Nat.toDigits 10 n := notMem_toDigits (by decide) (by decide) n (by decide)
    exact hx (hrest ▸ List.mem_append_left rest (by decide))

/-- The writing of an address is a name. -/
theorem isName_ipv4Text (address : Nat) :
    Domain.IsName (ipv4Parts address) (ipv4Text address) := by
  have hparts : ∀ part ∈ ipv4Parts address, ∃ n, part = Nat.toDigits 10 n :=
    fun part hpart => by
    obtain ⟨n, -, rfl⟩ := List.mem_map.mp hpart
    exact ⟨n, rfl⟩
  constructor
  case labels_ne_nil => exact List.cons_ne_nil _ _
  case isLabel =>
    intro part hpart
    obtain ⟨n, rfl⟩ := hparts part hpart
    exact isLabel_toDigits n
  case direction =>
    have hnone : (ipv4Parts address).any Domain.runsLeft = false := by
      refine List.any_eq_false.mpr fun part hpart => ?_
      obtain ⟨n, rfl⟩ := hparts part hpart
      rw [Domain.runsLeft_of_ascii (all_isAscii_toDigits n)]
      exact Bool.false_ne_true
    rw [hnone, Bool.false_and]
  case written =>
    have hwritten : (ipv4Parts address).map Domain.writeLabel = ipv4Parts address := by
      refine (List.map_congr_left fun part hpart => ?_).trans (List.map_id _)
      obtain ⟨n, rfl⟩ := hparts part hpart
      exact if_pos (all_isAscii_toDigits n)
    rw [hwritten]
    rfl
  case free =>
    refine List.any_eq_false.mpr fun c hc => ?_
    rw [Bool.not_eq_true]
    rcases Text.mem_joinWith hc with rfl | ⟨part, hpart, hc⟩
    · decide
    · obtain ⟨n, rfl⟩ := hparts part hpart
      exact (digit_standing hc).2.2

/-! ## Reading -/

theorem isSettled_of_readDomain {text : List Char} {host : Host}
    (h : readDomain text = .ok host) : host.IsSettled := by
  unfold readDomain at h
  split at h
  · rename_i read hbracketed
    subst h
    unfold bracketed? at hbracketed
    split at hbracketed
    · split at hbracketed
      · split at hbracketed
        · rename_i pieces hpieces
          simp only [Option.some.injEq, Except.ok.injEq] at hbracketed
          subst hbracketed
          exact isAddress_of_ipv6Address? hpieces
        · cases hbracketed
      · cases hbracketed
    · cases hbracketed
  · split at h
    · cases h
    · cases h
    · rename_i domain hnonempty hdomain
      split at h
      · split at h
        · rename_i address haddress
          obtain rfl := Except.ok.inj h
          exact lt_of_ipv4Address? haddress
        · cases h
      · rename_i hnumber
        obtain rfl := Except.ok.inj h
        exact ⟨Domain.exists_isName_of_toAscii? hdomain, fun hempty => hnonempty (hempty ▸ rfl),
          Bool.not_eq_true _ ▸ hnumber⟩

theorem ipv4Text_ne_nil (address : Nat) : ipv4Text address ≠ [] := fun hempty => by
  have hnumber := endsInNumber_ipv4Text address
  rw [hempty] at hnumber
  exact absurd hnumber (by decide)

theorem bracketed?_of_isName {labels : List (List Char)} {text : List Char}
    (h : Domain.IsName labels text) :
    bracketed? text = none := by
  unfold bracketed?
  split
  · exact absurd (h.isForbidden_of_mem List.mem_cons_self) (by decide)
  · rfl

/-- A name is found as it is written, and is an address if it ends in a number. -/
theorem readDomain_of_isName {labels : List (List Char)} {text : List Char}
    (h : Domain.IsName labels text) (hnonempty : text ≠ []) :
    readDomain text =
      if endsInNumber text then
        match ipv4Address? text with
        | some address => .ok (ipv4 address)
        | none => .error .ipv4
      else .ok (name text) := by
  have hplain : '%' ∉ text := fun hpercent => absurd (h.isForbidden_of_mem hpercent) (by decide)
  have hfound : Domain.toAscii? (Url.decode text) = some text := by
    rw [Url.decode_eq_self (fun c hc => (h.isSettled_of_mem hc).1) hplain, h.toAscii?_eq]
  obtain ⟨c, rest, rfl⟩ := List.exists_cons_of_ne_nil hnonempty
  cases haddress : ipv4Address? (c :: rest) <;>
    simp only [readDomain, bracketed?_of_isName h, hfound, haddress]

/-- A host is read as it is written. -/
theorem readDomain_toText {host : Host} (h : host.IsSettled) :
    readDomain host.toText = .ok host := by
  cases host with
  | name text =>
    obtain ⟨⟨labels, hname⟩, hnonempty, hnumber⟩ := h
    rw [toText, readDomain_of_isName hname hnonempty, hnumber]
    rfl
  | ipv4 address =>
    rw [toText, readDomain_of_isName (isName_ipv4Text address) (ipv4Text_ne_nil address),
      endsInNumber_ipv4Text, if_pos rfl, ipv4Address?_ipv4Text h]
  | ipv6 pieces =>
    have hbracketed : bracketed? (toText (ipv6 pieces)) = some (.ok (ipv6 pieces)) := by
      simp [toText, bracketed?, ipv6Address?_ipv6Text h.1 h.2]
    rw [readDomain, hbracketed]

/-! ## Characters -/

/-- A host holds no character that a domain may not hold, apart from the colons and brackets of
an address. -/
theorem mem_toText {host : Host} (h : host.IsSettled) {c : Char} (hc : c ∈ host.toText) :
    (Text.isAscii c = true ∧ Domain.isForbidden c = false) ∨ c ∈ [':', '[', ']'] := by
  cases host with
  | name text =>
    obtain ⟨⟨labels, hname⟩, -, -⟩ := h
    exact .inl ⟨(hname.isSettled_of_mem hc).1, hname.isForbidden_of_mem hc⟩
  | ipv4 address =>
    have hname := isName_ipv4Text address
    exact .inl ⟨(hname.isSettled_of_mem hc).1, hname.isForbidden_of_mem hc⟩
  | ipv6 pieces =>
    rcases List.mem_cons.mp hc with rfl | hc
    · exact .inr (by decide)
    · rcases List.mem_append.mp hc with hpieces | hclose
      · rcases mem_ipv6Text hpieces with rfl | ⟨d, hd, rfl⟩
        · exact .inr (by decide)
        · have hall : ∀ e ∈ List.range 16, Text.isAscii (Nat.digitChar e) = true ∧
              Domain.isForbidden (Nat.digitChar e) = false := by
            decide
          exact .inl (hall d (List.mem_range.mpr hd))
      · obtain rfl := List.mem_singleton.mp hclose
        exact .inr (by decide)

theorem toText_ne_nil {host : Host} (h : host.IsSettled) : host.toText ≠ [] := by
  cases host with
  | name text => exact h.2.1
  | ipv4 address => exact ipv4Text_ne_nil address
  | ipv6 pieces => exact List.cons_ne_nil _ _

end BoundedCrawl.Host
