import BoundedCrawl.Domain.Bootstring
import BoundedCrawl.Proofs.Text.Pieces
import Mathlib.Data.List.Nodup
set_option autoImplicit false

/-!
# The name of a label stands for the label

Writing and reading go through the same places in the same order: through the code points that
the label has, from the lowest to the highest, and for each through the label from left to
right.  Between two insertions the writer counts how many places it passes, and the reader, who
sees only what has been inserted, finds the next place by dividing that count (`Sync.way`).  So
at every insertion the two have the same text, up to the characters that are still to come
(`Sync.text`), and at the end it is the whole label.
-/

namespace BoundedCrawl.Domain.Bootstring

/-! ## Digits -/

theorem threshold_le (k bias : Nat) : threshold k bias ≤ 26 := by
  unfold threshold
  split <;> omega

theorem digit?_digitOf {d : Nat} (h : d < 36) : digit? (digitOf d) = some d := by
  have hall : ∀ e ∈ List.range 36, digit? (digitOf e) = some e := by decide
  exact hall d (List.mem_range.mpr h)

theorem digitOf_spelling {d : Nat} (h : d < 36) :
    digitOf d ≠ '-' ∧ digitOf d ≠ '.' ∧ Text.isAscii (digitOf d) = true ∧
      (digitOf d).toLower = digitOf d := by
  have hall : ∀ e ∈ List.range 36, digitOf e ≠ '-' ∧ digitOf e ≠ '.' ∧
      Text.isAscii (digitOf e) = true ∧ (digitOf e).toLower = digitOf e := by decide
  exact hall d (List.mem_range.mpr h)

theorem exists_digit_of_mem_writeNumber {q k bias : Nat} {c : Char}
    (h : c ∈ writeNumber q k bias) :
    ∃ d < 36, c = digitOf d := by
  induction q using Nat.strongRecOn generalizing k with
  | _ q ih =>
    have hpos := threshold_pos k bias
    have hle := threshold_le k bias
    rw [writeNumber] at h
    split at h
    · exact ⟨q, by omega, List.mem_singleton.mp h⟩
    · rcases List.mem_cons.mp h with rfl | hrest
      · have hmod := Nat.mod_lt (q - threshold k bias) (show 0 < 36 - threshold k bias by omega)
        exact ⟨_, by omega, rfl⟩
      · have hdiv : (q - threshold k bias) / (36 - threshold k bias) ≤ q - threshold k bias :=
          Nat.div_le_self _ _
        exact ih _ (by omega) hrest

/-- A number is read as it was written, with whatever follows left over. -/
theorem readDigits_writeNumber (p : Progress) (first : Bool) (q k : Nat) (begun : Bool)
    (sum weight : Nat) (rest : List Char) :
    readDigits p first begun sum weight k (writeNumber q k p.bias ++ rest) =
      (p.insert? (sum + q * weight) first).bind fun p =>
        readDigits p false false p.place 1 36 rest := by
  induction q using Nat.strongRecOn generalizing k begun sum weight with
  | _ q ih =>
    have hpos := threshold_pos k p.bias
    have hle := threshold_le k p.bias
    generalize ht : threshold k p.bias = t at hpos hle
    rw [writeNumber, ht]
    by_cases hlast : q < t
    · rw [dif_pos hlast, List.singleton_append, readDigits, digit?_digitOf (by omega)]
      simp only [ht, hlast, if_true]
      cases p.insert? (sum + q * weight) first <;> rfl
    · -- the digit is the remainder above the threshold, and the quotient is written behind it
      obtain ⟨r, hr⟩ : ∃ r, (q - t) % (36 - t) = r := ⟨_, rfl⟩
      obtain ⟨d, hd⟩ : ∃ d, (q - t) / (36 - t) = d := ⟨_, rfl⟩
      have hless : d < q := by
        have hdiv : d ≤ q - t := hd ▸ Nat.div_le_self _ _
        omega
      have hdigit : t + r < 36 := by
        have hmod : r < 36 - t := hr ▸ Nat.mod_lt _ (by omega)
        omega
      have hq : t + r + d * (36 - t) = q := by
        have hdivmod := Nat.mod_add_div' (q - t) (36 - t)
        rw [hr, hd] at hdivmod
        omega
      have hsum : sum + (t + r) * weight + d * (weight * (36 - t)) = sum + q * weight := by
        rw [Nat.mul_left_comm, Nat.mul_comm weight, Nat.add_assoc, ← Nat.add_mul, hq]
      rw [dif_neg hlast]
      simp only [hr, hd]
      rw [List.cons_append, readDigits, digit?_digitOf hdigit]
      simp only [ht, show ¬ t + r < t by omega, if_false]
      rw [ih d hless, hsum]

theorem toNat_ofNat_of_isCharacter {n : Nat} (h : isCharacter n = true) :
    (Char.ofNat n).toNat = n := by
  simp only [isCharacter, Bool.or_eq_true, Bool.and_eq_true, decide_eq_true_eq] at h
  rw [Char.ofNat, dif_pos h]
  rfl

/-! ## Reader and writer in step -/

/-- Reader and writer stand between the same two characters of a label, at the same code
point. -/
structure Sync (point : Nat) (before rest : List Char) (w : Writing) (p : Progress) : Prop where
  text : p.text = before.filter (·.toNat ≤ point) ++ rest.filter (·.toNat < point)
  placed : w.placed = p.text.length
  bias : p.bias = w.bias
  /-- Both count the places from the same one on: code point by code point, and within each from
  left to right. -/
  way : p.point * (w.placed + 1) + p.place + w.delta =
    point * (w.placed + 1) + (before.filter (·.toNat ≤ point)).length

variable {point : Nat} {before rest : List Char} {w : Writing} {p : Progress} {c : Char}

namespace Sync

/-- A character that was placed before is passed. -/
theorem passLower (h : Sync point before (c :: rest) w p) (hc : c.toNat < point) :
    Sync point (before ++ [c]) rest { w with delta := w.delta + 1 } p where
  text := by simp [h.text, hc, Nat.le_of_lt hc]
  placed := h.placed
  bias := h.bias
  way := by
    have hway := h.way
    simp only [List.filter_append, List.filter_cons, List.filter_nil, Nat.le_of_lt hc,
      decide_true, if_true, List.length_append, List.length_singleton]
    omega

theorem passHigher (h : Sync point before (c :: rest) w p) (hc : point < c.toNat) :
    Sync point (before ++ [c]) rest w p where
  text := by simp [h.text, Nat.not_lt.mpr (Nat.le_of_lt hc), Nat.not_le.mpr hc]
  placed := h.placed
  bias := h.bias
  way := by
    have hway := h.way
    simp only [List.filter_append, List.filter_cons, List.filter_nil, Nat.not_le.mpr hc,
      decide_false, Bool.false_eq_true, if_false, List.append_nil]
    exact hway

/-- The reader inserts the character that the writer places. -/
theorem insert (h : Sync point before (c :: rest) w p) (hc : c.toNat = point) :
    ∃ p', p.insert? (p.place + w.delta) w.first = some p' ∧
      Sync point (before ++ [c]) rest ⟨0, w.placed + 1,
        adapt w.delta (w.placed + 1) w.first, false,
        w.digits ++ writeNumber w.delta 36 w.bias⟩ p' := by
  subst hc
  obtain ⟨passed, hpassed⟩ : ∃ passed, before.filter (·.toNat ≤ c.toNat) = passed := ⟨_, rfl⟩
  obtain ⟨later, hlater⟩ : ∃ later, rest.filter (·.toNat < c.toNat) = later := ⟨_, rfl⟩
  have htext : p.text = passed ++ later := by simpa [hpassed, hlater] using h.text
  have hplaced : w.placed = passed.length + later.length := by
    rw [h.placed, htext, List.length_append]
  have hway : p.point * (w.placed + 1) + (p.place + w.delta) =
      c.toNat * (w.placed + 1) + passed.length := by
    rw [← Nat.add_assoc, h.way, hpassed]
  -- the count, divided by the number of places in one code point
  have hpoint : p.point + (p.place + w.delta) / (w.placed + 1) = c.toNat := by
    have hdiv := congrArg (· / (w.placed + 1)) hway
    simp only [Nat.mul_comm _ (w.placed + 1), Nat.mul_add_div (Nat.succ_pos w.placed)] at hdiv
    rwa [Nat.div_eq_of_lt (show passed.length < w.placed + 1 by omega)] at hdiv
  have hplace : (p.place + w.delta) % (w.placed + 1) = passed.length := by
    have hmod := congrArg (· % (w.placed + 1)) hway
    simp only [Nat.mul_comm _ (w.placed + 1), Nat.mul_add_mod] at hmod
    rwa [Nat.mod_eq_of_lt (show passed.length < w.placed + 1 by omega)] at hmod
  have hcharacter : isCharacter c.toNat = true := by
    have hvalid := c.valid
    simp only [isCharacter, Bool.or_eq_true, Bool.and_eq_true, decide_eq_true_eq]
    exact hvalid
  refine ⟨⟨passed ++ c :: later, c.toNat, passed.length + 1,
    adapt w.delta (w.placed + 1) w.first⟩, ?_, ?_⟩
  · rw [Progress.insert?, ← h.placed, hpoint, hplace]
    simp [hcharacter, htext]
  · constructor
    case text => simp [hpassed, hlater]
    case placed => simp [hplaced, Nat.add_assoc]
    case bias => rfl
    case way => simp [hpassed]

end Sync

/-- While the writer passes the rest of the label, it writes digits by which the reader gets
just as far. -/
theorem exists_digits_of_pass (h : Sync point before rest w p) :
    ∃ digits p', (rest.foldl (Writing.pass point) w).digits = w.digits ++ digits ∧
      Sync point (before ++ rest) [] (rest.foldl (Writing.pass point) w) p' ∧
      ∀ more, readDigits p w.first false p.place 1 36 (digits ++ more) =
        readDigits p' (rest.foldl (Writing.pass point) w).first false p'.place 1 36 more := by
  induction rest generalizing before w p with
  | nil => exact ⟨[], p, (List.append_nil _).symm, by rwa [List.append_nil], fun _ => rfl⟩
  | cons c rest ih =>
    rw [List.foldl_cons, show before ++ c :: rest = before ++ [c] ++ rest by simp]
    rcases Nat.lt_trichotomy c.toNat point with hlower | hequal | hhigher
    · rw [show w.pass point c = { w with delta := w.delta + 1 } by simp [Writing.pass, hlower]]
      exact ih (h.passLower hlower)
    · obtain ⟨p₁, hinsert, hsync⟩ := h.insert hequal
      rw [show w.pass point c = _ by rw [Writing.pass, if_neg (by omega), if_pos hequal]]
      obtain ⟨digits, p', hdigits, hsync', hread⟩ := ih hsync
      refine ⟨writeNumber w.delta 36 w.bias ++ digits, p', by rw [hdigits, List.append_assoc],
        hsync', fun more => ?_⟩
      rw [← hread more, List.append_assoc,
        show writeNumber w.delta 36 w.bias = writeNumber w.delta 36 p.bias by rw [h.bias],
        readDigits_writeNumber, Nat.mul_one, hinsert, Option.bind_some]
    · rw [show w.pass point c = w by rw [Writing.pass, if_neg (by omega), if_neg (by omega)]]
      exact ih (h.passHigher hhigher)

/-- The code points from `last` on that the label has are placed in rising order, and then the
reader has the whole label. -/
theorem exists_digits_of_placeAll {label : List Char}
    {points : List Nat} {last : Nat} {w : Writing} {p : Progress}
    (hrising : points.Pairwise (· < ·)) (hlast : ∀ point ∈ points, last ≤ point)
    (hall : ∀ c ∈ label, last ≤ c.toNat → c.toNat ∈ points)
    (htext : p.text = label.filter (·.toNat < last))
    (hplaced : w.placed = p.text.length) (hbias : p.bias = w.bias)
    (hway : p.point * (w.placed + 1) + p.place + w.delta = last * (w.placed + 1)) :
    ∃ digits, placeAll label points last w = w.digits ++ digits ∧
      readDigits p w.first false p.place 1 36 digits = some label := by
  induction points generalizing last w p with
  | nil =>
    have hwhole : label.filter (·.toNat < last) = label :=
      List.filter_eq_self.mpr fun c hc =>
        decide_eq_true (Nat.lt_of_not_le fun hle => List.not_mem_nil (hall c hc hle))
    exact ⟨[], (List.append_nil _).symm, by rw [readDigits, htext, hwhole]; rfl⟩
  | cons point points ih =>
    obtain ⟨hfirst, hrising⟩ := List.pairwise_cons.mp hrising
    have hpoint := hlast point List.mem_cons_self
    obtain ⟨way, hwayto⟩ := Nat.exists_eq_add_of_le hpoint
    -- no character of the label lies between the code points that are placed one after the
    -- other
    have hgap : label.filter (·.toNat < last) = label.filter (·.toNat < point) := by
      refine List.filter_congr fun c hc =>
        decide_eq_decide.mpr ⟨fun h => by omega, fun h => Nat.lt_of_not_le fun hle => ?_⟩
      rcases List.mem_cons.mp (hall c hc hle) with hequal | hlater
      · omega
      · have := hfirst _ hlater
        omega
    have hsync :
        Sync point [] label { w with delta := w.delta + (point - last) * (w.placed + 1) } p :=
      { text := htext.trans hgap
        placed := hplaced
        bias := hbias
        way := by
          subst hwayto
          simp only [Nat.add_sub_cancel_left, List.filter_nil, List.length_nil, Nat.add_zero,
            Nat.add_mul]
          omega }
    obtain ⟨digits, p', hdigits, hsync', hread⟩ := exists_digits_of_pass hsync
    generalize hpassed : label.foldl (Writing.pass point)
      { w with delta := w.delta + (point - last) * (w.placed + 1) } = w' at hdigits hsync' hread
    obtain ⟨text', placed', bias', way'⟩ := hsync'
    simp only [List.nil_append, List.filter_nil, List.append_nil] at text' way'
    have hrest : ∃ more, placeAll label points (point + 1) { w' with delta := w'.delta + 1 } =
        w'.digits ++ more ∧ readDigits p' w'.first false p'.place 1 36 more = some label := by
      apply ih hrising hfirst
      · exact fun c hc hle => List.mem_of_ne_of_mem (by omega) (hall c hc (by omega))
      · exact text'.trans
          (List.filter_congr fun c _ => decide_eq_decide.mpr Nat.lt_succ_iff.symm)
      · exact placed'
      · exact bias'
      · simp only [text', Nat.succ_mul] at placed' way' ⊢
        omega
    obtain ⟨more, hmore, hreadmore⟩ := hrest
    refine ⟨digits ++ more, ?_, (hread more).trans hreadmore⟩
    rw [placeAll, hpassed, hmore, hdigits, List.append_assoc]

/-! ## Whole labels -/

theorem nodup_eraseDups (l : List Nat) : l.eraseDups.Nodup := by
  induction hn : l.length using Nat.strongRecOn generalizing l with
  | _ n ih =>
    cases l with
    | nil => exact List.nodup_nil
    | cons a l =>
      rw [List.eraseDups_cons]
      refine List.nodup_cons.mpr ⟨?_, ih _ ?_ _ rfl⟩
      · simp
      · rw [← hn]
        exact Nat.lt_succ_of_le (List.length_filter_le _ l)

theorem mem_pointsOf {label : List Char} {n : Nat} :
    n ∈ pointsOf label ↔ 128 ≤ n ∧ ∃ c ∈ label, c.toNat = n := by
  simp only [pointsOf, List.mem_mergeSort, List.mem_eraseDups, List.mem_filterMap,
    Option.ite_none_left_eq_some, Option.some.injEq, Nat.not_lt]
  constructor
  · rintro ⟨c, hc, hle, rfl⟩
    exact ⟨hle, c, hc, rfl⟩
  · rintro ⟨hle, c, hc, rfl⟩
    exact ⟨c, hc, hle, rfl⟩

theorem pairwise_pointsOf (label : List Char) : (pointsOf label).Pairwise (· < ·) := by
  have hsorted : (pointsOf label).Pairwise (· ≤ ·) := by
    have hsort : ((pointsOf label).Pairwise fun a b => decide (a ≤ b) = true) :=
      List.pairwise_mergeSort (fun _ _ _ => by simpa using Nat.le_trans)
        (fun a b => by simpa using Nat.le_total a b) _
    simpa using hsort
  have hnodup : (pointsOf label).Nodup :=
    (List.mergeSort_perm _ _).nodup_iff.mpr (nodup_eraseDups _)
  exact hsorted.imp₂ (fun _ _ hle hne => Nat.lt_of_le_of_ne hle hne) hnodup

theorem exists_digit_of_mem_pass {point : Nat} {rest : List Char} {w : Writing} {c : Char}
    (h : c ∈ (rest.foldl (Writing.pass point) w).digits) :
    c ∈ w.digits ∨ ∃ d < 36, c = digitOf d := by
  induction rest generalizing w with
  | nil => exact .inl h
  | cons e rest ih =>
    rcases ih h with hpassed | hdigit
    · rw [Writing.pass] at hpassed
      split at hpassed
      · exact .inl hpassed
      · split at hpassed
        · exact (List.mem_append.mp hpassed).imp_right exists_digit_of_mem_writeNumber
        · exact .inl hpassed
    · exact .inr hdigit

theorem exists_digit_of_mem_placeAll {label : List Char} {points : List Nat} {last : Nat}
    {w : Writing} {c : Char} (h : c ∈ placeAll label points last w) :
    c ∈ w.digits ∨ ∃ d < 36, c = digitOf d := by
  induction points generalizing last w with
  | nil => exact .inl h
  | cons point points ih => exact (ih h).elim exists_digit_of_mem_pass .inr

/-- A name is made of the ASCII characters of its label, a hyphen and digits. -/
theorem mem_encode {label : List Char} {c : Char} (h : c ∈ encode label) :
    (c ∈ label ∧ Text.isAscii c = true) ∨ c = '-' ∨ ∃ d < 36, c = digitOf d := by
  rcases List.mem_append.mp h with hbasic | hdigits
  · split at hbasic
    · cases hbasic
    · rcases List.mem_append.mp hbasic with hlabel | hhyphen
      · exact .inl (List.mem_filter.mp hlabel)
      · exact .inr (.inl (List.mem_singleton.mp hhyphen))
  · exact .inr (.inr ((exists_digit_of_mem_placeAll hdigits).resolve_left List.not_mem_nil))

theorem splitAtLastHyphen_of_notMem {digits : List Char} (h : '-' ∉ digits) :
    splitAtLastHyphen digits = ([], digits) := by
  simp only [splitAtLastHyphen, Text.span_reverse_of_notMem h, List.reverse_reverse]

theorem splitAtLastHyphen_append {basic digits : List Char} (h : '-' ∉ digits) :
    splitAtLastHyphen (basic ++ '-' :: digits) = (basic, digits) := by
  simp only [splitAtLastHyphen, Text.span_reverse_append h, List.reverse_reverse]

theorem mem_of_mem_splitAtLastHyphen {name : List Char} {c : Char}
    (h : c ∈ (splitAtLastHyphen name).1) : c ∈ name := by
  obtain ⟨tail, rest, hspan⟩ : ∃ tail rest, name.reverse.span (· ≠ '-') = (tail, rest) :=
    ⟨_, _, rfl⟩
  have hname : tail ++ rest = name.reverse := by
    rw [List.span_eq_takeWhile_dropWhile, Prod.mk.injEq] at hspan
    rw [← hspan.1, ← hspan.2, List.takeWhile_append_dropWhile]
  rw [splitAtLastHyphen, hspan] at h
  cases rest with
  | nil => cases h
  | cons hyphen rest =>
    rw [← List.mem_reverse, ← hname]
    exact List.mem_append_right _ (List.mem_cons_of_mem _ (List.mem_reverse.mp h))

theorem Progress.insert?_eq_some {p p' : Progress} {sum : Nat} {first : Bool}
    (h : p.insert? sum first = some p') :
    p.point ≤ p'.point ∧ ∀ {c}, c ∈ p'.text → c ∈ p.text ∨ c.toNat = p'.point := by
  rw [Progress.insert?] at h
  simp only [Option.ite_none_right_eq_some, Option.some.injEq] at h
  obtain ⟨hcharacter, rfl⟩ := h
  refine ⟨Nat.le_add_right _ _, fun {c} hc => ?_⟩
  rcases List.mem_append.mp hc with htake | hrest
  · exact .inl (List.mem_of_mem_take htake)
  · rcases List.mem_cons.mp hrest with rfl | hdrop
    · exact .inr (toNat_ofNat_of_isCharacter hcharacter)
    · exact .inl (List.mem_of_mem_drop hdrop)

theorem mem_of_readDigits {p : Progress} {first begun : Bool} {sum weight k : Nat}
    {digits label : List Char} {c : Char} (hpoint : 128 ≤ p.point)
    (h : readDigits p first begun sum weight k digits = some label) (hc : c ∈ label) :
    c ∈ p.text ∨ 128 ≤ c.toNat := by
  induction digits generalizing p first begun sum weight k with
  | nil =>
    rw [readDigits] at h
    split at h
    · cases h
    · exact .inl (Option.some.inj h ▸ hc)
  | cons digit digits ih =>
    rw [readDigits] at h
    split at h
    · cases h
    · simp only at h
      split at h
      · split at h
        · cases h
        · rename_i p' hinsert
          obtain ⟨hreached, hinserted⟩ := Progress.insert?_eq_some hinsert
          rcases ih (by omega) h with hplaced | hforeign
          · exact (hinserted hplaced).imp_right fun heq => by omega
          · exact .inr hforeign
      · exact ih hpoint h

theorem mem_of_decode? {name label : List Char} {c : Char} (h : decode? name = some label)
    (hc : c ∈ label) :
    c ∈ name ∨ 128 ≤ c.toNat := by
  simp only [decode?, Option.ite_none_right_eq_some] at h
  exact (mem_of_readDigits (Nat.le_refl 128) h.2 hc).imp_left mem_of_mem_splitAtLastHyphen

/-- The name of a label stands for the label. -/
theorem decode?_encode (label : List Char) : decode? (encode label) = some label := by
  obtain ⟨basic, hbasic⟩ : ∃ basic, label.filter Text.isAscii = basic := ⟨_, rfl⟩
  obtain ⟨digits, hwritten, hread⟩ : ∃ digits,
      placeAll label (pointsOf label) 128 ⟨0, basic.length, 72, true, []⟩ = [] ++ digits ∧
        readDigits ⟨basic, 128, 0, 72⟩ true false 0 1 36 digits = some label := by
    apply exists_digits_of_placeAll (pairwise_pointsOf label)
    · exact fun _ hpoint => (mem_pointsOf.mp hpoint).1
    · exact fun c hc hle => mem_pointsOf.mpr ⟨hle, c, hc, rfl⟩
    · exact hbasic.symm
    · rfl
    · rfl
    · simp
  have hplain : '-' ∉ digits := fun hmem => by
    have hplaced : '-' ∈ placeAll label (pointsOf label) 128 ⟨0, basic.length, 72, true, []⟩ :=
      hwritten ▸ hmem
    obtain ⟨d, hd, heq⟩ := (exists_digit_of_mem_placeAll hplaced).resolve_left List.not_mem_nil
    exact (digitOf_spelling hd).1 heq.symm
  have hsplit : splitAtLastHyphen (encode label) = (basic, digits) := by
    simp only [encode, hbasic, hwritten, List.nil_append]
    cases basic with
    | nil => exact splitAtLastHyphen_of_notMem hplain
    | cons c basic =>
      rw [← splitAtLastHyphen_append hplain]
      simp
  have hascii : basic.all Text.isAscii = true :=
    List.all_eq_true.mpr fun c hc => (List.mem_filter.mp (hbasic ▸ hc)).2
  rw [decode?, hsplit]
  simp only [hascii, if_true]
  exact hread

end BoundedCrawl.Domain.Bootstring
