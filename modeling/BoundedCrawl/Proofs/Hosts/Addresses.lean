import BoundedCrawl.Url.Host
import BoundedCrawl.Proofs.Text.Numbers
import BoundedCrawl.Proofs.Text.Pieces
set_option autoImplicit false

/-!
# Addresses are read as they are written

An address can be typed in many ways and is written in one.  What is read fits its bytes or
pieces (`lt_of_ipv4Address?`, `isAddress_of_ipv6Address?`), and whatever fits is read back from
its writing (`ipv4Address?_ipv4Text`, `ipv6Address?_ipv6Text`).  In a writing of eight pieces
the gap stands for the zeros of one run, so it takes away what it gives back, wherever the run
is.
-/

namespace BoundedCrawl.Host

/-! ## Addresses of four bytes -/

theorem ipv4Part?_toDigits (n : Nat) : ipv4Part? (Nat.toDigits 10 n) = some n := by
  rcases Nat.eq_zero_or_pos n with rfl | hn
  · rfl
  · obtain ⟨c, rest, hdigits⟩ :=
      List.exists_cons_of_ne_nil (Nat.toDigits_ne_nil (n := n) (b := 10))
    have hzero : c ≠ '0' := fun h =>
      Text.head?_toDigits_ne_zero (by decide : 1 < 10) (by decide) hn (by rw [hdigits, h]; rfl)
    have hall := Text.all_isDigit_toDigits n
    have hnumber := Text.readNumber_toDigits (by decide : 1 < 10) (by decide) n
    rw [hdigits] at hall hnumber ⊢
    unfold ipv4Part?
    split <;> simp_all

theorem notMem_toDigits {base : Nat} (hbase : 1 < base) (hle : base ≤ 16) (n : Nat)
    {mark : Char} (hmark : Text.isHexDigit mark = false) : mark ∉ Nat.toDigits base n := by
  intro hmem
  obtain ⟨d, hd, rfl⟩ := Text.exists_digit_of_mem_toDigits hbase hmem
  rw [(Text.digit_spelling (by omega : d < 16)).2.1] at hmark
  cases hmark

/-- The parts of an address as they are written. -/
def ipv4Parts (address : Nat) : List (List Char) :=
  [address / 16777216 % 256, address / 65536 % 256, address / 256 % 256, address % 256].map
    (Nat.toDigits 10)

theorem dotted_ipv4Text (address : Nat) : dotted (ipv4Text address) = ipv4Parts address := by
  have hpieces : Text.pieces '.' (ipv4Text address) = ipv4Parts address := by
    refine Text.pieces_joinWith (List.cons_ne_nil _ _) fun part hpart => ?_
    obtain ⟨n, -, rfl⟩ := List.mem_map.mp hpart
    exact notMem_toDigits (by decide) (by decide) n (by decide)
  rw [dotted, hpieces]
  simp [ipv4Parts]

theorem endsInNumber_ipv4Text (address : Nat) : endsInNumber (ipv4Text address) = true := by
  rw [endsInNumber, dotted_ipv4Text]
  simp [ipv4Parts, ipv4Part?_toDigits]

/-- An address is read as it is written. -/
theorem ipv4Address?_ipv4Text {address : Nat} (h : address < 4294967296) :
    ipv4Address? (ipv4Text address) = some address := by
  have hnumbers : (ipv4Parts address).mapM ipv4Part? = some [address / 16777216 % 256,
      address / 65536 % 256, address / 256 % 256, address % 256] := by
    simp [ipv4Parts, ipv4Part?_toDigits]
  have hcount : (ipv4Parts address).length = 4 := rfl
  rw [ipv4Address?, dotted_ipv4Text, hnumbers]
  simp [hcount]
  omega

theorem foldl_bytes_lt {bytes : List Nat} (hbytes : ∀ b ∈ bytes, b ≤ 255) (n : Nat) :
    bytes.foldl (fun n b => n * 256 + b) n < (n + 1) * 256 ^ bytes.length := by
  induction bytes generalizing n with
  | nil => simp
  | cons b bytes ih =>
    have hb := hbytes b List.mem_cons_self
    have hrest := ih (fun c hc => hbytes c (List.mem_cons_of_mem _ hc)) (n * 256 + b)
    rw [List.foldl_cons, List.length_cons, Nat.pow_succ']
    calc _ < (n * 256 + b + 1) * 256 ^ bytes.length := hrest
      _ ≤ (n + 1) * 256 * 256 ^ bytes.length := Nat.mul_le_mul_right _ (by omega)
      _ = _ := Nat.mul_assoc ..

/-- What is read as an address fits four bytes. -/
theorem lt_of_ipv4Address? {name : List Char} {address : Nat}
    (h : ipv4Address? name = some address) : address < 4294967296 := by
  simp only [ipv4Address?, Option.ite_none_left_eq_some] at h
  obtain ⟨hcount, h⟩ := h
  split at h
  · cases h
  · rename_i numbers hnumbers
    have hlength : numbers.length = (dotted name).length := by
      simpa using congrArg List.length (Text.mapM_eq_some_iff.mp hnumbers).symm
    split at h
    · cases h
    · rename_i last others hreverse
      simp only [Option.ite_none_left_eq_some, Bool.or_eq_true,
        List.any_eq_true, decide_eq_true_eq, not_or, not_exists, not_and,
        Option.some.injEq, Nat.not_lt, Nat.not_le, Nat.pow_eq] at h
      obtain ⟨⟨hbytes, hlast⟩, rfl⟩ := h
      have hothers : others.reverse.length ≤ 3 := by
        have hreversed := congrArg List.length hreverse
        simp only [List.length_reverse, List.length_cons] at hreversed ⊢
        omega
      generalize others.reverse = leading at *
      have hfront := foldl_bytes_lt hbytes 0
      generalize leading.foldl (fun n b => n * 256 + b) 0 = front at *
      calc front * 256 ^ (4 - leading.length) + last
          < (front + 1) * 256 ^ (4 - leading.length) := by rw [Nat.succ_mul]; omega
        _ ≤ 256 ^ leading.length * 256 ^ (4 - leading.length) := Nat.mul_le_mul_right _ (by omega)
        _ = 4294967296 := by
          rw [← Nat.pow_add, show leading.length + (4 - leading.length) = 4 by omega]

/-! ## Addresses of eight pieces -/

theorem ipv6Piece?_toDigits {piece : Nat} (h : piece < 65536) :
    ipv6Piece? (Nat.toDigits 16 piece) = some piece := by
  have hlength : (Nat.toDigits 16 piece).length ≤ 4 :=
    (Nat.length_toDigits_le_iff (by decide) (by decide)).mpr h
  have hempty : (Nat.toDigits 16 piece).isEmpty = false :=
    List.isEmpty_eq_false_iff.mpr Nat.toDigits_ne_nil
  rw [ipv6Piece?, hempty, Text.all_isHexDigit_toDigits,
    Text.readNumber_toDigits (by decide) (by decide)]
  simp [Nat.not_lt.mpr hlength]

theorem ipv6Last?_toDigits {piece : Nat} (h : piece < 65536) :
    ipv6Last? (Nat.toDigits 16 piece) = some [piece] := by
  have hdot : (Nat.toDigits 16 piece).contains '.' = false := by
    simpa using notMem_toDigits (by decide : 1 < 16) (by decide) piece
      (by decide : Text.isHexDigit '.' = false)
  rw [ipv6Last?, hdot, ipv6Piece?_toDigits h]
  rfl

/-- Pieces as they are written, with a colon between them. -/
def writePieces (pieces : List Nat) : List Char :=
  Text.joinWith ':' (pieces.map (Nat.toDigits 16))

theorem pieces_writePieces {pieces : List Nat} (h : pieces ≠ []) :
    Text.pieces ':' (writePieces pieces) = pieces.map (Nat.toDigits 16) := by
  refine Text.pieces_joinWith (by simpa using h) fun part hpart => ?_
  obtain ⟨n, -, rfl⟩ := List.mem_map.mp hpart
  exact notMem_toDigits (by decide) (by decide) n (by decide)

/-- Pieces are read as they are written, at the end of an address and before it. -/
theorem ipv6Pieces?_writePieces {pieces : List Nat} (h : ∀ piece ∈ pieces, piece < 65536)
    (ends : Bool) :
    ipv6Pieces? ends (writePieces pieces) = some pieces := by
  by_cases hnone : pieces = []
  · subst hnone
    rfl
  · obtain ⟨front, last, rfl⟩ : ∃ front last, pieces = front ++ [last] :=
      ⟨_, _, (List.dropLast_concat_getLast hnone).symm⟩
    have hparts :=
      pieces_writePieces (List.append_ne_nil_of_right_ne_nil front (List.cons_ne_nil last []))
    have htext : (writePieces (front ++ [last])).isEmpty = false := by
      refine List.isEmpty_eq_false_iff.mpr fun hempty => ?_
      rw [hempty] at hparts
      obtain ⟨n, -, hdigits⟩ : ∃ n ∈ front ++ [last], Nat.toDigits 16 n = [] :=
        List.mem_map.mp (hparts ▸ List.mem_singleton_self [])
      exact Nat.toDigits_ne_nil hdigits
    have hfront : (front.map (Nat.toDigits 16)).mapM ipv6Piece? = some front := by
      rw [Text.mapM_eq_some_iff, List.map_map]
      exact List.map_congr_left fun piece hpiece =>
        ipv6Piece?_toDigits (h piece (List.mem_append_left _ hpiece))
    have hlast := h last (List.mem_append_right _ (List.mem_singleton_self last))
    rw [ipv6Pieces?, htext, hparts]
    simp only [List.map_append, List.map_cons, List.map_nil, List.dropLast_concat,
      List.getLast?_concat, Option.getD_some, hfront, ipv6Last?_toDigits hlast,
      ipv6Piece?_toDigits hlast, Option.map_some, Bool.false_eq_true, if_false, ite_self]

theorem splitAtGap_append {part rest : List Char} (h : ':' ∉ part) :
    splitAtGap (part ++ rest) = (splitAtGap rest).map fun (before, after) =>
      (part ++ before, after) := by
  induction part with
  | nil => simp
  | cons c part ih =>
    rw [List.mem_cons, not_or] at h
    rw [List.cons_append, splitAtGap, ih h.2, Option.map_map]
    · rfl
    · exact fun _ hc _ => absurd hc.symm h.1

theorem exists_cons_writePieces (piece : Nat) (more : List Nat) :
    ∃ c rest, writePieces (piece :: more) = c :: rest ∧ c ≠ ':' := by
  obtain ⟨c, digits, hdigits⟩ :=
    List.exists_cons_of_ne_nil (Nat.toDigits_ne_nil (n := piece) (b := 16))
  have hcolon :=
    notMem_toDigits (by decide : 1 < 16) (by decide) piece
      (by decide : Text.isHexDigit ':' = false)
  rw [hdigits, List.mem_cons, not_or] at hcolon
  cases more with
  | nil => exact ⟨c, digits, hdigits, Ne.symm hcolon.1⟩
  | cons next more =>
    refine ⟨c, digits ++ ':' :: writePieces (next :: more), ?_, Ne.symm hcolon.1⟩
    rw [← List.cons_append, ← hdigits]
    rfl

theorem splitAtGap_writePieces (pieces : List Nat) (rest : List Char) :
    splitAtGap (writePieces pieces ++ rest) =
      (splitAtGap rest).map fun (before, after) => (writePieces pieces ++ before, after) := by
  induction pieces with
  | nil => simp [writePieces, Text.joinWith]
  | cons piece more ih =>
    have hplain :=
      notMem_toDigits (by decide : 1 < 16) (by decide) piece
        (by decide : Text.isHexDigit ':' = false)
    cases more with
    | nil => exact splitAtGap_append hplain
    | cons next more =>
      -- the colon between two pieces is followed by a digit
      have hcolon : splitAtGap (':' :: (writePieces (next :: more) ++ rest)) =
          (splitAtGap (writePieces (next :: more) ++ rest)).map fun (before, after) =>
          (':' :: before, after) := by
        obtain ⟨c, text, htext, hc⟩ := exists_cons_writePieces next more
        rw [htext, List.cons_append, splitAtGap]
        exact fun _ _ hgap => hc (List.cons.inj hgap).1
      rw [show writePieces (piece :: next :: more) = Nat.toDigits 16 piece ++
        ':' :: writePieces (next :: more) from rfl,
        List.append_assoc, splitAtGap_append hplain, List.cons_append, hcolon, ih]
      simp [Option.map_map, Function.comp_def]

/-! ### The gap -/

theorem take_of_le_leadingZeros {pieces : List Nat} {n : Nat} (h : n ≤ leadingZeros pieces) :
    pieces.take n = List.replicate n 0 := by
  induction n generalizing pieces with
  | zero => rfl
  | succ n ih =>
    cases pieces with
    | nil => cases h
    | cons piece pieces =>
      by_cases hzero : piece = 0
      · subst hzero
        rw [List.take_succ_cons, List.replicate_succ, ih (Nat.le_of_succ_le_succ h)]
      · simp [leadingZeros, hzero] at h

/-- So many zeros stand where the longest gap begins. -/
theorem longestGap_le (pieces : List Nat) :
    (longestGap pieces).2 ≤ leadingZeros (pieces.drop (longestGap pieces).1) := by
  unfold longestGap
  generalize List.range pieces.length = places
  have hnone : ((0, 0) : Nat × Nat).2 ≤ leadingZeros (pieces.drop ((0, 0) : Nat × Nat).1) :=
    Nat.zero_le _
  revert hnone
  generalize ((0, 0) : Nat × Nat) = best
  induction places generalizing best with
  | nil => exact id
  | cons place places ih =>
    intro hbest
    rw [List.foldl_cons]
    apply ih
    dsimp only
    split
    · exact Nat.le_refl _
    · exact hbest

/-- Eight pieces are read as they are written. -/
theorem ipv6Address?_ipv6Text {pieces : List Nat} (hlength : pieces.length = 8)
    (hsmall : ∀ piece ∈ pieces, piece < 65536) :
    ipv6Address? (ipv6Text pieces) = some pieces := by
  have hgap := longestGap_le pieces
  obtain ⟨start, count, hlongest⟩ : ∃ start count, longestGap pieces = (start, count) :=
    ⟨_, _, rfl⟩
  rw [hlongest] at hgap
  by_cases hcount : count < 2
  · have htext : ipv6Text pieces = writePieces pieces := by
      simp [ipv6Text, hlongest, hcount, writePieces]
    have hsplit := splitAtGap_writePieces pieces []
    rw [List.append_nil] at hsplit
    rw [ipv6Address?, htext, hsplit]
    simp [splitAtGap, ipv6Pieces?_writePieces hsmall, hlength]
  · obtain ⟨before, hbefore⟩ : ∃ before, pieces.take start = before := ⟨_, rfl⟩
    obtain ⟨after, hafter⟩ : ∃ after, pieces.drop (start + count) = after := ⟨_, rfl⟩
    have htext : ipv6Text pieces = writePieces before ++ ':' :: ':' :: writePieces after := by
      simp [ipv6Text, hlongest, hcount, writePieces, hbefore, hafter]
    have hparts : pieces = before ++ (List.replicate count 0 ++ after) := by
      rw [← take_of_le_leadingZeros hgap, ← hbefore, ← hafter, ← List.drop_drop,
        List.take_append_drop, List.take_append_drop]
    have hfill : 8 - before.length - after.length = count := by
      have := congrArg List.length hparts
      simp only [hlength, List.length_append, List.length_replicate] at this
      omega
    have hfits : before.length + after.length ≤ 7 := by omega
    have hhead : ipv6Pieces? false (writePieces before) = some before :=
      ipv6Pieces?_writePieces
        (fun piece hpiece => hsmall piece (List.mem_of_mem_take (hbefore ▸ hpiece))) false
    have htail : ipv6Pieces? true (writePieces after) = some after :=
      ipv6Pieces?_writePieces
        (fun piece hpiece => hsmall piece (List.mem_of_mem_drop (hafter ▸ hpiece))) true
    rw [ipv6Address?, htext, splitAtGap_writePieces, splitAtGap, Option.map_some]
    simp only [List.append_nil, hhead, htail, hfits, hfill, if_true]
    rw [List.append_assoc, ← hparts]

/-! ### What is read -/

theorem lt_of_ipv6Piece? {text : List Char} {piece : Nat} (h : ipv6Piece? text = some piece) :
    piece < 65536 := by
  simp only [ipv6Piece?, Option.ite_none_left_eq_some, Bool.or_eq_true, decide_eq_true_eq,
    Bool.not_eq_true', not_or, Bool.not_eq_false, Option.some.injEq, Nat.not_lt] at h
  obtain ⟨⟨⟨-, hlength⟩, hdigits⟩, rfl⟩ := h
  calc Text.readNumber 16 text < 16 ^ text.length := Text.readNumber_lt hdigits
    _ ≤ 16 ^ 4 := Nat.pow_le_pow_right (by decide) hlength

theorem le_of_ipv6Byte? {text : List Char} {byte : Nat} (h : ipv6Byte? text = some byte) :
    byte ≤ 255 := by
  simp only [ipv6Byte?, Option.ite_none_left_eq_some, Option.ite_none_right_eq_some,
    Option.some.injEq] at h
  obtain ⟨-, -, hle, rfl⟩ := h
  exact hle

theorem lt_of_ipv6Last? {text : List Char} {pieces : List Nat}
    (h : ipv6Last? text = some pieces) :
    ∀ piece ∈ pieces, piece < 65536 := by
  rw [ipv6Last?] at h
  split at h
  · split at h
    · rename_i a b c d hbytes
      have hread := Text.mapM_eq_some_iff.mp hbytes
      have hsmall : ∀ byte ∈ [a, b, c, d], byte ≤ 255 := fun byte hbyte => by
        obtain ⟨text, -, htext⟩ :=
          List.mem_map.mp (hread ▸ List.mem_map_of_mem (f := some) hbyte)
        exact le_of_ipv6Byte? htext
      simp only [List.forall_mem_cons] at hsmall
      obtain rfl := Option.some.inj h
      simp only [List.forall_mem_cons]
      exact ⟨by omega, by omega, fun _ hnone => nomatch hnone⟩
    · cases h
  · obtain ⟨piece, hpiece, rfl⟩ := Option.map_eq_some_iff.mp h
    exact List.forall_mem_singleton.mpr (lt_of_ipv6Piece? hpiece)

theorem lt_of_ipv6Pieces? {ends : Bool} {text : List Char} {pieces : List Nat}
    (h : ipv6Pieces? ends text = some pieces) :
    ∀ piece ∈ pieces, piece < 65536 := by
  rw [ipv6Pieces?] at h
  split at h
  · obtain rfl := Option.some.inj h
    exact fun _ hnone => nomatch hnone
  · simp only at h
    split at h
    · rename_i leading final hleading hfinal
      obtain rfl := Option.some.inj h
      refine List.forall_mem_append.mpr ⟨fun piece hpiece => ?_, ?_⟩
      · obtain ⟨part, -, hpart⟩ := List.mem_map.mp
            (Text.mapM_eq_some_iff.mp hleading ▸ List.mem_map_of_mem (f := some) hpiece)
        exact lt_of_ipv6Piece? hpart
      · split at hfinal
        · exact lt_of_ipv6Last? hfinal
        · obtain ⟨piece, hpiece, rfl⟩ := Option.map_eq_some_iff.mp hfinal
          exact List.forall_mem_singleton.mpr (lt_of_ipv6Piece? hpiece)
    · cases h

/-- What is read as an address has eight pieces of two bytes. -/
theorem isAddress_of_ipv6Address? {text : List Char} {pieces : List Nat}
    (h : ipv6Address? text = some pieces) :
    pieces.length = 8 ∧ ∀ piece ∈ pieces, piece < 65536 := by
  rw [ipv6Address?] at h
  split at h
  · split at h
    · rename_i read hread
      simp only [Option.ite_none_right_eq_some, Option.some.injEq] at h
      obtain ⟨hlength, rfl⟩ := h
      exact ⟨hlength, lt_of_ipv6Pieces? hread⟩
    · cases h
  · split at h
    · rename_i head tail hhead htail
      simp only [Option.ite_none_right_eq_some, Option.some.injEq] at h
      obtain ⟨hfits, rfl⟩ := h
      refine ⟨by simp; omega, List.forall_mem_append.mpr
        ⟨List.forall_mem_append.mpr ⟨lt_of_ipv6Pieces? hhead, ?_⟩, lt_of_ipv6Pieces? htail⟩⟩
      intro piece hpiece
      rw [(List.mem_replicate.mp hpiece).2]
      decide
    · cases h

/-! ### Characters -/

theorem mem_writePieces {pieces : List Nat} {c : Char} (h : c ∈ writePieces pieces) :
    c = ':' ∨ ∃ d < 16, c = Nat.digitChar d := by
  refine (Text.mem_joinWith h).imp_right fun ⟨part, hpart, hc⟩ => ?_
  obtain ⟨n, -, rfl⟩ := List.mem_map.mp hpart
  exact Text.exists_digit_of_mem_toDigits (by decide) hc

theorem mem_ipv6Text {pieces : List Nat} {c : Char} (h : c ∈ ipv6Text pieces) :
    c = ':' ∨ ∃ d < 16, c = Nat.digitChar d := by
  unfold ipv6Text at h
  dsimp only at h
  split at h
  · exact mem_writePieces h
  · rcases List.mem_append.mp h with hfront | hafter
    · rcases List.mem_append.mp hfront with hbefore | hgap
      · exact mem_writePieces hbefore
      · exact .inl (by simpa using hgap)
    · exact mem_writePieces hafter

end BoundedCrawl.Host
