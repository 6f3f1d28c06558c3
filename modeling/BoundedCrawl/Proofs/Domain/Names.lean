import BoundedCrawl.Domain.Name
import BoundedCrawl.Proofs.Domain.Bootstring
import Mathlib.Data.Bool.AllAny
set_option autoImplicit false

/-!
# A name that is looked up stands for itself

The name under which a domain is looked up can be typed in its place: it is read into the same
labels (`IsLabel.readLabel?_writeLabel`) and comes out unchanged (`toAscii?_of_toAscii?`).  It
is in ASCII and in small letters, so nothing of the tables of characters counts for it; they had
their say when its labels were read first.
-/

namespace BoundedCrawl.Domain

/-! ## Characters -/

theorem isSettled_iff_of_isAscii {c : Char} (h : Text.isAscii c = true) :
    isSettled c = true ↔ c.toLower = c := by
  have hc : c.toNat < 128 := of_decide_eq_true h
  simp [isSettled, mapChar, hc]

theorem mapName_of_settled {name : List Char}
    (h : ∀ c ∈ name, Text.isAscii c = true ∧ isSettled c = true) :
    mapName name = some name := by
  have himages : name.mapM mapChar = some (name.map ([·])) := by
    rw [Text.mapM_eq_some_iff, List.map_map]
    exact List.map_congr_left fun c hc => beq_iff_eq.mp (h c hc).2
  have hascii : name.all Text.isAscii = true := List.all_eq_true.mpr fun c hc => (h c hc).1
  have hflat : (name.map ([·])).flatten = name := by
    rw [← List.flatMap_def, List.flatMap_singleton']
  rw [mapName, himages, Option.map_some, hflat, Unicode.compose, if_pos hascii]

theorem runsLeft_of_ascii {label : List Char} (h : label.all Text.isAscii = true) :
    runsLeft label = false := by
  refine List.any_eq_false.mpr fun c hc => ?_
  have hlow : c.toNat < 128 := of_decide_eq_true (List.all_eq_true.mp h c hc)
  have hfew : ¬ 0x590 ≤ c.toNat := by omega
  simp [hfew]

/-! ## Labels -/

/-- A label that a name can have: it is allowed, holds no dot, and if it is in ASCII, it stands
for itself. -/
structure IsLabel (label : List Char) : Prop where
  allowed : isAllowed label = true
  dotless : '.' ∉ label
  plain : label.all Text.isAscii = true → ¬ encodedMark <+: label

namespace IsLabel

variable {label : List Char}

theorem isSettled_of_mem (h : IsLabel label) {c : Char} (hc : c ∈ label) : isSettled c = true :=
  List.all_eq_true.mp (Bool.and_eq_true_iff.mp h.allowed).1 c hc

theorem of_ascii (hascii : ∀ c ∈ label, Text.isAscii c = true ∧ isSettled c = true)
    (hdotless : '.' ∉ label) (hplain : ¬ encodedMark <+: label) : IsLabel label where
  allowed := by
    have hall : label.all Text.isAscii = true :=
      List.all_eq_true.mpr fun c hc => (hascii c hc).1
    have hsettled : label.all isSettled = true :=
      List.all_eq_true.mpr fun c hc => (hascii c hc).2
    rw [isAllowed, hall, hsettled]
    rfl
  dotless := hdotless
  plain _ := hplain

/-- What is read from a piece of a name is a label. -/
theorem of_readLabel? {piece : List Char} (hpiece : '.' ∉ piece)
    (h : readLabel? piece = some label) : IsLabel label := by
  rw [readLabel?] at h
  split at h
  · rename_i name hname
    split at h
    · rename_i decoded hdecoded
      simp only [Option.ite_none_left_eq_some, Bool.or_eq_true, Bool.not_eq_true', not_or,
        Bool.not_eq_false, Option.some.injEq] at h
      obtain ⟨⟨hforeign, hallowed⟩, rfl⟩ := h
      refine ⟨hallowed, fun hdot => ?_, fun hascii => absurd hascii hforeign⟩
      rcases Bootstring.mem_of_decode? hdecoded hdot with hin | hhigh
      · exact hpiece (Text.after?_eq_some_iff.mp hname ▸ List.mem_append_right _ hin)
      · exact absurd hhigh (by decide)
    · cases h
  · rename_i hnone
    simp only [Option.ite_none_right_eq_some, Option.some.injEq] at h
    obtain ⟨hallowed, rfl⟩ := h
    exact ⟨hallowed, hpiece, fun _ => Text.after?_eq_none_iff.mp hnone⟩

/-- A label is read from the piece that it is written as. -/
theorem readLabel?_writeLabel (h : IsLabel label) :
    readLabel? (writeLabel label) = some label := by
  by_cases hascii : label.all Text.isAscii = true
  · rw [writeLabel, if_pos hascii, readLabel?, Text.after?_eq_none_iff.mpr (h.plain hascii)]
    simp only [h.allowed, if_true]
  · rw [writeLabel, if_neg hascii, readLabel?, Text.after?_eq_some_iff.mpr rfl]
    simp only [Bootstring.decode?_encode, h.allowed, hascii, Bool.not_true, Bool.or_self,
      Bool.false_eq_true, if_false]

/-- A label is written in ASCII and in small letters, without a dot. -/
theorem mem_writeLabel (h : IsLabel label) {c : Char} (hc : c ∈ writeLabel label) :
    Text.isAscii c = true ∧ isSettled c = true ∧ c ≠ '.' := by
  rw [writeLabel] at hc
  split at hc
  · rename_i hascii
    exact ⟨List.all_eq_true.mp hascii c hc, h.isSettled_of_mem hc,
      fun hdot => h.dotless (hdot ▸ hc)⟩
  · rcases List.mem_append.mp hc with hmark | hname
    · have hall : ∀ e ∈ encodedMark, Text.isAscii e = true ∧ e.toLower = e ∧ e ≠ '.' :=
        List.all_iff_forall_prop.mp (by decide)
      obtain ⟨hascii, hsmall, hdot⟩ := hall c hmark
      exact ⟨hascii, (isSettled_iff_of_isAscii hascii).mpr hsmall, hdot⟩
    · rcases Bootstring.mem_encode hname with ⟨hlabel, hascii⟩ | rfl | ⟨d, hd, rfl⟩
      · exact ⟨hascii, h.isSettled_of_mem hlabel, fun hdot => h.dotless (hdot ▸ hlabel)⟩
      · exact ⟨rfl, (isSettled_iff_of_isAscii rfl).mpr (by decide), by decide⟩
      · obtain ⟨-, hdot, hascii, hsmall⟩ := Bootstring.digitOf_spelling hd
        exact ⟨hascii, (isSettled_iff_of_isAscii hascii).mpr hsmall, hdot⟩

end IsLabel

/-! ## Names -/

/-- The labels of a name, and the name as it is looked up. -/
structure IsName (labels : List (List Char)) (domain : List Char) : Prop where
  labels_ne_nil : labels ≠ []
  isLabel : ∀ label ∈ labels, IsLabel label
  direction : (labels.any runsLeft && !labels.all keepsDirection) = false
  written : domain = Text.joinWith '.' (labels.map writeLabel)
  free : domain.any isForbidden = false

theorem exists_isName_of_toAscii? {name domain : List Char} (h : toAscii? name = some domain) :
    ∃ labels, IsName labels domain := by
  rw [toAscii?] at h
  split at h
  · cases h
  · split at h
    · cases h
    · rename_i mapped hmapped labels hlabels
      simp only [Option.ite_none_left_eq_some, Option.some.injEq, Bool.not_eq_true] at h
      obtain ⟨hdirection, hfree, rfl⟩ := h
      rw [Text.mapM_eq_some_iff] at hlabels
      refine ⟨labels, fun hnone => ?_, fun label hlabel => ?_, hdirection, rfl, hfree⟩
      · rw [hnone, List.map_nil, List.map_eq_nil_iff] at hlabels
        exact Text.pieces_ne_nil _ _ hlabels
      · obtain ⟨piece, hpiece, hread⟩ :=
          List.mem_map.mp (hlabels ▸ List.mem_map_of_mem (f := some) hlabel)
        exact .of_readLabel? (Text.notMem_of_mem_pieces hpiece) hread

namespace IsName

variable {labels : List (List Char)} {domain : List Char}

theorem isSettled_of_mem (h : IsName labels domain) {c : Char} (hc : c ∈ domain) :
    Text.isAscii c = true ∧ isSettled c = true := by
  rw [h.written] at hc
  rcases Text.mem_joinWith hc with rfl | ⟨part, hpart, hc⟩
  · exact ⟨rfl, (isSettled_iff_of_isAscii rfl).mpr (by decide)⟩
  · obtain ⟨label, hlabel, rfl⟩ := List.mem_map.mp hpart
    obtain ⟨hascii, hsettled, -⟩ := (h.isLabel label hlabel).mem_writeLabel hc
    exact ⟨hascii, hsettled⟩

theorem isForbidden_of_mem (h : IsName labels domain) {c : Char} (hc : c ∈ domain) :
    isForbidden c = false :=
  Bool.not_eq_true _ ▸ List.any_eq_false.mp h.free c hc

/-- A name as it is looked up is looked up as it is. -/
theorem toAscii?_eq (h : IsName labels domain) : toAscii? domain = some domain := by
  have hpieces : Text.pieces '.' domain = labels.map writeLabel := by
    rw [h.written]
    refine Text.pieces_joinWith (fun hnone => h.labels_ne_nil (List.map_eq_nil_iff.mp hnone))
      fun part hpart hdot => ?_
    obtain ⟨label, hlabel, rfl⟩ := List.mem_map.mp hpart
    exact ((h.isLabel label hlabel).mem_writeLabel hdot).2.2 rfl
  have hlabels : (Text.pieces '.' domain).mapM readLabel? = some labels := by
    rw [hpieces, Text.mapM_eq_some_iff, List.map_map]
    exact List.map_congr_left fun label hlabel => (h.isLabel label hlabel).readLabel?_writeLabel
  rw [toAscii?, mapName_of_settled fun c hc => h.isSettled_of_mem hc]
  simp only [hlabels, h.direction, ← h.written, h.free, Bool.false_eq_true, if_false]

end IsName

/-- Looking up twice finds the same name. -/
theorem toAscii?_of_toAscii? {name domain : List Char} (h : toAscii? name = some domain) :
    toAscii? domain = some domain := by
  obtain ⟨labels, hname⟩ := exists_isName_of_toAscii? h
  exact hname.toAscii?_eq

end BoundedCrawl.Domain
