import BoundedCrawl.Proofs.Links.Canonical
import BoundedCrawl.Proofs.Text.Trimming
set_option autoImplicit false

/-!
# Links to the page itself

A reference that is empty or begins with a number sign stands for the page that it is found on.
Such references are screened out before they are read, but the screen takes blanks off the ends
of a reference, and reading takes off controls.  A control that is no blank, in front of the
number sign or in a reference with nothing else in it, gets the reference past the screen, and
it is followed to the page itself (`followed_to_itself_exactly_behind_strays`).
-/

namespace BoundedCrawl

/-- The reference stands for the page that it is found on. -/
def isSamePage (reference : List Char) : Bool :=
  (Url.significant reference).head?.all (· == '#')

/-- A control that is no blank stands in front of what counts. -/
def hasStray (reference : List Char) : Bool :=
  (reference.takeWhile Url.isControlOrBlank).any fun c => !Text.isBlank c

variable {base : Url} {reference : List Char}

theorem head?_significant (reference : List Char) :
    (Url.significant reference).head? = reference.find? fun c => !Url.isControlOrBlank c := by
  rw [← Text.head?_trimBy, Url.significant]
  obtain ⟨-, -, -, -, -, hhead⟩ := Text.exists_trimBy Url.isControlOrBlank reference
  cases htrimmed : Text.trimBy Url.isControlOrBlank reference with
  | nil => rfl
  | cons c rest =>
    rw [htrimmed] at hhead
    -- what reading takes out of the middle are controls as well
    have hbreak : Url.isTabOrBreak c = false := Bool.not_eq_true _ ▸ fun hmark => by
      have hcontrol := hhead c rfl
      simp only [Url.isTabOrBreak, Bool.or_eq_true, beq_iff_eq] at hmark
      rcases hmark with (rfl | rfl) | rfl <;> exact absurd hcontrol (by decide)
    simp [hbreak]

/-- Taking off blanks leaves a reference to the page itself one. -/
theorem isSamePage_trim (h : isSamePage reference = true) :
    isSamePage (Text.trim reference) = true := by
  obtain ⟨front, back, hreference, hfront, -, -⟩ := Text.exists_trimBy Text.isBlank reference
  rw [isSamePage, head?_significant] at h ⊢
  rw [hreference, List.find?_append, List.find?_append] at h
  cases hfound : (Text.trim reference).find? fun c => !Url.isControlOrBlank c with
  | none => rfl
  | some c =>
    rw [show Text.trimBy Text.isBlank reference = Text.trim reference from rfl, hfound] at h
    cases hbefore : front.find? fun c => !Url.isControlOrBlank c with
    | none => simpa [hbefore] using h
    | some b =>
      -- a blank that counts would be what the reference begins with
      have hblank := hfront b (List.mem_of_find?_eq_some hbefore)
      rw [hbefore] at h
      obtain rfl : b = '#' := by simpa using h
      exact absurd hblank (by decide)

theorem eq_nil_or_sign_of_all {text : List Char} (h : text.head?.all (· == '#') = true) :
    text = [] ∨ ∃ rest, text = '#' :: rest := by
  cases text with
  | nil => exact .inl rfl
  | cons c rest =>
    obtain rfl : c = '#' := by simpa using h
    exact .inr ⟨rest, rfl⟩

/-- A reference with a stray begins with a control once its blanks are taken off. -/
theorem exists_control_of_hasStray (h : hasStray reference = true) :
    ∃ c rest, Text.trim reference = c :: rest ∧ Url.isControlOrBlank c = true := by
  obtain ⟨controls, hcontrols⟩ :
      ∃ controls, reference.takeWhile Url.isControlOrBlank = controls := ⟨_, rfl⟩
  have hreference : reference = controls ++ reference.dropWhile Url.isControlOrBlank := by
    rw [← hcontrols, List.takeWhile_append_dropWhile]
  rw [hasStray, hcontrols] at h
  cases hstray : controls.find? fun c => !Text.isBlank c with
  | none =>
    exact absurd h (Bool.not_eq_true _ ▸ List.any_eq_false.mpr (List.find?_eq_none.mp hstray))
  | some c =>
    have hhead : (Text.trim reference).head? = some c := by
      rw [Text.trim, Text.head?_trimBy, hreference, List.find?_append, hstray, Option.some_or]
    obtain ⟨rest, hrest⟩ := List.head?_eq_some_iff.mp hhead
    exact ⟨c, rest, hrest,
      List.mem_takeWhile_imp (hcontrols ▸ List.mem_of_find?_eq_some hstray)⟩

/-- The screen takes a reference to the page itself out, unless it has a stray. -/
theorem head?_trim_all (h : isSamePage reference = true) :
    (Text.trim reference).head?.all (· == '#') = !hasStray reference := by
  cases hstray : hasStray reference with
  | true =>
    obtain ⟨c, rest, htrim, hcontrol⟩ := exists_control_of_hasStray hstray
    have hsign : c ≠ '#' := ne_of_apply_ne Url.isControlOrBlank (by rw [hcontrol]; decide)
    simp [htrim, hsign]
  | false =>
    obtain ⟨controls, rest, hcontrols, hrest⟩ :
        ∃ controls rest, reference.takeWhile Url.isControlOrBlank = controls ∧
        reference.dropWhile Url.isControlOrBlank = rest := ⟨_, _, rfl, rfl⟩
    have hreference : reference = controls ++ rest := by
      rw [← hcontrols, ← hrest, List.takeWhile_append_dropWhile]
    have hblank : (controls.find? fun c => !Text.isBlank c) = none := by
      rw [hasStray, hcontrols] at hstray
      exact List.find?_eq_none.mpr (List.any_eq_false.mp hstray)
    have hend : rest.head?.all (· == '#') = true := by
      have hnone : (controls.find? fun c => !Url.isControlOrBlank c) = none :=
        List.find?_eq_none.mpr fun c hc => by simp [List.mem_takeWhile_imp (hcontrols ▸ hc)]
      have hhead := List.head?_dropWhile_not Url.isControlOrBlank reference
      rw [isSamePage, head?_significant, hreference, List.find?_append, hnone,
        Option.none_or] at h
      rw [hrest] at hhead
      cases rest with
      | nil => rfl
      | cons c more =>
        have hc : Url.isControlOrBlank c = false := hhead
        simpa [hc] using h
    rw [Text.trim, Text.head?_trimBy, hreference, List.find?_append, hblank, Option.none_or]
    rcases eq_nil_or_sign_of_all hend with rfl | ⟨more, rfl⟩
    · rfl
    · rw [List.find?_cons_of_pos (by decide)]
      rfl

/-- Joined with a page of the web, a reference to the page itself gives the page with some
fragment. -/
theorem join_of_isSamePage
    (hbase : base.isWeb = true → ∃ segments, base.path = .rooted segments)
    (h : isSamePage reference = true) :
    (∃ fragment, base.join reference = .ok { base with fragment := fragment }) ∨
      (base.isWeb = false ∧ ∃ fault, base.join reference = .error fault) := by
  obtain ⟨scheme, authority, path, query, fragment⟩ := base
  unfold Url.join Url.read
  rcases eq_nil_or_sign_of_all h with hnone | ⟨rest, hsign⟩
  · rw [hnone]
    cases path with
    | flat text =>
      refine .inr ⟨Bool.not_eq_true _ ▸ fun hweb => ?_, .relativeToFlatBase, rfl⟩
      obtain ⟨segments, hrooted⟩ := hbase hweb
      cases hrooted
    | rooted segments =>
      refine .inl ⟨none, ?_⟩
      simp only [Url.splitScheme?]
      split <;> rfl
  · rw [hsign]
    exact .inl ⟨some (Url.encode Url.inFragment rest), rfl⟩

theorem not_unfollowed_of_control {c : Char} {rest : List Char}
    (h : Url.isControlOrBlank c = true) :
    (unfollowedSchemes.any fun s => s.toList.isPrefixOf (Text.lowercase (c :: rest))) =
      false := by
  have hall : ∀ n ∈ List.range 0x21, (Char.ofNat n).toLower ∉ ['j', 'm', 't', 'd'] := by decide
  have hletter := hall c.toNat (List.mem_range.mpr (Nat.lt_succ_of_le (of_decide_eq_true h)))
  rw [Char.ofNat_toNat] at hletter
  simp only [List.mem_cons, List.not_mem_nil, or_false, not_or] at hletter
  obtain ⟨hj, hm, ht, hd⟩ := hletter
  simp [unfollowedSchemes, Text.lowercase, List.isPrefixOf, Ne.symm hj, Ne.symm hm, Ne.symm ht,
    Ne.symm hd]

/-- A reference to the page itself is followed exactly if it has a stray and the page is one of
the web, and then to the page. -/
theorem resolveLink_of_isSamePage (hbase : base.IsRead) {reference : String}
    (h : isSamePage reference.toList = true) :
    resolveLink base reference =
      if hasStray reference.toList && base.isWeb then some base.withoutFragment.toString
        else none := by
  have hscreen := head?_trim_all h
  have hempty :
      ((Text.trim reference.toList).isEmpty || (Text.trim reference.toList).head? == some '#') =
      (Text.trim reference.toList).head?.all (· == '#') := by
    cases Text.trim reference.toList <;> simp
  unfold resolveLink
  simp only [hempty, hscreen]
  cases hstray : hasStray reference.toList with
  | false => rfl
  | true =>
    obtain ⟨c, rest, htrim, hcontrol⟩ := exists_control_of_hasStray hstray
    have hfollowed : (unfollowedSchemes.any fun s => s.toList.isPrefixOf
        (Text.lowercase (Text.trim reference.toList))) = false := by
      rw [htrim]
      exact not_unfollowed_of_control hcontrol
    have hrooted : base.isWeb = true → ∃ segments, base.path = .rooted segments := fun hweb =>
      (hbase.settles (Url.kind_of_isWeb hweb)).path.imp fun _ hpath => hpath.1
    simp only [hfollowed, Bool.not_true, Bool.false_eq_true, if_false, Bool.true_and]
    rcases join_of_isSamePage hrooted (isSamePage_trim h) with ⟨fragment, hjoin⟩ |
      ⟨hweb, fault, hjoin⟩
    · rw [hjoin]
      rfl
    · rw [hjoin, hweb]
      rfl

/-- On a page that was read, a reference to the page itself is followed exactly if it has a
stray and the page is one of the web, and then to the page.  So a page links to itself by such a
reference only behind a stray. -/
theorem followed_to_itself_exactly_behind_strays (hbase : base.IsRead) :
    (∀ reference : String, isSamePage reference.toList = true →
      resolveLink base reference =
        if hasStray reference.toList && base.isWeb then some base.withoutFragment.toString
        else none) ∧
    ∀ (page link : String), link ∈ extractLinks page base →
      ∃ e ∈ Markup.elementsOf page.toList, ∃ reference,
        (e.anchorReference? = some reference ∨ e.canonicalReference? = some reference) ∧
        resolveLink base reference = some link ∧
        (isSamePage reference.toList = true →
          hasStray reference.toList = true ∧ link = base.withoutFragment.toString) := by
  refine ⟨fun reference h => resolveLink_of_isSamePage hbase h, fun page link hlink => ?_⟩
  obtain ⟨reference, hreference, hresolved⟩ := List.mem_filterMap.mp hlink
  have hfollowed : isSamePage reference.toList = true → hasStray reference.toList = true ∧
      link = base.withoutFragment.toString := by
    intro hsame
    rw [resolveLink_of_isSamePage hbase hsame] at hresolved
    split at hresolved
    · next hstray =>
      exact ⟨(Bool.and_eq_true_iff.mp hstray).1, (Option.some.inj hresolved).symm⟩
    · cases hresolved
  rcases List.mem_append.mp hreference with hanchor | hcanonical
  · obtain ⟨e, he, hgives⟩ := List.mem_filterMap.mp hanchor
    exact ⟨e, he, reference, .inl hgives, hresolved, hfollowed⟩
  · obtain ⟨e, he, hgives⟩ := List.mem_filterMap.mp hcanonical
    exact ⟨e, he, reference, .inr hgives, hresolved, hfollowed⟩

/-- A blank in front of the number sign does no harm, and a stray there leads back to the
page. -/
theorem strayed_sign_is_followed_to_itself :
    ∃ base, Url.parse "https://example.com/dir/page" = .ok base ∧
      isSamePage " \t#x".toList = true ∧
      resolveLink base " \t#x" = none ∧ isSamePage "\x01#x".toList = true ∧
      resolveLink base "\x01#x" = some base.withoutFragment.toString := by
  have hbase : ((Url.parse "https://example.com/dir/page").toOption.map (·.isWeb)) =
      some true := by decide +kernel
  obtain ⟨base, hparse, hweb⟩ := Url.exists_parse_of_map hbase
  obtain ⟨hfollowed, -⟩ := followed_to_itself_exactly_behind_strays (.parsed hparse)
  have hblank : isSamePage " \t#x".toList = true ∧ hasStray " \t#x".toList = false := by decide
  have hstray : isSamePage "\x01#x".toList = true ∧ hasStray "\x01#x".toList = true := by decide
  refine ⟨base, hparse, hblank.1, ?_, hstray.1, ?_⟩
  · rw [hfollowed _ hblank.1, hblank.2]
    rfl
  · rw [hfollowed _ hstray.1, hstray.2, hweb]
    rfl

/-- A reference that reading takes for a bare fragment is followed to the page that it is found
on. -/
theorem strayed_fragment_is_followed :
    ∃ base, Url.parse "https://example.com/dir/page" = .ok base ∧
      Url.significant "\x01#x".toList = "#x".toList ∧
      resolveLink base "\x01#x" = some "https://example.com/dir/page" ∧
      extractLinks "<a href='\x01#x'>x</a>" base = ["https://example.com/dir/page"] := by
  have hbase : ((Url.parse "https://example.com/dir/page").toOption.map fun base =>
      (resolveLink base "\x01#x", extractLinks "<a href='\x01#x'>x</a>" base)) =
      some (some "https://example.com/dir/page",
        ["https://example.com/dir/page"]) := by decide +kernel
  obtain ⟨base, hparse, hboth⟩ := Url.exists_parse_of_map hbase
  obtain ⟨hresolved, hextracted⟩ := Prod.mk.inj hboth
  exact ⟨base, hparse, by decide, hresolved, hextracted⟩

end BoundedCrawl
