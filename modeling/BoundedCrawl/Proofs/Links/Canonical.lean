import BoundedCrawl.Links
import BoundedCrawl.Proofs.Url.Rereading
set_option autoImplicit false

/-!
# The links of a page are canonical

A link that leads on is absolute, and it is the one spelling of its URL: on whatever page it is
found again, it stands for itself (`IsCanonicalLink.fixed`).  So two pages that lead to one URL
give the same link, and what a crawl takes up can be asked for.
-/

namespace BoundedCrawl

/-- A link that leads on from any page to itself: an address of the web, without a fragment, of
a host that can be told. -/
structure IsCanonicalLink (link : String) : Prop where
  web : "http://".toList <+: link.toList ∨ "https://".toList <+: link.toList
  whole : '#' ∉ link.toList
  host : ∃ host, hostOf link = .ok host ∧ host ≠ ""
  fixed : ∀ base : Url, resolveLink base link = some link

namespace Url

variable {u : Url}

theorem exists_parse_of_map {α : Type} {text : String} {f : Url → α} {a : α}
    (h : (parse text).toOption.map f = some a) :
    ∃ u, parse text = .ok u ∧ f u = a := by
  cases hparse : parse text with
  | error fault =>
    rw [hparse] at h
    cases h
  | ok u =>
    rw [hparse] at h
    exact ⟨u, rfl, Option.some.inj h⟩

theorem scheme_of_isWeb (h : u.isWeb = true) :
    u.scheme = "http".toList ∨ u.scheme = "https".toList := by
  simpa [isWeb] using h

theorem kind_of_isWeb (h : u.isWeb = true) : u.kind = .special := by
  unfold kind
  rcases scheme_of_isWeb h with hscheme | hscheme <;> rw [hscheme] <;> decide

theorem trim_of_isVisible {text : List Char} (h : ∀ c ∈ text, IsVisible c) :
    Text.trim text = text := by
  refine trimBy_eq_self fun c hc => ?_
  obtain ⟨habove, hbelow, -⟩ := h c hc
  simp only [Text.isBlank, Bool.or_eq_false_iff, Bool.and_eq_false_iff, decide_eq_false_iff_not,
    beq_eq_false_iff_ne]
  omega

theorem exists_text_of_isWeb (hread : u.IsRead) (hweb : u.isWeb = true)
    (hfragment : u.fragment = none) :
    ∃ rest, u.toText = u.scheme ++ "://".toList ++ rest := by
  have hsettled := hread.settles (kind_of_isWeb hweb)
  obtain ⟨a, hauthority, -⟩ := hsettled.authority
  obtain ⟨segments, hpath, -⟩ := hsettled.path
  rw [toText_eq hauthority hpath hfragment]
  exact ⟨_, by rw [List.append_assoc]; rfl⟩

theorem toList_toString (u : Url) : u.toString.toList = u.toText := String.toList_ofList

/-- A URL of the web names the host that its text does. -/
theorem exists_hostOf_toString (hread : u.IsRead) (hweb : u.isWeb = true)
    (hfragment : u.fragment = none) :
    ∃ host, hostOf u.toString = .ok host ∧ host ≠ "" := by
  have hkind := kind_of_isWeb hweb
  have hsettled := hread.settles hkind
  obtain ⟨a, hauthority, ha⟩ := hsettled.authority
  obtain ⟨named, hnamed, hhost⟩ := ha.host
  have hparse : parse u.toString = .ok u := by
    rw [parse, toList_toString, read_toText hkind hsettled hfragment]
  have hnonempty := Host.toText_ne_nil hhost
  have hfound : u.host = some named := by rw [host, hauthority, Option.bind_some, hnamed]
  refine ⟨String.ofList (Text.lowercase named.toText), ?_, fun hempty => ?_⟩
  · simp only [hostOf, hparse, hfound, List.isEmpty_eq_false_iff.mpr hnonempty,
      Bool.false_eq_true, if_false]
  · have hlist := congrArg String.toList hempty
    rw [String.toList_ofList, Text.lowercase] at hlist
    exact hnonempty (List.map_eq_nil_iff.mp hlist)

/-- The text of a URL of the web stands for itself on every page. -/
theorem resolveLink_toString (hread : u.IsRead) (hweb : u.isWeb = true)
    (hfragment : u.fragment = none) (base : Url) :
    resolveLink base u.toString = some u.toString := by
  have hkind := kind_of_isWeb hweb
  have hsettled := hread.settles hkind
  have hvisible : ∀ c ∈ u.toText, IsVisible c :=
    fun c => isVisible_of_mem_toText hkind hsettled hfragment
  obtain ⟨rest, hrest⟩ : ∃ rest, u.toText = 'h' :: rest := by
    obtain ⟨rest, hrest⟩ := exists_text_of_isWeb hread hweb hfragment
    rcases scheme_of_isWeb hweb with hscheme | hscheme <;>
      exact ⟨_, by rw [hrest, hscheme]; rfl⟩
  have hfollowed :
      (unfollowedSchemes.any fun s => s.toList.isPrefixOf (Text.lowercase u.toText)) =
      false := by
    rw [hrest]
    simp [unfollowedSchemes, Text.lowercase, List.isPrefixOf]
  have hgoes : (u.toText.isEmpty || u.toText.head? == some '#') = false := by
    rw [hrest]
    rfl
  have hjoin : base.join u.toText = .ok u := read_toText hkind hsettled hfragment (some base)
  have hwhole : u.withoutFragment = u := by rw [withoutFragment, ← hfragment]
  unfold resolveLink
  simp only [toList_toString, trim_of_isVisible hvisible, hgoes, hfollowed, hjoin, hweb, hwhole,
    if_true, Bool.false_eq_true, if_false]

end Url

/-- A link that is followed is the text of a URL of the web without a fragment. -/
theorem exists_url_of_resolveLink {base : Url} {reference link : String} (hbase : base.IsRead)
    (h : resolveLink base reference = some link) :
    ∃ u : Url, u.IsRead ∧ u.isWeb = true ∧ u.fragment = none ∧ link = u.toString := by
  unfold resolveLink at h
  dsimp only at h
  split at h
  · cases h
  · split at h
    · cases h
    · split at h
      · cases h
      · rename_i joined hjoined
        split at h
        · rename_i hweb
          exact ⟨joined.withoutFragment, (Url.IsRead.joined hbase hjoined).withoutFragment,
            hweb, rfl, (Option.some.inj h).symm⟩
        · cases h

/-- A link that is followed is canonical. -/
theorem isCanonicalLink_of_resolveLink {base : Url} {reference link : String}
    (hbase : base.IsRead) (h : resolveLink base reference = some link) :
    IsCanonicalLink link := by
  obtain ⟨u, hread, hweb, hfragment, rfl⟩ := exists_url_of_resolveLink hbase h
  constructor
  case web =>
    obtain ⟨rest, hrest⟩ := Url.exists_text_of_isWeb hread hweb hfragment
    rw [u.toList_toString, hrest]
    rcases Url.scheme_of_isWeb hweb with hscheme | hscheme
    · exact .inl (hscheme ▸ ⟨rest, rfl⟩)
    · exact .inr (hscheme ▸ ⟨rest, rfl⟩)
  case whole =>
    have hkind := Url.kind_of_isWeb hweb
    intro hsign
    rw [u.toList_toString] at hsign
    exact (Url.isVisible_of_mem_toText hkind (hread.settles hkind) hfragment hsign).plain rfl
  case host => exact Url.exists_hostOf_toString hread hweb hfragment
  case fixed => exact Url.resolveLink_toString hread hweb hfragment

/-- The links of a page are canonical. -/
theorem isCanonicalLink_of_mem_extractLinks {page link : String} {base : Url}
    (hbase : base.IsRead) (h : link ∈ extractLinks page base) : IsCanonicalLink link := by
  obtain ⟨reference, -, hreference⟩ := List.mem_filterMap.mp h
  exact isCanonicalLink_of_resolveLink hbase hreference

end BoundedCrawl
