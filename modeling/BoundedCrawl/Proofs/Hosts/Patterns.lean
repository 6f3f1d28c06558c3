import BoundedCrawl.Crawl.Request
import BoundedCrawl.Proofs.Text.Pieces
set_option autoImplicit false

/-!
# Patterns match whole labels

A pattern is compared with a host as text: with the end of the host, and with the character in
front of that end.  Cut at their dots, the two are lists of labels, and the comparison of texts
is one of lists: the labels behind `*.`  are the last ones of the host.  So a host that ends in
the text of a pattern, but in the middle of a label, is not matched.
-/

namespace BoundedCrawl.HostPattern

/-- The labels of a host, between its dots. -/
def labels (host : List Char) : List (List Char) := Text.pieces '.' host

theorem isAtOrBelow_iff_labels {base host : List Char} :
    isAtOrBelow base host = true ↔ labels base <:+ labels host :=
  isAtOrBelow_iff.trans Text.pieces_isSuffix_iff.symm

theorem labels_isSuffix_append_iff {front base : List Char} :
    labels base <:+ labels (front ++ base) ↔ front = [] ∨ front.getLast? = some '.' := by
  rw [labels, labels, Text.pieces_isSuffix_iff]
  refine or_congr ⟨fun h => List.append_cancel_right
    (h.trans (List.nil_append base).symm), by rintro rfl; rfl⟩ ?_
  rw [List.getLast?_eq_some_iff]
  refine exists_congr fun lead => ?_
  rw [show lead ++ '.' :: base = (lead ++ ['.']) ++ base by simp, List.append_left_inj]

/-- What a pattern asks of a host: behind `*.`  the last labels of the host, and otherwise the
host itself. -/
def Asks (pattern host : List Char) : Prop :=
  (∃ base, pattern = '*' :: '.' :: base ∧ labels base <:+ labels host) ∨
    (¬ ['*', '.'] <+: pattern ∧ host = pattern)

theorem asks_below_iff {base host : List Char} :
    Asks ('*' :: '.' :: base) host ↔ labels base <:+ labels host := by
  simp [Asks]

theorem admits_iff_asks {pattern host : String} :
    admits pattern host = true ↔
      Asks (Text.lowercase pattern.toList) (Text.lowercase host.toList) := by
  unfold admits
  simp only
  cases hafter : Text.after? ['*', '.'] (Text.lowercase pattern.toList) with
  | some base =>
    rw [Text.after?_eq_some_iff.mp hafter]
    exact isAtOrBelow_iff_labels.trans asks_below_iff.symm
  | none =>
    have hplain := Text.after?_eq_none_iff.mp hafter
    refine beq_iff_eq.trans ⟨fun h => .inr ⟨hplain, h.symm⟩, ?_⟩
    rintro (⟨base, hbase, -⟩ | ⟨-, h⟩)
    · exact absurd ⟨base, hbase.symm⟩ hplain
    · exact h.symm

theorem admitsHost_iff_asks {r : Request} {host : String} :
    r.admitsHost host = true ↔ ∀ patterns, r.allowedHosts = some patterns →
      ∃ pattern ∈ patterns,
        Asks (Text.lowercase pattern.toList) (Text.lowercase host.toList) := by
  unfold Request.admitsHost
  cases r.allowedHosts with
  | none => simp
  | some patterns => simp [admits_iff_asks]

/-- A pattern matches a host exactly if its labels behind `*.`  are the last ones of the host
or, without `*.`, if it is the host, letters taken without regard to case.  So of the hosts that
end in the text behind `*.`  it matches the one that is this text and those with a dot in front
of it; and a crawl that is kept to certain hosts asks only such as one of its patterns
matches. -/
theorem admits_iff_last_labels (pattern host : String) (r : Request) :
    (admits pattern host = true ↔
      Asks (Text.lowercase pattern.toList) (Text.lowercase host.toList)) ∧
    (∀ base front, Text.lowercase pattern.toList = '*' :: '.' :: base →
      Text.lowercase host.toList = front ++ base →
      (admits pattern host = true ↔ front = [] ∨ front.getLast? = some '.')) ∧
    (r.admitsHost host = true ↔ ∀ patterns, r.allowedHosts = some patterns →
      ∃ p ∈ patterns, Asks (Text.lowercase p.toList) (Text.lowercase host.toList)) := by
  refine ⟨admits_iff_asks, fun base front hpattern hhost => ?_, admitsHost_iff_asks⟩
  rw [admits_iff_asks, hpattern, hhost, asks_below_iff, labels_isSuffix_append_iff]

/-- A host that looks like one below `example.com` is not matched. -/
theorem lookalike_lacks_last_labels :
    Text.lowercase "*.Example.com".toList = '*' :: '.' :: "example.com".toList ∧
    Text.lowercase "notexample.COM".toList = "not".toList ++ "example.com".toList ∧
    ¬ (admits "*.Example.com" "notexample.COM" = true) := by
  have hpattern : Text.lowercase "*.Example.com".toList =
      '*' :: '.' :: "example.com".toList := by decide +kernel
  have hhost : Text.lowercase "notexample.COM".toList =
      "not".toList ++ "example.com".toList := by decide +kernel
  refine ⟨hpattern, hhost, ?_⟩
  have hmatches :=
    (admits_iff_last_labels "*.Example.com" "notexample.COM" ⟨"", 1, [], none⟩).2.1 _ _
      hpattern hhost
  rw [hmatches]
  decide +kernel

end BoundedCrawl.HostPattern
