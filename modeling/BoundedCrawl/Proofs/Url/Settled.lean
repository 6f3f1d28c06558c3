import BoundedCrawl.Url.Reader
import BoundedCrawl.Proofs.Hosts.Reading
set_option autoImplicit false

/-!
# What a URL that was read is made of

A URL of a scheme with domain names has an authority with a settled host, a path of encoded
segments that begins with a slash and holds no dot segments, and an encoded query (`IsSettled`).
Reading makes no other, whatever the text and the base, as long as the base was read too
(`settles_of_read`).
-/

namespace BoundedCrawl.Url

/-! ## Paths -/

/-- A piece of a path: encoded, without slashes, and no dot segment. -/
structure IsSegment (segment : List Char) : Prop where
  plain : ∀ c ∈ segment, inPath c = false
  slashless : ∀ c ∈ segment, isSlash .special c = false
  notSingle : isSingleDot segment = false
  notDouble : isDoubleDot segment = false

theorem isSegment_nil : IsSegment [] where
  plain := fun _ hc => nomatch hc
  slashless := fun _ hc => nomatch hc
  notSingle := by decide
  notDouble := by decide

/-- The segments of a path that begins with a slash. -/
def IsPath (segments : List (List Char)) : Prop :=
  segments ≠ [] ∧ ∀ segment ∈ segments, IsSegment segment

theorem not_isSlash_of_mem_segmentsOf {kind : SchemeKind} {text segment : List Char} {c : Char}
    (h : segment ∈ segmentsOf kind text) (hc : c ∈ segment) : isSlash kind c = false := by
  induction text generalizing segment with
  | nil => simp_all [segmentsOf]
  | cons d rest ih =>
    by_cases hd : isSlash kind d = true
    · rcases List.mem_cons.mp (by simpa [segmentsOf, hd] using h) with rfl | hrest
      · cases hc
      · exact ih hrest hc
    · rw [Bool.not_eq_true] at hd
      cases hp : segmentsOf kind rest with
      | nil =>
        obtain rfl : segment = [d] := by simpa [segmentsOf, hd, hp] using h
        rwa [List.mem_singleton.mp hc]
      | cons first more =>
        rw [hp] at ih
        simp only [segmentsOf, hd, Bool.false_eq_true, if_false, hp, List.mem_cons] at h
        rcases h with rfl | hmore
        · rcases List.mem_cons.mp hc with rfl | hfirst
          · exact hd
          · exact ih List.mem_cons_self hfirst
        · exact ih (List.mem_cons_of_mem _ hmore) hc

theorem segmentsOf_ne_nil (kind : SchemeKind) (text : List Char) :
    segmentsOf kind text ≠ [] := by
  cases text with
  | nil => exact List.cons_ne_nil _ _
  | cons c rest =>
    simp only [segmentsOf]
    split
    · exact List.cons_ne_nil _ _
    · split <;> exact List.cons_ne_nil _ _

variable {segments : List (List Char)} {segment : List Char}

theorem isSegment_of_mem_addSegment (hsegments : ∀ s ∈ segments, IsSegment s)
    (hplain : ∀ c ∈ segment, inPath c = false)
    (hslashless : ∀ c ∈ segment, isSlash .special c = false) (last : Bool) :
    ∀ s ∈ addSegment .special segments segment last, IsSegment s := by
  have hend : ∀ s ∈ (if last then [[]] else []), IsSegment s := by
    intro s hs
    split at hs
    · exact List.mem_singleton.mp hs ▸ isSegment_nil
    · cases hs
  unfold addSegment
  split
  · exact List.forall_mem_append.mpr
      ⟨fun s hs => hsegments s (List.dropLast_subset segments hs), hend⟩
  · split
    · exact List.forall_mem_append.mpr ⟨hsegments, hend⟩
    · rename_i hdouble hsingle
      rw [if_neg (by simp)]
      refine List.forall_mem_append.mpr ⟨hsegments, List.forall_mem_singleton.mpr ?_⟩
      exact ⟨hplain, hslashless, Bool.not_eq_true _ ▸ hsingle, Bool.not_eq_true _ ▸ hdouble⟩

theorem addSegment_ne_nil : addSegment .special segments segment true ≠ [] := by
  unfold addSegment
  split
  · exact List.append_ne_nil_of_right_ne_nil _ (List.cons_ne_nil _ _)
  · split
    · exact List.append_ne_nil_of_right_ne_nil _ (List.cons_ne_nil _ _)
    · rw [if_neg (by simp)]
      exact List.append_ne_nil_of_right_ne_nil _ (List.cons_ne_nil _ _)

theorem isPath_addSegments {pieces : List (List Char)} (hpieces : pieces ≠ [])
    (hplain : ∀ piece ∈ pieces, ∀ c ∈ piece, inPath c = false ∧ isSlash .special c = false)
    (hsegments : ∀ s ∈ segments, IsSegment s) :
    IsPath (addSegments .special segments pieces) := by
  induction pieces generalizing segments with
  | nil => exact absurd rfl hpieces
  | cons piece more ih =>
    have hpiece := hplain piece List.mem_cons_self
    have hadded :=
      isSegment_of_mem_addSegment hsegments (fun c hc => (hpiece c hc).1)
        (fun c hc => (hpiece c hc).2)
    cases more with
    | nil => exact ⟨addSegment_ne_nil, hadded true⟩
    | cons next more =>
      exact ih (List.cons_ne_nil _ _) (fun p hp => hplain p (List.mem_cons_of_mem _ hp))
        (hadded false)

theorem isPath_readSegments {start : List (List Char)} (hstart : ∀ s ∈ start, IsSegment s)
    (path : List Char) :
    IsPath (readSegments .special start path) := by
  have hescape : ∀ c ∈ "%0123456789ABCDEF".toList, isSlash .special c = false :=
    List.all_iff_forall_prop.mp (by decide)
  refine isPath_addSegments (by simpa using segmentsOf_ne_nil .special path)
    (fun piece hpiece c hc => ?_) hstart
  obtain ⟨text, htext, rfl⟩ := List.mem_map.mp hpiece
  refine ⟨not_needs_of_mem_encode sparesEscapes_inPath hc, ?_⟩
  rcases mem_encode hc with hplain | hescaped
  · exact not_isSlash_of_mem_segmentsOf htext hplain.1
  · exact hescape c hescaped

/-! ## Settled URLs -/

/-- The authority of a settled URL. -/
structure IsSettledAuthority (scheme : List Char) (a : Authority) : Prop where
  user : ∀ c ∈ a.user, inUserInfo c = false
  password : ∀ c ∈ a.password, inUserInfo c = false
  host : ∃ host, a.host = some host ∧ host.IsSettled
  port : ∀ port ∈ a.port, port < 65536 ∧ some port ≠ defaultPort scheme

/-- A URL of a scheme with domain names, as reading makes it. -/
structure IsSettled (u : Url) : Prop where
  authority : ∃ a, u.authority = some a ∧ IsSettledAuthority u.scheme a
  path : ∃ segments, u.path = .rooted segments ∧ IsPath segments
  query : ∀ query ∈ u.query, ∀ c ∈ query, inSpecialQuery c = false

/-- If the URL is one of a scheme with domain names, it is settled. -/
def Settles (u : Url) : Prop := u.kind = .special → u.IsSettled

theorem not_inSpecialQuery_of_readTail {text query : List Char}
    (h : query ∈ (readTail .special text).1) :
    ∀ c ∈ query, inSpecialQuery c = false := by
  unfold readTail at h
  dsimp only at h
  split at h
  · obtain rfl := Option.some.inj h
    exact fun c hc => not_needs_of_mem_encode sparesEscapes_inSpecialQuery hc
  · cases h

variable {scheme : List Char} {a : Authority}

theorem isSettled_withPath {start : List (List Char)}
    (hkind : SchemeKind.ofScheme scheme = .special) (ha : IsSettledAuthority scheme a)
    (hstart : ∀ s ∈ start, IsSegment s) (text : List Char) :
    (withPath scheme (some a) start text).IsSettled := by
  unfold withPath
  rw [hkind]
  exact ⟨⟨a, rfl, ha⟩, ⟨_, rfl, isPath_readSegments hstart _⟩,
    fun query hquery => not_inSpecialQuery_of_readTail hquery⟩

theorem exists_withPath_of_withPathStart (hkind : SchemeKind.ofScheme scheme = .special)
    (authority : Option Authority) (text : List Char) :
    ∃ path, withPathStart scheme authority text = withPath scheme authority [] path := by
  cases text with
  | nil => exact ⟨[], by simp [withPathStart, hkind]⟩
  | cons c rest =>
    by_cases hc : isSlash .special c = true
    · exact ⟨rest, by simp [withPathStart, hkind, hc]⟩
    · exact ⟨c :: rest, by simp [withPathStart, hkind, hc]⟩

theorem isSettled_withPathStart (hkind : SchemeKind.ofScheme scheme = .special)
    (ha : IsSettledAuthority scheme a) (text : List Char) :
    (withPathStart scheme (some a) text).IsSettled := by
  obtain ⟨path, hpath⟩ := exists_withPath_of_withPathStart hkind (some a) text
  rw [hpath]
  exact isSettled_withPath hkind ha (List.forall_mem_nil _) path

/-! ## Authorities -/

theorem lt_of_readPort {text rest : List Char} {port : Option Nat}
    (h : readPort text = .ok (port, rest)) :
    ∀ p ∈ port, p < 65536 := by
  unfold readPort at h
  dsimp only at h
  split at h
  · cases h
  · rename_i hsmall
    split at h
    · simp only [Except.ok.injEq, Prod.mk.injEq] at h
      rintro p hp
      rw [← h.1] at hp
      split at hp
      · cases hp
      · obtain rfl := Option.some.inj hp
        exact Nat.not_le.mp hsmall
    · cases h

/-- What follows a host: a port behind a colon, or nothing. -/
def readPortBehind (text : List Char) : Except UrlFault (Option Nat × List Char) :=
  match text with
  | ':' :: digits => readPort digits
  | rest => .ok (none, rest)

/-- Under a scheme with domain names, a host is always read, and the scheme's own port is left
out. -/
theorem readHostAndPort_of_special (hkind : SchemeKind.ofScheme scheme = .special)
    {text hostText rest : List Char} (hsplit : splitHost false text = (hostText, rest)) :
    readHostAndPort scheme text =
      if hostText.isEmpty then .error .emptyHost
      else (Host.readDomain hostText).bind fun host =>
        (readPortBehind rest).bind fun (port, extra) =>
        .ok (some host, if port == defaultPort scheme then none else port, extra) := by
  unfold readHostAndPort
  rw [hkind, hsplit]
  cases hempty : hostText.isEmpty
  · simp only [hempty, Bool.false_and, Bool.false_eq_true, if_false, reduceCtorEq]
    refine congrArg _ (funext fun host => ?_)
    split
    · rfl
    · rename_i hcolon
      rw [readPortBehind]
      · rfl
      · exact hcolon
  · simp only [hempty, ne_eq, reduceCtorEq, not_false_eq_true, decide_true, Bool.true_or,
      Bool.and_self, if_true]
    rfl

theorem bind_eq_ok_iff {α β : Type} {result : Except UrlFault α} {next : α → Except UrlFault β}
    {b : β} :
    result.bind next = .ok b ↔ ∃ a, result = .ok a ∧ next a = .ok b := by
  cases result <;> simp [Except.bind]

theorem isSettledAuthority_of_readHostAndPort {text extra user password : List Char}
    {host : Option Host} {port : Option Nat} (hkind : SchemeKind.ofScheme scheme = .special)
    (h : readHostAndPort scheme text = .ok (host, port, extra))
    (huser : ∀ c ∈ user, inUserInfo c = false)
    (hpassword : ∀ c ∈ password, inUserInfo c = false) :
    IsSettledAuthority scheme ⟨user, password, host, port⟩ := by
  rw [readHostAndPort_of_special hkind rfl] at h
  split at h
  · cases h
  · obtain ⟨named, hnamed, hrest⟩ := bind_eq_ok_iff.mp h
    obtain ⟨⟨read, left⟩, hread, hresult⟩ := bind_eq_ok_iff.mp hrest
    simp only [Except.ok.injEq, Prod.mk.injEq] at hresult
    obtain ⟨rfl, rfl, rfl⟩ := hresult
    refine ⟨huser, hpassword, ⟨named, rfl, Host.isSettled_of_readDomain hnamed⟩, fun p hp => ?_⟩
    simp only [Option.mem_def, Option.ite_none_left_eq_some, beq_iff_eq] at hp
    obtain ⟨hdefault, rfl⟩ := hp
    refine ⟨?_, hdefault⟩
    unfold readPortBehind at hread
    split at hread
    · exact lt_of_readPort hread p rfl
    · cases hread

theorem not_inUserInfo_of_readCredentials (text : List Char) :
    (∀ c ∈ (readCredentials text).1, inUserInfo c = false) ∧ ∀ c ∈ (readCredentials text).2,
      inUserInfo c = false := by
  have hencoded : ∀ part, ∀ c ∈ encode inUserInfo part, inUserInfo c = false := fun part c hc =>
    not_needs_of_mem_encode sparesEscapes_inUserInfo hc
  unfold readCredentials
  split
  · exact ⟨hencoded _, hencoded _⟩
  · exact ⟨hencoded _, fun _ hc => nomatch hc⟩

/-- An authority is read as credentials, a host and a port, and a path begins behind it. -/
theorem exists_withPathStart_of_readAuthority {text : List Char} {u : Url}
    (h : readAuthority scheme text = .ok u) :
    ∃ (a : Authority) (hostText extra rest : List Char),
      readHostAndPort scheme hostText = .ok (a.host, a.port, extra) ∧
      (∀ c ∈ a.user, inUserInfo c = false) ∧ (∀ c ∈ a.password, inUserInfo c = false) ∧
      u = withPathStart scheme (some a) rest := by
  unfold readAuthority at h
  simp only [bind, Except.bind, pure, Except.pure, throw, throwThe, MonadExceptOf.throw] at h
  split at h
  · split at h
    · cases h
    · rename_i read hread
      obtain rfl := Except.ok.inj h
      exact ⟨{ host := read.1, port := read.2.1 }, _, read.2.2, _, hread, List.forall_mem_nil _,
        List.forall_mem_nil _, rfl⟩
  · rename_i credentials hostText hcredentials
    obtain ⟨huser, hpassword⟩ := not_inUserInfo_of_readCredentials credentials
    split at h
    · cases h
    · split at h
      · cases h
      · rename_i read hread
        split at h
        · cases h
        · obtain rfl := Except.ok.inj h
          exact ⟨⟨_, _, read.1, read.2.1⟩, _, read.2.2, _, hread, huser, hpassword, rfl⟩

theorem isSettled_of_readAuthority {text : List Char} {u : Url}
    (hkind : SchemeKind.ofScheme scheme = .special) (h : readAuthority scheme text = .ok u) :
    u.IsSettled := by
  obtain ⟨a, hostText, extra, rest, hread, huser, hpassword, rfl⟩ :=
    exists_withPathStart_of_readAuthority h
  exact isSettled_withPathStart hkind
    (isSettledAuthority_of_readHostAndPort hkind hread huser hpassword) rest

/-! ## Whole URLs -/

theorem scheme_withPathStart (authority : Option Authority) (text : List Char) :
    (withPathStart scheme authority text).scheme = scheme := by
  unfold withPathStart
  dsimp only
  repeat' split
  all_goals rfl

theorem settles_of_readAuthority {text : List Char} {u : Url}
    (h : readAuthority scheme text = .ok u) : u.Settles := by
  intro hkind
  obtain ⟨a, hostText, extra, rest, -, -, -, rfl⟩ := exists_withPathStart_of_readAuthority h
  rw [kind, scheme_withPathStart] at hkind
  exact isSettled_of_readAuthority hkind h

theorem settles_of_plain {u : Url} (h : SchemeKind.ofScheme u.scheme ≠ .special) : u.Settles :=
  fun hkind => absurd hkind h

theorem Settles.withTail {u : Url} (h : u.Settles)
    {query : Option (List Char)} (fragment : Option (List Char))
    (hquery : u.kind = .special → ∀ text ∈ query, ∀ c ∈ text, inSpecialQuery c = false) :
    ({ u with query := query, fragment := fragment } : Url).Settles := fun hkind =>
  ⟨(h hkind).authority, (h hkind).path, hquery hkind⟩

theorem Settles.withFragment {u : Url} (h : u.Settles) (fragment : Option (List Char)) :
    ({ u with fragment := fragment } : Url).Settles :=
  h.withTail fragment fun hkind => (h hkind).query

theorem Settles.withoutCredentials {u : Url} (h : u.Settles) :
    u.withoutCredentials.Settles := by
  intro hkind
  obtain ⟨a, ha, hsettled⟩ := (h hkind).authority
  refine ⟨⟨{ a with user := [], password := [] }, ?_, ?_⟩, (h hkind).path, (h hkind).query⟩
  · rw [Url.withoutCredentials, ha]
    rfl
  · exact ⟨List.forall_mem_nil _, List.forall_mem_nil _, hsettled.host, hsettled.port⟩

/-! ### Files -/

theorem ofScheme_file : SchemeKind.ofScheme "file".toList = .file := by decide

theorem scheme_dropHostOfDrive (u : Url) : (dropHostOfDrive u).scheme = u.scheme := by
  unfold dropHostOfDrive
  repeat' split
  all_goals rfl

theorem kind_of_inDirectory {text : List Char} {base : Option Url} {u : Url}
    (hbase : ∀ b ∈ base, b.kind = .file) (h : readFile.inDirectory text base = .ok u) :
    u.kind = .file := by
  unfold readFile.inDirectory at h
  dsimp only at h
  split at h
  · obtain rfl := Except.ok.inj h
    exact ofScheme_file
  · have hfile := hbase _ rfl
    split at h
    · obtain rfl := Except.ok.inj h
      exact hfile
    · split at h
      · obtain rfl := Except.ok.inj h
        exact hfile
      · split at h
        · obtain rfl := Except.ok.inj h
          exact ofScheme_file
        · obtain rfl := Except.ok.inj h
          exact ofScheme_file

/-- What is read relative to a file is a file. -/
theorem kind_of_readFile {text : List Char} {base : Option Url} {u : Url}
    (hbase : ∀ b ∈ base, b.kind = .file) (h : readFile text base = .ok u) : u.kind = .file := by
  unfold readFile at h
  dsimp only at h
  split at h
  · split at h
    · split at h
      · obtain rfl := Except.ok.inj h
        exact ofScheme_file
      · split at h
        · cases h
        · obtain rfl := Except.ok.inj h
          rw [kind, scheme_dropHostOfDrive, scheme_withPathStart]
          exact ofScheme_file
    · split at h
      · obtain rfl := Except.ok.inj h
        exact ofScheme_file
      · exact kind_of_inDirectory hbase h
  · split at h
    · obtain rfl := Except.ok.inj h
      exact ofScheme_file
    · exact kind_of_inDirectory hbase h
  · exact kind_of_inDirectory hbase h

/-! ### Every way of reading -/

theorem settles_withPath {a : Option Authority} {start : List (List Char)}
    {text : List Char} (ha : SchemeKind.ofScheme scheme = .special →
      ∃ settled, a = some settled ∧ IsSettledAuthority scheme settled)
    (hstart : SchemeKind.ofScheme scheme = .special → ∀ s ∈ start, IsSegment s) :
    (withPath scheme a start text).Settles := by
  intro hkind
  obtain ⟨settled, rfl, hsettled⟩ := ha hkind
  exact isSettled_withPath hkind hsettled (hstart hkind) text

theorem settles_of_readRelative {text : List Char} {base u : Url} (hbase : base.Settles)
    (h : readRelative text base = .ok u) :
    u.Settles := by
  have hauthority : SchemeKind.ofScheme base.scheme = .special →
      ∃ settled, base.authority = some settled ∧ IsSettledAuthority base.scheme settled :=
    fun hkind => (hbase hkind).authority
  unfold readRelative at h
  split at h
  · obtain rfl := Except.ok.inj h
    exact hbase.withFragment none
  · split at h
    · obtain rfl := Except.ok.inj h
      exact hbase.withTail _ fun hkind => hkind ▸ fun query hquery =>
        not_inSpecialQuery_of_readTail hquery
    · split at h
      · obtain rfl := Except.ok.inj h
        exact hbase.withFragment _
      · split at h
        · split at h
          · split at h
            · exact settles_of_readAuthority h
            · exact settles_of_readAuthority h
          · obtain rfl := Except.ok.inj h
            exact settles_withPath hauthority fun _ => List.forall_mem_nil _
        · obtain rfl := Except.ok.inj h
          refine settles_withPath hauthority fun hkind => ?_
          obtain ⟨segments, hpath, -, hsegments⟩ := (hbase hkind).path
          rw [hpath]
          exact fun s hs => hsegments s (List.dropLast_subset segments hs)

theorem settles_of_readBehindScheme {rest : List Char} {base : Option Url} {u : Url}
    (hbase : ∀ b ∈ base, b.Settles) (h : readBehindScheme scheme rest base = .ok u) :
    u.Settles := by
  unfold readBehindScheme at h
  split at h
  · split at h
    · split at h
      · exact settles_of_readRelative (hbase _ rfl) h
      · exact settles_of_readAuthority h
    · exact settles_of_readAuthority h
  · rename_i hplain
    split at h
    · exact settles_of_readAuthority h
    · obtain rfl := Except.ok.inj h
      exact settles_of_plain hplain
    · obtain rfl := Except.ok.inj h
      exact settles_of_plain hplain

/-- What is read settles, if the base was read before. -/
theorem settles_of_read {text : List Char} {base : Option Url} {u : Url}
    (hbase : ∀ b ∈ base, b.Settles) (h : read text base = .ok u) : u.Settles := by
  have hfile : u.kind = .file → u.Settles :=
    fun hkind => settles_of_plain (by rw [← kind, hkind]; decide)
  unfold read at h
  dsimp only at h
  split at h
  · split at h
    · exact hfile
        (kind_of_readFile (fun b hb => of_decide_eq_true (Option.mem_filter_iff.mp hb).2) h)
    · exact settles_of_readBehindScheme hbase h
  · split at h
    · cases h
    · rename_i base
      have hsettles := hbase base rfl
      split at h
      · obtain rfl := Except.ok.inj h
        exact hsettles.withFragment _
      · cases h
      · split at h
        · rename_i hkind
          exact hfile (kind_of_readFile (fun b hb => Option.some.inj hb ▸ hkind) h)
        · exact settles_of_readRelative hsettles h

/-- A URL that was read: by itself, or relative to one that was read. -/
inductive IsRead : Url → Prop
  | parsed {text : String} {u : Url} (h : parse text = .ok u) : IsRead u
  | joined {base u : Url} {reference : List Char} (hbase : IsRead base)
      (h : base.join reference = .ok u) : IsRead u
  | withoutFragment {u : Url} (h : IsRead u) : IsRead u.withoutFragment
  | withoutCredentials {u : Url} (h : IsRead u) : IsRead u.withoutCredentials

/-- A URL of a scheme with domain names is settled if it was read. -/
theorem IsRead.settles {u : Url} (h : IsRead u) : u.Settles := by
  induction h with
  | parsed h => exact settles_of_read (fun _ hnone => absurd hnone (Option.not_mem_none _)) h
  | joined _ h ih => exact settles_of_read (fun _ hb => Option.some.inj hb ▸ ih) h
  | withoutFragment _ ih => exact ih.withFragment none
  | withoutCredentials _ ih => exact ih.withoutCredentials

end BoundedCrawl.Url
