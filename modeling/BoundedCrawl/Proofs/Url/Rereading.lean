import BoundedCrawl.Proofs.Url.Settled
set_option autoImplicit false

/-!
# A URL is read as it is written

A settled URL without a fragment is read from its own text, whatever the base (`read_toText`):
its two slashes stand behind the scheme, so no part of the base is asked for.  Every reading of
a part is undone by its writing, from the back of the text to the front: the query, the
segments, the port and the host, the credentials.  What is written is visible and holds no
number sign (`isVisible_of_mem_toText`), so nothing of it is trimmed away.
-/

namespace BoundedCrawl.Url

/-! ## Characters -/

/-- A character that may stand anywhere in a written URL without a fragment: visible, in ASCII,
and no number sign. -/
structure IsVisible (c : Char) : Prop where
  above : 0x20 < c.toNat
  below : c.toNat < 0x7F
  plain : c ≠ '#'

instance (c : Char) : Decidable (IsVisible c) :=
  decidable_of_iff (0x20 < c.toNat ∧ c.toNat < 0x7F ∧ c ≠ '#')
    ⟨fun ⟨a, b, p⟩ => ⟨a, b, p⟩, fun ⟨a, b, p⟩ => ⟨a, b, p⟩⟩

theorem isVisible_of_not_needs {needs : Char → Bool} (hspace : needs ' ' = true)
    (hsign : needs '#' = true) (hcontrol : ∀ c, isControlOrForeign c = true → needs c = true)
    {c : Char} (h : needs c = false) : IsVisible c := by
  have hplain : isControlOrForeign c ≠ true := fun hc => by rw [hcontrol c hc] at h; cases h
  have hne : c ≠ ' ' := ne_of_apply_ne needs (by rw [h, hspace]; decide)
  have hcode : c.toNat ≠ 0x20 := fun hc => hne (Char.toNat_inj.mp hc)
  simp only [isControlOrForeign, ne_eq, Bool.or_eq_true, decide_eq_true_eq, not_or, Nat.not_lt,
    Nat.not_le] at hplain
  exact ⟨by omega, hplain.2, ne_of_apply_ne needs (by rw [h, hsign]; decide)⟩

theorem isVisible_of_not_inPath {c : Char} (h : inPath c = false) : IsVisible c :=
  isVisible_of_not_needs (by decide) (by decide)
    (fun c hc => by simp [inPath, inFragment, hc]) h

theorem not_inPath_of_not_inUserInfo {c : Char} (h : inUserInfo c = false) : inPath c = false :=
  (Bool.or_eq_false_iff.mp h).1

theorem isVisible_of_not_inSpecialQuery {c : Char} (h : inSpecialQuery c = false) :
    IsVisible c :=
  isVisible_of_not_needs (by decide) (by decide)
    (fun c hc => by simp [inSpecialQuery, inQuery, hc]) h

theorem isVisible_of_not_isForbidden {c : Char} (hascii : Text.isAscii c = true)
    (h : Domain.isForbidden c = false) :
    IsVisible c := by
  have hlow : c.toNat < 128 := of_decide_eq_true hascii
  have hsign : c ≠ '#' := ne_of_apply_ne Domain.isForbidden (by rw [h]; decide)
  simp only [Domain.isForbidden, Bool.or_eq_false_iff, decide_eq_false_iff_not, Nat.not_le,
    beq_eq_false_iff_ne] at h
  exact ⟨h.1.1, by omega, hsign⟩

/-! ## Paths -/

theorem segmentsOf_eq_pieces {text : List Char}
    (h : ∀ c ∈ text, isSlash .special c = true → c = '/') :
    segmentsOf .special text = Text.pieces '/' text := by
  induction text with
  | nil => rfl
  | cons c rest ih =>
    have hrest := ih fun d hd => h d (List.mem_cons_of_mem _ hd)
    by_cases hc : c = '/'
    · subst hc
      rw [segmentsOf, if_pos (by decide), Text.pieces, if_pos rfl, hrest]
    · have hslash : ¬ isSlash .special c = true :=
        fun hslash => hc (h c List.mem_cons_self hslash)
      cases hpieces : Text.pieces '/' rest with
      | nil => exact absurd hpieces (Text.pieces_ne_nil '/' rest)
      | cons piece more => simp [segmentsOf, Text.pieces, hslash, hc, hrest, hpieces]

variable {segments start : List (List Char)}

theorem addSegments_of_isSegment (h : ∀ s ∈ segments, IsSegment s) :
    addSegments .special start segments = start ++ segments := by
  have hadd : ∀ (start : List (List Char)) (s : List Char) (last : Bool), IsSegment s →
      addSegment .special start s last = start ++ [s] := fun start s last hs => by
    simp [addSegment, hs.notSingle, hs.notDouble]
  induction segments generalizing start with
  | nil => exact (List.append_nil start).symm
  | cons s more ih =>
    have hs := h s List.mem_cons_self
    cases more with
    | nil => exact hadd start s true hs
    | cons next more =>
      rw [addSegments, hadd start s false hs, ih fun t ht => h t (List.mem_cons_of_mem _ ht),
        List.append_assoc, List.singleton_append]
      exact List.cons_ne_nil _ _

theorem flatMap_slash (h : segments ≠ []) :
    segments.flatMap ('/' :: ·) = '/' :: Text.joinWith '/' segments := by
  induction segments with
  | nil => exact absurd rfl h
  | cons s more ih =>
    cases more with
    | nil => simp [Text.joinWith]
    | cons next more =>
      rw [List.flatMap_cons, ih (List.cons_ne_nil _ _)]
      rfl

theorem mem_joinWith_slash {c : Char} (h : ∀ s ∈ segments, IsSegment s)
    (hc : c ∈ Text.joinWith '/' segments) :
    c = '/' ∨ (inPath c = false ∧ isSlash .special c = false) :=
  (Text.mem_joinWith hc).imp_right fun ⟨s, hs, hc⟩ =>
    ⟨(h s hs).plain c hc, (h s hs).slashless c hc⟩

/-- The segments of a path are read as they are written. -/
theorem readSegments_joinWith (h : IsPath segments) :
    readSegments .special [] (Text.joinWith '/' segments) = segments := by
  have hslashes : segmentsOf .special (Text.joinWith '/' segments) = segments := by
    rw [segmentsOf_eq_pieces, Text.pieces_joinWith h.1]
    · exact fun s hs hslash => absurd ((h.2 s hs).slashless '/' hslash) (by decide)
    · exact fun c hc hslash => (mem_joinWith_slash h.2 hc).resolve_right fun hplain => by
        rw [hplain.2] at hslash
        cases hslash
  have hencoded : segments.map (encode inPath) = segments :=
    (List.map_congr_left fun s hs => encode_eq_self (h.2 s hs).plain).trans (List.map_id _)
  unfold readSegments
  rw [hslashes, hencoded, addSegments_of_isSegment h.2]
  rfl

/-- A query as it is written. -/
def queryText (query : Option (List Char)) : List Char :=
  match query with
  | some query => '?' :: query
  | none => []

theorem readTail_queryText {query : Option (List Char)}
    (h : ∀ text ∈ query, ∀ c ∈ text, inSpecialQuery c = false) :
    readTail .special (queryText query) = (query, none) := by
  cases query with
  | none => rfl
  | some text =>
    have htext := h text rfl
    have hspan : text.span (· ≠ '#') = (text, []) :=
      Text.span_of_all fun c hc =>
        decide_eq_true (isVisible_of_not_inSpecialQuery (htext c hc)).plain
    simp only [queryText, readTail, hspan, reduceCtorEq, if_false, encode_eq_self htext]

variable {scheme : List Char} {authority : Option Authority}

/-- A path and a query are read as they are written. -/
theorem withPathStart_toText (hkind : SchemeKind.ofScheme scheme = .special)
    (hpath : IsPath segments) {query : Option (List Char)}
    (hquery : ∀ text ∈ query, ∀ c ∈ text, inSpecialQuery c = false) :
    withPathStart scheme authority (segments.flatMap ('/' :: ·) ++ queryText query) =
      ⟨scheme, authority, .rooted segments, query, none⟩ := by
  have hsplit : splitPath (Text.joinWith '/' segments ++ queryText query) =
      (Text.joinWith '/' segments, queryText query) := by
    apply Text.span_append
    · intro c hc
      rcases mem_joinWith_slash hpath.2 hc with rfl | ⟨hplain, -⟩
      · decide
      · have hmark : c ≠ '?' := ne_of_apply_ne inPath (by rw [hplain]; decide)
        simp [hmark, (isVisible_of_not_inPath hplain).plain]
    · cases query with
      | none => exact fun _ hc => nomatch hc
      | some text => exact fun c hc => Option.some.inj hc ▸ by decide
  have hslash : isSlash .special '/' = true := by decide
  rw [flatMap_slash hpath.1, List.cons_append, withPathStart, hkind]
  simp only [hslash, if_true, withPath, hkind, hsplit, readTail_queryText hquery,
    readSegments_joinWith hpath]

/-! ## Authorities -/

/-- Characters that neither end a host nor stand for brackets belong to it. -/
theorem splitHost_append {inBrackets : Bool} {part rest : List Char}
    (h : ∀ c ∈ part, (c = ':' → inBrackets = true) ∧ c ≠ '[' ∧ c ≠ ']') :
    splitHost inBrackets (part ++ rest) =
      (part ++ (splitHost inBrackets rest).1, (splitHost inBrackets rest).2) := by
  induction part with
  | nil => rfl
  | cons c part ih =>
    obtain ⟨hcolon, hopen, hclose⟩ := h c List.mem_cons_self
    have hstays : ¬ (c = ':' && !inBrackets) = true := by
      simpa using hcolon
    rw [List.cons_append, splitHost, if_neg hstays, if_neg hopen, if_neg hclose,
      ih fun d hd => h d (List.mem_cons_of_mem _ hd)]
    rfl

/-- A port as it is written. -/
def portText (port : Option Nat) : List Char :=
  match port with
  | some port => ':' :: Nat.toDigits 10 port
  | none => []

theorem splitHost_portText (port : Option Nat) :
    splitHost false (portText port) = ([], portText port) := by
  cases port with
  | none => rfl
  | some port => simp [portText, splitHost]

theorem splitHost_toText {host : Host} (h : host.IsSettled) (port : Option Nat) :
    splitHost false (host.toText ++ portText port) = (host.toText, portText port) := by
  have hname : ∀ {text : List Char} {labels : List (List Char)}, Domain.IsName labels text →
      splitHost false (text ++ portText port) = (text, portText port) :=
    fun {text labels} hname => by
    rw [splitHost_append, splitHost_portText, List.append_nil]
    intro c hc
    have hmark : ∀ {mark}, Domain.isForbidden mark = true → c ≠ mark := fun hmark =>
      ne_of_apply_ne Domain.isForbidden (by rw [hname.isForbidden_of_mem hc, hmark]; decide)
    exact ⟨fun heq => absurd heq (hmark (by decide)), hmark (by decide), hmark (by decide)⟩
  cases host with
  | name text =>
    obtain ⟨⟨labels, hlabels⟩, -, -⟩ := h
    exact hname hlabels
  | ipv4 address => exact hname (Host.isName_ipv4Text address)
  | ipv6 pieces =>
    have hinside : ∀ c ∈ Host.ipv6Text pieces, (c = ':' → true = true) ∧ c ≠ '[' ∧ c ≠ ']' := by
      have hall :
          ∀ d ∈ List.range 16, Nat.digitChar d ≠ '[' ∧ Nat.digitChar d ≠ ']' := by decide
      intro c hc
      rcases Host.mem_ipv6Text hc with rfl | ⟨d, hd, rfl⟩
      · decide
      · exact ⟨fun _ => rfl, hall d (List.mem_range.mpr hd)⟩
    have hopened : splitHost true (Host.ipv6Text pieces ++ ']' :: portText port) =
        (Host.ipv6Text pieces ++ [']'], portText port) := by
      rw [splitHost_append hinside, splitHost, if_neg (by decide), if_neg (by decide),
        if_pos rfl, splitHost_portText]
    rw [Host.toText, List.append_assoc, List.cons_append, splitHost, if_neg (by decide),
      if_pos rfl, List.singleton_append, hopened]
    rfl

theorem readPortBehind_portText {port : Option Nat} (h : ∀ p ∈ port, p < 65536) :
    readPortBehind (portText port) = .ok (port, []) := by
  cases port with
  | none => rfl
  | some p =>
    have hspan : (Nat.toDigits 10 p).span Text.isDigit = (Nat.toDigits 10 p, []) :=
      Text.span_of_all (List.all_eq_true.mp (Text.all_isDigit_toDigits p))
    have hnumber := Text.readNumber_toDigits (by decide : 1 < 10) (by decide) p
    have hsmall := h p rfl
    have hempty : (Nat.toDigits 10 p).isEmpty = false :=
      List.isEmpty_eq_false_iff.mpr Nat.toDigits_ne_nil
    rw [portText, readPortBehind, readPort, hspan]
    simp only [hnumber, Nat.not_le.mpr hsmall, hempty, List.isEmpty_nil, Bool.true_or,
      Bool.false_eq_true, if_true, if_false]

/-- A host and a port are read as they are written. -/
theorem readHostAndPort_toText (hkind : SchemeKind.ofScheme scheme = .special)
    {host : Host} (hhost : host.IsSettled) {port : Option Nat}
    (hport : ∀ p ∈ port, p < 65536 ∧ some p ≠ defaultPort scheme) :
    readHostAndPort scheme (host.toText ++ portText port) = .ok (some host, port, []) := by
  have hnonempty : host.toText.isEmpty = false :=
    List.isEmpty_eq_false_iff.mpr (Host.toText_ne_nil hhost)
  have hkept : (if port == defaultPort scheme then none else port) = port := by
    cases port with
    | none => exact ite_self _
    | some p => exact if_neg fun heq => (hport p rfl).2 (beq_iff_eq.mp heq)
  rw [readHostAndPort_of_special hkind (splitHost_toText hhost port), hnonempty,
    Host.readDomain_toText hhost]
  simp only [Bool.false_eq_true, if_false, Except.bind,
    readPortBehind_portText fun p hp => (hport p hp).1, hkept]

theorem mem_portText {port : Option Nat} {c : Char} (h : c ∈ portText port) :
    c = ':' ∨ ∃ d < 10, c = Nat.digitChar d := by
  cases port with
  | none => cases h
  | some p =>
    exact (List.mem_cons.mp h).imp_right (Text.exists_digit_of_mem_toDigits (by decide))

theorem readCredentials_toText {user password : List Char}
    (huser : ∀ c ∈ user, inUserInfo c = false)
    (hpassword : ∀ c ∈ password, inUserInfo c = false) :
    readCredentials (user ++ if password.isEmpty then [] else ':' :: password) =
      (user, password) := by
  have hcolon : ∀ c ∈ user, decide (c ≠ ':') = true := fun c hc =>
    decide_eq_true (ne_of_apply_ne inUserInfo (by rw [huser c hc]; decide))
  unfold readCredentials
  cases password with
  | nil =>
    rw [List.isEmpty_nil, if_pos rfl, List.append_nil, Text.span_of_all hcolon]
    simp only [encode_eq_self huser]
  | cons c password =>
    rw [List.isEmpty_cons, if_neg Bool.false_ne_true, Text.span_append hcolon (by simp)]
    simp only [encode_eq_self huser, encode_eq_self hpassword]

/-- The marks that end an authority or the credentials in it. -/
def endMarks : List Char := ['/', '?', '#', '\\', '@']

theorem mem_endMarks_of_endsAuthority {c : Char} (h : endsAuthority .special c = true) :
    c ∈ endMarks := by
  simp only [endsAuthority, SchemeKind.takesBackslash, Bool.or_eq_true, beq_iff_eq,
    Bool.true_and] at h
  rcases h with ((rfl | rfl) | rfl) | rfl <;> decide

theorem notMem_endMarks {goesOut : Char → Bool} (hmarks : endMarks.all goesOut = true)
    {c : Char} (h : goesOut c = false) :
    c ∉ endMarks := fun hmark => by
  rw [List.all_eq_true.mp hmarks c hmark] at h
  cases h

theorem standing_of_not_inUserInfo {c : Char} (h : inUserInfo c = false) :
    IsVisible c ∧ c ∉ endMarks :=
  ⟨isVisible_of_not_inPath (not_inPath_of_not_inUserInfo h), notMem_endMarks (by decide) h⟩

/-- None of the characters of a host and a port ends an authority or its credentials. -/
theorem standing_of_mem_place {host : Host} (hhost : host.IsSettled) {port : Option Nat}
    {c : Char} (hc : c ∈ host.toText ++ portText port) : IsVisible c ∧ c ∉ endMarks := by
  rcases List.mem_append.mp hc with hhostText | hport
  · rcases Host.mem_toText hhost hhostText with ⟨hascii, hfree⟩ | hbracket
    · exact ⟨isVisible_of_not_isForbidden hascii hfree, notMem_endMarks (by decide) hfree⟩
    · have hall : ∀ mark ∈ [':', '[', ']'], IsVisible mark ∧ mark ∉ endMarks :=
        List.all_iff_forall_prop.mp (by decide)
      exact hall c hbracket
  · rcases mem_portText hport with rfl | ⟨d, hd, rfl⟩
    · decide
    · have hall : ∀ e ∈ List.range 10, IsVisible (Nat.digitChar e) ∧
          Nat.digitChar e ∉ endMarks := by decide
      exact hall d (List.mem_range.mpr hd)

variable {a : Authority}

theorem toText_authority {host : Host} (hhost : a.host = some host) :
    a.toText = a.credentials ++ (host.toText ++ portText a.port) := by
  rw [Authority.toText, hhost, List.append_assoc]
  cases a.port <;> rfl

theorem visible_of_mem_authorityText (h : IsSettledAuthority scheme a) {c : Char}
    (hc : c ∈ a.toText) :
    IsVisible c ∧ endsAuthority .special c = false := by
  obtain ⟨host, hhost, hsettled⟩ := h.host
  have hstands : IsVisible c ∧ c ∉ endMarks → IsVisible c ∧ endsAuthority .special c = false :=
    fun ⟨hvisible, hmark⟩ =>
    ⟨hvisible, Bool.not_eq_true _ ▸ fun hends => hmark (mem_endMarks_of_endsAuthority hends)⟩
  rw [toText_authority hhost] at hc
  rcases List.mem_append.mp hc with hcredentials | hplace
  · unfold Authority.credentials at hcredentials
    split at hcredentials
    · cases hcredentials
    · rcases List.mem_append.mp hcredentials with hboth | hat
      · rcases List.mem_append.mp hboth with huser | hpassword
        · exact hstands (standing_of_not_inUserInfo (h.user c huser))
        · split at hpassword
          · cases hpassword
          · rcases List.mem_cons.mp hpassword with rfl | hpassword
            · decide
            · exact hstands (standing_of_not_inUserInfo (h.password c hpassword))
      · obtain rfl := List.mem_singleton.mp hat
        decide
  · exact hstands (standing_of_mem_place hsettled hplace)

/-- An authority is read as it is written. -/
theorem readAuthority_toText (hkind : SchemeKind.ofScheme scheme = .special)
    (h : IsSettledAuthority scheme a) {tail : List Char}
    (htail : ∀ c ∈ tail.head?, endsAuthority .special c = true) :
    readAuthority scheme (a.toText ++ tail) = .ok (withPathStart scheme (some a) tail) := by
  have hfront :
      (a.toText ++ tail).span (fun c => !endsAuthority .special c) = (a.toText, tail) :=
    Text.span_append (fun c hc => by rw [(visible_of_mem_authorityText h hc).2]; rfl)
      (fun c hc => by rw [htail c hc]; rfl)
  obtain ⟨user, password, named, port⟩ := a
  obtain ⟨host, rfl, hsettled⟩ : ∃ host, named = some host ∧ host.IsSettled := h.host
  have hat : '@' ∉ host.toText ++ portText port :=
    fun hmem => (standing_of_mem_place hsettled hmem).2 (by decide)
  have hread :
      readHostAndPort scheme (host.toText ++ portText port) = .ok (some host, port, []) :=
    readHostAndPort_toText hkind hsettled h.port
  have hplace : (host.toText ++ portText port).isEmpty = false :=
    List.isEmpty_eq_false_iff.mpr
      (List.append_ne_nil_of_left_ne_nil (Host.toText_ne_nil hsettled) _)
  have htext : Authority.toText ⟨user, password, some host, port⟩ = _ := toText_authority rfl
  dsimp only [Authority.credentials] at htext
  by_cases hnone : (user.isEmpty && password.isEmpty) = true
  · have hcredentials :
        splitCredentials (Authority.toText ⟨user, password, some host, port⟩) = none := by
      rw [htext, if_pos hnone, List.nil_append]
      simp only [splitCredentials, Text.span_reverse_of_notMem hat]
    rw [if_pos hnone, List.nil_append] at htext
    obtain ⟨huser, hpassword⟩ := Bool.and_eq_true_iff.mp hnone
    obtain rfl := List.isEmpty_iff.mp huser
    obtain rfl := List.isEmpty_iff.mp hpassword
    unfold readAuthority
    simp only [hkind, hfront, hcredentials]
    rw [htext, hread]
    rfl
  · have hcredentials : splitCredentials (Authority.toText ⟨user, password, some host, port⟩) =
        some (user ++ (if password.isEmpty then [] else ':' :: password),
        host.toText ++ portText port) := by
      rw [htext, if_neg hnone, List.append_assoc, List.singleton_append]
      simp only [splitCredentials, Text.span_reverse_append hat, List.reverse_reverse]
    unfold readAuthority
    simp only [hkind, hfront, hcredentials, readCredentials_toText h.user h.password, hplace,
      hread, Bool.and_false, Bool.false_and, Bool.false_eq_true, if_false]
    rfl

/-! ## Whole URLs -/

/-- A scheme with domain names is written in small letters. -/
theorem isSmall_of_mem_scheme (hkind : SchemeKind.ofScheme scheme = .special) {c : Char}
    (hc : c ∈ scheme) :
    Text.isLetter c = true ∧ c.toLower = c := by
  have hall : ∀ s ∈ ["http", "https", "ws", "wss", "ftp"],
      (s.toList.all fun c => Text.isLetter c && c.toLower == c) = true := by decide
  unfold SchemeKind.ofScheme at hkind
  split at hkind
  · cases hkind
  · split at hkind
    · rename_i hany
      obtain ⟨s, hs, heq⟩ := List.any_eq_true.mp hany
      obtain rfl := beq_iff_eq.mp heq
      simpa using List.all_eq_true.mp (hall s hs) c hc
    · cases hkind

theorem scheme_ne_nil (hkind : SchemeKind.ofScheme scheme = .special) : scheme ≠ [] :=
  fun hnone => by
  rw [hnone] at hkind
  exact absurd hkind (by decide)

theorem isVisible_of_isLetter {c : Char} (h : Text.isLetter c = true) : IsVisible c := by
  have hsign : c ≠ '#' := ne_of_apply_ne Text.isLetter (by rw [h]; decide)
  simp only [Text.isLetter, Bool.or_eq_true, Bool.and_eq_true, decide_eq_true_eq,
    Text.le_iff_toNat_le, Char.reduceToNat] at h
  exact ⟨by omega, by omega, hsign⟩

theorem splitScheme?_special (hkind : SchemeKind.ofScheme scheme = .special)
    (rest : List Char) :
    splitScheme? (scheme ++ ':' :: rest) = some (scheme, rest) := by
  have hscheme : ∀ c ∈ scheme, inScheme c = true := fun c hc => by
    simp [inScheme, (isSmall_of_mem_scheme hkind hc).1]
  have hsmall : Text.lowercase scheme = scheme :=
    (List.map_congr_left fun c hc => (isSmall_of_mem_scheme hkind hc).2).trans
      (List.map_id scheme)
  have hspan : (scheme ++ ':' :: rest).span inScheme = (scheme, ':' :: rest) :=
    Text.span_append hscheme fun c hc => Option.some.inj hc ▸ by decide
  obtain ⟨c, more, rfl⟩ := List.exists_cons_of_ne_nil (scheme_ne_nil hkind)
  have hletter := (isSmall_of_mem_scheme hkind List.mem_cons_self).1
  rw [List.cons_append] at hspan ⊢
  rw [splitScheme?, if_pos hletter, hspan]
  simp only [hsmall]

theorem toText_eq {u : Url} {segments : List (List Char)} (hauthority : u.authority = some a)
    (hpath : u.path = .rooted segments) (hfragment : u.fragment = none) :
    u.toText = u.scheme ++ ':' :: '/' :: '/' ::
      (a.toText ++ (segments.flatMap ('/' :: ·) ++ queryText u.query)) := by
  unfold Url.toText
  rw [hauthority, hpath, hfragment]
  cases u.query <;> simp [UrlPath.toText, queryText]

/-- What is written of a URL without a fragment is visible and holds no number sign. -/
theorem isVisible_of_mem_toText {u : Url} (hkind : u.kind = .special) (h : u.IsSettled)
    (hfragment : u.fragment = none) {c : Char} (hc : c ∈ u.toText) : IsVisible c := by
  obtain ⟨a, hauthority, ha⟩ := h.authority
  obtain ⟨segments, hpath, hsegments⟩ := h.path
  rw [toText_eq hauthority hpath hfragment] at hc
  simp only [List.mem_append, List.mem_cons, List.mem_flatMap] at hc
  rcases hc with hc | rfl | rfl | rfl | hc | ⟨s, hs, rfl | hc⟩ | hc
  · exact isVisible_of_isLetter (isSmall_of_mem_scheme hkind hc).1
  · decide
  · decide
  · decide
  · exact (visible_of_mem_authorityText ha hc).1
  · decide
  · exact isVisible_of_not_inPath ((hsegments.2 s hs).plain c hc)
  · cases hquery : u.query with
    | none => rw [hquery] at hc; cases hc
    | some query =>
      rw [hquery] at hc
      rcases List.mem_cons.mp hc with rfl | hc
      · decide
      · exact isVisible_of_not_inSpecialQuery (h.query query hquery c hc)

theorem trimBy_eq_self {drop : Char → Bool} {text : List Char}
    (h : ∀ c ∈ text, drop c = false) : Text.trimBy drop text = text := by
  have hkeep : ∀ {l : List Char}, (∀ c ∈ l, drop c = false) → l.dropWhile drop = l :=
    fun {l} hl => by
    cases l with
    | nil => rfl
    | cons c l => simp [hl c List.mem_cons_self]
  rw [Text.trimBy, hkeep h, hkeep fun c hc => h c (List.mem_reverse.mp hc),
    List.reverse_reverse]

theorem significant_of_isVisible {text : List Char} (h : ∀ c ∈ text, IsVisible c) :
    significant text = text := by
  have hblank : ∀ c ∈ text, isControlOrBlank c = false :=
    fun c hc => decide_eq_false (Nat.not_le.mpr (h c hc).above)
  have hbreak : ∀ c ∈ text, (!isTabOrBreak c) = true := fun c hc => by
    have hmarks : ∀ mark, isTabOrBreak mark = true → ¬ IsVisible mark := fun mark hmark => by
      simp only [isTabOrBreak, Bool.or_eq_true, beq_iff_eq] at hmark
      rcases hmark with (rfl | rfl) | rfl <;> decide
    rw [Bool.not_eq_true', ← Bool.not_eq_true]
    exact fun hmark => hmarks c hmark (h c hc)
  rw [significant, trimBy_eq_self hblank, List.filter_eq_self.mpr hbreak]

theorem dropSlashes_authorityText (h : IsSettledAuthority scheme a) (tail : List Char) :
    dropSlashes ('/' :: '/' :: (a.toText ++ tail)) = a.toText ++ tail := by
  obtain ⟨host, hhost, hsettled⟩ := h.host
  have hnonempty : a.toText ≠ [] := by
    rw [toText_authority hhost]
    exact List.append_ne_nil_of_right_ne_nil _
      (List.append_ne_nil_of_left_ne_nil (Host.toText_ne_nil hsettled) _)
  obtain ⟨c, rest, htext⟩ := List.exists_cons_of_ne_nil hnonempty
  have hc := (visible_of_mem_authorityText h (htext ▸ List.mem_cons_self)).2
  have hslash : ¬ (c == '/' || c == '\\') = true := by
    intro hslash
    simp only [Bool.or_eq_true, beq_iff_eq] at hslash
    rcases hslash with rfl | rfl <;> exact absurd hc (by decide)
  rw [htext]
  simp [dropSlashes, hslash]

/-- A URL without a fragment is read as it is written, relative to any base and by itself. -/
theorem read_toText {u : Url} (hkind : u.kind = .special) (h : u.IsSettled)
    (hfragment : u.fragment = none) (base : Option Url) :
    read u.toText base = .ok u := by
  have hsignificant :=
    significant_of_isVisible fun c => isVisible_of_mem_toText hkind h hfragment
  obtain ⟨a, hauthority, ha⟩ := h.authority
  obtain ⟨segments, hpath, hsegments⟩ := h.path
  obtain ⟨tail, htail⟩ : ∃ tail, segments.flatMap ('/' :: ·) ++ queryText u.query = tail :=
    ⟨_, rfl⟩
  have htext : u.toText = u.scheme ++ ':' :: '/' :: '/' :: (a.toText ++ tail) :=
    htail ▸ toText_eq hauthority hpath hfragment
  have hread : readAuthority u.scheme (a.toText ++ tail) = .ok u := by
    rw [readAuthority_toText hkind ha, ← htail, withPathStart_toText hkind hsegments h.query,
      ← hauthority, ← hpath, ← hfragment]
    rw [← htail, flatMap_slash hsegments.1]
    exact fun c hc => Option.some.inj hc ▸ by decide
  have hspecial : SchemeKind.ofScheme u.scheme = .special := hkind
  have hsplit : splitScheme? u.toText = some (u.scheme, '/' :: '/' :: (a.toText ++ tail)) := by
    rw [htext, splitScheme?_special hkind]
  have hslashes : ¬ countSlashes ('/' :: '/' :: (a.toText ++ tail)) < 2 := by
    simp [countSlashes]
  have hfile : ¬ SchemeKind.ofScheme u.scheme = .file := fun hfile => by
    rw [kind, hfile] at hkind
    cases hkind
  have hbehind : readBehindScheme u.scheme ('/' :: '/' :: (a.toText ++ tail)) base = .ok u := by
    unfold readBehindScheme
    rw [if_pos hspecial]
    cases base with
    | none => rwa [dropSlashes_authorityText ha]
    | some base =>
      simp only [hslashes, decide_false, Bool.false_and, Bool.false_eq_true, if_false,
        dropSlashes_authorityText ha, hread]
  unfold read
  simp only [hsignificant, hsplit, hfile, if_false, hbehind]

end BoundedCrawl.Url
