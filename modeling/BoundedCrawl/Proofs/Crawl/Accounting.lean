import BoundedCrawl.Proofs.Crawl.Charting
set_option autoImplicit false

/-!
# Every page of a layer is accounted for

Of every page of a layer that has begun, either it is still to be noted what became of it, and
then once only, or that has been noted, and then once only, or its host may not be asked
(`Accounted`).  A page that is searched for links has been noted as fetched.
-/

namespace BoundedCrawl

/-- The host of the URL may not be asked. -/
def Request.Skips (r : Request) (url : String) : Prop :=
  ∃ host, hostOf url = .ok host ∧ r.admitsHost host = false

/-- The pages that were fetched or failed. -/
def Outcomes.settled (o : Outcomes) : List String := o.downloaded ++ o.errors.map (·.1)

namespace Scene

open Crawler

/-- What the crawl has noted, or has returned. -/
def noted (s : Scene) : Outcomes :=
  match s.result with
  | some (.ok o) => o
  | _ => s.outcomes

/-- What has been noted fits the layers and the live instructions. -/
structure Accounted (s : Scene) : Prop where
  tried : tally Instr.tries s.live + ↑s.noted.settled ≤ (↑s.layers.flatten : Multiset String)
  accounted : ∀ url ∈ s.layers.flatten,
    url ∈ tally Instr.tries s.live ∨ url ∈ s.noted.settled ∨ s.request.Skips url
  followed : tally Instr.follows s.live + tally Instr.expands s.live ≤ ↑s.noted.downloaded +
    tally Instr.arrives s.live
  expanding : tally Instr.expands s.live ≤ ↑s.noted.downloaded
  inOrder :
    s.noted.downloaded.Pairwise fun a b => ∀ j k, a ∈ s.layerAt j → b ∈ s.layerAt k → j ≤ k

variable {callers : List (List Instr)} {n : Nat} {s s' : Scene} {i : Instr}
  {rest : Multiset Instr}

/-! ## Noting outcomes -/

theorem settled_addDownloaded (o : Outcomes) (url : String) :
    (↑(o.addDownloaded url).settled : Multiset String) = url ::ₘ ↑o.settled := by
  simp only [Outcomes.settled, Outcomes.addDownloaded, ← Multiset.coe_add,
    Multiset.coe_singleton]
  rw [← Multiset.singleton_add]
  abel

theorem count_map_filter_ne (errors : List (String × Failure)) (url other : String) :
    ((errors.filter fun entry => entry.1 != url).map (·.1)).count other =
      if other = url then 0 else (errors.map (·.1)).count other := by
  induction errors with
  | nil => simp
  | cons entry errors ih =>
    obtain ⟨key, failure⟩ := entry
    by_cases hkey : key = url
    · subst hkey
      rw [List.filter_cons_of_neg (by simp), ih, List.map_cons, List.count_cons]
      by_cases hother : other = key
      · simp [hother]
      · simp [hother, Ne.symm hother]
    · rw [List.filter_cons_of_pos (by simpa using hkey), List.map_cons, List.map_cons,
        List.count_cons, List.count_cons, ih]
      by_cases hother : other = url
      · subst hother
        simp [hkey]
      · simp [hother]

theorem count_settled_addError (o : Outcomes) (url other : String) (failure : Failure) :
    (o.addError url failure).settled.count other =
      o.downloaded.count other + if other = url then 1
        else (o.errors.map (·.1)).count other := by
  simp only [Outcomes.settled, Outcomes.addError, List.count_append, List.map_append,
    List.map_cons, List.map_nil, count_map_filter_ne, List.count_singleton]
  by_cases hother : other = url
  · simp [hother]
  · simp [hother, Ne.symm hother]

theorem count_settled_demote (o : Outcomes) (url other : String) (failure : Failure) :
    (o.demote url failure).settled.count other =
      if other = url then 1
        else o.downloaded.count other + (o.errors.map (·.1)).count other := by
  rw [Outcomes.demote, count_settled_addError]
  by_cases hother : other = url
  · subst hother
    rw [if_pos rfl, if_pos rfl, List.count_eq_zero.mpr (by simp)]
  · rw [if_neg hother, if_neg hother]
    congr 1
    exact List.count_filter (by simpa using hother)

/-! ## What a step does to what has been noted -/

/-- As long as work of a layer is left, the crawl has not returned anything. -/
theorem Steered.noted_eq (h : Steered callers n s) (hi : i ∈ s.live) (hwork : i.isWork = true)
    (o : Outcomes) :
    s.result ≠ some (.ok o) := by
  intro hresult
  have hnone : ∀ j : Instr, j.control = 1 → j ∉ s.live := by
    intro j hj hin
    obtain ⟨others, hlive⟩ := Multiset.exists_cons_of_mem hin
    rw [(h.of_control hlive hj).2] at hresult
    cases hresult
  rcases h.calm ⟨i, hi, hwork⟩ with hawait | hconclude | hinterrupted
  · exact hnone _ rfl hawait
  · exact hnone _ rfl hconclude
  · rw [hinterrupted] at hresult
    cases hresult

theorem noted_of_result (h : ∀ o, s.result ≠ some (.ok o)) : s.noted = s.outcomes := by
  unfold noted
  split
  · next o hresult => exact absurd hresult (h o)
  · rfl

theorem noted_conclude (h : s.result = none) (interrupted : Bool) :
    noted
      { s with
        live := rest
        result := some (if interrupted then .error .interrupted else .ok s.outcomes)
        outcomes := if interrupted then s.outcomes else {} } = s.noted := by
  have hopen : s.noted = s.outcomes := noted_of_result (by simp [h])
  rw [hopen]
  cases interrupted <;> rfl

theorem Accounted.count_le_one (h : Accounted s) (hcharted : Charted s) (url : String) :
    (tally Instr.tries s.live).count url + s.noted.downloaded.count url +
      (s.noted.errors.map (·.1)).count url ≤ 1 := by
  have hle := Multiset.le_iff_count.mp h.tried url
  rw [Multiset.count_add, Multiset.coe_count, Multiset.coe_count, Outcomes.settled,
    List.count_append] at hle
  have hone := List.nodup_iff_count_le_one.mp hcharted.nodup_layers url
  omega

theorem arrives_le_tries (live : Multiset Instr) :
    tally Instr.arrives live ≤ tally Instr.tries live := by
  refine tally_le_tally (fun i => ?_) live
  cases i <;> simp [Instr.arrives, Instr.tries]

/-- An instruction is replaced by others that note as much, and nothing is noted. -/
theorem Accounted.swap (h : Accounted s) {m : Multiset Instr} (hlive : s.live = i ::ₘ rest)
    (hlive' : s'.live = m + rest) (htries : tally Instr.tries m = i.tries)
    (hexpands : tally Instr.expands m ≤ i.expands) (harrives : i.arrives = 0)
    (hfollows : tally Instr.follows m ≤ i.follows + tally Instr.arrives m)
    (hrequest : s'.request = s.request) (hlayers : s'.layers = s.layers)
    (hnoted : s'.noted = s.noted) : Accounted s' := by
  constructor
  · have htried := h.tried
    rw [hlive, tally_cons] at htried
    rw [hlive', tally_add, htries, hnoted, hlayers]
    exact htried
  · intro url hurl
    rw [hlayers] at hurl
    have hold := h.accounted url hurl
    rw [hlive, tally_cons] at hold
    rw [hlive', tally_add, htries, hnoted, hrequest]
    exact hold
  · rw [Multiset.le_iff_count] at *
    intro url
    have hold := Multiset.le_iff_count.mp h.followed url
    have hexp := hexpands url
    have hfol := hfollows url
    rw [hlive] at hold
    rw [hlive', hnoted]
    simp only [tally_cons, tally_add, Multiset.count_add, harrives, Multiset.count_zero] at *
    omega
  · have hold := h.expanding
    rw [hlive, tally_cons] at hold
    rw [hlive', tally_add, hnoted]
    exact le_trans (add_le_add_left hexpands _) hold
  · rw [hnoted]
    simp only [layerAt, hlayers]
    exact h.inOrder

/-- An instruction that notes nothing is over. -/
theorem Accounted.drop (h : Accounted s) (hlive : s.live = i ::ₘ rest) (hlive' : s'.live = rest)
    (htries : i.tries = 0) (harrives : i.arrives = 0) (hrequest : s'.request = s.request)
    (hlayers : s'.layers = s.layers) (hnoted : s'.noted = s.noted) : Accounted s' := by
  refine h.swap (m := 0) hlive ?_ ?_ (Multiset.zero_le _) harrives
    (Multiset.zero_le _) hrequest hlayers hnoted
  · rw [hlive', zero_add]
  · rw [tally_zero, htries]

theorem Accounted.passOn (h : Accounted s) {j : Instr} (hlive : s.live = i ::ₘ rest)
    (hlive' : s'.live = j ::ₘ rest) (htries : j.tries = i.tries)
    (hexpands : j.expands = i.expands) (harrives : i.arrives = 0)
    (hfollows : j.follows = i.follows) (hrequest : s'.request = s.request)
    (hlayers : s'.layers = s.layers) (hnoted : s'.noted = s.noted) : Accounted s' := by
  refine h.swap (m := {j}) hlive
    (hlive'.trans (Multiset.singleton_add ..).symm) ?_ ?_ harrives ?_ hrequest hlayers hnoted
  · rw [tally_singleton, htries]
  · rw [tally_singleton, hexpands]
  · rw [tally_singleton, hfollows]
    exact Multiset.le_add_right _ _

theorem Accounted.exists_layerAt (h : Accounted s) {url : String}
    (hurl : url ∈ s.noted.settled) :
    ∃ k, url ∈ s.layerAt k := by
  apply mem_flatten_iff.mp
  exact Multiset.mem_coe.mp (Multiset.mem_of_le h.tried (Multiset.mem_add.mpr (.inr hurl)))

theorem Accounted.layer (h : Accounted s) {urls : List String}
    (hlive : s.live = .layer n urls ::ₘ rest)
    (hlive' : s'.live = ↑(urls.map (Instr.schedule n)) + .await n ::ₘ rest)
    (hlayers : s'.layers = s.layers ++ [urls]) (hrequest : s'.request = s.request)
    (hnoted : s'.noted = s.noted) (hcharted' : Charted s') : Accounted s' := by
  have hnone : ∀ f : Instr → Multiset String, (∀ url, f (.schedule n url) = 0) →
      tally f (↑(urls.map (Instr.schedule n)) : Multiset Instr) = 0 :=
    fun _ hf => tally_coe_map_eq_zero hf urls
  have htries : tally Instr.tries s'.live = ↑urls + tally Instr.tries s.live := by
    rw [hlive', hlive, tally_add, tally_cons, tally_cons,
      tally_coe_map_singleton (fun _ => rfl)]
    rfl
  have hsame : tally Instr.follows s'.live = tally Instr.follows s.live ∧
      tally Instr.expands s'.live = tally Instr.expands s.live ∧
      tally Instr.arrives s'.live = tally Instr.arrives s.live := by
    simp only [hlive, hlive', tally_add, tally_cons, hnone Instr.follows fun _ => rfl,
      hnone Instr.expands fun _ => rfl, hnone Instr.arrives fun _ => rfl, zero_add]
    exact ⟨rfl, rfl, rfl⟩
  have hgrow : s.layers <+: s'.layers := ⟨[urls], hlayers.symm⟩
  constructor
  · rw [htries, hnoted, hlayers, List.flatten_append, List.flatten_singleton,
      ← Multiset.coe_add, add_assoc, add_comm]
    exact add_le_add_left h.tried _
  · intro url hurl
    rw [hlayers, List.flatten_append, List.flatten_singleton, List.mem_append] at hurl
    rw [htries, hnoted, hrequest, Multiset.mem_add]
    rcases hurl with hin | hin
    · exact (h.accounted url hin).imp_left .inr
    · exact .inl (.inl hin)
  · rw [hsame.1, hsame.2.1, hsame.2.2, hnoted]
    exact h.followed
  · rw [hsame.2.1, hnoted]
    exact h.expanding
  · rw [hnoted]
    refine h.inOrder.imp_of_mem fun {a b} ha hb horder j k hj hk => ?_
    -- what has been noted is in the layers that had begun before
    obtain ⟨j', hj'⟩ := h.exists_layerAt (List.mem_append.mpr (.inl ha))
    obtain ⟨k', hk'⟩ := h.exists_layerAt (List.mem_append.mpr (.inl hb))
    obtain rfl := hcharted'.layer_unique hj (mem_layerAt_mono hgrow hj')
    obtain rfl := hcharted'.layer_unique hk (mem_layerAt_mono hgrow hk')
    exact horder j k hj' hk'

theorem Accounted.skip (h : Accounted s) {url : String}
    (hlive : s.live = .schedule n url ::ₘ rest) (hskips : s.request.Skips url) :
    Accounted { s with live := rest } := by
  constructor
  · have htried := h.tried
    rw [hlive, tally_cons] at htried
    exact le_trans (add_le_add_left (Multiset.le_add_left _ _) _) htried
  · intro other hother
    have hold := h.accounted other hother
    rw [hlive, tally_cons, Multiset.mem_add] at hold
    rcases hold with (heq | hin) | hrest
    · rw [Multiset.mem_singleton.mp heq]
      exact .inr (.inr hskips)
    · exact .inl hin
    · exact .inr hrest
  · have hfollowed := h.followed
    simp only [hlive, tally_cons, Instr.follows, Instr.expands, Instr.arrives,
      zero_add] at hfollowed
    exact hfollowed
  · have hexpanding := h.expanding
    simp only [hlive, tally_cons, Instr.expands, zero_add] at hexpanding
    exact hexpanding
  · exact h.inOrder

theorem Accounted.arrived (h : Accounted s) (hcharted : Charted s) {url : String}
    (hlive : s.live = .arrived n url ::ₘ rest) (hnoted : s.noted = s.outcomes)
    (hnoted' : s'.noted = s.outcomes.addDownloaded url) (hlive' : s'.live = rest)
    (hlayers : s'.layers = s.layers) (hrequest : s'.request = s.request) : Accounted s' := by
  have hsettled : (↑s'.noted.settled : Multiset String) = url ::ₘ ↑s.noted.settled := by
    rw [hnoted', hnoted, settled_addDownloaded]
  have hdownloaded : s'.noted.downloaded = s.noted.downloaded ++ [url] := by
    rw [hnoted', hnoted]
    rfl
  constructor
  · have htried := h.tried
    rw [hlive, tally_cons] at htried
    rw [hlive', hsettled, hlayers, ← Multiset.singleton_add]
    refine le_trans (le_of_eq ?_) htried
    simp only [Instr.tries]
    abel
  · intro other hother
    rw [hlayers] at hother
    have hold := h.accounted other hother
    rw [hlive, tally_cons, Multiset.mem_add] at hold
    rw [hlive', hrequest, ← Multiset.mem_coe (l := s'.noted.settled), hsettled,
      Multiset.mem_cons]
    rcases hold with (heq | hin) | hin | hskips
    · exact .inr (.inl (.inl (Multiset.mem_singleton.mp heq)))
    · exact .inl hin
    · exact .inr (.inl (.inr hin))
    · exact .inr (.inr hskips)
  · have hfollowed := h.followed
    rw [hlive] at hfollowed
    rw [hlive', hdownloaded, ← Multiset.coe_add]
    simp only [tally_cons, Instr.follows, Instr.expands, Instr.arrives, zero_add] at hfollowed
    rwa [add_assoc]
  · have hexpanding := h.expanding
    rw [hlive, tally_cons] at hexpanding
    rw [hlive', hdownloaded, ← Multiset.coe_add]
    exact le_trans (le_trans (Multiset.le_add_left _ _) hexpanding) (Multiset.le_add_right _ _)
  · have hlast : url ∈ s.lastLayer := by
      refine hcharted.current (.arrived n url) ?_ url rfl
      rw [hlive]
      exact Multiset.mem_cons_self _ _
    obtain ⟨m, hm, hmem⟩ := mem_lastLayer_iff.mp hlast
    rw [hdownloaded, List.pairwise_append]
    simp only [layerAt, hlayers]
    refine ⟨h.inOrder, List.pairwise_singleton _ _, fun a _ b hb j k hj hk => ?_⟩
    obtain rfl := List.mem_singleton.mp hb
    obtain rfl := hcharted.layer_unique hmem hk
    have hlt := lt_of_mem_layerAt hj
    omega

/-- A page that arrived is handed on to be searched for links. -/
theorem Accounted.follow (h : Accounted s) (hcharted : Charted s)
    (hown : Owned n s) {url : String} (hlive : s.live = .follow n url ::ₘ rest)
    (hfirst : .arrived n url ∈ rest → .follow n url ∈ rest)
    (hlive' : s'.live = .submit n url ::ₘ rest) (hnoted : s'.noted = s.noted)
    (hlayers : s'.layers = s.layers) (hrequest : s'.request = s.request) : Accounted s' := by
  have hone := h.count_le_one hcharted url
  have harrives := Multiset.le_iff_count.mp (arrives_le_tries s.live) url
  have hfollowed := Multiset.le_iff_count.mp h.followed
  -- that it arrived has been noted by now: otherwise it would be followed twice
  have hnone : (tally Instr.arrives rest).count url = 0 := by
    rw [Multiset.count_eq_zero, mem_tally]
    rintro ⟨i, hi, hurl⟩
    have hi' : i = .arrived n url := by
      have hcrawl := hown i (mem_of_mem_rest hlive hi)
      cases i <;> simp [Instr.arrives, Instr.crawl?] at hurl hcrawl
      rw [hurl, hcrawl]
    subst hi'
    have htwice := Multiset.le_iff_count.mp (le_tally Instr.follows (hfirst hi)) url
    have hsum := hfollowed url
    simp only [hlive, tally_cons, Instr.follows, Instr.expands,
      Instr.arrives, Multiset.count_add, Multiset.coe_count,
      Multiset.count_singleton_self, Multiset.count_zero] at hsum htwice harrives hone
    omega
  constructor
  · have htried := h.tried
    rw [hlive, tally_cons] at htried
    rw [hlive', tally_cons, hnoted, hlayers]
    exact htried
  · intro other hother
    rw [hlayers] at hother
    have hold := h.accounted other hother
    rw [hlive, tally_cons] at hold
    rw [hlive', tally_cons, hnoted, hrequest]
    exact hold
  · rw [Multiset.le_iff_count]
    intro other
    have hsum := hfollowed other
    rw [hlive'] 
    simp only [hlive, hnoted, tally_cons, Instr.follows, Instr.expands, Instr.arrives,
      Multiset.count_add, Multiset.count_zero] at hsum ⊢
    omega
  · rw [Multiset.le_iff_count]
    intro other
    have hsum := hfollowed other
    have hexpanding := Multiset.le_iff_count.mp h.expanding other
    rw [hlive']
    simp only [hlive, hnoted, tally_cons, Instr.follows, Instr.expands, Instr.arrives,
      Multiset.count_add, Multiset.count_zero] at hsum hexpanding ⊢
    by_cases hother : other = url
    · subst hother
      rw [hnone] at hsum
      omega
    · rw [Multiset.count_singleton, if_neg hother]
      omega
  · rw [hnoted]
    simp only [layerAt, hlayers]
    exact h.inOrder

theorem Accounted.fail (h : Accounted s) {url : String} {failure : Failure}
    (hlive : s.live = .fail n url failure ::ₘ rest) (hnoted : s.noted = s.outcomes)
    (hnoted' : s'.noted = s.outcomes.addError url failure) (hlive' : s'.live = rest)
    (hlayers : s'.layers = s.layers) (hrequest : s'.request = s.request) : Accounted s' := by
  have hdownloaded : s'.noted.downloaded = s.noted.downloaded := by
    rw [hnoted', hnoted]
    rfl
  have hcount : ∀ other, s'.noted.settled.count other = s.noted.downloaded.count other +
      if other = url then 1 else (s.noted.errors.map (·.1)).count other := by
    intro other
    rw [hnoted', hnoted, count_settled_addError]
  constructor
  · rw [Multiset.le_iff_count]
    intro other
    have hold := Multiset.le_iff_count.mp h.tried other
    rw [Multiset.count_add, Multiset.coe_count, hlive', hcount, hlayers]
    rw [hlive, tally_cons, Multiset.count_add, Multiset.count_add, Multiset.coe_count,
      Outcomes.settled, List.count_append, Instr.tries, Multiset.count_singleton] at hold
    split at hold <;> rename_i hother
    · rw [if_pos hother]
      omega
    · rw [if_neg hother]
      omega
  · intro other hother
    rw [hlayers] at hother
    have hold := h.accounted other hother
    rw [hlive, tally_cons, Multiset.mem_add] at hold
    rw [hlive', hrequest, ← List.count_pos_iff (l := s'.noted.settled), hcount]
    rw [← List.count_pos_iff (l := s.noted.settled), Outcomes.settled,
      List.count_append] at hold
    rcases hold with (heq | hin) | hin | hskips
    · rw [Multiset.mem_singleton.mp heq, if_pos rfl]
      exact .inr (.inl (Nat.succ_pos _))
    · exact .inl hin
    · refine .inr (.inl ?_)
      split <;> omega
    · exact .inr (.inr hskips)
  · have hfollowed := h.followed
    simp only [hlive, tally_cons, Instr.follows, Instr.expands, Instr.arrives,
      zero_add] at hfollowed
    rwa [hlive', hdownloaded]
  · have hexpanding := h.expanding
    simp only [hlive, tally_cons, Instr.expands, zero_add] at hexpanding
    rwa [hlive', hdownloaded]
  · rw [hdownloaded]
    simp only [layerAt, hlayers]
    exact h.inOrder

/-- It is noted that a page which had arrived failed after all. -/
theorem Accounted.demote (h : Accounted s) (hcharted : Charted s) {url : String}
    {failure : Failure} (hlive : s.live = .demote n url failure ::ₘ rest)
    (hnoted : s.noted = s.outcomes) (hnoted' : s'.noted = s.outcomes.demote url failure)
    (hlive' : s'.live = rest) (hlayers : s'.layers = s.layers)
    (hrequest : s'.request = s.request) : Accounted s' := by
  have hdownloaded : s'.noted.downloaded = s.noted.downloaded.filter (· != url) := by
    rw [hnoted', hnoted]
    rfl
  have hcount : ∀ other, s'.noted.settled.count other = if other = url then 1
    else s.noted.downloaded.count other + (s.noted.errors.map (·.1)).count other := by
    intro other
    rw [hnoted', hnoted, count_settled_demote]
  have hkept : ∀ other, (s.noted.downloaded.filter (· != url)).count other =
      if other = url then 0 else s.noted.downloaded.count other := by
    intro other
    split <;> rename_i hother
    · subst hother
      exact List.count_eq_zero.mpr (by simp)
    · exact List.count_filter (by simpa using hother)
  have hone := h.count_le_one hcharted url
  have hexpanding := Multiset.le_iff_count.mp h.expanding
  have hfollowed := Multiset.le_iff_count.mp h.followed
  simp only [hlive, tally_cons, Instr.follows, Instr.expands, Instr.arrives, Multiset.count_add,
    Multiset.count_zero, Multiset.coe_count, Multiset.count_singleton] at hexpanding hfollowed
  have htwice := hexpanding url
  rw [if_pos rfl] at htwice
  constructor
  · rw [Multiset.le_iff_count]
    intro other
    have hold := Multiset.le_iff_count.mp h.tried other
    rw [Multiset.count_add, Multiset.coe_count, hlive', hcount, hlayers]
    rw [hlive, tally_cons, Multiset.count_add, Multiset.count_add, Multiset.coe_count,
      Outcomes.settled, List.count_append] at hold
    split <;> rename_i hother
    · subst hother
      omega
    · omega
  · intro other hother
    rw [hlayers] at hother
    have hold := h.accounted other hother
    rw [hlive, tally_cons, Multiset.mem_add] at hold
    rw [hlive', hrequest, ← List.count_pos_iff (l := s'.noted.settled), hcount]
    rw [← List.count_pos_iff (l := s.noted.settled), Outcomes.settled,
      List.count_append] at hold
    rcases hold with (hno | hin) | hin | hskips
    · exact absurd hno (Multiset.notMem_zero _)
    · exact .inl hin
    · refine .inr (.inl ?_)
      split <;> omega
    · exact .inr (.inr hskips)
  · rw [Multiset.le_iff_count]
    intro other
    have hold := hfollowed other
    rw [Multiset.count_add, Multiset.count_add, Multiset.coe_count, hlive', hdownloaded, hkept]
    by_cases hother : other = url
    · subst hother
      rw [if_pos rfl] at hold ⊢
      omega
    · rw [if_neg hother] at hold ⊢
      omega
  · rw [Multiset.le_iff_count]
    intro other
    have hold := hexpanding other
    rw [Multiset.coe_count, hlive', hdownloaded, hkept]
    by_cases hother : other = url
    · subst hother
      rw [if_pos rfl] at hold ⊢
      omega
    · rw [if_neg hother] at hold ⊢
      omega
  · rw [hdownloaded]
    simp only [layerAt, hlayers]
    exact h.inOrder.filter _

/-- Every step. -/
theorem Accounted.step {web : Web} (h : Accounted s) (hsteered : Steered callers n s)
    (hcharted : Charted s) (hown : Owned n s) (hcharted' : Charted s')
    (hstep : Step web callers n s s') : Accounted s' := by
  have hworking : ∀ {i : Instr} {rest : Multiset Instr}, s.live = i ::ₘ rest → i.isWork = true →
      ∀ o, s.result ≠ some (.ok o) := by
    intro i rest hlive hwork
    exact hsteered.noted_eq (mem_of_eq_cons hlive) hwork
  cases hstep with
  | @replace i more rest hlive hrep =>
    have hform := hrep.form
    obtain ⟨hfollows, harrives, hboth⟩ := hform.follows_eq
    refine h.swap hlive rfl hform.tries_eq hform.expands_le harrives ?_ rfl rfl rfl
    rw [hfollows, hboth, zero_add]
  | close _ => exact ⟨h.tried, h.accounted, h.followed, h.expanding, h.inOrder⟩
  | stop _ => exact ⟨h.tried, h.accounted, h.followed, h.expanding, h.inOrder⟩
  | refused hlive _ =>
    refine h.drop hlive rfl rfl rfl rfl rfl ?_
    rw [noted, noted, (hsteered.of_control hlive rfl).2]
  | conclude hlive =>
    exact h.drop hlive rfl rfl rfl rfl rfl (noted_conclude (hsteered.of_control hlive rfl).2 _)
  | layer hlive _ _ => exact h.layer hlive rfl rfl rfl rfl hcharted'
  | begin hlive _ | schedule hlive _ _ | pass hlive _ _ _ | advance hlive | mark hlive _ _ =>
    exact h.passOn hlive rfl rfl rfl rfl rfl rfl rfl rfl
  | @finish urls rest hlive _ =>
    refine h.swap (m := {.evict n, .conclude n false}) hlive ?_ (by simp [Instr.tries])
      (by simp [Instr.expands]) rfl (by simp [Instr.follows]) rfl rfl rfl
    rw [Multiset.insert_eq_cons, Multiset.cons_add, Multiset.singleton_add]
  | skip hlive hhost hrefused => exact h.skip hlive ⟨_, hhost, hrefused⟩
  | @interrupt rest hlive _ =>
    refine h.swap (m := {.evict n, .conclude n true}) hlive ?_ (by simp [Instr.tries])
      (by simp [Instr.expands]) rfl (by simp [Instr.follows]) rfl rfl rfl
    rw [Multiset.insert_eq_cons, Multiset.cons_add, Multiset.singleton_add]
  | arrived hlive _ =>
    have hresult := hworking hlive rfl
    exact h.arrived hcharted hlive (noted_of_result hresult)
      (noted_of_result hresult) rfl rfl rfl
  | last hlive _ =>
    exact h.drop hlive rfl rfl rfl rfl rfl rfl
  | follow hlive _ hfirst => exact h.follow hcharted hown hlive hfirst rfl rfl rfl rfl
  | @found url links rest hlive _ =>
    refine h.swap (m := ↑(links.map (Instr.consider n url)) + {.leave n}) hlive ?_ ?_ ?_ rfl ?_
      rfl rfl rfl
    · rw [add_assoc, Multiset.singleton_add]
    · rw [tally_add, tally_coe_map_eq_zero fun _ => rfl]
      simp [Instr.tries]
    · rw [tally_add, tally_coe_map_eq_zero fun _ => rfl]
      simp [Instr.expands]
    · rw [tally_add, tally_coe_map_eq_zero fun _ => rfl]
      simp [Instr.follows]
  | fail hlive =>
    have hresult := hworking hlive rfl
    exact h.fail hlive (noted_of_result hresult) (noted_of_result hresult) rfl rfl rfl
  | demote hlive =>
    have hresult := hworking hlive rfl
    exact h.demote hcharted hlive (noted_of_result hresult)
      (noted_of_result hresult) rfl rfl rfl
  | refuse hlive _ | known hlive _ | enqueue hlive | leave hlive =>
    exact h.drop hlive rfl rfl rfl rfl rfl rfl

theorem Accounted.asked {r : Request} {closed stopped : Bool} :
    Accounted (Scene.asked n r closed stopped) where
  tried := by simp [Scene.asked, noted, Instr.tries, Outcomes.settled]
  accounted := by simp [Scene.asked]
  followed := by simp [Scene.asked, noted, Instr.follows, Instr.expands]
  expanding := by simp [Scene.asked, noted, Instr.expands]
  inOrder := by simp [Scene.asked, noted]

end Scene

end BoundedCrawl
