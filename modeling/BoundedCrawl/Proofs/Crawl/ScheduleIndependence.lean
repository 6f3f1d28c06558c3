import BoundedCrawl.Proofs.Crawl.Conclusion
set_option autoImplicit false

/-!
# The result of a crawl does not depend on the order of things

Many crawls share the workers of a crawler, and everything that can happen next may happen next.
Whatever the order, a crawl that returns comes to what a search of its request comes to that
does one thing after the other.
-/

namespace BoundedCrawl

namespace Crawler

variable {web : Web} {settings : CrawlSettings} {canRun : Bool} {w₀ w : Crawler}
  {found : List Finding} {n : Nat} {c : Crawl}

/-- Every crawl of a crawler that is never closed, if it returns, returns the outcomes of the
sequential search. -/
theorem agrees_sequential_of_never_closed (h₀ : ofSettings settings canRun = .ok w₀)
    (run : Runs (· = web) [joining] w₀ found w) (hc : w.crawls[n]? = some c)
    {x : Except CrawlError Outcomes} (hx : c.result = some x) :
    ∃ o, x = .ok o ∧ o.Agrees (sequential web c.request) := by
  rcases run.ended h₀ hc hx with ⟨o, rfl⟩ | ⟨-, hshutDown⟩ | ⟨-, hshutDown | hclosing⟩
  · exact ⟨o, rfl, run.agrees h₀ (by decide) hc hx⟩
  · exact absurd hshutDown (by decide)
  · exact absurd hshutDown (by decide)
  · exact absurd hclosing (by decide)

/-- The page that links another is fetched, and the other fails, as in the sequential search. -/
theorem linkedPages_agrees_sequential :
    ∃ w found c, ofSettings ⟨2, 1, 1, 1⟩ true = .ok (fresh 1 1 1) ∧
      Runs (· = linkedPages) [joining] (fresh 1 1 1) found w ∧ w.crawls[0]? = some c ∧
      c.result = some (.ok ⟨["foo://a"], [("foo://b", .panicked)]⟩) ∧
      Outcomes.Agrees ⟨["foo://a"], [("foo://b", .panicked)]⟩
        (sequential linkedPages c.request) := by
  have hend :
      ((play linkedPages (fetching ++ goingOn) (fresh 1 1 1)).bind fun p =>
        p.2.crawls[0]?.map fun c => c.result) =
      some (some (.ok ⟨["foo://a"], [("foo://b", .panicked)]⟩)) := rfl
  obtain ⟨found, w, c, run, hc, hresult⟩ := exists_crawl_of_play [joining] hend (by decide)
  have h₀ : ofSettings ⟨2, 1, 1, 1⟩ true = .ok (fresh 1 1 1) := rfl
  obtain ⟨o, ho, hagrees⟩ := agrees_sequential_of_never_closed h₀ run hc hresult
  cases ho
  exact ⟨w, found, c, h₀, run, hc, hresult, hagrees⟩

end Crawler

end BoundedCrawl
