import BoundedCrawl.Crawl.Trial
import BoundedCrawl.Crawl.WaitingRoom
import BoundedCrawl.Main
import BoundedCrawl.Proofs.Crawl.Live
import BoundedCrawl.Proofs.Search.Sequential
import BoundedCrawl.Proofs.Crawl.Step
import BoundedCrawl.Proofs.Crawl.Tidy
import BoundedCrawl.Proofs.Crawl.Exchange
import BoundedCrawl.Proofs.Crawl.Shape
import BoundedCrawl.Proofs.Crawl.Scene
import BoundedCrawl.Proofs.Crawl.Projection
import BoundedCrawl.Proofs.Crawl.Tally
import BoundedCrawl.Proofs.Crawl.Steering
import BoundedCrawl.Proofs.Crawl.Charting
import BoundedCrawl.Proofs.Crawl.Tracing
import BoundedCrawl.Proofs.Crawl.Accounting
import BoundedCrawl.Proofs.Crawl.Answers
import BoundedCrawl.Proofs.Crawl.Conclusion
import BoundedCrawl.Proofs.Crawl.ScheduleIndependence
import BoundedCrawl.Proofs.Crawl.LayersApart
import BoundedCrawl.Proofs.Crawl.Slots
import BoundedCrawl.Proofs.Crawl.Effect
import BoundedCrawl.Proofs.Crawl.Effort
import BoundedCrawl.Proofs.Crawl.Progress
import BoundedCrawl.Proofs.Crawl.Closing
import BoundedCrawl.Proofs.Crawl.Sessions
import BoundedCrawl.Proofs.Crawl.Ledger
import BoundedCrawl.Proofs.Crawl.Bounds
import BoundedCrawl.Proofs.Crawl.LayersReached
import BoundedCrawl.Proofs.Crawl.Pairing
import BoundedCrawl.Proofs.Crawl.Places
import BoundedCrawl.Proofs.Crawl.Records
import BoundedCrawl.Proofs.Crawl.FetchedOnce
import BoundedCrawl.Proofs.Crawl.Ending
import BoundedCrawl.Proofs.Crawl.Reach
import BoundedCrawl.Proofs.Crawl.Forgetting
import BoundedCrawl.Proofs.Crawl.Confinement
import BoundedCrawl.Proofs.Crawl.Workers
import BoundedCrawl.Proofs.Crawl.HostSlots
import BoundedCrawl.Proofs.Trial.Step
import BoundedCrawl.Proofs.Trial.Permits
import BoundedCrawl.Proofs.Waiting.Waking
import BoundedCrawl.Proofs.Trial.Journal
import BoundedCrawl.Proofs.Trial.Whereabouts
import BoundedCrawl.Proofs.Trial.Admission
import BoundedCrawl.Proofs.Trial.Cancellation
import BoundedCrawl.Proofs.Trial.Eviction
import BoundedCrawl.Proofs.Pool.Watched
import BoundedCrawl.Proofs.Pool.Accounts
import BoundedCrawl.Proofs.Pool.Joining
import BoundedCrawl.Proofs.Pool.Abandoning
import BoundedCrawl.Proofs.Pool.Draining
import BoundedCrawl.Proofs.Pool.Courses
import BoundedCrawl.Proofs.Trial.Courses
import BoundedCrawl.Proofs.Domain.Bootstring
import BoundedCrawl.Proofs.Domain.Names
import BoundedCrawl.Proofs.Frontier.Gathering
import BoundedCrawl.Proofs.Hosts.Patterns
import BoundedCrawl.Proofs.Links.SamePage
import BoundedCrawl.Proofs.Crawl.Malformed
import BoundedCrawl.Proofs.Settings.Acceptance
