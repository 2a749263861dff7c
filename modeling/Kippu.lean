import Kippu.Allocating.NotOversold
import Kippu.Attribution.Exact
import Kippu.Audit.BeforeSignature
import Kippu.Audit.Forwarding
import Kippu.Authorities.OneAuthority
import Kippu.Closures.Owned
import Kippu.Counting.Twice
import Kippu.Decreasing.Floor
import Kippu.Derived.AsOf
import Kippu.Derived.ExactlyOnce
import Kippu.Derived.Faithful
import Kippu.Derived.NotRecorded
import Kippu.Derived.OnSaleWalk
import Kippu.Derived.PartWay
import Kippu.Derived.SamePass
import Kippu.Enrolling.Deadlock
import Kippu.Finishing.OneRun
import Kippu.Gates.Check
import Kippu.Holding.Lifecycle
import Kippu.Issuing.GivenBack
import Kippu.Ledger.AllowList
import Kippu.Metadata.Complete
import Kippu.Metadata.Relocatable
import Kippu.Migrating.Order
import Kippu.Money.Restart
import Kippu.Offering.Agree
import Kippu.Operators.Revoked
import Kippu.Pairing.OnlyPaired
import Kippu.Paying.Behind
import Kippu.Payments.PaidFor
import Kippu.Pooling.Wedged
import Kippu.Pricing.Terms
import Kippu.Recording.Forward
import Kippu.Redeeming.AtMostOnce
import Kippu.Relay.AfterCursor
import Kippu.Releasing.UntilReopened
import Kippu.Reports.Paged
import Kippu.Reviewers.Closed
import Kippu.Reviewing.Recorded
import Kippu.Seating.Exclusive
import Kippu.Seats.Identity
import Kippu.Selling.Issuable
import Kippu.SignIn.Access
import Kippu.Sponsor.Lag
import Kippu.Sponsor.RateLimit
import Kippu.Sponsor.Standing
import Kippu.Sponsorship.Binding
import Kippu.Sweeping.SafetyNet
import Kippu.Waiting.NoLostWakeUp
import Kippu.Zoning.StartsEmpty
