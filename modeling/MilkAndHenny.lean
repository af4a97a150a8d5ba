import MilkAndHenny.Tickets.Capacity
import MilkAndHenny.Liars.Secrecy
import MilkAndHenny.Staff.Authority
import MilkAndHenny.Access.Recovery
import MilkAndHenny.Access.Opened
import MilkAndHenny.SameBrain.Ledger
import MilkAndHenny.SameBrain.Pacing
import MilkAndHenny.SameBrain.Secrecy
import MilkAndHenny.Centre.Stranding
import MilkAndHenny.Centre.Entrances
import MilkAndHenny.Paired.Results
import MilkAndHenny.Waitlist.Alerts
import MilkAndHenny.HotAndCold.Results
import MilkAndHenny.Shared.ZonedDateTime
import MilkAndHenny.Pitches.Converge
import MilkAndHenny.Email.Delivery
import MilkAndHenny.GameResults.Claims
import MilkAndHenny.RateLimit.Isolation
import MilkAndHenny.GamePool.Removals
import MilkAndHenny.Zip.Names
import MilkAndHenny.Zip.Planner
import MilkAndHenny.Transfers.Windows
import MilkAndHenny.Transfers.Identities
import MilkAndHenny.Checkpoints.Answers
import MilkAndHenny.Scoring.Freeze
import MilkAndHenny.Scoring.AwardClaims
import MilkAndHenny.Liars.Polling
import MilkAndHenny.Liars.Repair
import MilkAndHenny.Liars.Repeats
import MilkAndHenny.Liars.Runoff
import MilkAndHenny.SameBrain.Pausing
import MilkAndHenny.SameBrain.Waiting
import MilkAndHenny.Pairs.Race
import MilkAndHenny.SpellingParty.Words
import MilkAndHenny.SameBrain.Starting
import MilkAndHenny.SameBrain.Spelling
import MilkAndHenny.Twin.Closing
import MilkAndHenny.Twin.Plane
import MilkAndHenny.Twin.LogStore
import MilkAndHenny.Liars.Fates
import MilkAndHenny.Tickets.Traces
import MilkAndHenny.Multiplayer.RoomLock
import MilkAndHenny.Scoring.Projections
