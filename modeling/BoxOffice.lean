import BoxOffice.Office.Opening
import BoxOffice.Proofs.TrafficSoundness
import BoxOffice.Seat.Reading
import BoxOffice.Session
import BoxOffice.Proofs.Sales
import BoxOffice.Proofs.Keys
import BoxOffice.Proofs.Replay
import BoxOffice.Proofs.HoldPromise
import BoxOffice.Proofs.Contest
import BoxOffice.Proofs.OfficeTraffic
import BoxOffice.Proofs.ContestWinner
import BoxOffice.Proofs.TakenKey
import BoxOffice.Proofs.BasketSale
import BoxOffice.Proofs.HoldReport
import BoxOffice.Proofs.SameInstant
import BoxOffice.Proofs.Commits
import BoxOffice.Proofs.Ownership
import BoxOffice.Proofs.SaleOrigin
import BoxOffice.Proofs.DraftedStores
import BoxOffice.Proofs.Serializability
import BoxOffice.Proofs.NoTrace
import BoxOffice.Proofs.Ledger
import BoxOffice.Proofs.SeatMap
import BoxOffice.Proofs.Discipline
import BoxOffice.Proofs.BookingTable
import BoxOffice.Proofs.Footing
import BoxOffice.Proofs.RowLocks
import BoxOffice.Proofs.Credentials
import BoxOffice.Proofs.GuardedRequests
import BoxOffice.Proofs.KeyPrivacy
import BoxOffice.Proofs.Calls
import BoxOffice.Proofs.SeatsApart
import BoxOffice.Proofs.CommitAtomicity
import BoxOffice.Proofs.ExpiryArithmetic
import BoxOffice.Proofs.OfficeKeeper
import BoxOffice.Proofs.IssuedTokens
import BoxOffice.Proofs.TextOrder
import BoxOffice.Proofs.SeatListing
import BoxOffice.Proofs.SeatRows
import BoxOffice.Proofs.AcceptedSettings
import BoxOffice.Proofs.SignedCallers
import BoxOffice.Proofs.SettingsReading
import BoxOffice.Proofs.CachedCatalog
import BoxOffice.Proofs.BookingKeys
import BoxOffice.Proofs.PassingFailures
import BoxOffice.Proofs.Logins
import BoxOffice.Proofs.HandClock
