import TokenCache.CommandLine
import TokenCache.Edit
import TokenCache.Http.Transport
import TokenCache.Main
import TokenCache.Proofs.Atomicity
import TokenCache.Proofs.Disclosure
import TokenCache.Proofs.Endpoint
import TokenCache.Proofs.ImpliedExpiry
import TokenCache.Proofs.Lifetimes
import TokenCache.Proofs.LockPlaces
import TokenCache.Proofs.Locking
import TokenCache.Proofs.ShallowMerge
import TokenCache.Proofs.Spellings
import TokenCache.Proofs.StatusDates
import TokenCache.Proofs.Turns
import TokenCache.Proofs.Verdicts
