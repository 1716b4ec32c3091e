import TokenCache.Proofs.Deadlines
import TokenCache.Proofs.Verbatim
/-!
# The expiry of a refreshed token

A token that came with a reply is judged by the expiry date of the merge.  A lifetime in the reply puts one there,
unless the reply has an expiry date of its own: that is kept as sent, and if it is no number, the token never counts as
expired (`lifetime_ends`).  A reply with neither leaves the expiry date that was stored, and so, once the merge is
saved, the next call asks for another token or serves the new one, as that date has passed or not
(`kept_expiry_decides`).
-/
namespace TokenCache

open Binary64 (twoTo ofInt)

/-! ## Tokens that end -/

namespace ExpiryPolicy

/-- **A token with this expiry date ends**: under each policy it counts as expired at some date. -/
def Ends (expiry : Option Binary64) : Prop :=
  ∀ p : ExpiryPolicy, ∃ now, Calendar.representable (now + p.margin) = true ∧ p.expired expiry now = true

/-- **An instant before the last date comes**, be it taken as milliseconds or as seconds. -/
theorem ends_ofInt {instant : Int} (hfits : Binary64.fits64 instant = true) (h : instant < Calendar.latest) :
    Ends (some (ofInt instant)) := by
  intro p
  have hb : instant.natAbs ≤ twoTo 1000 := by
    rw [Binary64.fits64_iff] at hfits
    exact Nat.le_trans (m := 9223372036854775808) (by omega) (Binary64.twoTo_le (m := 63) (by decide))
  have hlast : Calendar.latest - p.margin + p.margin = 8210266876799999 := Int.sub_add_cancel _ _
  have hd : Calendar.representable (Calendar.latest - p.margin + p.margin) = true := by
    rw [hlast]
    decide
  refine ⟨Calendar.latest - p.margin, hd, (p.expired_iff_instantOf hb hd).2 ?_⟩
  have hlatest : instant < 8210266876799999 := h
  rw [hlast]
  unfold Expiry.instantOf
  split <;> omega

end ExpiryPolicy

/-! ## Replies with a lifetime -/

namespace Record

/-- **A reply with a lifetime leaves an expiry date, unless it sends one that is no number.**  A number that it sends is
kept as sent.  Else the expiry date is the instant at which the lifetime ends, and the token ends. -/
theorem lifetime_ends {reply : Members} {v : Json} {x : Binary64} {now instant : Int} (hk : reply.keys.Nodup)
    (hv : reply.get? lifetimeKey = some v) (hx : quantity? v = some x) (he : EndsAt now x instant) (r : Record)
    (used : String) :
    let expiry := (r.merge reply used now).expiryDate
    (expiry = none ↔ ∃ sent, reply.get? expiryKey = some sent ∧ quantity? sent = none) ∧
      (∀ sent, reply.get? expiryKey = some sent → expiry = quantity? sent) ∧
      (reply.get? expiryKey = none →
        expiry = some (ofInt instant) ∧ (instant < Calendar.latest → ExpiryPolicy.Ends expiry)) := by
  intro expiry
  cases hd : reply.get? expiryKey with
  | some sent =>
    have hsent : expiry = quantity? sent := expiryDate_merge_sent hk hd r used now
    refine ⟨⟨fun hn => ⟨sent, rfl, hsent.symm.trans hn⟩, ?_⟩, ?_, nofun⟩
    · rintro ⟨_, ⟨⟩, hn⟩
      exact hsent.trans hn
    · rintro _ ⟨⟩
      exact hsent
  | none =>
    have himplied : expiry = some (ofInt instant) :=
      expiryDate_merge (impliedExpiry_eq_some.2 ⟨hd, v, x, hv, hx, he⟩) r used
    refine ⟨⟨fun hn => (nomatch himplied.symm.trans hn), nofun⟩, nofun, fun _ => ⟨himplied, fun hl => ?_⟩⟩
    rw [himplied]
    obtain ⟨-, -, hfits⟩ := he
    exact ExpiryPolicy.ends_ofInt hfits hl

/-- An hour as a decimal with blanks, over an expiry date that is no number. -/
theorem blank_hour_ends :
    let r : Record := ⟨[("expiry_date", .string "soon")]⟩
    let reply : Members := [("access_token", .string "t"), ("expires_in", .string " 3600 ")]
    EndsAt 1700000000000 (ofInt 3600) 1700003600000 ∧
      (r.merge reply "u" 1700000000000).expiryDate = some (ofInt 1700003600000) ∧
      ExpiryPolicy.Ends (r.merge reply "u" 1700000000000).expiryDate := by
  intro r reply
  have he : EndsAt 1700000000000 (ofInt 3600) 1700003600000 := expiryAfter_eq_some.1 (by decide +kernel)
  have hk : reply.keys.Nodup := by decide
  have hx : quantity? (.string " 3600 ") = some (ofInt 3600) := by decide +kernel
  obtain ⟨hdate, hends⟩ := (lifetime_ends hk rfl hx he r "u").2.2 rfl
  exact ⟨he, hdate, hends (by decide)⟩

/-- **An expiry date that is sent as null** hides the lifetime beside it, and no policy ever counts the token as
expired. -/
theorem null_hides_lifetime :
    let r : Record := ⟨[("expiry_date", .number (.integer 1000))]⟩
    let reply : Members :=
      [("access_token", .string "t"), ("expires_in", .number (.integer 3600)), ("expiry_date", .null)]
    EndsAt 1700000000000 (ofInt 3600) 1700003600000 ∧ (r.merge reply "u" 1700000000000).expiryDate = none ∧
      ∀ (p : ExpiryPolicy) (later : Instant), p.expired (r.merge reply "u" 1700000000000).expiryDate later = false := by
  intro r reply
  have hn : (r.merge reply "u" 1700000000000).expiryDate = none := by decide +kernel
  refine ⟨expiryAfter_eq_some.1 (by decide +kernel), hn, fun p later => ?_⟩
  rw [hn]
  rfl

end Record

/-! ## Replies without one -/

namespace Record

/-- **A reply without expiry date and lifetime leaves the expiry date that was stored.** -/
theorem expiryDate_undated {members : Members} (hk : members.keys.Nodup) (hd : members.get? expiryKey = none)
    (hl : members.get? lifetimeKey = none) (r : Record) (used : String) (now : Int) :
    (r.merge members used now).reread.expiryDate = r.reread.expiryDate := by
  have hi : impliedExpiry members now = none := impliedExpiry_eq_none.2 fun _ hi => by
    obtain ⟨_, _, hv, -, -⟩ := hi.lifetime
    cases hl.symm.trans hv
  show ((r.merge members used now).reread.get? expiryKey).bind quantity? = (r.reread.get? expiryKey).bind quantity?
  rw [get?_reread, get?_reread, get?_merge_expiry hk, hi, hd]
  rfl

end Record

namespace Authenticator

variable {a : Authenticator} {host : Host} {r : Record} {stored : String} {members : Members} {token : String}

/-- **A call that finds a token with this expiry date**: the token is served as long as it does not count as expired,
and else a request goes out with this refresh token. -/
structure Judged (a : Authenticator) (host : Host) (token used : String) (expiry : Option Binary64)
    (next : Outcome (Except AuthError String)) : Prop where
  served : a.policy.expired expiry host.clock = false → next.value = .ok token ∧ next.requests = [] ∧ next.host = host
  again : a.policy.expired expiry host.clock = true → next.requests = [a.config.refreshRequest used]

theorem judged_of_record (answers : TokenRequest → Answer) (hr : a.store.recordIn host.files = some r)
    (ht : r.accessToken = some token) (hs : r.refreshToken = some stored) :
    Judged a host token stored r.expiryDate (a.accessToken (undisturbed answers) host) where
  served hx := by
    obtain ⟨hv, hh, hq⟩ := accessToken_valid (undisturbed answers) hr (validToken?_eq_some.2 ⟨hx, ht⟩)
    exact ⟨hv, hq.requests, hh⟩
  again hx := accessToken_requests _ hr (validToken?_eq_none.2 (.inr hx)) hs

/-- **A refreshed token is judged by the expiry date that was stored**, if the reply has neither expiry date nor
lifetime and the merge is saved: the next call at the same instant serves the token, or sends a request again, with the
refresh token of the reply or else the stored one.  That date is the one from before the refresh, with a double read
again. -/
theorem kept_expiry_decides (a : Authenticator) (answers : TokenRequest → Answer) (host : Host) {r : Record}
    {stored : String} {reply : TokenReply} {members : Members} {token : String}
    (hr : a.store.recordIn host.files = some r) (hs : r.refreshToken = some stored)
    (hx : r.accessToken = none ∨ a.policy.expired r.expiryDate host.clock = true)
    (hreply : answers (a.config.refreshRequest stored) = .ok reply) (ha : Refresh.Accepted reply members token)
    (hd : members.get? Record.expiryKey = none) (hl : members.get? Record.lifetimeKey = none) :
    let first := a.accessToken (undisturbed answers) host
    (first.value = .ok token ∧ first.requests = [a.config.refreshRequest stored] ∧ first.host.clock = host.clock) ∧
      (first.unsaved = [] →
        a.store.recordIn first.host.files = some (r.merge members stored host.clock).reread ∧
          ∀ answers' : TokenRequest → Answer,
            Judged a first.host token ((Record.usableIn members Record.refreshTokenKey).getD stored) r.reread.expiryDate
              (a.accessToken (undisturbed answers') first.host)) ∧
      ((∀ v, r.get? Record.expiryKey = some v → v.Whole) → r.reread.expiryDate = r.expiryDate) := by
  intro first
  have hg : Refresh.grant? (answers (a.config.refreshRequest stored)) = .ok ⟨members, token⟩ :=
    Refresh.grant?_eq_ok.2 ⟨reply, hreply, ha⟩
  have hcall := accessToken_granted answers hr (validToken?_eq_none.2 hx) hs hg
  refine ⟨⟨hcall.value, hcall.requests, hcall.clock⟩, fun hsaved => ?_, fun hw => ?_⟩
  · have hrecord := hcall.landed hsaved
    refine ⟨hrecord, fun answers' => ?_⟩
    rw [← Record.expiryDate_undated (Refresh.nodup_of_grant hg) hd hl r stored host.clock]
    exact judged_of_record answers' hrecord (Refresh.accessToken_reread stored hg r host.clock)
      (Refresh.refreshToken_reread stored hg hs host.clock)
  · obtain ⟨content, -, hp⟩ := Store.recordIn_eq_some.1 hr
    exact Record.expiryDate_reread hp hw

/-- Over a record without expiry date the token is served. -/
theorem undated_token_is_served :
    let host : Host := ⟨Overlap.looseFiles, 1700000000000⟩
    let first := Overlap.plainAuthenticator.accessToken (undisturbed fun _ => .ok plainReply) host
    let next := Overlap.plainAuthenticator.accessToken (undisturbed fun _ => .error ⟨"offline"⟩) first.host
    first.value = .ok "t" ∧ first.unsaved = [] ∧ next.value = .ok "t" ∧ next.requests = [] := by
  intro host first next
  have hsaved : first.unsaved = [] := by decide +kernel
  obtain ⟨⟨hv, -, -⟩, hlanded, -⟩ := kept_expiry_decides Overlap.plainAuthenticator (fun _ => .ok plainReply) host
    (r := Overlap.looseRecord) rfl rfl (.inl rfl) rfl plainReply_accepted rfl rfl
  obtain ⟨hv', hq', -⟩ := ((hlanded hsaved).2 fun _ => .error ⟨"offline"⟩).served rfl
  exact ⟨hv, hsaved, hv', hq'⟩

/-- **Over a record with an expired token the new one counts as expired at once**: the next call, at the same instant,
sends a request again. -/
theorem fresh_token_counts_as_expired :
    let host := onlyFile "\x7b\"access_token\":\"a\",\"refresh_token\":\"r\",\"expiry_date\":1000\x7d"
    let first := Overlap.plainAuthenticator.accessToken (undisturbed fun _ => .ok plainReply) host
    let next := Overlap.plainAuthenticator.accessToken (undisturbed fun _ => .ok plainReply) first.host
    Refresh.Accepted plainReply [("access_token", .string "t")] "t" ∧
      first.value = .ok "t" ∧ first.requests = [Overlap.plainAuthenticator.config.refreshRequest "r"] ∧
      first.unsaved = [] ∧ first.reports = [] ∧ first.host.clock = host.clock ∧
      next.requests = [Overlap.plainAuthenticator.config.refreshRequest "r"] :=
  ⟨plainReply_accepted, by decide +kernel, by decide +kernel, by decide +kernel, by decide +kernel, by decide +kernel,
    by decide +kernel⟩

end Authenticator
end TokenCache
