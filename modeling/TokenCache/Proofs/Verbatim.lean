import TokenCache.Proofs.Serving
/-!
# Members that a reply does not mention

The file belongs to a login tool, and most of its members mean nothing to the program.  A refresh whose save lands
leaves them in their order, each with the value that it had, but for numbers: these are read, written and read again
(`refresh_keeps_members`).  Whole numbers of 64 bits come out of that as they were.  Others are doubles on the way, and
digits are lost (`wide_number_loses_digits`).
-/
namespace TokenCache

open Authenticator (undisturbed)

/-- **A refresh keeps the members that the reply does not mention**, in their order: but for the refresh token and the
expiry date each has the value that it had, with its numbers read again, and so the same value if there is no double in
it.  If its save fails, the file holds what it held. -/
theorem refresh_keeps_members (c : Config) (s : Store) (answers : TokenRequest → Answer) (used : String) (host : Host)
    {content : List UInt8} {old members : Members} {reply : TokenReply} {token : String}
    (hf : host.files.readFile s.path = .ok content) (hp : Json.parse content = .ok (.object old))
    (hr : answers (c.refreshRequest used) = .ok reply) (ha : Refresh.Accepted reply members token) :
    let refresh := Refresh.run c s (undisturbed answers).endpoint used host
    let after := refresh.host
    (refresh.unsaved = [] → ∃ (text : List UInt8) (new : Members), after.files.readFile s.path = .ok text ∧
      Json.parse text = .ok (.object new) ∧ old.keys <+: new.keys ∧
      ∀ key, key ≠ Record.refreshTokenKey → key ≠ Record.expiryKey → members.get? key = none →
        new.get? key = (old.get? key).map Json.reread ∧
        ∀ v, old.get? key = some v → v.Whole → new.get? key = some v) ∧
    (refresh.unsaved ≠ [] → after.files.readFile s.path = .ok content) := by
  intro refresh after
  obtain ⟨-, hhost, -, -, hunsaved⟩ := Refresh.run_apply c s (undisturbed answers).endpoint used host
  have hafter : after = (Refresh.receive c s used (answers (c.refreshRequest used)) host).host := hhost
  have hmissing : refresh.unsaved = (Refresh.receive c s used (answers (c.refreshRequest used)) host).unsaved :=
    hunsaved
  rw [hafter, hmissing]
  refine ⟨fun hl => ?_, fun hn => (Refresh.receive_unsaved hn).readFile hf⟩
  have hold : s.recordIn host.files = some ⟨old⟩ :=
    Store.recordIn_eq_some.2 ⟨content, hf, Record.parse_eq_ok.2 hp⟩
  have hg : Refresh.grant? (answers (c.refreshRequest used)) = .ok ⟨members, token⟩ :=
    Refresh.grant?_eq_ok.2 ⟨reply, hr, ha⟩
  have hfile := Refresh.readFile_granted c used host hold hg hl
  -- both sides of the merge were read from a text, so what is written can be read again
  have hrecord : Record.Proper ⟨old⟩ := Json.parse_proper hp
  have hreply : Record.Proper ⟨members⟩ := Json.parse_proper ha.object
  have hread := Record.parse_eq_ok.1 (Record.parse_bytes_reread (hrecord.merge hreply used host.clock))
  refine ⟨_, _, hfile, hread, ?_, fun key ht hx hn => ?_⟩
  · show old.keys <+: Members.keys (Json.rereadMembers _)
    rw [Json.keys_rereadMembers]
    exact Record.keys_merge ⟨old⟩ members used host.clock
  · have hkept : (Record.merge ⟨old⟩ members used host.clock).get? key = old.get? key := by
      rw [Record.get?_merge ht hx (Record.proper_iff.1 hreply).1, hn]
      exact Option.none_or
    have hnew := (Record.get?_reread (Record.merge ⟨old⟩ members used host.clock) key).trans
      (congrArg (Option.map Json.reread) hkept)
    refine ⟨hnew, fun v hv hw => hnew.trans ?_⟩
    rw [hv, Option.map_some, Json.reread_member hp hv hw]

/-! ## Examples -/

/-- A host with a file `f` and no other. -/
def onlyFile (text : String) : Host :=
  ⟨⟨[(["f"], .file (Utf8.encode text) 0o644)], []⟩, 1700000000000⟩

def scopedText : String :=
  "\x7b\"refresh_token\":\"rt\",\"scopes\":[null,18446744073709551615,\"\\u00e9\"]\x7d"

def scopes : Json :=
  .array [.null, .number (.integer 18446744073709551615), .string "é"]

/-- The greatest number of 64 bits stays, in an array that the program knows nothing of. -/
theorem scopes_kept :
    Json.parse (Utf8.encode scopedText) = .ok (.object [("refresh_token", .string "rt"), ("scopes", scopes)]) ∧
      ∃ (text : List UInt8) (new : Members),
        (Refresh.run (Provider.qwen.defaults "home") ⟨"f", true⟩ (undisturbed fun _ => .ok plainReply).endpoint "rt"
          (onlyFile scopedText)).host.files.readFile "f" = .ok text ∧
        Json.parse text = .ok (.object new) ∧ new.get? "scopes" = some scopes := by
  have hf : (onlyFile scopedText).files.readFile "f" = .ok (Utf8.encode scopedText) := rfl
  have hp : Json.parse (Utf8.encode scopedText) =
      .ok (.object [("refresh_token", .string "rt"), ("scopes", scopes)]) :=
    rfl
  have hw : scopes.Whole := by
    refine .array fun v hv => ?_
    simp only [List.mem_cons, List.not_mem_nil, or_false] at hv
    rcases hv with rfl | rfl | rfl
    · exact .null
    · exact .integer _
    · exact .string _
  obtain ⟨hlanded, -⟩ := refresh_keeps_members (Provider.qwen.defaults "home") ⟨"f", true⟩
    (fun _ => .ok plainReply) "rt" (onlyFile scopedText) hf hp rfl plainReply_accepted
  obtain ⟨text, new, hfile, hread, -, hkept⟩ := hlanded (by decide +kernel)
  exact ⟨hp, text, new, hfile, hread, (hkept "scopes" (by decide) (by decide) rfl).2 scopes rfl hw⟩

/-- **A number that 64 bits do not hold is not kept**: the file holds 2⁶⁴ before a refresh, and 384 more after it. -/
theorem wide_number_loses_digits :
    Refresh.Accepted plainReply [("access_token", .string "t")] "t" ∧
      (Refresh.run (Provider.qwen.defaults "home") ⟨"f", true⟩ (undisturbed fun _ => .ok plainReply).endpoint "rt"
        (onlyFile "\x7b\"refresh_token\":\"rt\",\"n\":18446744073709551616\x7d")).host.files.readFile "f" =
        .ok (Utf8.encode
          "\x7b\n  \"refresh_token\": \"rt\",\n  \"n\": 1.8446744073709552e+19,\n  \"access_token\": \"t\"\n\x7d") ∧
      18446744073709552000 = 18446744073709551616 + 384 :=
  ⟨plainReply_accepted, by decide +kernel, by decide⟩

end TokenCache
