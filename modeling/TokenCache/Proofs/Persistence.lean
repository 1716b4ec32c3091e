import TokenCache.Proofs.Refusal
/-!
# Granted refreshes

A refresh whose answer is of use gives its token whatever becomes of the save.  What is saved is the reply merged over
the record that the files hold when the answer comes, and never one that was read before (`refresh_persists`).  The file
at the place of the credential path is replaced as a whole or stays; apart from it only directories on the way are made.

A path can lead through the link that it names: such a link is replaced as any other entry, and then the path names
nothing (`replaced_link_hides_file`).
-/
namespace TokenCache

open FileSystem (Grows)

/-- **What a save that lands has done**: the entry at the place of the path is the record's file, of mode 600, and every
other entry is as it was or is a new directory on the way.  The path names that file, unless its own way led through a
link that was replaced: then it names nothing. -/
structure Landed (s : Store) (r : Record) (before after : FileSystem) (made : FileSystem) (p : FileSystem.Place) :
    Prop where
  grows : Grows (DirectoryOn (Path.directory s.path) made) before made
  replaced : Store.Replaced made s.path r.bytes p after
  named : (FileSystem.Clear made s.path p ∧ after.status? s.path = some (.file r.bytes 0o600)) ∨
    (¬FileSystem.Clear made s.path p ∧ after.status? s.path = none ∧
      ∃ target, before.get? p.location = some (.link target))

/-- **What a save that failed has done**: it made directories on the way at most, so that what the path named it still
names. -/
structure Missed (s : Store) (before after : FileSystem) : Prop where
  grows : Grows (DirectoryOn (Path.directory s.path) after) before after
  named : ∀ e, before.status? s.path = some e → after.status? s.path = some e

/-- **What a granted refresh comes to**, from the host in which the answer came. -/
structure Persisted (s : Store) (r : Record) (before : Host) (token : String) (o : Outcome (Except AuthError String)) :
    Prop where
  value : o.value = .ok token
  usable : Text.blank token = false
  landed : (s.save r before).value = true →
    o.reports = [] ∧ ∃ made p, Landed s r before.files o.host.files made p
  missed : (s.save r before).value = false → Missed s before.files o.host.files ∧
    ∃ detail, o.reports = if s.observed then [.persistFailed s.path detail] else []

/-! ## The path after a save -/

theorem FileSystem.Grows.status? {new : Location → Entry → Prop} {fs fs' : FileSystem} {path : String} {e : Entry}
    (h : Grows new fs fs') (hs : fs.status? path = some e) : fs'.status? path = some e := by
  unfold FileSystem.status? at hs ⊢
  split at hs
  · rename_i l e' hr
    rw [h.resolve hr]
    exact hs
  · cases hs

theorem landed_of_replaced {s : Store} {r : Record} {before after made : FileSystem} {p : FileSystem.Place}
    (hg : Grows (DirectoryOn (Path.directory s.path) made) before made)
    (hr : Store.Replaced made s.path r.bytes p after) :
    Landed s r before after made p := by
  refine ⟨hg, hr, ?_⟩
  by_cases hc : FileSystem.Clear made s.path p
  · exact .inl ⟨hc, hr.status?_eq_some.2 ⟨hc, rfl⟩⟩
  refine .inr ⟨hc, Option.eq_none_iff_forall_ne_some.2 fun e he => hc (hr.status?_eq_some.1 he).1, ?_⟩
  refine Classical.byContradiction fun hl => ?_
  refine hc (FileSystem.clear_unless_link hr.place hr.target fun target ht => ?_)
  -- no link is among the new directories
  rcases hg.added _ _ ht with ht | ⟨ht, -⟩
  · exact hl ⟨target, ht⟩
  · cases ht

/-! ## A refresh whose answer is of use -/

variable {c : Config} {s : Store} {endpoint : Endpoint} {used : String} {host : Host}

/-- **A granted refresh gives its token and persists the merge** of the reply over the record on disk when the answer
comes.  If the save lands nothing is reported; if it does not, the failure is reported once and what was there stays. -/
theorem refresh_persists (c : Config) (s : Store) (endpoint : Endpoint) (used : String) (host : Host)
    {reply : TokenReply} {members : Members} {token : String}
    (hr : (endpoint (c.refreshRequest used) host).1 = .ok reply)
    (ha : Refresh.Accepted reply members token) :
    let after := (endpoint (c.refreshRequest used) host).2
    let current := (s.recordIn after.files).getD Record.empty
    Persisted s (current.merge members used after.clock) after token (Refresh.run c s endpoint used host) := by
  have hgrant : Refresh.grant? (endpoint (c.refreshRequest used) host).1 = .ok ⟨members, token⟩ :=
    Refresh.grant?_eq_ok.2 ⟨reply, hr, ha⟩
  dsimp only
  obtain ⟨hv, hh, -, hp, -⟩ := Refresh.run_apply c s endpoint used host
  obtain ⟨hv', hh', -, hp', -⟩ := Refresh.receive_granted c s used (endpoint (c.refreshRequest used) host).2 hgrant
  generalize (endpoint (c.refreshRequest used) host).2 = after at *
  have hs := (Store.save_outcome s (Refresh.merged s ⟨members, token⟩ used after) after).1
  refine ⟨hv.trans hv', ha.usable, fun hl => ?_, fun hl => ?_⟩
  · obtain ⟨-, made, p, hg, hrep⟩ := hs.landed hl
    rw [hp, hp', hh, hh']
    exact ⟨hs.reports_of_landed hl, made, p, landed_of_replaced hg hrep⟩
  · obtain ⟨hg, detail, hd⟩ := hs.failed hl
    rw [hp, hp', hh, hh', hs.reports, hd]
    exact ⟨⟨hg, fun e he => hg.status? he⟩, detail, rfl⟩

/-! ## Examples -/

/-- A reply with an access token and nothing else. -/
def plainReply : TokenReply :=
  ⟨200, "\x7b\"access_token\":\"t\"\x7d"⟩

theorem plainReply_accepted : Refresh.Accepted plainReply [("access_token", .string "t")] "t" :=
  ⟨by decide, rfl, rfl, by decide⟩

/-- A refresh into an empty directory. -/
theorem refresh_persists_new_file :
    Persisted ⟨"f", true⟩ ⟨[("access_token", .string "t"), ("refresh_token", .string "rt")]⟩ ⟨⟨[], []⟩, 0⟩ "t"
      (Refresh.run (Provider.qwen.defaults "home") ⟨"f", true⟩ (fun _ host => (.ok plainReply, host)) "rt"
        ⟨⟨[], []⟩, 0⟩) :=
  refresh_persists (Provider.qwen.defaults "home") ⟨"f", true⟩ (fun _ host => (.ok plainReply, host)) "rt"
    ⟨⟨[], []⟩, 0⟩ rfl plainReply_accepted

/-- A directory `d` and a link `x` to it. -/
def linked : FileSystem :=
  ⟨[(["x"], .link "d"), (["d"], .directory)], []⟩

/-- **A path through the link that it names** names nothing after a save that landed. -/
theorem replaced_link_hides_file :
    Refresh.Accepted plainReply [("access_token", .string "t")] "t" ∧
      (Store.save ⟨"x/../x", true⟩ (Record.empty.merge [("access_token", .string "t")] "rt" 0) ⟨linked, 0⟩).value =
        true ∧
      (Refresh.run (Provider.qwen.defaults "home") ⟨"x/../x", true⟩ (fun _ host => (.ok plainReply, host)) "rt"
        ⟨linked, 0⟩).host.files.status? "x/../x" = none :=
  ⟨plainReply_accepted, by decide +kernel, by decide +kernel⟩

end TokenCache
