import TokenCache.Proofs.Merging
import TokenCache.Proofs.Persistence
/-!
# Overlapping refreshes

Callers that share a credential file without the lock: each reads the file and sends its request in one step, and
receives the answer in a later one, so that any number of other steps may come between.  A step runs the program's own
code, at a time of its own.

No refresh is lost.  Because each answer is merged over what the file holds by then, the record on disk is at every
point the first one with the saved replies merged over it, in the order in which they came
(`overlapping_refreshes_lose_nothing`).  A refresh token that came with one of them is not put back to an older one by a
caller that used the older one and finishes late.
-/
namespace TokenCache
namespace Overlap

/-! ## Callers and their steps -/

inductive Caller
  | idle
  /-- The request is out, with a refresh token. -/
  | waiting (used : String)
  | returned (result : Except AuthError String)

/-- A reply whose merge was saved. -/
structure Landing where
  members : Members
  used : String
  clock : Instant

structure World (ι : Type) where
  files : FileSystem
  callers : ι → Caller
  /-- The saved replies, in the order in which they came. -/
  landings : List Landing

inductive Move (ι : Type)
  | start (i : ι) (clock : Instant)
  /-- An answer comes.  Where `lands` is false the save fails for a cause outside the files. -/
  | finish (i : ι) (clock : Instant) (answer : Answer) (lands : Bool)

variable {ι : Type} [DecidableEq ι]

def World.set (w : World ι) (i : ι) (c : Caller) : World ι :=
  { w with callers := fun j => if j = i then c else w.callers j }

def Caller.ofNext : Authenticator.Next → Caller
  | .answered result => .returned result
  | .refresh used => .waiting used

/-- What an answer adds to the saved replies, if its merge is saved. -/
def landing? (s : Store) (used : String) (answer : Answer) (host : Host) : Option Landing :=
  match Refresh.grant? answer with
  | .ok grant => if (Refresh.persist s grant used host).value then some ⟨grant.members, used, host.clock⟩ else none
  | .error _ => none

/-- **One step of one caller.**  A step that is not the caller's next one changes nothing. -/
def step (a : Authenticator) (w : World ι) : Move ι → World ι
  | .start i clock =>
    match w.callers i with
    | .waiting _ => w
    | _ =>
      let started := a.start ⟨w.files, clock⟩
      { w.set i (.ofNext started.value) with files := started.host.files }
  | .finish i clock answer lands =>
    match w.callers i with
    | .waiting used =>
      let host : Host := ⟨w.files, clock⟩
      let received := Refresh.receive a.config a.store used answer host
      let after := w.set i (.returned received.value)
      if lands then
        ⟨received.host.files, after.callers, w.landings ++ (landing? a.store used answer host).toList⟩
      else after
    | _ => w

def run (a : Authenticator) (w : World ι) (moves : List (Move ι)) : World ι :=
  moves.foldl (step a) w

def World.initial (files : FileSystem) : World ι :=
  ⟨files, fun _ => .idle, []⟩

/-! ## What the file is to hold -/

def Landing.apply (r : Record) (l : Landing) : Record :=
  r.merge l.members l.used l.clock

/-- The first record with the saved replies merged over it. -/
def World.expected (w : World ι) (r : Record) : Record :=
  w.landings.foldl Landing.apply r

/-- The last usable refresh token among a first one and those of the saved replies. -/
def World.lastToken (w : World ι) (first : String) : String :=
  (w.landings.filterMap fun l => Record.usableIn l.members Record.refreshTokenKey).getLast?.getD first

/-- A reply is free of doubles. -/
def Move.Whole : Move ι → Prop
  | .start _ _ => True
  | .finish _ _ answer _ => ∀ reply members, answer = .ok reply →
      Json.parse (Utf8.encode reply.body) = .ok (.object members) → Json.Whole (.object members)

/-- **What every step keeps.** -/
structure Kept (a : Authenticator) (r : Record) (first : String) (w : World ι) : Prop where
  record : a.store.recordIn w.files = some (w.expected r)
  storable : Record.Storable (w.expected r).members
  token : (w.expected r).refreshToken = some (w.lastToken first)

end Overlap

/-! ## Saving over a record that can be read -/

theorem Store.recordIn_eq_some {s : Store} {fs : FileSystem} {r : Record} :
    s.recordIn fs = some r ↔ ∃ content, fs.readFile s.path = .ok content ∧ Record.parse content = .ok r := by
  unfold recordIn
  cases fs.readFile s.path with
  | error e => simp
  | ok content => cases h : Record.parse content <;> simp [h, Except.toOption]

theorem Store.readFile_replaced {s : Store} {fs made after : FileSystem} {new : Location → Entry → Prop}
    {p : FileSystem.Place} {old r : Record} (hold : s.recordIn fs = some old) (hg : FileSystem.Grows new fs made)
    (hr : Store.Replaced made s.path r.bytes p after) : after.readFile s.path = .ok r.bytes := by
  obtain ⟨content, hread, -⟩ := recordIn_eq_some.1 hold
  exact hr.readFile (FileSystem.clear_of_readFile (hg.readFile hread) hr.place hr.slash)

/-- **Where a record could be read, the record that replaces it can be read.** -/
theorem Store.recordIn_replaced {s : Store} {fs made after : FileSystem} {new : Location → Entry → Prop}
    {p : FileSystem.Place} {old r : Record} (hold : s.recordIn fs = some old) (hg : FileSystem.Grows new fs made)
    (hr : Store.Replaced made s.path r.bytes p after) (hs : Record.Storable r.members) : s.recordIn after = some r :=
  recordIn_eq_some.2 ⟨r.bytes, readFile_replaced hold hg hr, Record.parse_bytes hs⟩

namespace Overlap

open Refresh

theorem storable_of_grant {ι : Type} {i : ι} {clock : Instant} {answer : Answer} {lands : Bool} (grant : Grant)
    (hm : (Move.finish i clock answer lands).Whole) (hg : grant? answer = .ok grant) :
    Record.Storable grant.members := by
  obtain ⟨reply, hr, ha⟩ := grant?_eq_ok.1 hg
  exact Record.storable_of_parse ha.object (hm reply grant.members hr ha.object)

/-- **A call without the lock is two such steps**, and what happens while its request is out comes between them. -/
theorem accessToken_two_steps {a : Authenticator} (hl : a.lock? = none) (around : Surroundings) (host : Host) :
    match (a.start host).value with
    | .answered result => (a.accessToken around host).value = result ∧ (a.accessToken around host).host = host
    | .refresh used =>
      let asked := around.endpoint (a.config.refreshRequest used) host
      let received := receive a.config a.store used asked.1 asked.2
      (a.accessToken around host).value = received.value ∧ (a.accessToken around host).host = received.host := by
  rw [(a.start_apply host).1]
  cases hj : a.judge (a.store.recordIn host.files) host.clock with
  | answered result =>
    obtain ⟨hv, hh, -⟩ := Authenticator.accessToken_answered around hj
    exact ⟨hv, hh⟩
  | refresh used =>
    have hk := Authenticator.accessToken_unlocked around hj hl
    obtain ⟨hv, hh, -⟩ := run_apply a.config a.store around.endpoint used host
    exact ⟨hk.value.trans hv, hk.host.trans hh⟩

/-! ## One step -/

/-- **Receiving an answer** merges what is saved of it over the record, and keeps that record otherwise. -/
theorem recordIn_receive (c : Config) {s : Store} (used : String) {answer : Answer} (host : Host) {old : Record}
    (hold : s.recordIn host.files = some old) (hs : Record.Storable old.members)
    (hg : ∀ grant, grant? answer = .ok grant → Record.Storable grant.members) :
    s.recordIn (receive c s used answer host).host.files =
      some ((landing? s used answer host).toList.foldl Landing.apply old) := by
  cases h : grant? answer with
  | error refusal =>
    have hl : landing? s used answer host = none := by
      unfold landing?
      rw [h]
    rw [hl, (receive_refused c s used host h).2.1]
    exact hold
  | ok grant =>
    have hmerged : merged s grant used host = old.merge grant.members used host.clock := by
      unfold merged
      rw [hold]
      rfl
    have hout := (Store.save_outcome s (merged s grant used host) host).1
    have hvalue := (persist_like s grant used host).value
    rw [(receive_granted c s used host h).2.1]
    cases hp : (persist s grant used host).value with
    | true =>
      have hl : landing? s used answer host = some ⟨grant.members, used, host.clock⟩ := by
        unfold landing?
        rw [h]
        dsimp only
        rw [hp, if_pos rfl]
      obtain ⟨-, made, p, hgrow, hrep⟩ := hout.landed (hvalue.symm.trans hp)
      rw [hl]
      rw [hmerged] at hrep ⊢
      exact Store.recordIn_replaced hold hgrow hrep (hs.merge (hg grant h) used host.clock)
    | false =>
      have hl : landing? s used answer host = none := by
        unfold landing?
        rw [h]
        dsimp only
        rw [hp, if_neg (by simp)]
      rw [hl]
      exact Store.recordIn_grows (hout.failed (hvalue.symm.trans hp)).1 hold

theorem storable_landing {s : Store} {used : String} {answer : Answer} {host : Host} {l : Landing}
    (hg : ∀ grant, grant? answer = .ok grant → Record.Storable grant.members)
    (hl : landing? s used answer host = some l) : Record.Storable l.members := by
  unfold landing? at hl
  split at hl
  · rename_i grant h
    split at hl
    · cases hl
      exact hg grant h
    · cases hl
  · cases hl

variable {ι : Type} {a : Authenticator} {r : Record} {first : String} {w : World ι}

/-- **A saved reply extends the expected record** by its merge, and the last token by its own if it has one. -/
theorem kept_land {files : FileSystem} {callers : ι → Caller} (h : Kept a r first w) {l : Landing}
    (hl : Record.Storable l.members) (hf : a.store.recordIn files = some (l.apply (w.expected r))) :
    Kept a r first ⟨files, callers, w.landings ++ [l]⟩ := by
  have he : World.expected ⟨files, callers, w.landings ++ [l]⟩ r = l.apply (w.expected r) := by
    unfold World.expected
    rw [List.foldl_append]
    rfl
  have ht : World.lastToken ⟨files, callers, w.landings ++ [l]⟩ first =
      (Record.usableIn l.members Record.refreshTokenKey).getD (w.lastToken first) := by
    unfold World.lastToken
    dsimp only
    rw [List.filterMap_append, List.getLast?_append]
    cases hu : Record.usableIn l.members Record.refreshTokenKey <;> simp [hu]
  refine ⟨by rw [he]; exact hf, ?_, ?_⟩
  · rw [he]
    exact h.storable.merge hl l.used l.clock
  · rw [he, ht]
    exact Record.refreshToken_merge h.token (Record.storable_iff.1 hl).1 l.used l.clock

theorem keys_foldl_apply : ∀ (landings : List Landing) (r : Record),
    r.members.keys <+: (landings.foldl Landing.apply r).members.keys
  | [], _ => List.prefix_rfl
  | l :: landings, r => (Record.keys_merge r l.members l.used l.clock).trans (keys_foldl_apply landings (l.apply r))

/-- **No key disappears**: the keys of a later record are those of an earlier one, and then others. -/
theorem keys_expected {w w' : World ι} (h : w.landings <+: w'.landings) (r : Record) :
    (w.expected r).members.keys <+: (w'.expected r).members.keys := by
  obtain ⟨more, hm⟩ := h
  unfold World.expected
  rw [← hm, List.foldl_append]
  exact keys_foldl_apply more _

variable [DecidableEq ι]

/-- **Every step keeps the record that is expected.** -/
theorem kept_step (h : Kept a r first w) {m : Move ι} (hm : m.Whole) : Kept a r first (step a w m) := by
  cases m with
  | start i clock =>
    have hfiles : (a.start ⟨w.files, clock⟩).host.files = w.files := by rw [(a.start_apply ⟨w.files, clock⟩).2.1]
    unfold step
    dsimp only
    split
    · exact h
    · rw [hfiles]
      exact ⟨h.record, h.storable, h.token⟩
  | finish i clock answer lands =>
    unfold step
    dsimp only
    split
    · rename_i used _
      have hg := fun grant hg => storable_of_grant grant hm hg
      have hr := recordIn_receive a.config used ⟨w.files, clock⟩ h.record h.storable hg
      cases lands with
      | false => exact ⟨h.record, h.storable, h.token⟩
      | true =>
        rw [if_pos rfl]
        cases hl : landing? a.store used answer ⟨w.files, clock⟩ with
        | none =>
          rw [hl] at hr
          rw [Option.toList_none, List.append_nil]
          exact ⟨hr, h.storable, h.token⟩
        | some l =>
          rw [hl] at hr
          exact kept_land h (storable_landing hg hl) hr
    · exact h

/-! ## A whole run -/

theorem run_append (a : Authenticator) (w : World ι) (moves later : List (Move ι)) :
    run a w (moves ++ later) = run a (run a w moves) later :=
  List.foldl_append

theorem kept_run : ∀ (w : World ι) (moves : List (Move ι)), Kept a r first w → (∀ m ∈ moves, m.Whole) →
    Kept a r first (run a w moves)
  | _, [], h, _ => h
  | w, m :: moves, h, hm =>
    kept_run (step a w m) moves (kept_step h (hm m List.mem_cons_self)) fun m' hm' => hm m' (List.mem_cons_of_mem m hm')

theorem landings_step (a : Authenticator) (w : World ι) (m : Move ι) : w.landings <+: (step a w m).landings := by
  cases m with
  | start i clock =>
    unfold step
    dsimp only
    split <;> exact List.prefix_rfl
  | finish i clock answer lands =>
    unfold step
    dsimp only
    split
    · cases lands
      · exact List.prefix_rfl
      · exact List.prefix_append _ _
    · exact List.prefix_rfl

theorem landings_run (a : Authenticator) : ∀ (w : World ι) (moves : List (Move ι)),
    w.landings <+: (run a w moves).landings
  | _, [] => List.prefix_rfl
  | w, m :: moves => (landings_step a w m).trans (landings_run a (step a w m) moves)

/-- **Overlapping refreshes lose no update.**  However the steps of the callers follow each other, the record on disk is
the first record with the saved replies merged over it in the order in which they came; its refresh token is the last
usable one; and its keys are those of every earlier record, and then others. -/
theorem overlapping_refreshes_lose_nothing (a : Authenticator) {files : FileSystem} {r : Record} {first : String}
    (hr : a.store.recordIn files = some r) (ht : r.refreshToken = some first) (hw : Json.Whole (.object r.members))
    (moves : List (Move ι)) (hm : ∀ m ∈ moves, m.Whole) :
    let w := run a (World.initial files) moves
    a.store.recordIn w.files = some (w.expected r) ∧ (w.expected r).refreshToken = some (w.lastToken first) ∧
      ∀ earlier rest, moves = earlier ++ rest →
        ((run a (World.initial files) earlier).expected r).members.keys <+: (w.expected r).members.keys := by
  obtain ⟨content, -, hp⟩ := Store.recordIn_eq_some.1 hr
  have hinit : Kept a r first (World.initial (ι := ι) files) :=
    ⟨hr, Record.storable_of_parse (Record.parse_eq_ok.1 hp) hw, ht⟩
  have hkept := kept_run _ moves hinit hm
  refine ⟨hkept.record, hkept.token, fun earlier rest he => keys_expected ?_ r⟩
  rw [he, run_append]
  exact landings_run a _ rest

/-! ## An example -/

/-- A record with a refresh token and no access token. -/
def looseRecord : Record :=
  ⟨[("refresh_token", .string "r0")]⟩

def looseFiles : FileSystem :=
  ⟨[(["f"], .file looseRecord.bytes 0o644)], []⟩

/-- An authenticator on the file `f`, without the lock. -/
def plainAuthenticator : Authenticator :=
  ⟨{ Provider.qwen.defaults "home" with credentialPath := "f" }, .standard, true⟩

def rotatingReply : TokenReply :=
  ⟨200, "\x7b\"access_token\":\"t\",\"refresh_token\":\"r1\"\x7d"⟩

/-- Both callers start; the second gets a new refresh token, and after it the first gets none. -/
def lateFinish : List (Move Bool) :=
  [.start false 0, .start true 1, .finish true 2 (.ok rotatingReply) true, .finish false 3 (.ok plainReply) true]

theorem whole_of_strings {ms : Members} (h : ∀ m ∈ ms, ∃ s, m.2 = .string s) : Json.Whole (.object ms) := by
  refine .object fun m hm => ?_
  obtain ⟨s, hs⟩ := h m hm
  rw [hs]
  exact .string s

theorem lateFinish_whole : ∀ m ∈ lateFinish, m.Whole := by
  have hrotating : Json.parse (Utf8.encode rotatingReply.body) =
      .ok (.object [("access_token", .string "t"), ("refresh_token", .string "r1")]) := rfl
  have hplain := plainReply_accepted.object
  intro m hm
  simp only [lateFinish, List.mem_cons, List.not_mem_nil, or_false] at hm
  rcases hm with rfl | rfl | rfl | rfl
  · trivial
  · trivial
  · intro reply members hr hp
    cases hr
    cases hrotating.symm.trans hp
    exact whole_of_strings (by simp)
  · intro reply members hr hp
    cases hr
    cases hplain.symm.trans hp
    exact whole_of_strings (by simp)

/-- **A caller that used the old refresh token and finishes late** leaves the new one in place. -/
theorem late_finish_keeps_new_token :
    let w := run plainAuthenticator (World.initial looseFiles) lateFinish
    plainAuthenticator.store.recordIn w.files = some (w.expected looseRecord) ∧ w.landings.length = 2 ∧
      (w.expected looseRecord).refreshToken = some "r1" := by
  have hr : plainAuthenticator.store.recordIn looseFiles = some looseRecord := rfl
  have hw : Json.Whole (.object looseRecord.members) := whole_of_strings (by simp [looseRecord])
  have h := overlapping_refreshes_lose_nothing plainAuthenticator hr rfl hw lateFinish lateFinish_whole
  refine ⟨h.1, by decide +kernel, h.2.1.trans ?_⟩
  exact congrArg some (by decide +kernel)

end Overlap
end TokenCache
