import TokenCache.Proofs.Serving
/-!
# Taking turns

Callers that share a credential file with the lock: each reads the file, and unless it finds a valid token waits for the
lock, reads the file again while it holds the lock, sends its request if there is still no valid token, receives the
answer and releases the lock.  Each makes one call.  A step runs the program's own code, and the steps of the callers
follow each other in any order.  The lock is granted to one caller at a time, and to each that waits for it: that it
cannot be opened, and a call goes on without it, is not among the steps.

If saves land, the callers refresh once (`one_refresh_in_turns`).  The first to hold the lock sends the only request;
whoever holds it later, or reads the file later, finds the token that came with the answer.
-/
namespace TokenCache
namespace Turns

/-! ## Callers and their steps -/

/-- Where a caller stands, from `stale` on with the refresh token that it has read: it waits for the lock when `queued`,
and has it from `holding` to `finished`. -/
inductive Caller
  | idle
  | stale (used : String)
  | queued (used : String)
  | holding (used : String)
  | asking (used : String)
  | finished (result : Except AuthError String)
  | returned (result : Except AuthError String)

namespace Caller

def inside : Caller → Bool
  | holding _ | asking _ | finished _ => true
  | _ => false

def done : Caller → Bool
  | returned _ => true
  | _ => false

def ofNext : Authenticator.Next → Caller
  | .answered result => .returned result
  | .refresh used => .stale used

def ofNextInside : Authenticator.Next → Caller
  | .answered result => .finished result
  | .refresh used => .asking used

theorem done_iff {c : Caller} : c.done = true ↔ ∃ result, c = returned result := by
  cases c <;> simp [done]

end Caller

structure World (ι : Type) where
  files : FileSystem
  /-- Who holds the lock. -/
  holder : Option ι
  callers : ι → Caller
  requests : List TokenRequest
  answers : List Answer
  /-- Why saves did not land. -/
  unsaved : List AuthError

inductive Move (ι : Type)
  | start (i : ι)
  | queue (i : ι)
  | enter (i : ι)
  | recheck (i : ι)
  | receive (i : ι) (answer : Answer)
  | release (i : ι)

variable {ι : Type} [DecidableEq ι]

def World.set (w : World ι) (i : ι) (c : Caller) : World ι :=
  { w with callers := fun j => if j = i then c else w.callers j }

def requestsOf (c : Config) : Authenticator.Next → List TokenRequest
  | .answered _ => []
  | .refresh used => [c.refreshRequest used]

/-!
Each of these is one step of one caller, if it is the caller's next one, and changes nothing if it is not.  To `queue`
is to open the lock and wait for it; to `enter` is to be granted it, which has to wait while somebody holds it; to
`recheck` is to read the file again, and to send the request if there is to be one.
-/

namespace World

def start (a : Authenticator) (now : Instant) (w : World ι) (i : ι) : World ι :=
  match w.callers i with
  | .idle =>
    let started := a.start ⟨w.files, now⟩
    { w.set i (.ofNext started.value) with files := started.host.files }
  | _ => w

def queue (a : Authenticator) (now : Instant) (w : World ι) (i : ι) : World ι :=
  match w.callers i with
  | .stale used =>
    let opened := (RefreshLock.forCredentials a.config.credentialPath).openFile ⟨w.files, now⟩
    { w.set i (.queued used) with files := opened.host.files }
  | _ => w

def enter (w : World ι) (i : ι) : World ι :=
  match w.callers i, w.holder with
  | .queued used, none => { w.set i (.holding used) with holder := some i }
  | _, _ => w

def recheck (a : Authenticator) (now : Instant) (w : World ι) (i : ι) : World ι :=
  match w.callers i with
  | .holding used =>
    let checked := a.recheck used ⟨w.files, now⟩
    { w.set i (.ofNextInside checked.value) with
      files := checked.host.files
      requests := w.requests ++ requestsOf a.config checked.value }
  | _ => w

def receive (a : Authenticator) (now : Instant) (w : World ι) (i : ι) (answer : Answer) : World ι :=
  match w.callers i with
  | .asking used =>
    let received := Refresh.receive a.config a.store used answer ⟨w.files, now⟩
    { w.set i (.finished received.value) with
      files := received.host.files
      answers := w.answers ++ [answer]
      unsaved := w.unsaved ++ received.unsaved }
  | _ => w

def release (w : World ι) (i : ι) : World ι :=
  match w.callers i with
  | .finished result => { w.set i (.returned result) with holder := none }
  | _ => w

end World

def step (a : Authenticator) (now : Instant) (w : World ι) : Move ι → World ι
  | .start i => w.start a now i
  | .queue i => w.queue a now i
  | .enter i => w.enter i
  | .recheck i => w.recheck a now i
  | .receive i answer => w.receive a now i answer
  | .release i => w.release i

def run (a : Authenticator) (now : Instant) (w : World ι) (moves : List (Move ι)) : World ι :=
  moves.foldl (step a now) w

def World.initial (files : FileSystem) : World ι :=
  ⟨files, none, fun _ => .idle, [], [], []⟩

/-- An answer that comes gives a token that is valid for the margin at least. -/
def Move.Timely (margin : Int) : Move ι → Prop
  | .receive _ answer => ∃ members token n, Refresh.Timed answer members token n ∧ margin ≤ 1000 * n
  | _ => True

/-- **A call with the lock is such steps**, if the lock can be opened: what others do while it waits comes between the
second step and the third, and what happens while its request is out before the last. -/
theorem accessToken_steps {a : Authenticator} (hl : a.config.refreshLock = true) (around : Surroundings) (host : Host)
    (ho : ((RefreshLock.forCredentials a.config.credentialPath).openFile host).value = .ok ()) :
    let call := a.accessToken around host
    match (a.start host).value with
    | .answered result => call.value = result ∧ call.host = host ∧ call.Silent
    | .refresh used =>
      let entered := around.whileWaiting ((RefreshLock.forCredentials a.config.credentialPath).openFile host).host
      match (a.recheck used entered).value with
      | .answered result => call.value = result ∧ call.host = entered ∧ call.Silent
      | .refresh token =>
        let asked := around.endpoint (a.config.refreshRequest token) entered
        let received := Refresh.receive a.config a.store token asked.1 asked.2
        call.value = received.value ∧ call.host = received.host ∧
          call.requests = [a.config.refreshRequest token] ∧ call.unsaved = received.unsaved := by
  have hlock : a.lock? = some (.forCredentials a.config.credentialPath) := by
    unfold Authenticator.lock?
    rw [if_pos hl]
  dsimp only
  rw [(a.start_apply host).1]
  cases hj : a.judge (a.store.recordIn host.files) host.clock with
  | answered result =>
    obtain ⟨hv, hh, hs⟩ := Authenticator.accessToken_answered around hj
    exact ⟨hv, hh, hs⟩
  | refresh used =>
    have hlike := Authenticator.accessToken_locked around hj hlock
    have he : (RefreshLock.forCredentials a.config.credentialPath).entered around.whileWaiting host =
        around.whileWaiting ((RefreshLock.forCredentials a.config.credentialPath).openFile host).host := by
      unfold RefreshLock.entered
      rw [ho]
    rw [he] at hlike
    dsimp only
    generalize around.whileWaiting _ = entered at hlike
    rw [(a.recheck_apply used entered).1]
    cases hj' : a.judgeAgain (a.store.recordIn entered.files) used entered.clock with
    | answered result =>
      obtain ⟨hv, hh, hs⟩ := Authenticator.refreshUnderLock_answered around.endpoint hj'
      exact ⟨hlike.value.trans hv, hlike.host.trans hh, hlike.requests.trans hs.requests,
        hlike.reports.trans hs.reports, hlike.unsaved.trans hs.unsaved⟩
    | refresh token =>
      have hlike' := hlike.trans (Authenticator.refreshUnderLock_refresh around.endpoint hj')
      obtain ⟨hv, hh, hq, -, hu⟩ := Refresh.run_apply a.config a.store around.endpoint token entered
      exact ⟨hlike'.value.trans hv, hlike'.host.trans hh, hlike'.requests.trans hq, hlike'.unsaved.trans hu⟩

/-! ## One holder -/

/-- **Who is inside holds the lock**, and nobody else. -/
def Exclusive (w : World ι) : Prop :=
  ∀ i, (w.callers i).inside = true ↔ w.holder = some i

variable {a : Authenticator} {now : Instant} {w : World ι}

theorem Exclusive.set (h : Exclusive w) {i : ι} {c : Caller} (hc : c.inside = (w.callers i).inside) (fs : FileSystem)
    (requests : List TokenRequest) (answers : List Answer) (unsaved : List AuthError) :
    Exclusive ⟨fs, w.holder, (w.set i c).callers, requests, answers, unsaved⟩ := by
  intro j
  show (if j = i then c else w.callers j).inside = true ↔ w.holder = some j
  split
  · rename_i hj
    rw [hc, hj]
    exact h i
  · exact h j

theorem exclusive_enter (h : Exclusive w) (i : ι) : Exclusive (w.enter i) := by
  unfold World.enter
  split
  · rename_i used hi hfree
    intro j
    show (if j = i then Caller.holding used else w.callers j).inside = true ↔ some i = some j
    split
    · rename_i hj
      rw [hj]
      exact ⟨fun _ => rfl, fun _ => rfl⟩
    · rename_i hj
      rw [h j, hfree]
      simp [Ne.symm hj]
  · exact h

theorem exclusive_release (h : Exclusive w) (i : ι) : Exclusive (w.release i) := by
  unfold World.release
  split
  · rename_i result hi
    have hholder : w.holder = some i := (h i).1 (by rw [hi]; rfl)
    intro j
    show (if j = i then Caller.returned result else w.callers j).inside = true ↔ none = some j
    split
    · simp [Caller.inside]
    · rename_i hj
      rw [h j, hholder]
      simp [Ne.symm hj]
  · exact h

/-- **No step gives the lock to two callers.** -/
theorem exclusive_step (h : Exclusive w) (m : Move ι) : Exclusive (step a now w m) := by
  cases m with
  | start i =>
    have hnext : ∀ next, (Caller.ofNext next).inside = false := by rintro (_ | _) <;> rfl
    show Exclusive (w.start a now i)
    unfold World.start
    split
    · rename_i hi
      exact h.set (by rw [hi, hnext]; rfl) _ _ _ _
    · exact h
  | queue i =>
    show Exclusive (w.queue a now i)
    unfold World.queue
    split
    · rename_i used hi
      exact h.set (by rw [hi]; rfl) _ _ _ _
    · exact h
  | enter i => exact exclusive_enter h i
  | recheck i =>
    have hnext : ∀ next, (Caller.ofNextInside next).inside = true := by rintro (_ | _) <;> rfl
    show Exclusive (w.recheck a now i)
    unfold World.recheck
    split
    · rename_i used hi
      exact h.set (by rw [hi, hnext]; rfl) _ _ _ _
    · exact h
  | receive i answer =>
    show Exclusive (w.receive a now i answer)
    unfold World.receive
    split
    · rename_i used hi
      exact h.set (by rw [hi]; rfl) _ _ _ _
    · exact h
  | release i => exact exclusive_release h i

/-! ## How far the callers have come -/

namespace Caller

/-- No result yet, and no request out. -/
def Waits : Caller → Prop
  | idle | stale _ | queued _ | holding _ => True
  | _ => False

/-- No request out, and no other result than this token. -/
def Has (token : String) : Caller → Prop
  | asking _ => False
  | finished result | returned result => result = .ok token
  | _ => True

theorem Waits.has {c : Caller} (h : c.Waits) (token : String) : c.Has token := by
  cases c <;> trivial

end Caller

/-- What is on file, what was sent, what came, and where each caller stands. -/
structure Stands (a : Authenticator) (w : World ι) (r : Record) (sent : List TokenRequest) (came : List Answer)
    (P : ι → Caller → Prop) : Prop where
  record : a.store.recordIn w.files = some r
  requests : w.requests = sent
  answers : w.answers = came
  callers : ∀ i, P i (w.callers i)

/-- **The three phases of a run**: nobody has asked; one caller has, and the file is as it was; or the answer has come,
and the file holds a valid token. -/
inductive Phase (a : Authenticator) (now : Instant) (r : Record) (stored : String) (w : World ι) : Prop
  | untouched (h : Stands a w r [] [] fun _ c => c.Waits)
  | asked (k : ι) (h : Stands a w r [a.config.refreshRequest stored] []
      fun i c => if i = k then c = .asking stored else c.Waits)
  | refreshed (new : Record) (token : String) (reply : TokenReply) (members : Members)
      (ha : Refresh.Accepted reply members token) (hv : a.validToken? new now = some token)
      (h : Stands a w new [a.config.refreshRequest stored] [.ok reply] fun _ c => c.Has token)

variable {r : Record} {stored : String} {sent : List TokenRequest} {came : List Answer} {P : ι → Caller → Prop}

omit [DecidableEq ι] in
theorem Stands.caller (h : Stands a w r sent came P) {i : ι} {c : Caller} (hi : w.callers i = c) : P i c :=
  hi ▸ h.callers i

theorem Stands.set (h : Stands a w r sent came P) {i : ι} {c : Caller} {fs : FileSystem} (holder : Option ι)
    (hf : a.store.recordIn fs = some r) (hc : P i c) :
    Stands a ⟨fs, holder, (w.set i c).callers, w.requests, w.answers, w.unsaved⟩ r sent came P := by
  refine ⟨hf, h.requests, h.answers, fun j => ?_⟩
  show P j (if j = i then c else w.callers j)
  split
  · rename_i hj
    rw [hj]
    exact hc
  · exact h.callers j

/-- **A caller that has no request out goes on** to where it has no result and no request out, in every phase. -/
theorem Phase.set (h : Phase a now r stored w) {i : ι} {c : Caller} {fs : FileSystem} (holder : Option ι)
    (hf : ∀ r, a.store.recordIn w.files = some r → a.store.recordIn fs = some r)
    (hi : ∀ used, w.callers i ≠ .asking used) (hc : c.Waits) :
    Phase a now r stored ⟨fs, holder, (w.set i c).callers, w.requests, w.answers, w.unsaved⟩ := by
  cases h with
  | untouched h => exact .untouched (h.set holder (hf r h.record) hc)
  | asked k h =>
    refine .asked k (h.set holder (hf r h.record) ?_)
    split
    · rename_i hik
      have hk := h.callers i
      rw [if_pos hik] at hk
      exact absurd hk (hi stored)
    · exact hc
  | refreshed new token reply members ha hv h =>
    refine .refreshed new token reply members ha hv (h.set holder (hf new h.record) ?_)
    exact hc.has token

/-! ## The setting -/

/-- What the phases need of the record at the start, of the instant and of the margin. -/
structure Setting (a : Authenticator) (now : Instant) (r : Record) (stored : String) : Prop where
  stored : r.refreshToken = some stored
  stale : a.validToken? r now = none
  storable : Record.Storable r.members
  clock : 10000000000 < now
  margin : 0 ≤ a.policy.margin
  date : Calendar.representable (now + a.policy.margin) = true

theorem Setting.dated (h : Setting a now r stored) : Calendar.representable now = true := by
  have hlow : (10000000000 : Int) < now := h.clock
  have hmargin := h.margin
  have hd := Calendar.representable_iff.1 h.date
  exact Calendar.representable_iff.2 (by omega)

/-! ## One step -/

theorem phase_start (hs : Setting a now r stored) (h : Phase a now r stored w) (i : ι) :
    Phase a now r stored (w.start a now i) := by
  obtain ⟨hv, hh, -⟩ := a.start_apply ⟨w.files, now⟩
  unfold World.start
  split
  swap
  · exact h
  rename_i hi
  have hout : ∀ used, w.callers i ≠ .asking used := by simp [hi]
  dsimp only
  rw [hv, hh]
  cases h with
  | untouched h' =>
    rw [h'.record, Authenticator.judge_stale hs.stale hs.stored]
    exact (Phase.untouched h').set w.holder (fun _ => id) hout trivial
  | asked k h' =>
    rw [h'.record, Authenticator.judge_stale hs.stale hs.stored]
    exact (Phase.asked k h').set w.holder (fun _ => id) hout trivial
  | refreshed new token reply members ha hv' h =>
    rw [h.record, Authenticator.judge_valid hv']
    exact .refreshed new token reply members ha hv' (h.set w.holder h.record rfl)

theorem phase_queue (h : Phase a now r stored w) (i : ι) : Phase a now r stored (w.queue a now i) := by
  have hopen := RefreshLock.openFile_adds (.forCredentials a.config.credentialPath) ⟨w.files, now⟩
  unfold World.queue
  split
  · rename_i used hi
    exact h.set w.holder (fun _ => Store.recordIn_grows hopen.grows) (by simp [hi]) trivial
  · exact h

theorem phase_enter (h : Phase a now r stored w) (i : ι) : Phase a now r stored (w.enter i) := by
  unfold World.enter
  split
  · rename_i used hi hfree
    exact h.set (some i) (fun _ => id) (by simp [hi]) trivial
  · exact h

theorem phase_recheck (hs : Setting a now r stored) (hx : Exclusive w) (h : Phase a now r stored w) (i : ι) :
    Phase a now r stored (w.recheck a now i) := by
  unfold World.recheck
  split
  swap
  · exact h
  rename_i used hi
  obtain ⟨hv, hh, -⟩ := a.recheck_apply used ⟨w.files, now⟩
  dsimp only
  rw [hv, hh]
  cases h with
  | untouched h =>
    rw [h.record, Authenticator.judgeAgain_stale hs.stale hs.stored]
    refine .asked i ⟨h.record, by rw [h.requests]; rfl, h.answers, fun j => ?_⟩
    show if j = i then (if j = i then Caller.asking stored else w.callers j) = .asking stored
      else Caller.Waits (if j = i then .asking stored else w.callers j)
    split
    · rfl
    · exact h.callers j
  | asked k h =>
    -- two callers cannot hold the lock
    have hk : w.callers k = .asking stored := by simpa using h.callers k
    have hholder : w.holder = some k := (hx k).1 (by rw [hk]; rfl)
    have hik : w.holder = some i := (hx i).1 (by rw [hi]; rfl)
    cases Option.some.inj (hholder.symm.trans hik)
    cases hi.symm.trans hk
  | refreshed new token reply members ha hv' h =>
    rw [h.record, Authenticator.judgeAgain_valid hv']
    have h' := h.set (i := i) (c := .finished (.ok token)) w.holder h.record rfl
    refine .refreshed new token reply members ha hv' ⟨h'.record, ?_, h'.answers, h'.callers⟩
    rw [← h.requests]
    exact List.append_nil _

theorem phase_receive (hs : Setting a now r stored) (h : Phase a now r stored w) (i : ι) {answer : Answer}
    (hm : (Move.receive i answer).Timely a.policy.margin) (hl : (w.receive a now i answer).unsaved = []) :
    Phase a now r stored (w.receive a now i answer) := by
  unfold World.receive at hl ⊢
  split
  swap
  · exact h
  rename_i used hi
  simp only [hi] at hl
  cases h with
  | untouched h => exact False.elim (h.caller hi)
  | refreshed new token reply members ha hv h => exact False.elim (h.caller hi)
  | asked k h =>
    have hik : i = k := by
      have hk := h.caller hi
      split at hk
      · assumption
      · cases hk
    obtain ⟨members, token, n, ht, hn⟩ := hm
    obtain ⟨reply, hreply, ha⟩ := ht.accepted
    obtain ⟨hv, -⟩ := Refresh.receive_granted a.config a.store used ⟨w.files, now⟩ ht.grant?
    have hr := Refresh.recordIn_granted a.config used ⟨w.files, now⟩ h.record hs.storable ht.grant? ht.storable
      (List.append_eq_nil_iff.1 hl).2
    have hvalid := Authenticator.validToken?_merge (a := a) ht hs.clock hs.dated hs.date r used
    rw [if_pos (Int.add_le_add_left hn now)] at hvalid
    refine .refreshed _ token reply members ha hvalid ⟨hr, h.requests, ?_, fun j => ?_⟩
    · show w.answers ++ [answer] = [.ok reply]
      rw [h.answers, hreply]
      rfl
    · show Caller.Has token (if j = i then .finished _ else w.callers j)
      split
      · exact hv
      · rename_i hj
        have hw := h.callers j
        rw [if_neg (hik ▸ hj)] at hw
        exact hw.has token

theorem phase_release (h : Phase a now r stored w) (i : ι) : Phase a now r stored (w.release i) := by
  unfold World.release
  split
  swap
  · exact h
  rename_i result hi
  cases h with
  | untouched h => exact False.elim (h.caller hi)
  | asked k h =>
    have hk := h.caller hi
    split at hk <;> cases hk
  | refreshed new token reply members ha hv h =>
    have hresult : result = .ok token := h.caller hi
    exact .refreshed new token reply members ha hv (h.set none h.record hresult)

/-- **Every step leads from phase to phase**, unless a save fails. -/
theorem phase_step (hs : Setting a now r stored) (hx : Exclusive w) (h : Phase a now r stored w) {m : Move ι}
    (hm : m.Timely a.policy.margin) (hl : (step a now w m).unsaved = []) : Phase a now r stored (step a now w m) := by
  cases m with
  | start i => exact phase_start hs h i
  | queue i => exact phase_queue h i
  | enter i => exact phase_enter h i
  | recheck i => exact phase_recheck hs hx h i
  | receive i answer => exact phase_receive hs h i hm hl
  | release i => exact phase_release h i

/-! ## A whole run -/

/-- A save that failed is not forgotten. -/
theorem unsaved_step (a : Authenticator) (now : Instant) (w : World ι) (m : Move ι) :
    w.unsaved <+: (step a now w m).unsaved := by
  cases m with
  | start i =>
    show w.unsaved <+: (w.start a now i).unsaved
    unfold World.start
    split <;> exact List.prefix_rfl
  | queue i =>
    show w.unsaved <+: (w.queue a now i).unsaved
    unfold World.queue
    split <;> exact List.prefix_rfl
  | enter i =>
    show w.unsaved <+: (w.enter i).unsaved
    unfold World.enter
    split <;> exact List.prefix_rfl
  | recheck i =>
    show w.unsaved <+: (w.recheck a now i).unsaved
    unfold World.recheck
    split <;> exact List.prefix_rfl
  | receive i answer =>
    show w.unsaved <+: (w.receive a now i answer).unsaved
    unfold World.receive
    split
    · exact List.prefix_append _ _
    · exact List.prefix_rfl
  | release i =>
    show w.unsaved <+: (w.release i).unsaved
    unfold World.release
    split <;> exact List.prefix_rfl

theorem unsaved_run (a : Authenticator) (now : Instant) : ∀ (w : World ι) (moves : List (Move ι)),
    w.unsaved <+: (run a now w moves).unsaved
  | _, [] => List.prefix_rfl
  | w, m :: moves => (unsaved_step a now w m).trans (unsaved_run a now (step a now w m) moves)

theorem phase_run (hs : Setting a now r stored) : ∀ (w : World ι) (moves : List (Move ι)), Exclusive w →
    Phase a now r stored w → (∀ m ∈ moves, m.Timely a.policy.margin) → (run a now w moves).unsaved = [] →
    Phase a now r stored (run a now w moves)
  | _, [], _, h, _, _ => h
  | w, m :: moves, hx, h, hm, hl =>
    have hstep : (step a now w m).unsaved = [] := List.prefix_nil.1 (hl ▸ unsaved_run a now (step a now w m) moves)
    phase_run hs (step a now w m) moves (exclusive_step hx m) (phase_step hs hx h (hm m List.mem_cons_self) hstep)
      (fun m' hm' => hm m' (List.mem_cons_of_mem m hm')) hl

/-- **Callers that take turns refresh once**, if their saves land.  However their steps follow each other, at most one
request is sent; and once a call has returned, there was one request and one reply, and every call that has returned
gives its token. -/
theorem one_refresh_in_turns (a : Authenticator) {files : FileSystem} {now : Instant} {r : Record} {stored : String}
    (h : Authenticator.Stale a files now r stored) (hlow : 10000000000 < now) (hmargin : 0 ≤ a.policy.margin)
    (hd : Calendar.representable (now + a.policy.margin) = true) (moves : List (Move ι))
    (hm : ∀ m ∈ moves, m.Timely a.policy.margin) (hl : (run a now (World.initial files) moves).unsaved = []) :
    let w := run a now (World.initial files) moves
    w.requests.length ≤ 1 ∧ ∃ token, ∀ i result, w.callers i = .returned result →
      result = .ok token ∧ w.requests = [a.config.refreshRequest stored] ∧
        ∃ reply members, w.answers = [.ok reply] ∧ Refresh.Accepted reply members token := by
  have hs : Setting a now r stored := ⟨h.stored, h.validToken?, h.storable, hlow, hmargin, hd⟩
  have hx : Exclusive (World.initial (ι := ι) files) := fun i => by simp [World.initial, Caller.inside]
  have hinit : Phase a now r stored (World.initial (ι := ι) files) :=
    .untouched ⟨h.record, rfl, rfl, fun _ => trivial⟩
  cases phase_run hs _ moves hx hinit hm hl with
  | untouched h' =>
    exact ⟨by rw [h'.requests]; exact Nat.zero_le 1, "", fun i result hi => False.elim (h'.caller hi)⟩
  | asked k h' =>
    refine ⟨by rw [h'.requests]; exact Nat.le_refl 1, "", fun i result hi => ?_⟩
    have hk := h'.caller hi
    split at hk <;> cases hk
  | refreshed new token reply members ha hv h' =>
    refine ⟨by rw [h'.requests]; exact Nat.le_refl 1, token, fun i result hi => ?_⟩
    exact ⟨h'.caller hi, h'.requests, reply, members, h'.answers, ha⟩

/-! ## An example -/

/-- An authenticator on the file `f`, with the lock. -/
def lockingAuthenticator : Authenticator :=
  ⟨{ Provider.qwen.defaults "home" with credentialPath := "f", refreshLock := true }, .standard, true⟩

/-- Both callers find no valid token; the second has to wait until the first has its answer, and finds the new token. -/
def secondWaits : List (Move Bool) :=
  [.start false, .start true, .queue true, .queue false, .enter false, .enter true, .recheck false,
    .receive false (.ok Authenticator.hourReply), .release false, .enter true, .recheck true, .release true]

theorem secondWaits_timely : ∀ m ∈ secondWaits, m.Timely lockingAuthenticator.policy.margin := by
  intro m hm
  simp only [secondWaits, List.mem_cons, List.not_mem_nil, or_false] at hm
  rcases hm with rfl | rfl | rfl | rfl | rfl | rfl | rfl | rfl | rfl | rfl | rfl | rfl
  case inr.inr.inr.inr.inr.inr.inr.inl =>
    exact ⟨Authenticator.hourMembers, "t", 3600, Authenticator.hourReply_timed, by decide⟩
  all_goals trivial

theorem secondWaits_done : ∀ i, Caller.done
    ((run lockingAuthenticator 1700000000000 (World.initial Overlap.looseFiles) secondWaits).callers i) = true := by
  decide +kernel

/-- **The caller that waited** gets the token of the caller before, without a request of its own. -/
theorem second_reuses_token :
    let w := run lockingAuthenticator 1700000000000 (World.initial Overlap.looseFiles) secondWaits
    w.unsaved = [] ∧ w.requests.length = 1 ∧
      ∃ token, w.callers false = .returned (.ok token) ∧ w.callers true = .returned (.ok token) := by
  have hstale : Authenticator.Stale lockingAuthenticator Overlap.looseFiles 1700000000000 Overlap.looseRecord "r0" :=
    ⟨rfl, Overlap.whole_of_strings (by simp [Overlap.looseRecord]), rfl, .inl rfl⟩
  have hsaved :
      (run lockingAuthenticator 1700000000000 (World.initial Overlap.looseFiles) secondWaits).unsaved = [] := by
    decide +kernel
  obtain ⟨-, token, h⟩ := one_refresh_in_turns lockingAuthenticator hstale (by decide) (by decide) (by decide)
    secondWaits secondWaits_timely hsaved
  have hdone := secondWaits_done
  generalize run lockingAuthenticator 1700000000000 (World.initial Overlap.looseFiles) secondWaits = w
    at h hdone hsaved
  have hreturned : ∀ i, w.callers i = .returned (.ok token) := by
    intro i
    obtain ⟨result, hr⟩ := Caller.done_iff.1 (hdone i)
    rw [hr, (h i result hr).1]
  exact ⟨hsaved, congrArg List.length (h false _ (hreturned false)).2.1, token, hreturned false, hreturned true⟩

end Turns
end TokenCache
