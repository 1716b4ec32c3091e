import TokenCache.Calendar
import TokenCache.Event
import TokenCache.FileSystem.Operations
/-!
# Runs

A run works on a host, which is its files and its clock, and leaves a trace: in order, the files as each of its own
operations left them, the events it reported, the requests it sent and the failures it handed to the observer.  What
others do to the host meanwhile comes in at two points only, as a function on hosts, and leaves no trace.
-/
namespace TokenCache

structure Host where
  files : FileSystem
  clock : Instant

/-- What a run shows to the outside. -/
inductive Signal
  /-- The files, as an operation of the run left them. -/
  | files (fs : FileSystem)
  | event (time : Instant) (e : Event)
  | request (r : TokenRequest)
  /-- A failure handed to the persist observer. -/
  | report (e : AuthError)

/-- What comes of a run: its value, the host after it, and its trace. -/
structure Outcome (α : Type) where
  value : α
  host : Host
  trace : List Signal

def Run (α : Type) : Type :=
  Host → Outcome α

/-- What a token endpoint does with a request, and what happens to the host until the answer comes. -/
abbrev Endpoint := TokenRequest → Host → Answer × Host

namespace Run

variable {α β : Type}

protected def pure (a : α) : Run α := fun host =>
  ⟨a, host, []⟩

protected def bind (r : Run α) (f : α → Run β) : Run β := fun host =>
  let first := r host
  let second := f first.value first.host
  ⟨second.value, second.host, first.trace ++ second.trace⟩

instance : Monad Run where
  pure := Run.pure
  bind := Run.bind

theorem pure_apply (a : α) (host : Host) : (pure a : Run α) host = ⟨a, host, []⟩ := rfl

/-- **One run after another.** -/
theorem bind_apply (r : Run α) (f : α → Run β) (host : Host) : (r >>= f) host =
    ⟨(f (r host).value (r host).host).value, (f (r host).value (r host).host).host,
      (r host).trace ++ (f (r host).value (r host).host).trace⟩ := rfl

theorem bind_pure_run (r : Run α) : r >>= pure = r := by
  funext host
  rw [bind_apply]
  simp only [pure_apply, List.append_nil]

theorem bind_assoc_run {γ : Type} (r : Run α) (f : α → Run β) (g : β → Run γ) :
    r >>= f >>= g = r >>= fun a => f a >>= g := by
  funext host
  simp only [bind_apply, List.append_assoc]

instance : LawfulMonad Run :=
  LawfulMonad.mk' Run bind_pure_run (fun _ _ => rfl) bind_assoc_run

def emit (s : Signal) : Run Unit := fun host =>
  ⟨(), host, [s]⟩

def log (e : Event) : Run Unit := fun host =>
  ⟨(), host, [.event host.clock e]⟩

def files : Run FileSystem := fun host =>
  ⟨host.files, host, []⟩

def now : Run Instant := fun host =>
  ⟨host.clock, host, []⟩

/-- Lets others change the host. -/
def disturb (f : Host → Host) : Run Unit := fun host =>
  ⟨(), f host, []⟩

/-- **One operation on the files**: done or failed, and if done traced. -/
def perform (change : FileSystem.Change) : Run (Except OsError Unit) := fun host =>
  match change host.files with
  | .ok fs => ⟨.ok (), { host with files := fs }, [.files fs]⟩
  | .error e => ⟨.error e, host, []⟩

/-- Sends a request and waits for what comes of it. -/
def ask (endpoint : Endpoint) (r : TokenRequest) : Run Answer := fun host =>
  let (answer, host) := endpoint r host
  ⟨answer, host, [.request r]⟩

end Run

namespace Outcome

variable {α : Type}

def events (o : Outcome α) : List Event :=
  o.trace.filterMap fun
    | .event _ e => some e
    | _ => none

def requests (o : Outcome α) : List TokenRequest :=
  o.trace.filterMap fun
    | .request r => some r
    | _ => none

def reports (o : Outcome α) : List AuthError :=
  o.trace.filterMap fun
    | .report e => some e
    | _ => none

/-! What is read off the trace of one run after another is that of the first and then that of the second. -/

theorem requests_bind {β : Type} (r : Run α) (f : α → Run β) (host : Host) :
    ((r >>= f) host).requests = (r host).requests ++ (f (r host).value (r host).host).requests :=
  List.filterMap_append

theorem reports_bind {β : Type} (r : Run α) (f : α → Run β) (host : Host) :
    ((r >>= f) host).reports = (r host).reports ++ (f (r host).value (r host).host).reports :=
  List.filterMap_append

end Outcome
end TokenCache
