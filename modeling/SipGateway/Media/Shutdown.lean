import SipGateway.Infra.Machine
import SipGateway.Media.Clients

/-!
# The life of a client with a reader thread

`VoiceBotClient` and `AudioSocketClient` are built alike: `connect` starts a thread that runs
`readerLoop`, and `stop` clears `running_`, lets go of the connection and joins the thread. The
loop clears `running_` too, and `stop` does nothing when it finds it cleared.

`ThreadedClient` is what the two have in common. Its machine interleaves the thread of the owner
with the reader thread, one access to `running_` or to the thread at a time. The owner is the
session, which makes its calls one after the other under its lock and connects a client at most
once, right where it creates it. `connect` is one step: what it still does once the thread runs
touches neither the flag nor the thread.
-/

namespace SipGateway

open Infra

/-- A client `C`, connected with the answers `A` of the system, that reads messages `M`. -/
structure ThreadedClient (C A M : Type) where
  running : C → Bool
  /-- `running_ = false` -/
  clearRunning : C → C
  connect : C → A → Except StdException (C × Bool)
  /-- what `stop` does after clearing the flag and before joining -/
  release : C → C
  /-- whether a message makes `readerLoop` break -/
  endsLoop : M → Bool
  /-- the client has the connection it got with these answers -/
  Holds : A → C → Prop
  /-- it has let go of that connection -/
  Released : A → C → Prop
  running_clearRunning : ∀ c, running (clearRunning c) = false
  running_release : ∀ c, running (release c) = running c
  running_connect : ∀ c a c' ok, connect c a = .ok (c', ok) → running c' = (ok || running c)
  holds_connect : ∀ c a c', connect c a = .ok (c', true) → Holds a c'
  holds_clearRunning : ∀ a c, Holds a c → Holds a (clearRunning c)
  released_clearRunning : ∀ a c, Released a c → Released a (clearRunning c)
  released_release : ∀ a c, Holds a c ∨ Released a c → Released a (release c)

/-- Where the reader thread is. -/
inductive ReaderPc where
  /-- `while (running_ ..)` -/
  | testing
  /-- in `recv` or `Read` -/
  | receiving
  /-- behind the loop, before `running_ = false` -/
  | leaving
  | done
deriving DecidableEq, Repr

/-- Where the owner is inside `stop`. -/
inductive StopPc where
  /-- `if (!running_) return;` -/
  | testing
  /-- `running_ = false;` -/
  | clearing
  | releasing
  /-- `if (readerThread_.joinable()) readerThread_.join();` -/
  | joining
deriving DecidableEq, Repr

/-- Where the owner is; the destructor is a call of `stop` with the end of the object behind it. -/
inductive OwnerPc where
  | idle
  | stopping (pc : StopPc) (destructor : Bool)
  | destroyed
deriving DecidableEq, Repr

namespace OwnerPc

/-- Inside a `stop` that has found the client running. -/
def pastTest : OwnerPc → Bool
  | .stopping .testing _ => false
  | .stopping _ _ => true
  | _ => false

/-- What follows `stop`. -/
def afterStop (destructor : Bool) : OwnerPc := if destructor then .destroyed else .idle

end OwnerPc

/-- A client in its life: `reader` is `none` when `readerThread_` is not joinable. -/
structure Lifetime (C A : Type) where
  client : C
  attempted : Bool := false
  connected : Option A := none
  reader : Option ReaderPc := none
  owner : OwnerPc := .idle

inductive LifeEvent (A M : Type) where
  | connect (a : A)
  | stop
  | destroy
  /-- the owner goes on inside `stop` -/
  | advance
  | readerTests
  /-- a message, or the end of the stream or an error -/
  | readerReceives (m : Option M)
  | readerClears

namespace ThreadedClient

variable {C A M : Type} (T : ThreadedClient C A M)

/-- The next statement of `stop`. -/
def advance (s : Lifetime C A) : Lifetime C A :=
  match s.owner with
  | .stopping .testing destructor =>
    if T.running s.client then { s with owner := .stopping .clearing destructor }
    else { s with owner := .afterStop destructor }
  | .stopping .clearing destructor =>
    { s with client := T.clearRunning s.client, owner := .stopping .releasing destructor }
  | .stopping .releasing destructor =>
    { s with client := T.release s.client, owner := .stopping .joining destructor }
  | .stopping .joining destructor =>
    { s with reader := none, owner := .afterStop destructor }
  | .idle | .destroyed => s

/-- `join` waits for the thread, when there is one. -/
def canAdvance (s : Lifetime C A) : Bool :=
  match s.owner with
  | .stopping .joining _ => s.reader = none || s.reader = some .done
  | .stopping _ _ => true
  | .idle | .destroyed => false

/-- The events that can come next. Nothing does once the object is gone. -/
def enabled (s : Lifetime C A) : LifeEvent A M → Bool
  | .connect _ => s.owner = .idle && !s.attempted
  | .stop => s.owner = .idle
  | .destroy => s.owner = .idle
  | .advance => canAdvance s
  | .readerTests => s.owner ≠ .destroyed && s.reader = some .testing
  | .readerReceives _ => s.owner ≠ .destroyed && s.reader = some .receiving
  | .readerClears => s.owner ≠ .destroyed && s.reader = some .leaving

def step (s : Lifetime C A) : LifeEvent A M → Option (Lifetime C A)
  | .connect a =>
    match T.connect s.client a with
    | .error _ => none
    | .ok (client, ok) =>
      some { s with
        client := client
        attempted := true
        connected := if ok then some a else none
        reader := if ok then some .testing else s.reader }
  | .stop => some { s with owner := .stopping .testing false }
  | .destroy => some { s with owner := .stopping .testing true }
  | .advance => some (T.advance s)
  | .readerTests =>
    some { s with reader := some (if T.running s.client then .receiving else .leaving) }
  | .readerReceives m =>
    some { s with reader := some (if m.all T.endsLoop then .leaving else .testing) }
  | .readerClears => some { s with client := T.clearRunning s.client, reader := some .done }

/-- The life of a client, from its construction to the end of its destructor. -/
def machine : Machine (Lifetime C A) (LifeEvent A M) where
  init s := s = { client := s.client } ∧ T.running s.client = false
  enabled s e := enabled s e = true
  step := T.step

/-- What the destructor has to leave behind: no joinable thread, and no open connection. -/
def ShutDown (s : Lifetime C A) : Prop :=
  s.owner = .destroyed → ∀ a, s.connected = some a → s.reader = none ∧ T.Released a s.client

end ThreadedClient

/-! ## The two clients -/

/-- What the system answers to `AudioSocketClient::connect`. -/
structure SocketAnswers where
  sock : Int
  connects : Bool
  epoch : Nat := 0
deriving DecidableEq, Repr

/-- A frame of the AudioSocket protocol. -/
structure AudioSocketFrame where
  type : UInt8
  payload : Bytes := []
deriving DecidableEq, Repr

/-- The system takes the socket of a successful `connect`. -/
theorem AudioSocketClient.connect_true {client client' : AudioSocketClient} {sock : Int}
    {connects : Bool} {epoch : Nat} {ok : Bool}
    (h : client.connect sock connects epoch = .ok (client', ok)) :
    client'.running = (ok || client.running) ∧
      (ok = true → client'.sockfd = sock ∧ 0 ≤ sock) := by
  unfold AudioSocketClient.connect at h
  split at h
  · cases h
    exact ⟨rfl, nofun⟩
  · simp only [bind, Except.bind, pure, Except.pure] at h
    split at h
    · cases h
    · split at h
      · cases h
      · split at h
        · cases h
          exact ⟨rfl, nofun⟩
        · next hsock =>
          split at h
          · cases h
            exact ⟨rfl, fun _ => ⟨rfl, by omega⟩⟩
          · cases h
            exact ⟨rfl, nofun⟩

/-- `AudioSocketClient`: a frame of type 0 ends the loop. -/
def audioSocketThreads : ThreadedClient AudioSocketClient SocketAnswers AudioSocketFrame where
  running c := c.running
  clearRunning c := { c with running := false }
  connect c a := c.connect a.sock a.connects a.epoch
  release := AudioSocketClient.closeSocket
  endsLoop frame := frame.type = 0
  Holds a c := c.sockfd = a.sock ∧ 0 ≤ a.sock
  Released a c := a.sock ∈ c.closed
  running_clearRunning _ := rfl
  running_release c := by unfold AudioSocketClient.closeSocket; split <;> rfl
  running_connect _ _ _ _ h := (AudioSocketClient.connect_true h).1
  holds_connect _ _ _ h := (AudioSocketClient.connect_true h).2 rfl
  holds_clearRunning _ _ h := h
  released_clearRunning _ _ h := h
  released_release a c h := by
    unfold AudioSocketClient.closeSocket
    rcases h with ⟨hfd, hsock⟩ | h
    · rw [if_pos (hfd ▸ hsock), hfd]
      simp
    · split
      · exact List.mem_append_left _ h
      · exact h

/-- `VoiceBotClient`: no action ends the loop, and cancelling the context frees the reader. -/
def voiceBotThreads : ThreadedClient VoiceBotClient Bool Unit where
  running c := c.running
  clearRunning c := { c with running := false }
  connect c stream := .ok (c.connect stream)
  release := VoiceBotClient.tryCancel
  endsLoop _ := false
  Holds _ c := c.context ≠ none
  Released _ c := c.context = some true
  running_clearRunning _ := rfl
  running_release _ := rfl
  running_connect c a c' ok h := by
    cases a <;> (cases h; rfl)
  holds_connect c a c' h := by
    cases a with
    | false => cases h
    | true => cases h; simp
  holds_clearRunning _ _ h := h
  released_clearRunning _ _ h := h
  released_release _ c h := by
    unfold VoiceBotClient.tryCancel
    cases hc : c.context <;> simp_all

end SipGateway
