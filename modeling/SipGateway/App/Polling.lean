import SipGateway.App.World

/-!
# The main loop

`GatewayApp::run` with `SipServer::poll`: the main thread reads datagrams from the SIP socket until
there is none, cleans up, sleeps, and starts again until it is told to exit. The other threads and
the network come between any two of its steps.
-/

namespace SipGateway

open Infra

/-- Where the main thread is in `run`. -/
inductive LoopPlace where
  /-- the condition of the loop -/
  | testing
  /-- `recvfrom` in `poll` -/
  | polling
  /-- `cleanupTransactions` -/
  | cleaning
  /-- `sleep_for` -/
  | sleeping
  /-- behind the loop -/
  | stopped
deriving DecidableEq, Repr

/-- The gateway with its main thread and its SIP socket; `arrived` is all that ever came in, and
read by no function. -/
structure MainLoop where
  world : World
  shouldExit : Bool := false
  place : LoopPlace := .testing
  socket : List Datagram := []
  arrived : List Datagram := []

/-- What happens next. -/
inductive LoopEvent where
  /-- a datagram comes into the socket -/
  | arrive (datagram : Datagram)
  /-- the main thread makes its next step -/
  | turn (env : Env)
  /-- `recvfrom` fails -/
  | fail
  /-- `exit` on the command line, or a signal -/
  | exit
  /-- another thread does something -/
  | other (e : Event)

namespace MainLoop

/-- `sizeof(buffer_) - 1`: what is behind this is cut off. -/
def bufferSize : Nat := 8191

/-- One datagram that `recvfrom` gave. -/
def handle (l : MainLoop) (env : Env) (datagram : Datagram) : Option MainLoop :=
  match h : SipParser.parse (datagram.1.take bufferSize) with
  | .ok (some msg) =>
    (l.world.step ⟨env, .sip ⟨msg, SipParser.parse_wellFormed h⟩ datagram.2⟩).map fun world =>
      { l with world := world }
  | .ok none => some l
  | .error _ => none

/-- One round of `poll`; an empty datagram ends it like an empty socket. -/
def receive (l : MainLoop) (env : Env) : Option MainLoop :=
  match l.socket with
  | [] => some { l with place := .cleaning }
  | datagram :: rest =>
    if datagram.1.isEmpty then some { l with socket := rest, place := .cleaning }
    else { l with socket := rest }.handle env datagram

/-- A step of the main thread. -/
def turn (l : MainLoop) (env : Env) : Option MainLoop :=
  match l.place with
  | .testing => some { l with place := if l.shouldExit then .stopped else .polling }
  | .polling => l.receive env
  | .cleaning =>
    (l.world.step ⟨env, .cleanup⟩).map fun world => { l with world := world, place := .sleeping }
  | .sleeping => some { l with place := .testing }
  | .stopped => some l

/-- What the main thread does not do. -/
def byOthers : Action → Bool
  | .sip _ _ | .cleanup => false
  | _ => true

def Can (l : MainLoop) : LoopEvent → Prop
  | .arrive _ | .exit => True
  | .turn env => l.world.clock ≤ env.start
  | .fail => l.place = .polling
  | .other e => byOthers e.action = true ∧ l.world.clock ≤ e.env.start

instance (l : MainLoop) (e : LoopEvent) : Decidable (l.Can e) :=
  match e with
  | .arrive _ | .exit => isTrue trivial
  | .turn env => inferInstanceAs (Decidable (l.world.clock ≤ env.start))
  | .fail => inferInstanceAs (Decidable (l.place = .polling))
  | .other e => inferInstanceAs (Decidable (byOthers e.action = true ∧ l.world.clock ≤ e.env.start))

def step (l : MainLoop) : LoopEvent → Option MainLoop
  | .arrive datagram =>
    some { l with socket := l.socket ++ [datagram], arrived := l.arrived ++ [datagram] }
  | .turn env => l.turn env
  | .fail => some { l with place := .cleaning }
  | .exit => some { l with shouldExit := true }
  | .other e => (l.world.step e).map fun world => { l with world := world }

/-- From `run` on, with any interleaving. -/
def machine (config : Config) (hardwareConcurrency : Nat) : Machine MainLoop LoopEvent where
  init l := l = { world := World.start config hardwareConcurrency }
  enabled := Can
  step := step

instance (config : Config) (hardwareConcurrency : Nat) (l : MainLoop) (e : LoopEvent) :
    Decidable ((machine config hardwareConcurrency).enabled l e) :=
  inferInstanceAs (Decidable (l.Can e))

end MainLoop

end SipGateway
