import SipGateway.Infra.Machine
import SipGateway.Rtp.Worker

/-!
# The workers' threads and their descriptors

`RtpWorker.cpp` with its threads: `loop` works off what `epoll_wait` gave it while other threads
open and close ports under the mutex, one call of the system at a time, and send with a descriptor
they looked up before. All workers share the descriptors of the process, and the system hands out
the number of a closed descriptor again.
-/

namespace SipGateway

open Infra

/-- A bound socket, the datagrams in it and a number of its own. -/
structure UdpSocket where
  id : Nat
  port : Int
  queue : List Datagram := []

/-- What a descriptor stands for. -/
inductive Descriptor where
  /-- a socket that is not bound yet -/
  | fresh
  | udp (socket : UdpSocket)
  /-- something another part of the process has open -/
  | foreign

/-- A descriptor a thread has got for a port; `stale` once the port was released behind that. -/
structure Lookup where
  port : Int
  fd : Int
  stale : Bool := false
deriving DecidableEq

/-- What the thread with the mutex does. -/
inductive Section where
  | unlocked
  /-- the head of the loop of `allocatePort` -/
  | searching (ports : List Int)
  /-- behind `createUdpSocket` -/
  | opened (port fd : Int) (ports : List Int)
  /-- behind `bindSocket`, with the entry in `activeSockets_` -/
  | bound (port fd : Int) (ports : List Int)
  /-- behind `epoll_ctl(.., EPOLL_CTL_DEL, ..)` in `releasePort` -/
  | releasing (port fd : Int)
deriving DecidableEq

/-- A worker; `returned` is what `allocatePort` returned last. -/
structure WorkerThreads where
  candidates : List Int
  activeSockets : Std.ExtTreeMap Int Int := ∅
  mutex : Section := .unlocked
  returned : Int := -1
  /-- the events `loop` has not looked at yet -/
  batch : List Lookup := []
  /-- the threads in `send`, behind the block with the mutex -/
  sends : List Lookup := []

/-- A call of `recvfrom` or `sendto`, with the socket it reached. -/
structure Reached where
  lookup : Lookup
  socket : Option UdpSocket

/-- All workers and what the system keeps for them; `epoll` has the port in the data of every
descriptor in the set of a worker. `came`, `reads` and `transmitted` are read by no function. -/
structure Sockets where
  workers : Nat → WorkerThreads
  fds : Int → Option Descriptor
  epoll : Nat → Int → Option Int := fun _ _ => none
  nextId : Nat := 0
  came : Nat → List Datagram := fun _ => []
  reads : List (Reached × Datagram) := []
  transmitted : List Reached := []

/-- What happens next. -/
inductive SocketsEvent where
  /-- a datagram comes in for a socket -/
  | arrive (fd : Int) (datagram : Datagram)
  /-- another part of the process opens or closes a descriptor -/
  | openForeign (fd : Int)
  | closeForeign (fd : Int)
  | allocatePort (i : Nat)
  | releasePort (i : Nat) (port : Int)
  /-- the thread with the mutex goes on; the descriptor it gets, and whether a call succeeds -/
  | go (i : Nat) (fd : Int) (ok : Bool)
  /-- `epoll_wait` returns -/
  | harvest (i : Nat) (fds : List Int)
  /-- the next round of `loop`; what comes from a descriptor that is no socket of a worker -/
  | receive (i : Nat) (stray : Datagram)
  /-- the block of `send`, and the `sendto` of one of the threads behind it -/
  | send (i : Nat) (port : Int)
  | transmit (i : Nat) (k : Nat)

/-- What was looked up for the port is stale. -/
def markStale (port : Int) (lookups : List Lookup) : List Lookup :=
  lookups.map fun l => if l.port = port then { l with stale := true } else l

namespace Sockets

def setWorker (s : Sockets) (i : Nat) (t : WorkerThreads) : Sockets :=
  { s with workers := Function.update s.workers i t }

def setFd (s : Sockets) (fd : Int) (d : Descriptor) : Sockets :=
  { s with fds := Function.update s.fds fd (some d) }

/-- `close`: the system takes the descriptor out of every epoll set. -/
def close (s : Sockets) (fd : Int) : Sockets :=
  { s with
    fds := Function.update s.fds fd none
    epoll := fun i => Function.update (s.epoll i) fd none }

def setEpoll (s : Sockets) (i : Nat) (fd : Int) (port : Option Int) : Sockets :=
  { s with epoll := Function.update s.epoll i (Function.update (s.epoll i) fd port) }

/-- The next statement of the thread with the mutex. -/
def go (s : Sockets) (i : Nat) (fd : Int) (ok : Bool) : Sockets :=
  let t := s.workers i
  match t.mutex with
  | .unlocked => s
  | .searching [] => s.setWorker i { t with mutex := .unlocked, returned := -1 }
  | .searching (p :: ports) =>
    if p ∈ t.activeSockets then s.setWorker i { t with mutex := .searching ports }
    else if fd ≥ 0 then
      (s.setFd fd .fresh).setWorker i { t with mutex := .opened p fd ports }
    else s.setWorker i { t with mutex := .searching ports }
  | .opened p fd ports =>
    if ok then
      let bound := (s.setFd fd (.udp { id := s.nextId, port := p })).setWorker i { t with
        activeSockets := t.activeSockets.insert p fd
        mutex := .bound p fd ports }
      { bound with nextId := s.nextId + 1 }
    else (s.close fd).setWorker i { t with mutex := .searching ports }
  | .bound p fd ports =>
    if ok then (s.setEpoll i fd (some p)).setWorker i { t with mutex := .unlocked, returned := p }
    else (s.close fd).setWorker i { t with mutex := .searching ports }
  | .releasing p fd =>
    (s.close fd).setWorker i { t with
      activeSockets := t.activeSockets.erase p
      mutex := .unlocked
      batch := markStale p t.batch
      sends := markStale p t.sends }

/-- The block of `releasePort` up to the first call of the system. -/
def releasePort (s : Sockets) (i : Nat) (port : Int) : Sockets :=
  match (s.workers i).activeSockets[port]? with
  | none => s
  | some fd =>
    (s.setEpoll i fd none).setWorker i { s.workers i with mutex := .releasing port fd }

/-- The socket a descriptor stands for. -/
def socketAt (s : Sockets) (fd : Int) : Option UdpSocket :=
  match s.fds fd with
  | some (.udp socket) => some socket
  | _ => none

/-- `recvfrom`: nothing comes from a closed descriptor or an empty socket. -/
def recvfrom (s : Sockets) (l : Lookup) (stray : Datagram) : Sockets :=
  match s.fds l.fd with
  | none | some .fresh => s
  | some .foreign => { s with reads := s.reads ++ [({ lookup := l, socket := none }, stray)] }
  | some (.udp socket) =>
    match socket.queue with
    | [] => s
    | datagram :: queue =>
      { s.setFd l.fd (.udp { socket with queue := queue }) with
        reads := s.reads ++ [({ lookup := l, socket := some socket }, datagram)] }

/-- One round of `loop`. -/
def receive (s : Sockets) (i : Nat) (stray : Datagram) : Sockets :=
  match (s.workers i).batch with
  | [] => s
  | l :: batch => (s.setWorker i { s.workers i with batch := batch }).recvfrom l stray

/-- The block of `send`. -/
def send (s : Sockets) (i : Nat) (port : Int) : Sockets :=
  match (s.workers i).activeSockets[port]? with
  | none => s
  | some fd => s.setWorker i { s.workers i with
      sends := (s.workers i).sends ++ [{ port := port, fd := fd }] }

/-- The `sendto` of one of the threads behind it. -/
def transmit (s : Sockets) (i : Nat) (k : Nat) : Sockets :=
  match (s.workers i).sends[k]? with
  | none => s
  | some l =>
    { s.setWorker i { s.workers i with sends := (s.workers i).sends.eraseIdx k } with
      transmitted := s.transmitted ++ [{ lookup := l, socket := s.socketAt l.fd }] }

/-- A datagram comes in. -/
def arrive (s : Sockets) (fd : Int) (datagram : Datagram) : Sockets :=
  match s.socketAt fd with
  | none => s
  | some socket =>
    { s.setFd fd (.udp { socket with queue := socket.queue ++ [datagram] }) with
      came := Function.update s.came socket.id (s.came socket.id ++ [datagram]) }

def step (s : Sockets) : SocketsEvent → Sockets
  | .arrive fd datagram => s.arrive fd datagram
  | .openForeign fd => s.setFd fd .foreign
  | .closeForeign fd => s.close fd
  | .allocatePort i =>
    s.setWorker i { s.workers i with mutex := .searching (s.workers i).candidates }
  | .releasePort i port => s.releasePort i port
  | .go i fd ok => s.go i fd ok
  | .harvest i fds => s.setWorker i { s.workers i with
      batch := fds.filterMap fun fd => (s.epoll i fd).map fun port => { port := port, fd := fd } }
  | .receive i stray => s.receive i stray
  | .send i port => s.send i port
  | .transmit i k => s.transmit i k

/-- What another part of the process has open. -/
def isForeign : Option Descriptor → Bool
  | some .foreign => true
  | _ => false

/-- When a thread comes to a place and what the system can answer there. -/
def Can (s : Sockets) : SocketsEvent → Prop
  | .arrive .. | .transmit .. => True
  | .openForeign fd => (s.fds fd).isNone
  | .closeForeign fd => isForeign (s.fds fd)
  | .allocatePort i | .releasePort i _ | .send i _ => (s.workers i).mutex = .unlocked
  | .go _ fd _ => (s.fds fd).isNone
  | .harvest i fds => (s.workers i).batch = [] ∧ fds.length ≤ 64 ∧ fds.Nodup
  | .receive i _ => (s.workers i).batch ≠ []

instance (s : Sockets) (e : SocketsEvent) : Decidable (s.Can e) :=
  match e with
  | .arrive .. | .transmit .. => isTrue trivial
  | .openForeign fd => inferInstanceAs (Decidable ((s.fds fd).isNone = true))
  | .closeForeign fd => inferInstanceAs (Decidable (isForeign (s.fds fd) = true))
  | .allocatePort i | .releasePort i _ | .send i _ =>
    inferInstanceAs (Decidable ((s.workers i).mutex = .unlocked))
  | .go _ fd _ => inferInstanceAs (Decidable ((s.fds fd).isNone = true))
  | .harvest i fds =>
    inferInstanceAs (Decidable ((s.workers i).batch = [] ∧ fds.length ≤ 64 ∧ fds.Nodup))
  | .receive i _ => inferInstanceAs (Decidable ((s.workers i).batch ≠ []))

/-- Workers that have opened no port yet, in a process that has other descriptors. -/
def machine : Machine Sockets SocketsEvent where
  init s := ∃ (candidates : Nat → List Int) (others : Int → Bool),
    s = { workers := fun i => { candidates := candidates i }
          fds := fun fd => if others fd then some .foreign else none }
  enabled := Can
  step s e := some (s.step e)

instance (s : Sockets) (e : SocketsEvent) : Decidable (machine.enabled s e) :=
  inferInstanceAs (Decidable (s.Can e))

/-! ## `allocatePort` by itself -/

/-- What the system answers next: a descriptor, and whether the call succeeds. -/
def answer (net : Int → SocketAttempt) : Section → Int × Bool
  | .searching (p :: _) => ((net p).fd, true)
  | .opened p _ _ => (0, (net p).bound)
  | .bound p _ _ => (0, (net p).added)
  | _ => (0, true)

/-- The thread with the mutex of a worker, and no other. -/
def goOn (net : Int → SocketAttempt) (i : Nat) : Nat → Sockets → Sockets
  | 0, s => s
  | n + 1, s =>
    goOn net i n (s.go i (answer net (s.workers i).mutex).1 (answer net (s.workers i).mutex).2)

/-- The worker's search has ended like that of the other. -/
structure Found (t : WorkerThreads) (r : RtpWorker × Int) : Prop where
  mutex : t.mutex = .unlocked
  activeSockets : t.activeSockets = r.1.activeSockets
  returned : t.returned = r.2

theorem goOn_succ {s : Sockets} {i : Nat} (net : Int → SocketAttempt) (n : Nat) {mutex : Section}
    (h : (s.workers i).mutex = mutex) :
    goOn net i (n + 1) s = goOn net i n (s.go i (answer net mutex).1 (answer net mutex).2) := by
  rw [goOn, h]

theorem setWorker_self (s : Sockets) (i : Nat) (t : WorkerThreads) :
    (s.setWorker i t).workers i = t := Function.update_self ..

section Places

variable {s : Sockets} {i : Nat} {ports : List Int} {p fd : Int}

theorem go_searching_nil (f : Int) (ok : Bool) (h : (s.workers i).mutex = .searching []) :
    (s.go i f ok).workers i = { s.workers i with mutex := .unlocked, returned := -1 } := by
  rw [go, h]
  exact setWorker_self ..

theorem go_searching_cons (f : Int) (ok : Bool)
    (h : (s.workers i).mutex = .searching (p :: ports)) :
    (s.go i f ok).workers i = { s.workers i with
      mutex := if p ∈ (s.workers i).activeSockets ∨ f < 0 then .searching ports
        else .opened p f ports } := by
  rw [go, h]
  dsimp only
  split
  · next hp => rw [if_pos (Or.inl hp), setWorker_self]
  · next hp =>
    split
    · next hf =>
      rw [if_neg (fun h => h.elim hp (Int.not_lt.mpr hf)), setWorker_self]
    · next hf => rw [if_pos (Or.inr (Int.not_le.mp hf)), setWorker_self]

theorem go_opened (f : Int) (ok : Bool) (h : (s.workers i).mutex = .opened p fd ports) :
    (s.go i f ok).workers i = if ok then { s.workers i with
        activeSockets := (s.workers i).activeSockets.insert p fd, mutex := .bound p fd ports }
      else { s.workers i with mutex := .searching ports } := by
  rw [go, h]
  dsimp only
  split
  · exact setWorker_self ..
  · exact setWorker_self ..

theorem go_bound (f : Int) (ok : Bool) (h : (s.workers i).mutex = .bound p fd ports) :
    (s.go i f ok).workers i = if ok then { s.workers i with mutex := .unlocked, returned := p }
      else { s.workers i with mutex := .searching ports } := by
  rw [go, h]
  dsimp only
  split
  · exact setWorker_self ..
  · exact setWorker_self ..

end Places

theorem goOn_searching {i : Nat} (net : Int → SocketAttempt) (ports : List Int) (s : Sockets)
    (w : RtpWorker)
    (hactive : (s.workers i).activeSockets = w.activeSockets)
    (hmutex : (s.workers i).mutex = .searching ports) :
    ∃ n, Found ((goOn net i n s).workers i) (RtpWorker.allocateLoop net ports w) := by
  induction ports generalizing s w with
  | nil =>
    refine ⟨1, ?_⟩
    rw [goOn_succ net 0 hmutex, goOn, go_searching_nil _ _ hmutex]
    exact ⟨rfl, hactive, rfl⟩
  | cons p ports ih =>
    have hgo := go_searching_cons (net p).fd true hmutex
    rw [RtpWorker.allocateLoop]
    -- the steps behind the head of the loop
    suffices hrest : ∃ n, Found ((goOn net i n (s.go i (net p).fd true)).workers i) _ by
      obtain ⟨n, hfound⟩ := hrest
      exact ⟨n + 1, by rw [goOn_succ net n hmutex]; exact hfound⟩
    generalize s.go i (net p).fd true = s₁ at hgo
    by_cases hp : p ∈ w.activeSockets
    · rw [if_pos hp]
      rw [if_pos (Or.inl (hactive ▸ hp))] at hgo
      exact ih s₁ w (by rw [hgo]; exact hactive) (by rw [hgo])
    · have hp' : p ∉ (s.workers i).activeSockets := hactive ▸ hp
      rw [if_neg hp]
      by_cases hfd : (net p).fd ≥ 0
      · rw [if_neg (fun h => h.elim hp' (Int.not_lt.mpr hfd))] at hgo
        rw [if_pos hfd]
        dsimp only
        have hmutex₁ : (s₁.workers i).mutex = .opened p (net p).fd ports := by rw [hgo]
        have hgo₂ := go_opened 0 (net p).bound hmutex₁
        suffices hrest : ∃ n, Found ((goOn net i n (s₁.go i 0 (net p).bound)).workers i) _ by
          obtain ⟨n, hfound⟩ := hrest
          exact ⟨n + 1, by rw [goOn_succ net n hmutex₁]; exact hfound⟩
        generalize s₁.go i 0 (net p).bound = s₂ at hgo₂
        by_cases hbound : (net p).bound = true
        · rw [if_pos hbound] at hgo₂ ⊢
          have hmutex₂ : (s₂.workers i).mutex = .bound p (net p).fd ports := by rw [hgo₂]
          have hgo₃ := go_bound 0 (net p).added hmutex₂
          have hactive₂ : (s₂.workers i).activeSockets = w.activeSockets.insert p (net p).fd := by
            rw [hgo₂, hgo, ← hactive]
          suffices hrest : ∃ n, Found ((goOn net i n (s₂.go i 0 (net p).added)).workers i) _ by
            obtain ⟨n, hfound⟩ := hrest
            exact ⟨n + 1, by rw [goOn_succ net n hmutex₂]; exact hfound⟩
          generalize s₂.go i 0 (net p).added = s₃ at hgo₃
          by_cases hadded : (net p).added = true
          · rw [if_pos hadded] at hgo₃ ⊢
            refine ⟨0, ?_⟩
            rw [goOn, hgo₃]
            exact ⟨rfl, hactive₂, rfl⟩
          · rw [if_neg hadded] at hgo₃ ⊢
            exact ih s₃ _ (by rw [hgo₃]; exact hactive₂) (by rw [hgo₃])
        · rw [if_neg hbound] at hgo₂ ⊢
          exact ih s₂ _ (by rw [hgo₂, hgo]; exact hactive) (by rw [hgo₂])
      · rw [if_pos (Or.inr (Int.not_le.mp hfd))] at hgo
        rw [if_neg hfd]
        exact ih s₁ w (by rw [hgo]; exact hactive) (by rw [hgo])

/-- **By itself `allocatePort` does what it does without threads.** -/
theorem goOn_allocatePort {s : Sockets} {i : Nat} (net : Int → SocketAttempt) (w : RtpWorker)
    (hcandidates : (s.workers i).candidates = w.candidates)
    (hactive : (s.workers i).activeSockets = w.activeSockets) :
    ∃ n, Found ((goOn net i n (s.step (.allocatePort i))).workers i) (w.allocatePort net) := by
  have hworker : (s.step (.allocatePort i)).workers i =
      { s.workers i with mutex := .searching w.candidates } := by
    rw [← hcandidates]
    exact setWorker_self ..
  exact goOn_searching net w.candidates _ w (by rw [hworker]; exact hactive) (by rw [hworker])

end Sockets

end SipGateway
