import SipGateway.Infra.Tables
import SipGateway.Rtp.Sockets

/-!
# Datagrams and the ports they come to

As long as `epoll_ctl` does not fail: a worker hands on a datagram under the port it came to, and
sends through the port it was told to, unless the port was released since the descriptor was
looked up (`datagrams_attributed`). What was read from a socket is what came in there, each once
and in order.

Behind a release the descriptor may be anything the process opened since.
-/

namespace SipGateway

open Infra

/-! ## Who has which descriptor -/

/-- The descriptor is what it is held for: a port, or a socket still to be bound. -/
def Fits : Option Int → Option Descriptor → Prop
  | some p, some (.udp socket) => socket.port = p
  | none, some .fresh => True
  | _, _ => False

/-- No descriptor is in the hands of the thread with the mutex. -/
def Section.Settled : Section → Prop
  | .unlocked | .searching _ => True
  | _ => False

/-- Whether `epoll_ctl` is next. -/
def Section.isBound : Section → Bool
  | .bound .. => true
  | _ => false

namespace WorkerThreads

variable {t : WorkerThreads} {set set' : Int → Option Int} {fds fds' : Int → Option Descriptor}
  {p fd : Int} {u : Option Int}

/-- The worker is the one to close the descriptor. -/
inductive Holds (t : WorkerThreads) (fd : Int) : Option Int → Prop where
  | entry {p : Int} (h : t.activeSockets[p]? = some fd) : Holds t fd (some p)
  | opened {p : Int} {ports : List Int} (h : t.mutex = .opened p fd ports) : Holds t fd none

/-- The worker is going to use the descriptor for the port. -/
inductive Refers (t : WorkerThreads) (set : Int → Option Int) (p fd : Int) : Prop where
  | bound {ports : List Int} (h : t.mutex = .bound p fd ports)
  | releasing (h : t.mutex = .releasing p fd)
  | registered (h : set fd = some p)
  | batch {l : Lookup} (hl : l ∈ t.batch) (hfresh : l.stale = false) (hp : l.port = p)
      (hfd : l.fd = fd)
  | sends {l : Lookup} (hl : l ∈ t.sends) (hfresh : l.stale = false) (hp : l.port = p)
      (hfd : l.fd = fd)

/-- The table of the worker agrees with the system, and what it refers to is in the table. -/
structure Tidy (t : WorkerThreads) (set : Int → Option Int) (fds : Int → Option Descriptor) :
    Prop where
  fits : ∀ fd u, t.Holds fd u → Fits u (fds fd)
  refers : ∀ p fd, t.Refers set p fd → t.activeSockets[p]? = some fd
  absent : ∀ p fd ports, t.mutex = .opened p fd ports → p ∉ t.activeSockets

/-- A thread with the mutex comes to a place where it has no descriptor in its hands. -/
theorem Tidy.settle (h : t.Tidy set fds) {mutex : Section} (hsettled : mutex.Settled)
    (returned : Int) : Tidy { t with mutex := mutex, returned := returned } set fds where
  fits fd u hholds := by
    cases hholds with
    | entry hentry => exact h.fits fd _ (.entry hentry)
    | opened hmutex => cases hmutex; exact hsettled.elim
  refers p fd hrefer := by
    refine h.refers p fd ?_
    cases hrefer with
    | bound hmutex => cases hmutex; exact hsettled.elim
    | releasing hmutex => cases hmutex; exact hsettled.elim
    | registered hin => exact .registered hin
    | batch hl hfresh hp hfd => exact .batch hl hfresh hp hfd
    | sends hl hfresh hp hfd => exact .sends hl hfresh hp hfd
  absent p fd ports hmutex := by
    cases hmutex
    exact hsettled.elim

/-- Descriptors are looked up, or done with. -/
theorem Tidy.lookups (h : t.Tidy set fds) {batch sends : List Lookup}
    (hbatch : ∀ l ∈ batch, l.stale = false → l ∈ t.batch ∨ t.activeSockets[l.port]? = some l.fd)
    (hsends : ∀ l ∈ sends, l.stale = false → l ∈ t.sends ∨ t.activeSockets[l.port]? = some l.fd) :
    Tidy { t with batch := batch, sends := sends } set fds where
  fits fd u hholds := by
    cases hholds with
    | entry hentry => exact h.fits fd _ (.entry hentry)
    | opened hmutex => exact h.fits fd _ (.opened hmutex)
  refers p fd hrefer := by
    cases hrefer with
    | bound hmutex => exact h.refers p fd (.bound hmutex)
    | releasing hmutex => exact h.refers p fd (.releasing hmutex)
    | registered hin => exact h.refers p fd (.registered hin)
    | batch hl hfresh hp hfd =>
      subst hp hfd
      exact (hbatch _ hl hfresh).elim (fun hold => h.refers _ _ (.batch hold hfresh rfl rfl)) id
    | sends hl hfresh hp hfd =>
      subst hp hfd
      exact (hsends _ hl hfresh).elim (fun hold => h.refers _ _ (.sends hold hfresh rfl rfl)) id
  absent := h.absent

/-- The system changes descriptors, but not those that are held. -/
theorem Tidy.system (h : t.Tidy set fds)
    (hfits : ∀ fd u, t.Holds fd u → Fits u (fds fd) → Fits u (fds' fd))
    (hset : ∀ fd p, set' fd = some p → set fd = some p) : t.Tidy set' fds' where
  fits fd u hholds := hfits fd u hholds (h.fits fd u hholds)
  refers p fd hrefer := by
    refine h.refers p fd ?_
    cases hrefer with
    | bound hmutex => exact .bound hmutex
    | releasing hmutex => exact .releasing hmutex
    | registered hin => exact .registered (hset _ _ hin)
    | batch hl hfresh hp hfd => exact .batch hl hfresh hp hfd
    | sends hl hfresh hp hfd => exact .sends hl hfresh hp hfd
  absent := h.absent

end WorkerThreads

namespace Sockets

open WorkerThreads

variable {s s' : Sockets} {i : Nat} {fd p : Int} {r : Reached} {datagram : Datagram}

/-- Every worker is tidy, and no two of them have a descriptor in common. -/
structure Owned (s : Sockets) : Prop where
  tidy : ∀ i, (s.workers i).Tidy (s.epoll i) s.fds
  own : ∀ i j fd u v, (s.workers i).Holds fd u → (s.workers j).Holds fd v → i = j

/-- **The rule for one worker.** The system leaves alone what the others hold, and the worker comes
to hold only what nobody held. -/
theorem Owned.move (h : s.Owned) (i : Nat) (hworkers : ∀ j, j ≠ i → s'.workers j = s.workers j)
    (htidy : (s'.workers i).Tidy (s'.epoll i) s'.fds)
    (hfits : ∀ j, j ≠ i → ∀ fd u, (s.workers j).Holds fd u → Fits u (s.fds fd) →
      Fits u (s'.fds fd))
    (hset : ∀ j, j ≠ i → ∀ fd p, s'.epoll j fd = some p → s.epoll j fd = some p)
    (hholds : ∀ fd u, (s'.workers i).Holds fd u →
      (∃ v, (s.workers i).Holds fd v) ∨ ∀ j v, ¬ (s.workers j).Holds fd v) : s'.Owned where
  tidy j := by
    by_cases hj : j = i
    · rw [hj]
      exact htidy
    · rw [hworkers j hj]
      exact (h.tidy j).system (hfits j hj) (hset j hj)
  own j k fd u v hu hv := by
    -- what one of the others holds it held before
    have hbefore : ∀ j u, (s'.workers j).Holds fd u →
        (∃ v, (s.workers j).Holds fd v) ∨ j = i ∧ ∀ j v, ¬ (s.workers j).Holds fd v := by
      intro j u hu
      by_cases hj : j = i
      · subst hj
        exact (hholds fd u hu).imp id fun hnobody => ⟨rfl, hnobody⟩
      · rw [hworkers j hj] at hu
        exact Or.inl ⟨u, hu⟩
    rcases hbefore j u hu with ⟨u', hu'⟩ | ⟨hj, hnobody⟩
    · rcases hbefore k v hv with ⟨v', hv'⟩ | ⟨-, hnobody⟩
      · exact h.own j k fd u' v' hu' hv'
      · exact absurd hu' (hnobody j u')
    · rcases hbefore k v hv with ⟨v', hv'⟩ | ⟨hk, -⟩
      · exact absurd hv' (hnobody k v')
      · exact hj.trans hk.symm

/-- A worker and the system change together. -/
theorem Owned.exchange (h : s.Owned) {fds : Int → Option Descriptor}
    {epoll : Nat → Int → Option Int} {t : WorkerThreads} (htidy : t.Tidy (epoll i) fds)
    (hfits : ∀ j, j ≠ i → ∀ fd u, (s.workers j).Holds fd u → Fits u (s.fds fd) → Fits u (fds fd))
    (hset : ∀ j, j ≠ i → ∀ fd p, epoll j fd = some p → s.epoll j fd = some p)
    (hholds : ∀ fd u, t.Holds fd u →
      (∃ v, (s.workers i).Holds fd v) ∨ ∀ j v, ¬ (s.workers j).Holds fd v) :
    (setWorker { s with fds := fds, epoll := epoll } i t).Owned := by
  have hself : Function.update s.workers i t i = t := Function.update_self ..
  refine h.move i (fun j hj => Function.update_of_ne hj ..) ?_ hfits hset ?_
  · show (Function.update s.workers i t i).Tidy (epoll i) fds
    rw [hself]
    exact htidy
  · show ∀ fd u, (Function.update s.workers i t i).Holds fd u → _
    rw [hself]
    exact hholds

/-- A worker goes on, and neither it nor the system opens or closes anything. -/
theorem Owned.setWorker (h : s.Owned) {t : WorkerThreads} (htidy : t.Tidy (s.epoll i) s.fds)
    (hholds : ∀ fd u, t.Holds fd u → ∃ v, (s.workers i).Holds fd v) :
    (s.setWorker i t).Owned :=
  h.exchange htidy (fun _ _ _ _ _ hfits => hfits) (fun _ _ _ _ hset => hset)
    fun fd u hu => Or.inl (hholds fd u hu)

/-- The thread with the mutex goes on without a descriptor. -/
theorem Owned.settle (h : s.Owned) (mutex : Section) (hsettled : mutex.Settled) (returned : Int) :
    (s.setWorker i { s.workers i with mutex := mutex, returned := returned }).Owned := by
  refine h.setWorker ((h.tidy i).settle hsettled returned) ?_
  rintro fd u (hentry | hmutex)
  · exact ⟨_, .entry hentry⟩
  · cases hmutex
    exact hsettled.elim

theorem Owned.lookups (h : s.Owned) {batch sends : List Lookup}
    (hbatch : ∀ l ∈ batch, l.stale = false →
      l ∈ (s.workers i).batch ∨ (s.workers i).activeSockets[l.port]? = some l.fd)
    (hsends : ∀ l ∈ sends, l.stale = false →
      l ∈ (s.workers i).sends ∨ (s.workers i).activeSockets[l.port]? = some l.fd) :
    (s.setWorker i { s.workers i with batch := batch, sends := sends }).Owned := by
  refine h.setWorker ((h.tidy i).lookups hbatch hsends) ?_
  rintro fd u (hentry | hmutex)
  · exact ⟨_, .entry hentry⟩
  · exact ⟨_, .opened hmutex⟩

/-- The system changes descriptors nobody holds, or a socket without its port. -/
theorem Owned.system (h : s.Owned) {fds : Int → Option Descriptor}
    (hfits : ∀ i fd u, (s.workers i).Holds fd u → Fits u (s.fds fd) → Fits u (fds fd))
    {epoll : Nat → Int → Option Int}
    (hset : ∀ i fd p, epoll i fd = some p → s.epoll i fd = some p) :
    Owned { s with fds := fds, epoll := epoll } where
  tidy i := (h.tidy i).system (hfits i) (hset i)
  own := h.own

/-- Nobody holds what the system has not given out. -/
theorem Owned.not_holds (h : s.Owned) (hfd : s.fds fd = none) (i : Nat) (u : Option Int) :
    ¬ (s.workers i).Holds fd u := by
  intro hu
  have hfits := (h.tidy i).fits fd u hu
  rw [hfd] at hfits
  cases u <;> exact hfits

/-- Nobody holds what another part of the process has open. -/
theorem Owned.not_holds_foreign (h : s.Owned) (hfd : s.fds fd = some .foreign) (i : Nat)
    (u : Option Int) : ¬ (s.workers i).Holds fd u := by
  intro hu
  have hfits := (h.tidy i).fits fd u hu
  rw [hfd] at hfits
  cases u <;> exact hfits

/-- The descriptor of an entry is no other's. -/
theorem Owned.entry_fits (h : s.Owned) (hentry : (s.workers i).activeSockets[p]? = some fd) :
    ∃ socket, s.fds fd = some (.udp socket) ∧ socket.port = p := by
  have hfits := (h.tidy i).fits fd _ (.entry hentry)
  unfold Fits at hfits
  split at hfits
  · next socket hu hfd =>
    cases hu
    exact ⟨socket, hfd, hfits⟩
  · next hu _ => cases hu
  · exact hfits.elim

theorem Owned.opened_fits (h : s.Owned) {ports : List Int}
    (hmutex : (s.workers i).mutex = .opened p fd ports) : s.fds fd = some .fresh := by
  have hfits := (h.tidy i).fits fd _ (.opened hmutex)
  unfold Fits at hfits
  split at hfits
  · next hu _ => cases hu
  · next hfd => exact hfd
  · exact hfits.elim

/-- `createUdpSocket` gives a descriptor. -/
theorem Owned.created (h : s.Owned) (hfd : s.fds fd = none) {ports : List Int}
    (hp : p ∉ (s.workers i).activeSockets) :
    ((s.setFd fd .fresh).setWorker i { s.workers i with mutex := .opened p fd ports }).Owned := by
  have hother : ∀ j f u, (s.workers j).Holds f u → f ≠ fd := by
    rintro j f u hu rfl
    exact h.not_holds hfd j u hu
  refine h.exchange ⟨?_, ?_, ?_⟩ ?_ (fun _ _ _ _ hset => hset) ?_
  · rintro f u (hentry | hmutex)
    · rw [Function.update_of_ne (hother i f _ (.entry hentry))]
      exact (h.tidy i).fits f _ (.entry hentry)
    · cases hmutex
      rw [Function.update_self]
      exact trivial
  · rintro q f (⟨⟨⟩⟩ | ⟨⟨⟩⟩ | hin | ⟨hl, hfresh, hp, hf⟩ | ⟨hl, hfresh, hp, hf⟩)
    · exact (h.tidy i).refers q f (.registered hin)
    · exact (h.tidy i).refers q f (.batch hl hfresh hp hf)
    · exact (h.tidy i).refers q f (.sends hl hfresh hp hf)
  · rintro q f ports ⟨⟩
    exact hp
  · intro j _ f u hu hfits
    rw [Function.update_of_ne (hother j f u hu)]
    exact hfits
  · rintro f u (hentry | hmutex)
    · exact Or.inl ⟨_, .entry hentry⟩
    · cases hmutex
      exact Or.inr (h.not_holds hfd)

/-- `bind` succeeds. -/
theorem Owned.bound (h : s.Owned) {ports : List Int}
    (hmutex : (s.workers i).mutex = .opened p fd ports) (id : Nat) :
    ((s.setFd fd (.udp { id := id, port := p })).setWorker i { s.workers i with
      activeSockets := (s.workers i).activeSockets.insert p fd
      mutex := .bound p fd ports }).Owned := by
  have habsent := (h.tidy i).absent p fd ports hmutex
  have hold : ∀ q f : Int, (s.workers i).activeSockets[q]? = some f → q ≠ p := by
    rintro q f hentry rfl
    exact habsent ((mem_iff_exists_getElem? ..).mpr ⟨f, hentry⟩)
  have hkept : ∀ q f : Int, (s.workers i).activeSockets[q]? = some f →
      ((s.workers i).activeSockets.insert p fd)[q]? = some f := by
    intro q f hentry
    rw [getElem?_insert_key, if_neg (hold q f hentry)]
    exact hentry
  refine h.exchange ⟨?_, ?_, ?_⟩ ?_ (fun _ _ _ _ hset => hset) ?_
  · rintro f u (hentry | ⟨⟨⟩⟩)
    rw [getElem?_insert_key] at hentry
    split at hentry
    · next hq =>
      cases hentry
      rw [Function.update_self]
      exact hq.symm
    · obtain ⟨socket, hsocket, hport⟩ := h.entry_fits hentry
      have hne : f ≠ fd := by
        rintro rfl
        rw [h.opened_fits hmutex] at hsocket
        cases hsocket
      rw [Function.update_of_ne hne, hsocket]
      exact hport
  · rintro q f (⟨⟨⟩⟩ | ⟨⟨⟩⟩ | hin | ⟨hl, hfresh, hp, hf⟩ | ⟨hl, hfresh, hp, hf⟩)
    · exact (getElem?_insert_key ..).trans (if_pos rfl)
    · exact hkept q f ((h.tidy i).refers q f (.registered hin))
    · exact hkept q f ((h.tidy i).refers q f (.batch hl hfresh hp hf))
    · exact hkept q f ((h.tidy i).refers q f (.sends hl hfresh hp hf))
  · rintro q f ports ⟨⟩
  · intro j hj f u hu hfits
    have hne : f ≠ fd := by
      rintro rfl
      exact hj (h.own j i f u none hu (.opened hmutex))
    rw [Function.update_of_ne hne]
    exact hfits
  · rintro f u (hentry | ⟨⟨⟩⟩)
    rw [getElem?_insert_key] at hentry
    split at hentry
    · cases hentry
      exact Or.inl ⟨none, .opened hmutex⟩
    · exact Or.inl ⟨_, .entry hentry⟩

/-- What is left in an epoll set when a descriptor has gone. -/
theorem update_none {set : Int → Option Int} {f q : Int}
    (h : Function.update set fd none f = some q) : f ≠ fd ∧ set f = some q := by
  by_cases hf : f = fd
  · rw [hf, Function.update_self] at h
    cases h
  · rw [Function.update_of_ne hf] at h
    exact ⟨hf, h⟩

/-- A worker closes a descriptor it holds, and holds it no longer. -/
theorem Owned.close (h : s.Owned) {u : Option Int} (hu : (s.workers i).Holds fd u)
    {t : WorkerThreads} (hholds : ∀ f v, t.Holds f v → f ≠ fd ∧ (s.workers i).Holds f v)
    (hrefers : ∀ q f, t.Refers (Function.update (s.epoll i) fd none) q f →
      t.activeSockets[q]? = some f)
    (habsent : ∀ q f ports, t.mutex = .opened q f ports → q ∉ t.activeSockets) :
    ((s.close fd).setWorker i t).Owned := by
  refine h.exchange ⟨?_, hrefers, habsent⟩ ?_ (fun _ _ _ _ hset => (update_none hset).2) ?_
  · intro f v hv
    obtain ⟨hne, hold⟩ := hholds f v hv
    rw [Function.update_of_ne hne]
    exact (h.tidy i).fits f v hold
  · intro j hj f v hv hfits
    have hne : f ≠ fd := by
      rintro rfl
      exact hj (h.own j i f v u hv hu)
    rw [Function.update_of_ne hne]
    exact hfits
  · exact fun f v hv => Or.inl ⟨v, (hholds f v hv).2⟩

/-- `bind` fails. -/
theorem Owned.refused (h : s.Owned) {ports : List Int}
    (hmutex : (s.workers i).mutex = .opened p fd ports) :
    ((s.close fd).setWorker i { s.workers i with mutex := .searching ports }).Owned := by
  refine h.close (.opened hmutex) ?_ ?_ ?_
  · rintro f v (hentry | ⟨⟨⟩⟩)
    refine ⟨?_, .entry hentry⟩
    rintro rfl
    obtain ⟨socket, hsocket, -⟩ := h.entry_fits hentry
    rw [h.opened_fits hmutex] at hsocket
    cases hsocket
  · rintro q f (⟨⟨⟩⟩ | ⟨⟨⟩⟩ | hin | ⟨hl, hfresh, hp, hf⟩ | ⟨hl, hfresh, hp, hf⟩)
    · exact (h.tidy i).refers q f (.registered (update_none hin).2)
    · exact (h.tidy i).refers q f (.batch hl hfresh hp hf)
    · exact (h.tidy i).refers q f (.sends hl hfresh hp hf)
  · rintro q f ports ⟨⟩

/-- `epoll_ctl` puts a descriptor of the table into the set, or takes one out. -/
theorem Owned.setEpoll (h : s.Owned) (hentry : (s.workers i).activeSockets[p]? = some fd)
    {port : Option Int} (hport : ∀ q, port = some q → q = p) {mutex : Section} {returned : Int}
    (hopened : ∀ q f ports, mutex ≠ .opened q f ports)
    (hbound : ∀ q f ports, mutex ≠ .bound q f ports)
    (hreleasing : ∀ q f, mutex = .releasing q f → q = p ∧ f = fd) :
    ((s.setEpoll i fd port).setWorker i { s.workers i with
      mutex := mutex, returned := returned }).Owned := by
  refine h.exchange ⟨?_, ?_, ?_⟩ (fun _ _ _ _ _ hfits => hfits) ?_ ?_
  · rintro f u (hentry | hmutex)
    · exact (h.tidy i).fits f _ (.entry hentry)
    · exact (hopened _ _ _ hmutex).elim
  · rintro q f (hmutex | hmutex | hin | ⟨hl, hfresh, hp, hf⟩ | ⟨hl, hfresh, hp, hf⟩)
    · exact (hbound _ _ _ hmutex).elim
    · obtain ⟨rfl, rfl⟩ := hreleasing q f hmutex
      exact hentry
    · rw [Function.update_self] at hin
      by_cases hf : f = fd
      · rw [hf, Function.update_self] at hin
        rw [hport q hin, hf]
        exact hentry
      · rw [Function.update_of_ne hf] at hin
        exact (h.tidy i).refers q f (.registered hin)
    · exact (h.tidy i).refers q f (.batch hl hfresh hp hf)
    · exact (h.tidy i).refers q f (.sends hl hfresh hp hf)
  · exact fun q f ports hmutex => (hopened _ _ _ hmutex).elim
  · intro j hj f q hset
    rw [Function.update_of_ne hj] at hset
    exact hset
  · rintro f u (hentry | hmutex)
    · exact Or.inl ⟨_, .entry hentry⟩
    · exact (hopened _ _ _ hmutex).elim

theorem mem_markStale {lookups : List Lookup} {l : Lookup} (h : l ∈ markStale p lookups)
    (hfresh : l.stale = false) : l ∈ lookups ∧ l.port ≠ p := by
  obtain ⟨l', hl', rfl⟩ := List.mem_map.mp h
  split at hfresh
  · cases hfresh
  · next hport =>
    rw [if_neg hport]
    exact ⟨hl', hport⟩

/-- The end of `releasePort`. -/
theorem Owned.released (h : s.Owned) (hmutex : (s.workers i).mutex = .releasing p fd) :
    ((s.close fd).setWorker i { s.workers i with
      activeSockets := (s.workers i).activeSockets.erase p
      mutex := .unlocked
      batch := markStale p (s.workers i).batch
      sends := markStale p (s.workers i).sends }).Owned := by
  have hentry := (h.tidy i).refers p fd (.releasing hmutex)
  have hother : ∀ q f : Int, (s.workers i).activeSockets[q]? = some f → q ≠ p → f ≠ fd := by
    rintro q f hq hne rfl
    obtain ⟨socket, hsocket, hport⟩ := h.entry_fits hentry
    obtain ⟨socket', hsocket', hport'⟩ := h.entry_fits hq
    rw [hsocket] at hsocket'
    cases hsocket'
    exact hne (hport'.symm.trans hport)
  have hkept : ∀ q f : Int, (s.workers i).activeSockets[q]? = some f → q ≠ p →
      ((s.workers i).activeSockets.erase p)[q]? = some f := by
    intro q f hq hne
    rw [getElem?_erase_key, if_neg hne]
    exact hq
  refine h.close (.entry hentry) ?_ ?_ ?_
  · rintro f v (hq | ⟨⟨⟩⟩)
    rw [getElem?_erase_key] at hq
    split at hq
    · cases hq
    · next hne => exact ⟨hother _ _ hq hne, .entry hq⟩
  · rintro q f (⟨⟨⟩⟩ | ⟨⟨⟩⟩ | hin | ⟨hl, hfresh, hp, hf⟩ | ⟨hl, hfresh, hp, hf⟩)
    · obtain ⟨hne, hset⟩ := update_none hin
      have hq := (h.tidy i).refers q f (.registered hset)
      refine hkept q f hq ?_
      rintro rfl
      rw [hentry] at hq
      exact hne (Option.some.inj hq).symm
    · obtain ⟨hold, hne⟩ := mem_markStale hl hfresh
      exact hkept q f ((h.tidy i).refers q f (.batch hold hfresh hp hf)) (hp ▸ hne)
    · obtain ⟨hold, hne⟩ := mem_markStale hl hfresh
      exact hkept q f ((h.tidy i).refers q f (.sends hold hfresh hp hf)) (hp ▸ hne)
  · rintro q f ports ⟨⟩

/-! ## Every step -/

/-- `epoll_ctl` does not fail. -/
def Adds (s : Sockets) : SocketsEvent → Prop
  | .go i _ ok => (s.workers i).mutex.isBound = true → ok = true
  | _ => True

instance (s : Sockets) (e : SocketsEvent) : Decidable (s.Adds e) :=
  match e with
  | .go i _ ok => inferInstanceAs (Decidable ((s.workers i).mutex.isBound = true → ok = true))
  | .arrive .. | .openForeign _ | .closeForeign _ | .allocatePort _ | .releasePort .. | .harvest ..
  | .receive .. | .send .. | .transmit .. => isTrue trivial

theorem Owned.go (h : s.Owned) {ok : Bool} (hfree : s.fds fd = none)
    (hadds : Adds s (.go i fd ok)) :
    (s.go i fd ok).Owned := by
  unfold Sockets.go
  dsimp only
  split
  · exact h
  · exact h.settle .unlocked trivial (-1)
  · split
    · exact h.settle (.searching _) trivial _
    · next hp =>
      split
      · exact h.created hfree hp
      · exact h.settle (.searching _) trivial _
  · next hmutex =>
    split
    · have hbound := h.bound hmutex s.nextId
      exact ⟨hbound.tidy, hbound.own⟩
    · exact h.refused hmutex
  · next hmutex =>
    have hok : ok = true := hadds (by rw [hmutex]; rfl)
    rw [if_pos hok]
    refine h.setEpoll ((h.tidy i).refers _ _ (.bound hmutex)) ?_ ?_ ?_ ?_
    · rintro q ⟨⟩
      rfl
    · rintro q f ports ⟨⟩
    · rintro q f ports ⟨⟩
    · rintro q f ⟨⟩
  · next hmutex => exact h.released hmutex

/-- A datagram is put into a socket or taken out. -/
theorem Owned.queue (h : s.Owned) {socket : UdpSocket} (hfd : s.fds fd = some (.udp socket))
    (queue : List Datagram) : (s.setFd fd (.udp { socket with queue := queue })).Owned := by
  refine h.system ?_ fun _ _ _ hset => hset
  intro j f u hu hfits
  by_cases hf : f = fd
  · subst hf
    rw [Function.update_self]
    rw [hfd] at hfits
    cases u with
    | none => exact hfits
    | some q => exact hfits
  · rw [Function.update_of_ne hf]
    exact hfits

theorem Owned.recvfrom (h : s.Owned) (l : Lookup) (stray : Datagram) :
    (s.recvfrom l stray).Owned := by
  unfold Sockets.recvfrom
  split
  · exact h
  · exact h
  · exact ⟨h.tidy, h.own⟩
  · next socket hfd =>
    split
    · exact h
    · next datagram queue hqueue =>
      have hqueue := h.queue hfd queue
      exact ⟨hqueue.tidy, hqueue.own⟩

theorem socketAt_eq {socket : UdpSocket} (h : s.socketAt fd = some socket) :
    s.fds fd = some (.udp socket) := by
  unfold socketAt at h
  split at h
  · next socket' hfd =>
    cases h
    exact hfd
  · cases h

theorem Owned.arrive (h : s.Owned) (fd : Int) (datagram : Datagram) :
    (s.arrive fd datagram).Owned := by
  unfold Sockets.arrive
  split
  · exact h
  · next socket hsocket =>
    have hqueue := h.queue (socketAt_eq hsocket) (socket.queue ++ [datagram])
    exact ⟨hqueue.tidy, hqueue.own⟩

/-- Another part of the process opens or closes a descriptor. -/
theorem Owned.foreign (h : s.Owned) (hheld : ∀ i u, ¬ (s.workers i).Holds fd u)
    (d : Option Descriptor) {epoll : Nat → Int → Option Int}
    (hset : ∀ i f q, epoll i f = some q → s.epoll i f = some q) :
    Owned { s with fds := Function.update s.fds fd d, epoll := epoll } := by
  refine h.system ?_ hset
  intro j f u hu hfits
  have hne : f ≠ fd := by
    rintro rfl
    exact hheld j u hu
  rw [Function.update_of_ne hne]
  exact hfits

theorem Owned.harvest (h : s.Owned) (i : Nat) (fds : List Int) :
    (s.step (.harvest i fds)).Owned := by
  refine h.lookups ?_ fun l hl _ => Or.inl hl
  intro l hl _
  obtain ⟨fd, -, hfd⟩ := List.mem_filterMap.mp hl
  obtain ⟨port, hport, rfl⟩ := Option.map_eq_some_iff.mp hfd
  exact Or.inr ((h.tidy i).refers port fd (.registered hport))

theorem Owned.receive (h : s.Owned) (i : Nat) (stray : Datagram) : (s.receive i stray).Owned := by
  unfold Sockets.receive
  split
  · exact h
  · next l batch hbatch =>
    have hrest : (s.setWorker i { s.workers i with batch := batch }).Owned := by
      refine h.lookups ?_ fun l hl _ => Or.inl hl
      intro l' hl' _
      left
      rw [hbatch]
      exact List.mem_cons_of_mem _ hl'
    exact hrest.recvfrom l stray

theorem Owned.send (h : s.Owned) (i : Nat) (port : Int) : (s.send i port).Owned := by
  unfold Sockets.send
  split
  · exact h
  · next fd hentry =>
    refine h.lookups (fun l hl _ => Or.inl hl) ?_
    intro l hl _
    rcases List.mem_append.mp hl with hl | hl
    · exact Or.inl hl
    · rw [List.mem_singleton.mp hl]
      exact Or.inr hentry

theorem Owned.transmit (h : s.Owned) (i k : Nat) : (s.transmit i k).Owned := by
  unfold Sockets.transmit
  split
  · exact h
  · have hrest : (s.setWorker i { s.workers i with
        sends := (s.workers i).sends.eraseIdx k }).Owned :=
      h.lookups (fun l hl _ => Or.inl hl) fun l hl _ => Or.inl (List.mem_of_mem_eraseIdx hl)
    exact ⟨hrest.tidy, hrest.own⟩

theorem Owned.releasePort (h : s.Owned) (i : Nat) (port : Int) : (s.releasePort i port).Owned := by
  unfold Sockets.releasePort
  split
  · exact h
  · next fd hentry =>
    refine h.setEpoll hentry ?_ ?_ ?_ ?_
    · rintro q ⟨⟩
    · rintro q f ports ⟨⟩
    · rintro q f ports ⟨⟩
    · rintro q f ⟨⟩
      exact ⟨rfl, rfl⟩

theorem isForeign_eq {d : Option Descriptor} (h : isForeign d = true) : d = some .foreign := by
  unfold isForeign at h
  split at h
  · rfl
  · cases h

theorem Owned.step (h : s.Owned) {e : SocketsEvent} (hen : s.Can e) (hadds : s.Adds e) :
    (s.step e).Owned := by
  cases e with
  | arrive fd datagram => exact h.arrive fd datagram
  | openForeign fd =>
    exact h.foreign (h.not_holds (Option.isNone_iff_eq_none.mp hen)) _ fun _ _ _ hset => hset
  | closeForeign fd =>
    exact h.foreign (h.not_holds_foreign (isForeign_eq hen)) none
      fun _ _ _ hset => (update_none hset).2
  | allocatePort i => exact h.settle (.searching _) trivial _
  | releasePort i port => exact h.releasePort i port
  | go i fd ok => exact h.go (Option.isNone_iff_eq_none.mp hen) hadds
  | harvest i fds => exact h.harvest i fds
  | receive i stray => exact h.receive i stray
  | send i port => exact h.send i port
  | transmit i k => exact h.transmit i k

/-! ## What is read -/

/-- What was read from a socket. -/
def readsOf (s : Sockets) (id : Nat) : List Datagram :=
  (s.reads.filter fun r => r.1.socket.map UdpSocket.id = some id).map Prod.snd

/-- Every datagram is still in its socket or has been read from it. -/
structure Delivered (s : Sockets) : Prop where
  queued : ∀ fd socket, s.fds fd = some (.udp socket) →
    s.came socket.id = s.readsOf socket.id ++ socket.queue
  ids : ∀ fd fd' socket socket', s.fds fd = some (.udp socket) →
    s.fds fd' = some (.udp socket') → socket.id = socket'.id → fd = fd'
  below : ∀ fd socket, s.fds fd = some (.udp socket) → socket.id < s.nextId
  unborn : ∀ id, s.nextId ≤ id → s.came id = [] ∧ s.readsOf id = []
  inOrder : ∀ id, s.readsOf id <+: s.came id

/-- Sockets go, and nothing is read. -/
theorem Delivered.fewer (h : s.Delivered)
    (hfds : ∀ fd socket, s'.fds fd = some (.udp socket) → s.fds fd = some (.udp socket))
    (hcame : s'.came = s.came) (hreads : s'.readsOf = s.readsOf) (hnext : s'.nextId = s.nextId) :
    s'.Delivered := by
  constructor
  · intro fd socket hfd
    rw [hcame, hreads]
    exact h.queued fd socket (hfds fd socket hfd)
  · intro fd fd' socket socket' hfd hfd'
    exact h.ids fd fd' socket socket' (hfds _ _ hfd) (hfds _ _ hfd')
  · intro fd socket hfd
    rw [hnext]
    exact h.below fd socket (hfds fd socket hfd)
  · rw [hcame, hreads, hnext]
    exact h.unborn
  · rw [hcame, hreads]
    exact h.inOrder

/-- Nothing happens to sockets. -/
theorem Delivered.same (h : s.Delivered) (hfds : s'.fds = s.fds) (hcame : s'.came = s.came)
    (hreads : s'.readsOf = s.readsOf) (hnext : s'.nextId = s.nextId) : s'.Delivered := by
  refine h.fewer ?_ hcame hreads hnext
  intro f socket hf
  rwa [hfds] at hf

/-- A descriptor becomes something that is no socket. -/
theorem Delivered.drop (h : s.Delivered) (fd : Int) {d : Option Descriptor}
    (hd : ∀ socket, d ≠ some (.udp socket)) (hfds : s'.fds = Function.update s.fds fd d)
    (hcame : s'.came = s.came) (hreads : s'.readsOf = s.readsOf) (hnext : s'.nextId = s.nextId) :
    s'.Delivered := by
  refine h.fewer ?_ hcame hreads hnext
  intro f socket hf
  rw [hfds] at hf
  by_cases hfd : f = fd
  · rw [hfd, Function.update_self] at hf
    exact absurd hf (hd socket)
  · rw [Function.update_of_ne hfd] at hf
    exact hf

/-- A socket is bound. -/
theorem Delivered.bound (h : s.Delivered) (fd : Int) (hfds : s'.fds = Function.update s.fds fd
      (some (.udp { id := s.nextId, port := p })))
    (hcame : s'.came = s.came) (hreads : s'.readsOf = s.readsOf)
    (hnext : s'.nextId = s.nextId + 1) :
    s'.Delivered := by
  have hsocket : ∀ f socket, s'.fds f = some (.udp socket) →
      (f = fd ∧ socket = { id := s.nextId, port := p }) ∨ s.fds f = some (.udp socket) := by
    intro f socket hf
    rw [hfds] at hf
    by_cases hfd : f = fd
    · rw [hfd, Function.update_self] at hf
      cases hf
      exact Or.inl ⟨hfd, rfl⟩
    · rw [Function.update_of_ne hfd] at hf
      exact Or.inr hf
  constructor
  · intro f socket hf
    rw [hcame, hreads]
    rcases hsocket f socket hf with ⟨-, rfl⟩ | hold
    · obtain ⟨hnone, hread⟩ := h.unborn s.nextId le_rfl
      rw [hnone, hread]
      rfl
    · exact h.queued f socket hold
  · intro f f' socket socket' hf hf' hid
    rcases hsocket f socket hf with ⟨rfl, rfl⟩ | hold
    · rcases hsocket f' socket' hf' with ⟨rfl, -⟩ | hold'
      · rfl
      · exact absurd hid (Nat.ne_of_gt (h.below f' socket' hold'))
    · rcases hsocket f' socket' hf' with ⟨rfl, rfl⟩ | hold'
      · exact absurd hid (Nat.ne_of_lt (h.below f socket hold))
      · exact h.ids f f' socket socket' hold hold' hid
  · intro f socket hf
    rw [hnext]
    rcases hsocket f socket hf with ⟨-, rfl⟩ | hold
    · exact Nat.lt_succ_self _
    · exact Nat.lt_succ_of_lt (h.below f socket hold)
  · intro id hid
    rw [hcame, hreads]
    exact h.unborn id (by omega)
  · rw [hcame, hreads]
    exact h.inOrder

/-- One socket has another queue, and what came and what was read agree with that. -/
theorem Delivered.queue (h : s.Delivered) {socket : UdpSocket} {queue : List Datagram}
    (hfd : s.fds fd = some (.udp socket))
    (hfds : s'.fds = Function.update s.fds fd (some (.udp { socket with queue := queue })))
    (hcame : ∀ id, id ≠ socket.id → s'.came id = s.came id)
    (hreads : ∀ id, id ≠ socket.id → s'.readsOf id = s.readsOf id)
    (hqueue : s'.came socket.id = s'.readsOf socket.id ++ queue)
    (hnext : s'.nextId = s.nextId) : s'.Delivered := by
  have hsocket : ∀ f other, s'.fds f = some (.udp other) →
      (f = fd ∧ other = { socket with queue := queue }) ∨
        (f ≠ fd ∧ s.fds f = some (.udp other)) := by
    intro f other hf
    rw [hfds] at hf
    by_cases hf' : f = fd
    · rw [hf', Function.update_self] at hf
      cases hf
      exact Or.inl ⟨hf', rfl⟩
    · rw [Function.update_of_ne hf'] at hf
      exact Or.inr ⟨hf', hf⟩
  have hother : ∀ f other, f ≠ fd → s.fds f = some (.udp other) → other.id ≠ socket.id :=
    fun f other hne hf hid => hne (h.ids f fd other socket hf hfd hid)
  constructor
  · intro f other hf
    rcases hsocket f other hf with ⟨-, rfl⟩ | ⟨hne, hold⟩
    · exact hqueue
    · have hid := hother f other hne hold
      rw [hcame _ hid, hreads _ hid]
      exact h.queued f other hold
  · intro f f' other other' hf hf' hid
    rcases hsocket f other hf with ⟨rfl, rfl⟩ | ⟨hne, hold⟩
    · rcases hsocket f' other' hf' with ⟨rfl, -⟩ | ⟨hne', hold'⟩
      · rfl
      · exact absurd hid.symm (hother f' other' hne' hold')
    · rcases hsocket f' other' hf' with ⟨rfl, rfl⟩ | ⟨-, hold'⟩
      · exact absurd hid (hother f other hne hold)
      · exact h.ids f f' other other' hold hold' hid
  · intro f other hf
    rw [hnext]
    rcases hsocket f other hf with ⟨-, rfl⟩ | ⟨-, hold⟩
    · exact h.below fd socket hfd
    · exact h.below f other hold
  · intro id hid
    rw [hnext] at hid
    have hne : id ≠ socket.id := (Nat.lt_of_lt_of_le (h.below fd socket hfd) hid).ne'
    rw [hcame id hne, hreads id hne]
    exact h.unborn id hid
  · intro id
    by_cases hid : id = socket.id
    · rw [hid, hqueue]
      exact List.prefix_append ..
    · rw [hcame id hid, hreads id hid]
      exact h.inOrder id

/-- One more datagram is read from the socket. -/
theorem readsOf_same (hreads : s'.reads = s.reads ++ [(r, datagram)]) {id : Nat}
    (hid : r.socket.map UdpSocket.id = some id) : s'.readsOf id = s.readsOf id ++ [datagram] := by
  unfold readsOf
  rw [hreads, List.filter_append, List.map_append, List.filter_cons_of_pos (by simpa using hid)]
  rfl

/-- One more datagram is read, but from elsewhere. -/
theorem readsOf_other (hreads : s'.reads = s.reads ++ [(r, datagram)]) {id : Nat}
    (hid : r.socket.map UdpSocket.id ≠ some id) : s'.readsOf id = s.readsOf id := by
  unfold readsOf
  rw [hreads, List.filter_append, List.map_append, List.filter_cons_of_neg (by simpa using hid)]
  exact List.append_nil _

theorem Delivered.recvfrom (h : s.Delivered) (l : Lookup) (stray : Datagram) :
    (s.recvfrom l stray).Delivered := by
  unfold Sockets.recvfrom
  split
  · exact h
  · exact h
  · refine h.fewer (fun _ _ hfd => hfd) rfl (funext fun id => ?_) rfl
    exact readsOf_other rfl nofun
  · next socket hfd =>
    split
    · exact h
    · next datagram queue hqueue =>
      refine h.queue hfd rfl (fun _ _ => rfl) ?_ ?_ rfl
      · intro id hid
        exact readsOf_other (r := { lookup := l, socket := some socket }) rfl
          fun he => hid (Option.some.inj he).symm
      · refine Eq.trans ?_ (congrArg (· ++ queue) (readsOf_same rfl rfl).symm)
        show s.came socket.id = s.readsOf socket.id ++ [datagram] ++ queue
        rw [h.queued l.fd socket hfd, hqueue, List.append_assoc]
        rfl

theorem Delivered.arrive (h : s.Delivered) (fd : Int) (datagram : Datagram) :
    (s.arrive fd datagram).Delivered := by
  unfold Sockets.arrive
  split
  · exact h
  · next socket hsocket =>
    have hfd := socketAt_eq hsocket
    refine h.queue hfd rfl ?_ (fun _ _ => rfl) ?_ rfl
    · exact fun id hid => Function.update_of_ne hid ..
    · show Function.update s.came socket.id _ socket.id = s.readsOf socket.id ++ _
      rw [Function.update_self, h.queued fd socket hfd, List.append_assoc]

theorem Delivered.go (h : s.Delivered) (i : Nat) (fd : Int) (ok : Bool) :
    (s.go i fd ok).Delivered := by
  unfold Sockets.go
  dsimp only
  split
  · exact h
  · exact h.same rfl rfl rfl rfl
  · split
    · exact h.same rfl rfl rfl rfl
    · split
      · exact h.drop fd (d := some .fresh) (by rintro _ ⟨⟩) rfl rfl rfl rfl
      · exact h.same rfl rfl rfl rfl
  · next p fd ports _ =>
    split
    · exact h.bound fd rfl rfl rfl rfl
    · exact h.drop fd (d := none) (by rintro _ ⟨⟩) rfl rfl rfl rfl
  · next p fd ports _ =>
    split
    · exact h.same rfl rfl rfl rfl
    · exact h.drop fd (d := none) (by rintro _ ⟨⟩) rfl rfl rfl rfl
  · next p fd _ => exact h.drop fd (d := none) (by rintro _ ⟨⟩) rfl rfl rfl rfl

theorem Delivered.step (h : s.Delivered) (e : SocketsEvent) : (s.step e).Delivered := by
  cases e with
  | arrive fd datagram => exact h.arrive fd datagram
  | openForeign fd => exact h.drop fd (d := some .foreign) (by rintro _ ⟨⟩) rfl rfl rfl rfl
  | closeForeign fd => exact h.drop fd (d := none) (by rintro _ ⟨⟩) rfl rfl rfl rfl
  | allocatePort i => exact h.same rfl rfl rfl rfl
  | releasePort i port =>
    show (s.releasePort i port).Delivered
    unfold Sockets.releasePort
    split <;> exact h.same rfl rfl rfl rfl
  | go i fd ok => exact h.go i fd ok
  | harvest i fds => exact h.same rfl rfl rfl rfl
  | receive i stray =>
    show (s.receive i stray).Delivered
    unfold Sockets.receive
    split
    · exact h
    · next l batch _ =>
      have hrest : (s.setWorker i { s.workers i with batch := batch }).Delivered :=
        h.same rfl rfl rfl rfl
      exact hrest.recvfrom l stray
  | send i port =>
    show (s.send i port).Delivered
    unfold Sockets.send
    split <;> exact h.same rfl rfl rfl rfl
  | transmit i k =>
    show (s.transmit i k).Delivered
    unfold Sockets.transmit
    split <;> exact h.same rfl rfl rfl rfl

/-! ## What is reached -/

/-- The socket is that of the port, unless the port was released since. -/
def Attributed (r : Reached) : Prop :=
  r.lookup.stale = false → ∃ socket, r.socket = some socket ∧ socket.port = r.lookup.port

theorem Owned.attributed (h : s.Owned) {l : Lookup}
    (hl : l ∈ (s.workers i).batch ∨ l ∈ (s.workers i).sends) (hfresh : l.stale = false) :
    ∃ socket, s.fds l.fd = some (.udp socket) ∧ socket.port = l.port := by
  refine h.entry_fits ((h.tidy i).refers l.port l.fd ?_)
  rcases hl with hl | hl
  · exact .batch hl hfresh rfl rfl
  · exact .sends hl hfresh rfl rfl

theorem Owned.receive_attributed (h : s.Owned) (hreads : ∀ r ∈ s.reads, Attributed r.1) (i : Nat)
    (stray : Datagram) : ∀ r ∈ (s.receive i stray).reads, Attributed r.1 := by
  unfold Sockets.receive
  split
  · exact hreads
  · next l batch hbatch =>
    have hl : l.stale = false → ∃ socket, s.fds l.fd = some (.udp socket) ∧ socket.port = l.port :=
      h.attributed (Or.inl (by rw [hbatch]; exact List.mem_cons_self))
    have hmore : ∀ (x : Option UdpSocket) (datagram : Datagram),
        Attributed { lookup := l, socket := x } →
        ∀ r ∈ s.reads ++ [({ lookup := l, socket := x }, datagram)], Attributed r.1 := by
      intro x datagram hx r hr
      rcases List.mem_append.mp hr with hr | hr
      · exact hreads r hr
      · rw [List.mem_singleton.mp hr]
        exact hx
    unfold Sockets.recvfrom
    split
    · exact hreads
    · exact hreads
    · next hfd =>
      refine hmore none stray fun hfresh => ?_
      obtain ⟨socket, hsocket, -⟩ := hl hfresh
      cases hsocket.symm.trans hfd
    · next socket hfd =>
      split
      · exact hreads
      · next datagram queue _ =>
        refine hmore (some socket) datagram fun hfresh => ?_
        obtain ⟨socket', hsocket, hport⟩ := hl hfresh
        cases hsocket.symm.trans hfd
        exact ⟨socket, rfl, hport⟩

theorem Owned.transmit_attributed (h : s.Owned) (hsent : ∀ r ∈ s.transmitted, Attributed r)
    (i k : Nat) : ∀ r ∈ (s.transmit i k).transmitted, Attributed r := by
  unfold Sockets.transmit
  split
  · exact hsent
  · next l hl =>
    intro r hr
    rcases List.mem_append.mp hr with hr | hr
    · exact hsent r hr
    · rw [List.mem_singleton.mp hr]
      intro hfresh
      obtain ⟨socket, hsocket, hport⟩ :=
        h.attributed (Or.inr (List.mem_of_getElem? hl)) hfresh
      refine ⟨socket, ?_, hport⟩
      show s.socketAt l.fd = some socket
      unfold socketAt
      rw [hsocket]

/-- The thread with the mutex reads and sends nothing. -/
theorem go_ledgers (s : Sockets) (i : Nat) (fd : Int) (ok : Bool) :
    (s.go i fd ok).reads = s.reads ∧ (s.go i fd ok).transmitted = s.transmitted := by
  unfold Sockets.go
  dsimp only
  split
  · exact ⟨rfl, rfl⟩
  · exact ⟨rfl, rfl⟩
  · split
    · exact ⟨rfl, rfl⟩
    · split <;> exact ⟨rfl, rfl⟩
  · split <;> exact ⟨rfl, rfl⟩
  · split <;> exact ⟨rfl, rfl⟩
  · exact ⟨rfl, rfl⟩

theorem step_reads {e : SocketsEvent} (h : ∀ i stray, e ≠ .receive i stray) :
    (s.step e).reads = s.reads := by
  cases e with
  | receive i stray => exact absurd rfl (h i stray)
  | go i fd ok => exact (s.go_ledgers i fd ok).1
  | arrive fd datagram =>
    show (s.arrive fd datagram).reads = _
    unfold Sockets.arrive
    split <;> rfl
  | releasePort i port =>
    show (s.releasePort i port).reads = _
    unfold Sockets.releasePort
    split <;> rfl
  | send i port =>
    show (s.send i port).reads = _
    unfold Sockets.send
    split <;> rfl
  | transmit i k =>
    show (s.transmit i k).reads = _
    unfold Sockets.transmit
    split <;> rfl
  | openForeign fd | closeForeign fd | allocatePort i | harvest i fds => rfl

theorem step_transmitted {e : SocketsEvent} (h : ∀ i k, e ≠ .transmit i k) :
    (s.step e).transmitted = s.transmitted := by
  cases e with
  | transmit i k => exact absurd rfl (h i k)
  | go i fd ok => exact (s.go_ledgers i fd ok).2
  | arrive fd datagram =>
    show (s.arrive fd datagram).transmitted = _
    unfold Sockets.arrive
    split <;> rfl
  | releasePort i port =>
    show (s.releasePort i port).transmitted = _
    unfold Sockets.releasePort
    split <;> rfl
  | send i port =>
    show (s.send i port).transmitted = _
    unfold Sockets.send
    split <;> rfl
  | receive i stray =>
    show (s.receive i stray).transmitted = _
    unfold Sockets.receive
    split
    · rfl
    · unfold Sockets.recvfrom
      split
      · rfl
      · rfl
      · rfl
      · split <;> rfl
  | openForeign fd | closeForeign fd | allocatePort i | harvest i fds => rfl

/-- What holds of every run in which `epoll_ctl` does not fail. -/
structure Sound (s : Sockets) : Prop where
  owned : s.Owned
  delivered : s.Delivered
  reads : ∀ r ∈ s.reads, Attributed r.1
  transmitted : ∀ r ∈ s.transmitted, Attributed r

theorem sound_start (candidates : Nat → List Int) (others : Int → Bool) :
    Sound { workers := fun i => { candidates := candidates i }
            fds := fun fd => if others fd then some .foreign else none } := by
  have hnone : ∀ i fd u, ¬ Holds { candidates := candidates i } fd u := by
    rintro i fd u (hentry | ⟨⟨⟩⟩)
    rw [Std.ExtTreeMap.getElem?_empty] at hentry
    cases hentry
  have hudp : ∀ (fd : Int) (socket : UdpSocket),
      (if others fd then some Descriptor.foreign else none) ≠ some (.udp socket) := by
    intro fd socket
    split <;> rintro ⟨⟩
  constructor
  · constructor
    · refine fun i => ⟨fun fd u hu => absurd hu (hnone i fd u), ?_, ?_⟩
      · rintro p fd (⟨⟨⟩⟩ | ⟨⟨⟩⟩ | ⟨⟨⟩⟩ | ⟨⟨⟩⟩ | ⟨⟨⟩⟩)
      · rintro p fd ports ⟨⟩
    · exact fun i j fd u v hu => absurd hu (hnone i fd u)
  · constructor
    · exact fun fd socket hfd => absurd hfd (hudp fd socket)
    · exact fun fd fd' socket socket' hfd => absurd hfd (hudp fd socket)
    · exact fun fd socket hfd => absurd hfd (hudp fd socket)
    · exact fun id _ => ⟨rfl, rfl⟩
    · exact fun id => List.nil_prefix
  · rintro r ⟨⟩
  · rintro r ⟨⟩

theorem Sound.step (h : s.Sound) {e : SocketsEvent} (hen : s.Can e) (hadds : s.Adds e) :
    (s.step e).Sound := by
  refine ⟨h.owned.step hen hadds, h.delivered.step e, ?_, ?_⟩
  · by_cases hreceive : ∃ i stray, e = .receive i stray
    · obtain ⟨i, stray, rfl⟩ := hreceive
      exact h.owned.receive_attributed h.reads i stray
    · rw [step_reads fun i stray he => hreceive ⟨i, stray, he⟩]
      exact h.reads
  · by_cases htransmit : ∃ i k, e = .transmit i k
    · obtain ⟨i, k, rfl⟩ := htransmit
      exact h.owned.transmit_attributed h.transmitted i k
    · rw [step_transmitted fun i k he => htransmit ⟨i, k, he⟩]
      exact h.transmitted

theorem sound_of_reach (hs : machine.Reach Adds s) : s.Sound := by
  refine hs.invariant ?_ ?_
  · rintro s ⟨candidates, others, rfl⟩
    exact sound_start candidates others
  · rintro s e s' _ h hen hadds ⟨⟩
    exact h.step hen hadds

/--
**Datagrams and their ports.** Unless `epoll_ctl` fails, and whatever the order in which the
workers' threads and those that open, close and use ports take their steps: what a worker reads for
a port was sent to this port and what is sent through a port leaves from its socket, unless the
port was released since the descriptor was looked up. From every socket the datagrams are read in
the order they came in, each once, and the rest is still in it.
-/
theorem datagrams_attributed (hs : machine.Reach Adds s) :
    (∀ r ∈ s.reads, Attributed r.1) ∧ (∀ r ∈ s.transmitted, Attributed r) ∧
    (∀ id, s.readsOf id <+: s.came id) ∧
    ∀ fd socket, s.fds fd = some (.udp socket) →
      s.came socket.id = s.readsOf socket.id ++ socket.queue := by
  have h := sound_of_reach hs
  exact ⟨h.reads, h.transmitted, h.delivered.inOrder, h.delivered.queued⟩

/-- Worker 0 has seen that there are datagrams for port 20000 and reads one; then the port is
released, and worker 1 gets its descriptor for port 20010. -/
def exampleReused : List SocketsEvent :=
  [.allocatePort 0, .go 0 3 true, .go 0 9 true, .go 0 9 true,
    .arrive 3 ([1], {}), .harvest 0 [3], .receive 0 ([], {}), .arrive 3 ([2], {}), .harvest 0 [3],
    .releasePort 0 20000, .go 0 9 true,
    .allocatePort 1, .go 1 3 true, .go 1 9 true, .go 1 9 true,
    .arrive 3 ([3], {}), .receive 0 ([], {})]

/-- What worker 0 reads then is not what was sent to port 20000. -/
theorem datagrams_attributed_reused :
    ∃ s, machine.Reach Adds s ∧
      s.reads.map (fun r => (r.2.1, r.1.lookup.port, r.1.lookup.stale,
        r.1.socket.map UdpSocket.port)) =
        [([1], 20000, false, some 20000), ([3], 20000, true, some 20010)] ∧
      (∀ r ∈ s.reads, Attributed r.1) ∧ s.readsOf 0 <+: s.came 0 := by
  let start : Sockets :=
    { workers := fun i => { candidates := if i = 0 then [20000] else [20010] }
      fds := fun fd => if decide (fd < 3 ∧ 0 ≤ fd) then some .foreign else none }
  have hinit : machine.init start :=
    ⟨fun i => if i = 0 then [20000] else [20010], fun fd => decide (fd < 3 ∧ 0 ≤ fd), rfl⟩
  let report : Sockets → List (Bytes × Int × Bool × Option Int) := fun s => s.reads.map fun r =>
    (r.2.1, r.1.lookup.port, r.1.lookup.stale, r.1.socket.map UdpSocket.port)
  have hrun : ((machine.restrict Adds).replay start exampleReused).any (fun s => report s =
      [([1], 20000, false, some 20000), ([3], 20000, true, some 20010)]) = true := by
    decide +kernel
  obtain ⟨s, hs, hreads⟩ := Machine.exists_reach Adds hinit hrun
  have h := datagrams_attributed hs
  exact ⟨s, hs, of_decide_eq_true hreads, h.1, h.2.2.1 0⟩

end Sockets

end SipGateway
