import SipGateway.Infra.Tables
import SipGateway.Util.Net

/-!
# RTP workers

`RtpWorker.cpp`, without the thread: a worker owns a range of ports and the table of the
sockets it has open.

A port whose `epoll_ctl` fails keeps its entry in `activeSockets_`. `opens` and `stale` say what
`allocatePort` opens and what it leaves so, in terms of what the system answers.
-/

namespace SipGateway

open Infra

/--
`class RtpWorker`.

`sockets` and `epoll` are what the worker has left with the operating system: descriptors it
opened and has not closed, and descriptors registered with its `epollFd_`.
-/
structure RtpWorker where
  workerId : Nat
  startPort : Int
  endPort : Int
  activeSockets : Std.ExtTreeMap Int Int := ∅
  sockets : List Int := []
  epoll : List Int := []

namespace RtpWorker

/-- The ports of `for (int p = startPort_; p <= endPort_; p += 2)`. -/
def candidates (w : RtpWorker) : List Int :=
  (List.range ((w.endPort - w.startPort) / 2 + 1).toNat).map fun (i : Nat) =>
    w.startPort + 2 * (i : Int)

/-- `Net::closeSocket`; closing a descriptor also takes it out of the epoll set. -/
def closeSocket (w : RtpWorker) (fd : Int) : RtpWorker :=
  { w with sockets := w.sockets.filter (· ≠ fd), epoll := w.epoll.filter (· ≠ fd) }

/-- The loop of `allocatePort`. -/
def allocateLoop (net : Int → SocketAttempt) : List Int → RtpWorker → RtpWorker × Int
  | [], w => (w, -1)
  | p :: ps, w =>
    if p ∈ w.activeSockets then allocateLoop net ps w
    else if (net p).fd ≥ 0 then
      let w := { w with sockets := (net p).fd :: w.sockets }
      if (net p).bound then
        let w := { w with activeSockets := w.activeSockets.insert p (net p).fd }
        if (net p).added then ({ w with epoll := (net p).fd :: w.epoll }, p)
        -- the entry of `activeSockets` stays
        else allocateLoop net ps (w.closeSocket (net p).fd)
      else allocateLoop net ps (w.closeSocket (net p).fd)
    else allocateLoop net ps w

/-- `RtpWorker::allocatePort`: the port, or `-1`. -/
def allocatePort (w : RtpWorker) (net : Int → SocketAttempt) : RtpWorker × Int :=
  allocateLoop net w.candidates w

/-- `RtpWorker::releasePort`. -/
def releasePort (w : RtpWorker) (port : Int) : RtpWorker :=
  match w.activeSockets[port]? with
  | some fd => { w.closeSocket fd with activeSockets := w.activeSockets.erase port }
  | none => w

/-- Whether the range of the worker contains the port. -/
def inRange (w : RtpWorker) (port : Int) : Bool := w.startPort ≤ port && port ≤ w.endPort

/-! ## What the loop finds -/

/-- The candidates that are not taken, in the order they are tried. -/
def free (w : RtpWorker) : List Int := w.candidates.filter (· ∉ w.activeSockets)

/-- The port the search opens: the first free one for which every call succeeds. -/
def opens (w : RtpWorker) (net : Int → SocketAttempt) : Option Int :=
  w.free.find? fun p => (net p).Ok

/-- The ports the search binds and gives up, their entries staying: their `epoll_ctl` failed. -/
def stale (w : RtpWorker) (net : Int → SocketAttempt) : List Int :=
  (w.free.takeWhile fun p => ¬ (net p).Ok).filter fun p => 0 ≤ (net p).fd ∧ (net p).bound = true

theorem mem_candidates {w : RtpWorker} {p : Int} (h : p ∈ w.candidates) :
    w.startPort ≤ p ∧ p ≤ w.endPort := by
  obtain ⟨i, hi, rfl⟩ := List.mem_map.mp h
  have := List.mem_range.mp hi
  omega

theorem nodup_candidates (w : RtpWorker) : w.candidates.Nodup := by
  unfold candidates
  refine List.Nodup.map ?_ List.nodup_range
  intro i j hij
  dsimp only at hij
  omega

theorem inRange_of_mem_candidates {w : RtpWorker} {p : Int} (h : p ∈ w.candidates) :
    w.inRange p = true := by
  have := mem_candidates h
  simpa [inRange] using this

/-- A free port lies in the range and is not taken. -/
theorem mem_free {w : RtpWorker} {p : Int} (h : p ∈ w.free) :
    w.inRange p = true ∧ p ∉ w.activeSockets := by
  obtain ⟨hc, hp⟩ := List.mem_filter.mp h
  exact ⟨inRange_of_mem_candidates hc, by simpa using hp⟩

theorem opens_some {w : RtpWorker} {net : Int → SocketAttempt} {p : Int}
    (h : w.opens net = some p) : p ∈ w.free ∧ (net p).Ok :=
  ⟨List.mem_of_find?_eq_some h, by simpa using List.find?_some h⟩

theorem mem_stale {w : RtpWorker} {net : Int → SocketAttempt} {p : Int}
    (h : p ∈ w.stale net) : p ∈ w.free ∧ ¬ (net p).Ok := by
  have hp := (List.mem_filter.mp h).1
  exact ⟨(List.takeWhile_sublist _).mem hp, by simpa using List.mem_takeWhile_imp hp⟩

/-- What a run of the loop over `ps` leads to. -/
structure Searched (net : Int → SocketAttempt) (ps : List Int) (w : RtpWorker)
    (r : RtpWorker × Int) : Prop where
  result : r.2 = ((ps.filter (· ∉ w.activeSockets)).find? fun p => (net p).Ok).getD (-1)
  startPort : r.1.startPort = w.startPort
  endPort : r.1.endPort = w.endPort
  active : ∀ q, q ∈ r.1.activeSockets ↔ q ∈ w.activeSockets ∨
    q ∈ ((ps.filter (· ∉ w.activeSockets)).takeWhile fun p => ¬ (net p).Ok).filter
      (fun p => 0 ≤ (net p).fd ∧ (net p).bound = true) ∨
    ((ps.filter (· ∉ w.activeSockets)).find? fun p => (net p).Ok) = some q

section Searched

variable {net : Int → SocketAttempt} {p : Int} {ps : List Int} {w w' : RtpWorker}
  {r : RtpWorker × Int}

/-- A port that is taken is passed over. -/
theorem Searched.taken (h : Searched net ps w r) (hact : p ∈ w.activeSockets) :
    Searched net (p :: ps) w r := by
  have hfilter : (p :: ps).filter (· ∉ w.activeSockets) = ps.filter (· ∉ w.activeSockets) := by
    simp [hact]
  refine ⟨?_, h.startPort, h.endPort, ?_⟩
  · rw [hfilter]
    exact h.result
  · rw [hfilter]
    exact h.active

/-- A free port for which every call succeeds is the one that is found. -/
theorem Searched.opened (hact : p ∉ w.activeSockets) (hok : (net p).Ok) {sockets epoll : List Int} :
    Searched net (p :: ps) w
      ({ w with sockets := sockets, activeSockets := w.activeSockets.insert p (net p).fd,
                epoll := epoll }, p) := by
  have hfilter : (p :: ps).filter (· ∉ w.activeSockets)
      = p :: ps.filter (· ∉ w.activeSockets) := by simp [hact]
  refine ⟨?_, rfl, rfl, ?_⟩
  · rw [hfilter]
    simp [hok]
  · intro q
    rw [hfilter, mem_insert_key]
    simp only [hok, List.takeWhile_cons, List.find?_cons, List.filter_nil, decide_true,
      decide_false, not_true_eq_false, Bool.false_eq_true, if_false, List.not_mem_nil,
      false_or, Option.some.injEq]
    rw [or_comm, eq_comm (a := q)]

/-- Only `epoll_ctl` fails: the entry stays, and no later candidate is this one. -/
theorem Searched.stale (hact : p ∉ w.activeSockets) (hok : ¬ (net p).Ok) (hfd : 0 ≤ (net p).fd)
    (hbound : (net p).bound = true) (hp : p ∉ ps)
    (hw' : w' = RtpWorker.closeSocket
      { w with sockets := (net p).fd :: w.sockets
               activeSockets := w.activeSockets.insert p (net p).fd } (net p).fd)
    (h : Searched net ps w' r) : Searched net (p :: ps) w r := by
  have hfilter : (p :: ps).filter (· ∉ w.activeSockets)
      = p :: ps.filter (· ∉ w.activeSockets) := by simp [hact]
  have hactive : w'.activeSockets = w.activeSockets.insert p (net p).fd := by rw [hw']; rfl
  have hsame : ps.filter (· ∉ w'.activeSockets) = ps.filter (· ∉ w.activeSockets) := by
    refine List.filter_congr fun x hx => ?_
    have hne : x ≠ p := fun he => hp (he ▸ hx)
    simp only [hactive, mem_insert_key, hne, false_or]
  refine ⟨?_, h.startPort.trans (by rw [hw']; rfl), h.endPort.trans (by rw [hw']; rfl), ?_⟩
  · rw [h.result, hsame, hfilter]
    simp [hok]
  · intro q
    rw [h.active, hsame, hactive, mem_insert_key, hfilter]
    simp only [hok, hfd, hbound, List.takeWhile_cons, List.find?_cons, List.filter_cons,
      List.mem_cons, decide_true, decide_false, not_false_eq_true, and_self, if_true]
    tauto

/-- No socket, or none that could be bound: the table is as before. -/
theorem Searched.skipped (hact : p ∉ w.activeSockets) (hok : ¬ (net p).Ok)
    (hbind : ¬ (0 ≤ (net p).fd ∧ (net p).bound = true)) (hstart : w'.startPort = w.startPort)
    (hend : w'.endPort = w.endPort) (hactive : w'.activeSockets = w.activeSockets)
    (h : Searched net ps w' r) : Searched net (p :: ps) w r := by
  have hfilter : (p :: ps).filter (· ∉ w.activeSockets)
      = p :: ps.filter (· ∉ w.activeSockets) := by simp [hact]
  refine ⟨?_, h.startPort.trans hstart, h.endPort.trans hend, ?_⟩
  · rw [h.result, hactive, hfilter]
    simp [hok]
  · intro q
    rw [h.active, hactive, hfilter]
    simp only [hok, hbind, List.takeWhile_cons, List.find?_cons, List.filter_cons,
      decide_true, decide_false, not_false_eq_true, if_true, if_false, Bool.false_eq_true]

end Searched

theorem allocateLoop_searched (net : Int → SocketAttempt) (ps : List Int) (w : RtpWorker)
    (hnd : ps.Nodup) : Searched net ps w (allocateLoop net ps w) := by
  induction ps generalizing w with
  | nil => exact ⟨rfl, rfl, rfl, fun q => by simp [allocateLoop]⟩
  | cons p ps ih =>
    obtain ⟨hp, hnd⟩ := List.nodup_cons.mp hnd
    rw [allocateLoop]
    -- one case for every way out of the round
    by_cases hact : p ∈ w.activeSockets
    · rw [if_pos hact]
      exact (ih w hnd).taken hact
    · rw [if_neg hact]
      by_cases hfd : 0 ≤ (net p).fd
      · rw [if_pos hfd]
        dsimp only
        by_cases hbound : (net p).bound = true
        · rw [if_pos hbound]
          by_cases hadded : (net p).added = true
          · rw [if_pos hadded]
            exact Searched.opened hact ⟨hfd, hbound, hadded⟩
          · rw [if_neg hadded]
            exact Searched.stale hact (fun hok => hadded hok.2.2) hfd hbound hp rfl (ih _ hnd)
        · rw [if_neg hbound]
          refine Searched.skipped hact (fun hok => hbound hok.2.1) (fun hb => hbound hb.2)
            ?_ ?_ ?_ (ih _ hnd)
          all_goals rfl
      · rw [if_neg hfd]
        exact Searched.skipped hact (fun hok => hfd hok.1) (fun hb => hfd hb.1)
          rfl rfl rfl (ih w hnd)

/-- **`allocatePort` opens `opens` and leaves `stale` behind.** -/
theorem allocatePort_searched (w : RtpWorker) (net : Int → SocketAttempt) :
    (w.allocatePort net).2 = (w.opens net).getD (-1) ∧
    (w.allocatePort net).1.startPort = w.startPort ∧
    (w.allocatePort net).1.endPort = w.endPort ∧
    ∀ q, q ∈ (w.allocatePort net).1.activeSockets ↔
      q ∈ w.activeSockets ∨ q ∈ w.stale net ∨ w.opens net = some q := by
  have h := allocateLoop_searched net w.candidates w w.nodup_candidates
  exact ⟨h.result, h.startPort, h.endPort, h.active⟩

/-! ## Closing a port -/

@[simp] theorem releasePort_startPort (w : RtpWorker) (port : Int) :
    (w.releasePort port).startPort = w.startPort := by
  unfold releasePort
  split <;> rfl

@[simp] theorem releasePort_endPort (w : RtpWorker) (port : Int) :
    (w.releasePort port).endPort = w.endPort := by
  unfold releasePort
  split <;> rfl

theorem mem_releasePort {w : RtpWorker} {port p : Int} :
    p ∈ (w.releasePort port).activeSockets ↔ p ≠ port ∧ p ∈ w.activeSockets := by
  unfold releasePort
  split
  · exact mem_erase_key _ _ _
  · next hnone =>
    have hport := (not_mem_iff_getElem?_none _ _).mpr hnone
    exact ⟨fun hm => ⟨fun he => hport (he ▸ hm), hm⟩, fun h => h.2⟩

end RtpWorker

end SipGateway
