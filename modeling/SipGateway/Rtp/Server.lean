import SipGateway.Rtp.Worker

/-!
# The RTP port pool

`RtpServer.cpp`: the server hands out ports round robin and finds the worker of a port by its
range.

`finds` is the port `allocatePort` returns and `leaves` the ports it leaves open besides, both
computed from the pool and what the system answers, without the loop.
-/

namespace SipGateway

open Infra

/-- `class RtpServer`. -/
structure RtpServer where
  workers : List RtpWorker := []
  nextWorker : Nat := 0

namespace RtpServer

/-- The worker `init` makes in round `i` of `n`. -/
def initWorker (startPort endPort : Int) (n i : Nat) : RtpWorker :=
  let portsPerWorker := (endPort - startPort + 1).tdiv n
  let wStart := startPort + i * portsPerWorker
  let wEnd := wStart + portsPerWorker - 1
  { workerId := i
    startPort := if wStart % 2 ≠ 0 then wStart + 1 else wStart
    endPort := if i = n - 1 then endPort else wEnd }

/-- The number of threads `init` settles on. -/
def resolveThreads (threadCount : Int) (hardwareConcurrency : Nat) : Nat :=
  if threadCount ≤ 0 then (if hardwareConcurrency = 0 then 4 else hardwareConcurrency)
  else threadCount.toNat

/-- `RtpServer::init`. -/
def init (startPort endPort threadCount : Int) (hardwareConcurrency : Nat) : RtpServer :=
  let n := resolveThreads threadCount hardwareConcurrency
  { workers := (List.range n).map (initWorker startPort endPort n) }

/--
The `do .. while` of `allocatePort`.

Every round moves `nextWorker_` on by one, so as many rounds as there are workers reach
`startWorker` again.
-/
def allocateLoop (net : Int → SocketAttempt) (startWorker : Nat) :
    Nat → RtpServer → RtpServer × Int
  | 0, srv => (srv, -1)
  | rounds + 1, srv =>
    match srv.workers[srv.nextWorker]? with
    | none => (srv, -1)
    | some w =>
      let r := w.allocatePort net
      let srv' : RtpServer :=
        { workers := srv.workers.set srv.nextWorker r.1
          nextWorker := (srv.nextWorker + 1) % srv.workers.length }
      if r.2 > 0 then (srv', r.2)
      else if srv'.nextWorker = startWorker then (srv', -1)
      else allocateLoop net startWorker rounds srv'

/-- `RtpServer::allocatePort`: the port, or `-1`. -/
def allocatePort (srv : RtpServer) (net : Int → SocketAttempt) : RtpServer × Int :=
  allocateLoop net srv.nextWorker srv.workers.length srv

/-- Applies `f` to the first worker whose range contains the port. -/
def onWorker (port : Int) (f : RtpWorker → RtpWorker) : List RtpWorker → List RtpWorker
  | [] => []
  | w :: ws => if w.inRange port then f w :: ws else w :: onWorker port f ws

/-- `RtpServer::releasePort`. -/
def releasePort (srv : RtpServer) (port : Int) : RtpServer :=
  { srv with workers := onWorker port (·.releasePort port) srv.workers }

/-- `RtpServer::send`: the descriptor the packet leaves through. -/
def send (srv : RtpServer) (localPort : Int) : Option Int :=
  match srv.workers.find? fun w => w.inRange localPort with
  | some w => w.activeSockets[localPort]?
  | none => none

/-- Whether some worker holds the port open. -/
def IsOpen (srv : RtpServer) (port : Int) : Prop := ∃ w ∈ srv.workers, port ∈ w.activeSockets

instance (srv : RtpServer) (port : Int) : Decidable (srv.IsOpen port) :=
  inferInstanceAs (Decidable (∃ w ∈ srv.workers, port ∈ w.activeSockets))

/-! ## What the search finds -/

/-- The port the workers of a list, asked in order, come up with. -/
def search (net : Int → SocketAttempt) : List RtpWorker → Option Int
  | [] => none
  | w :: ws =>
    match w.opens net with
    | some p => if 0 < p then some p else search net ws
    | none => search net ws

/-- The ports they leave open besides: those given up, and those that are not positive. -/
def leftBehind (net : Int → SocketAttempt) : List RtpWorker → List Int
  | [] => []
  | w :: ws =>
    w.stale net ++ match w.opens net with
      | some p => if 0 < p then [] else p :: leftBehind net ws
      | none => leftBehind net ws

/-- The workers in the order the round robin asks them. -/
def asked (srv : RtpServer) : List RtpWorker := srv.workers.rotate srv.nextWorker

/-- The port `allocatePort` returns. -/
def finds (srv : RtpServer) (net : Int → SocketAttempt) : Option Int := search net srv.asked

/-- The ports `allocatePort` opens without returning them. -/
def leaves (srv : RtpServer) (net : Int → SocketAttempt) : List Int := leftBehind net srv.asked

theorem search_some {net : Int → SocketAttempt} {p : Int} {ws : List RtpWorker}
    (h : search net ws = some p) : 0 < p ∧ (net p).Ok ∧ ∃ w ∈ ws, p ∈ w.free := by
  induction ws with
  | nil => cases h
  | cons w ws ih =>
    have hlater : search net ws = some p → 0 < p ∧ (net p).Ok ∧ ∃ x ∈ w :: ws, p ∈ x.free := by
      intro h
      obtain ⟨hpos, hok, x, hx, hf⟩ := ih h
      exact ⟨hpos, hok, x, List.mem_cons_of_mem _ hx, hf⟩
    rw [search] at h
    split at h
    · next q hq =>
      split at h
      · next hpos =>
        cases h
        obtain ⟨hf, hok⟩ := RtpWorker.opens_some hq
        exact ⟨hpos, hok, w, List.mem_cons_self, hf⟩
      · exact hlater h
    · exact hlater h

theorem mem_leftBehind {net : Int → SocketAttempt} {p : Int} {ws : List RtpWorker}
    (h : p ∈ leftBehind net ws) : (¬ (net p).Ok ∨ p ≤ 0) ∧ ∃ w ∈ ws, p ∈ w.free := by
  induction ws with
  | nil => cases h
  | cons w ws ih =>
    have hlater : p ∈ leftBehind net ws → (¬ (net p).Ok ∨ p ≤ 0) ∧ ∃ x ∈ w :: ws, p ∈ x.free := by
      intro h
      obtain ⟨hbad, x, hx, hf⟩ := ih h
      exact ⟨hbad, x, List.mem_cons_of_mem _ hx, hf⟩
    rw [leftBehind] at h
    rcases List.mem_append.mp h with h | h
    · obtain ⟨hf, hok⟩ := RtpWorker.mem_stale h
      exact ⟨Or.inl hok, w, List.mem_cons_self, hf⟩
    · split at h
      · next q hq =>
        split at h
        · cases h
        · next hpos =>
          rcases List.mem_cons.mp h with rfl | h
          · exact ⟨Or.inr (by omega), w, List.mem_cons_self, (RtpWorker.opens_some hq).1⟩
          · exact hlater h
      · exact hlater h

/-! ## What every operation keeps -/

/-- The ranges of the workers. No operation changes them. -/
def ranges (srv : RtpServer) : List (Int × Int) :=
  srv.workers.map fun w => (w.startPort, w.endPort)

/--
The invariant of the pool: ranges do not meet, a worker holds open only ports of its range, and
`nextWorker_` is an index.
-/
structure Sound (srv : RtpServer) : Prop where
  disjoint : srv.workers.Pairwise fun a b => ∀ p, ¬ (a.inRange p = true ∧ b.inRange p = true)
  own : ∀ w ∈ srv.workers, ∀ p ∈ w.activeSockets, w.inRange p = true
  next : srv.nextWorker < srv.workers.length

/-- At most one worker has a port in its range. -/
theorem Sound.unique {srv : RtpServer} (hs : srv.Sound) {w w' : RtpWorker}
    (hw : w ∈ srv.workers) (hw' : w' ∈ srv.workers) {p : Int} (hp : w.inRange p = true)
    (hp' : w'.inRange p = true) : w = w' := by
  by_contra hne
  have : Std.Symm fun a b : RtpWorker =>
      ∀ p, ¬ (a.inRange p = true ∧ b.inRange p = true) :=
    ⟨fun a b h q hq => h q hq.symm⟩
  exact hs.disjoint.forall hw hw' hne p ⟨hp, hp'⟩

/-- With the same ranges, the same ports are in a range. -/
theorem exists_inRange {srv srv' : RtpServer} (hr : srv'.ranges = srv.ranges) {w : RtpWorker}
    (hw : w ∈ srv'.workers) {p : Int} (hp : w.inRange p = true) :
    ∃ x ∈ srv.workers, x.inRange p = true := by
  have hmem : (w.startPort, w.endPort) ∈ srv.ranges := hr ▸ List.mem_map_of_mem hw
  obtain ⟨x, hx, he⟩ := List.mem_map.mp hmem
  simp only [Prod.mk.injEq] at he
  refine ⟨x, hx, ?_⟩
  unfold RtpWorker.inRange at hp ⊢
  rwa [he.1, he.2]

/-- Soundness of a server with the same ranges. -/
theorem Sound.of_ranges {srv srv' : RtpServer} (hs : srv.Sound) (hr : srv'.ranges = srv.ranges)
    (hown : ∀ w ∈ srv'.workers, ∀ p ∈ w.activeSockets, w.inRange p = true)
    (hnext : srv'.nextWorker < srv'.workers.length) : srv'.Sound where
  disjoint := by
    have h := hs.disjoint
    have hpair : ∀ ws : List RtpWorker,
        (ws.Pairwise fun a b => ∀ p, ¬ (a.inRange p = true ∧ b.inRange p = true)) ↔
        (ws.map fun w => (w.startPort, w.endPort)).Pairwise fun a b => ∀ p,
          ¬ ((decide (a.1 ≤ p) && decide (p ≤ a.2)) = true ∧
            (decide (b.1 ≤ p) && decide (p ≤ b.2)) = true) := by
      intro ws
      rw [List.pairwise_map]
      rfl
    rw [hpair] at h ⊢
    rw [show (srv'.workers.map fun w => (w.startPort, w.endPort)) = srv'.ranges from rfl, hr]
    exact h
  own := hown
  next := hnext

/-! ## Opening a port -/

/-- What the pool looks like after one of its workers got more ports. -/
theorem isOpen_set {ws : List RtpWorker} {i : Nat} {w w' : RtpWorker} {P : Int → Prop}
    (hi : ws[i]? = some w) (hw : ∀ p, p ∈ w'.activeSockets ↔ p ∈ w.activeSockets ∨ P p)
    (p : Int) :
    (∃ x ∈ ws.set i w', p ∈ x.activeSockets) ↔ (∃ x ∈ ws, p ∈ x.activeSockets) ∨ P p := by
  have hlt : i < ws.length := (List.getElem?_eq_some_iff.mp hi).1
  constructor
  · rintro ⟨x, hx, hp⟩
    rcases List.mem_or_eq_of_mem_set hx with hx | rfl
    · exact Or.inl ⟨x, hx, hp⟩
    · rcases (hw p).mp hp with hp | hp
      · exact Or.inl ⟨w, List.mem_of_getElem? hi, hp⟩
      · exact Or.inr hp
  · intro h
    -- a port of `w` is also one of `w'`, the others belong to workers that stay
    by_cases hpw : p ∈ w'.activeSockets
    · exact ⟨w', List.mem_set hlt w', hpw⟩
    · rcases h with ⟨x, hx, hp⟩ | hp
      · obtain ⟨j, hj⟩ := List.getElem?_of_mem hx
        have hij : i ≠ j := by
          intro he
          rw [he, hj] at hi
          exact hpw ((hw p).mpr (Or.inl (Option.some.inj hi ▸ hp)))
        refine ⟨x, List.mem_of_getElem? (i := j) ?_, hp⟩
        rw [List.getElem?_set_ne hij, hj]
      · exact absurd ((hw p).mpr (Or.inr hp)) hpw

theorem ranges_set {ws : List RtpWorker} {i : Nat} {w w' : RtpWorker} (hi : ws[i]? = some w)
    (hstart : w'.startPort = w.startPort) (hend : w'.endPort = w.endPort) :
    (ws.set i w').map (fun w => (w.startPort, w.endPort))
      = ws.map fun w => (w.startPort, w.endPort) := by
  obtain ⟨hlt, rfl⟩ := List.getElem?_eq_some_iff.mp hi
  rw [List.map_set, hstart, hend]
  refine List.ext_getElem (by simp) fun j h1 h2 => ?_
  rw [List.getElem_set]
  split
  · next hij => subst hij; simp
  · rfl

/-- What asking the workers `ws` one after the other leads to. -/
structure Opened (net : Int → SocketAttempt) (ws : List RtpWorker) (srv : RtpServer)
    (r : RtpServer × Int) : Prop where
  result : r.2 = (search net ws).getD (-1)
  ranges : r.1.ranges = srv.ranges
  next : r.1.nextWorker < r.1.workers.length
  own : ∀ w ∈ r.1.workers, ∀ p ∈ w.activeSockets, w.inRange p = true
  isOpen : ∀ q, r.1.IsOpen q ↔ srv.IsOpen q ∨ q ∈ leftBehind net ws ∨ search net ws = some q

/-- The pool after its next worker `w` was asked for a port. -/
def asking (srv : RtpServer) (net : Int → SocketAttempt) (w : RtpWorker) : RtpServer where
  workers := srv.workers.set srv.nextWorker (w.allocatePort net).1
  nextWorker := (srv.nextWorker + 1) % srv.workers.length

section Asking

variable {net : Int → SocketAttempt} {srv : RtpServer} {w : RtpWorker} {ws : List RtpWorker}
  {r : RtpServer × Int}

theorem length_asking : (srv.asking net w).workers.length = srv.workers.length :=
  List.length_set

theorem asking_nextWorker_lt (hw : srv.workers[srv.nextWorker]? = some w) :
    (srv.asking net w).nextWorker < (srv.asking net w).workers.length := by
  have := (List.getElem?_eq_some_iff.mp hw).1
  rw [length_asking]
  exact Nat.mod_lt _ (by omega)

theorem asking_ranges (hw : srv.workers[srv.nextWorker]? = some w) :
    (srv.asking net w).ranges = srv.ranges := by
  obtain ⟨-, hstart, hend, -⟩ := w.allocatePort_searched net
  exact ranges_set hw hstart hend

theorem isOpen_asking (hw : srv.workers[srv.nextWorker]? = some w) (q : Int) :
    (srv.asking net w).IsOpen q ↔ srv.IsOpen q ∨ q ∈ w.stale net ∨ w.opens net = some q := by
  obtain ⟨-, -, -, hactive⟩ := w.allocatePort_searched net
  exact isOpen_set hw hactive q

theorem asking_own (hw : srv.workers[srv.nextWorker]? = some w)
    (hown : ∀ x ∈ srv.workers, ∀ p ∈ x.activeSockets, x.inRange p = true) :
    ∀ x ∈ (srv.asking net w).workers, ∀ p ∈ x.activeSockets, x.inRange p = true := by
  obtain ⟨-, hstart, hend, hactive⟩ := w.allocatePort_searched net
  intro x hx p hp
  rcases List.mem_or_eq_of_mem_set hx with hx | rfl
  · exact hown x hx p hp
  · have hin : (w.allocatePort net).1.inRange p = w.inRange p := by
      unfold RtpWorker.inRange
      rw [hstart, hend]
    rw [hin]
    rcases (hactive p).mp hp with hp | hp | hp
    · exact hown w (List.mem_of_getElem? hw) p hp
    · exact (RtpWorker.mem_free (RtpWorker.mem_stale hp).1).1
    · exact (RtpWorker.mem_free (RtpWorker.opens_some hp).1).1

/-- The worker has a port, and the search ends. -/
theorem Opened.found (hw : srv.workers[srv.nextWorker]? = some w)
    (hown : ∀ x ∈ srv.workers, ∀ p ∈ x.activeSockets, x.inRange p = true)
    (hpos : 0 < (w.allocatePort net).2) :
    Opened net (w :: ws) srv (srv.asking net w, (w.allocatePort net).2) := by
  obtain ⟨hresult, -, -, -⟩ := w.allocatePort_searched net
  obtain ⟨p, hp⟩ : ∃ p, w.opens net = some p := by
    cases ho : w.opens net with
    | none => rw [hresult, ho] at hpos; exact absurd hpos (by decide)
    | some p => exact ⟨p, rfl⟩
  rw [hp, Option.getD_some] at hresult
  rw [hresult] at hpos ⊢
  refine ⟨?_, asking_ranges hw, asking_nextWorker_lt hw, asking_own hw hown, ?_⟩
  · simp [search, hp, hpos]
  · intro q
    rw [isOpen_asking hw]
    simp [leftBehind, search, hp, hpos]

/-- The worker has none, and the search goes on with the others. -/
theorem Opened.onward (hw : srv.workers[srv.nextWorker]? = some w)
    (hpos : ¬ 0 < (w.allocatePort net).2) (h : Opened net ws (srv.asking net w) r) :
    Opened net (w :: ws) srv r := by
  obtain ⟨hresult, -, -, -⟩ := w.allocatePort_searched net
  have hsearch : search net (w :: ws) = search net ws := by
    rw [search]
    split
    · next p hp =>
      rw [hp, Option.getD_some] at hresult
      rw [if_neg (by rw [← hresult]; exact hpos)]
    · rfl
  have hleft : ∀ q, q ∈ leftBehind net (w :: ws) ↔
      (q ∈ w.stale net ∨ w.opens net = some q) ∨ q ∈ leftBehind net ws := by
    intro q
    rw [leftBehind, List.mem_append]
    split
    · next p hp =>
      rw [hp, Option.getD_some] at hresult
      rw [if_neg (by rw [← hresult]; exact hpos), List.mem_cons, hp, Option.some.injEq,
        eq_comm (a := q), or_assoc]
    · next hp => rw [hp]; simp
  refine ⟨by rw [hsearch]; exact h.result, h.ranges.trans (asking_ranges hw), h.next, h.own, ?_⟩
  intro q
  rw [h.isOpen, isOpen_asking hw, hleft, hsearch]
  tauto

/-- An index other than the one the round robin stands at. -/
theorem add_mod_ne {n next j : Nat} (hn : next < n) (hj : j + 1 < n) :
    (next + (j + 1)) % n ≠ next := by
  intro h
  rcases Nat.lt_or_ge (next + (j + 1)) n with hlt | hge
  · rw [Nat.mod_eq_of_lt hlt] at h
    omega
  · rw [Nat.mod_eq_sub_mod hge, Nat.mod_eq_of_lt (by omega)] at h
    omega

theorem asking_index (j : Nat) :
    ((srv.asking net w).nextWorker + j) % (srv.asking net w).workers.length
      = (srv.nextWorker + (j + 1)) % srv.workers.length := by
  rw [length_asking]
  show ((srv.nextWorker + 1) % srv.workers.length + j) % srv.workers.length = _
  rw [Nat.mod_add_mod]
  congr 1
  omega

/-- The workers that are still to be asked are as they were. -/
theorem asking_getElem? (hw : srv.workers[srv.nextWorker]? = some w) {j : Nat}
    (hj : j + 1 < srv.workers.length) :
    (srv.asking net w).workers[
        ((srv.asking net w).nextWorker + j) % (srv.asking net w).workers.length]?
      = srv.workers[(srv.nextWorker + (j + 1)) % srv.workers.length]? := by
  have hlt := (List.getElem?_eq_some_iff.mp hw).1
  rw [asking_index]
  exact List.getElem?_set_ne (add_mod_ne hlt hj).symm

end Asking

/--
The loop asks the workers `ws`, if these are the next ones and the last of them is the one before
`startWorker`.
-/
theorem allocateLoop_opened (net : Int → SocketAttempt) (startWorker : Nat) (ws : List RtpWorker)
    (srv : RtpServer) (hlen : ws.length ≤ srv.workers.length)
    (hnext : srv.nextWorker < srv.workers.length)
    (hstart : (srv.nextWorker + ws.length) % srv.workers.length = startWorker)
    (hws : ∀ j < ws.length,
      srv.workers[(srv.nextWorker + j) % srv.workers.length]? = ws[j]?)
    (hown : ∀ w ∈ srv.workers, ∀ p ∈ w.activeSockets, w.inRange p = true) :
    Opened net ws srv (allocateLoop net startWorker ws.length srv) := by
  induction ws generalizing srv with
  | nil => exact ⟨rfl, rfl, hnext, hown, fun q => by simp [leftBehind, search, allocateLoop]⟩
  | cons w ws ih =>
    rw [List.length_cons] at hlen hstart hws ⊢
    have hw : srv.workers[srv.nextWorker]? = some w := by
      have hfirst := hws 0 (by omega)
      rwa [Nat.add_zero, Nat.mod_eq_of_lt hnext] at hfirst
    rw [allocateLoop, hw]
    show Opened net (w :: ws) srv (if 0 < (w.allocatePort net).2
      then (srv.asking net w, (w.allocatePort net).2)
      else if (srv.asking net w).nextWorker = startWorker then (srv.asking net w, -1)
      else allocateLoop net startWorker ws.length (srv.asking net w))
    by_cases hpos : 0 < (w.allocatePort net).2
    · rw [if_pos hpos]
      exact Opened.found hw hown hpos
    · rw [if_neg hpos]
      refine Opened.onward hw hpos ?_
      have hgo : ((srv.asking net w).nextWorker + ws.length) % (srv.asking net w).workers.length
          = startWorker := by
        rw [asking_index]
        exact hstart
      cases hwsl : ws.length with
      | zero =>
        -- the last one: `nextWorker_` is back at `startWorker`
        rw [hwsl] at hstart
        rw [if_pos (show (srv.asking net w).nextWorker = startWorker from hstart),
          List.length_eq_zero_iff.mp hwsl]
        exact ⟨rfl, rfl, asking_nextWorker_lt hw, asking_own hw hown,
          fun q => by simp [leftBehind, search]⟩
      | succ n =>
        have hnext' : (srv.asking net w).nextWorker < (srv.asking net w).workers.length :=
          asking_nextWorker_lt hw
        have hmore : n + 1 < (srv.asking net w).workers.length := by
          rw [length_asking]
          omega
        rw [if_neg, ← hwsl]
        · refine ih _ (by omega) hnext' hgo ?_ (asking_own hw hown)
          intro j hj
          rw [asking_getElem? hw (by omega), hws (j + 1) (by omega)]
          rfl
        · intro he
          rw [hwsl, ← he] at hgo
          exact add_mod_ne hnext' hmore hgo

/-- What `allocatePort` does to a sound pool. -/
structure Allocates (net : Int → SocketAttempt) (srv : RtpServer) (r : RtpServer × Int) : Prop where
  result : r.2 = (srv.finds net).getD (-1)
  sound : r.1.Sound
  ranges : r.1.ranges = srv.ranges
  isOpen : ∀ q, r.1.IsOpen q ↔ srv.IsOpen q ∨ q ∈ srv.leaves net ∨ srv.finds net = some q

/-- **`allocatePort` opens the port it returns and those it leaves behind.** -/
theorem allocatePort_spec (net : Int → SocketAttempt) {srv : RtpServer} (hs : srv.Sound) :
    Allocates net srv (srv.allocatePort net) := by
  have hlen : srv.asked.length = srv.workers.length := List.length_rotate _ _
  have h := allocateLoop_opened net srv.nextWorker srv.asked srv hlen.le hs.next
    (by rw [hlen, Nat.add_mod_right, Nat.mod_eq_of_lt hs.next])
    (fun j hj => by
      rw [asked, List.getElem?_rotate (by rwa [hlen] at hj), Nat.add_comm])
    hs.own
  rw [hlen] at h
  exact ⟨h.result, hs.of_ranges h.ranges h.own h.next, h.ranges, h.isOpen⟩

/-- A port that is free in a worker of a sound pool is not open anywhere. -/
theorem Sound.not_isOpen {srv : RtpServer} (hs : srv.Sound) {p : Int}
    (h : ∃ w ∈ srv.asked, p ∈ w.free) : ¬ srv.IsOpen p := by
  rintro ⟨x, hx, hpx⟩
  obtain ⟨w, hw, hfree⟩ := h
  obtain ⟨hin, hnot⟩ := RtpWorker.mem_free hfree
  have hxw := hs.unique hx (List.mem_rotate.mp hw) (hs.own x hx p hpx) hin
  exact hnot (hxw ▸ hpx)

/-- The port that is returned was closed before, and is not one of those left behind. -/
theorem Sound.finds_some {srv : RtpServer} (hs : srv.Sound) {net : Int → SocketAttempt} {p : Int}
    (h : srv.finds net = some p) : 0 < p ∧ ¬ srv.IsOpen p ∧ p ∉ srv.leaves net := by
  obtain ⟨hpos, hok, hfree⟩ := search_some h
  refine ⟨hpos, hs.not_isOpen hfree, fun hleft => ?_⟩
  rcases (mem_leftBehind hleft).1 with hbad | hnon
  · exact hbad hok
  · omega

theorem Sound.leaves_fresh {srv : RtpServer} (hs : srv.Sound) {net : Int → SocketAttempt} {p : Int}
    (h : p ∈ srv.leaves net) : ¬ srv.IsOpen p :=
  hs.not_isOpen (mem_leftBehind h).2

/-- In a pool of positive ports, with every socket call succeeding, nothing is left behind. -/
theorem leaves_eq_nil {srv : RtpServer} {net : Int → SocketAttempt} (hnet : ∀ p, (net p).Ok)
    (hpos : ∀ w ∈ srv.workers, ∀ p, w.inRange p = true → 0 < p) : srv.leaves net = [] := by
  refine List.eq_nil_iff_forall_not_mem.mpr fun p hp => ?_
  obtain ⟨hbad, w, hw, hfree⟩ := mem_leftBehind hp
  rcases hbad with hbad | hnon
  · exact hbad (hnet p)
  · have := hpos w (List.mem_rotate.mp hw) p (RtpWorker.mem_free hfree).1
    omega

/-! ## Closing a port -/

theorem ranges_onWorker (port : Int) (ws : List RtpWorker) :
    (onWorker port (·.releasePort port) ws).map (fun w => (w.startPort, w.endPort))
      = ws.map fun w => (w.startPort, w.endPort) := by
  induction ws with
  | nil => rfl
  | cons w ws ih =>
    rw [onWorker]
    split
    · simp
    · rw [List.map_cons, ih, List.map_cons]

theorem own_onWorker (port : Int) (ws : List RtpWorker)
    (h : ∀ w ∈ ws, ∀ p ∈ w.activeSockets, w.inRange p = true) :
    ∀ w ∈ onWorker port (·.releasePort port) ws, ∀ p ∈ w.activeSockets, w.inRange p = true := by
  induction ws with
  | nil => simp [onWorker]
  | cons w ws ih =>
    intro x hx p hp
    rw [onWorker] at hx
    split at hx
    · rcases List.mem_cons.mp hx with rfl | hx
      · have hpw := (RtpWorker.mem_releasePort.mp hp).2
        have := h w List.mem_cons_self p hpw
        simpa [RtpWorker.inRange] using this
      · exact h x (List.mem_cons_of_mem _ hx) p hp
    · rcases List.mem_cons.mp hx with rfl | hx
      · exact h x List.mem_cons_self p hp
      · exact ih (fun y hy => h y (List.mem_cons_of_mem _ hy)) x hx p hp

theorem isOpen_onWorker (port p : Int) (ws : List RtpWorker)
    (hd : ws.Pairwise fun a b => ∀ p, ¬ (a.inRange p = true ∧ b.inRange p = true))
    (hown : ∀ w ∈ ws, ∀ p ∈ w.activeSockets, w.inRange p = true) :
    (∃ x ∈ onWorker port (·.releasePort port) ws, p ∈ x.activeSockets) ↔
      p ≠ port ∧ ∃ x ∈ ws, p ∈ x.activeSockets := by
  induction ws with
  | nil => simp [onWorker]
  | cons w ws ih =>
    obtain ⟨hhead, htail⟩ := List.pairwise_cons.mp hd
    have howns : ∀ x ∈ ws, ∀ p ∈ x.activeSockets, x.inRange p = true :=
      fun x hx => hown x (List.mem_cons_of_mem _ hx)
    rw [onWorker]
    split
    · next hin =>
      -- the port belongs to this worker, so no later one has it
      have hlater : ∀ x ∈ ws, port ∉ x.activeSockets :=
        fun x hx hp => hhead x hx port ⟨hin, howns x hx port hp⟩
      simp only [List.exists_mem_cons_iff, RtpWorker.mem_releasePort]
      constructor
      · rintro (⟨hne, hp⟩ | ⟨x, hx, hp⟩)
        · exact ⟨hne, Or.inl hp⟩
        · exact ⟨fun he => hlater x hx (he ▸ hp), Or.inr ⟨x, hx, hp⟩⟩
      · rintro ⟨hne, hp | hx⟩
        · exact Or.inl ⟨hne, hp⟩
        · exact Or.inr hx
    · next hout =>
      simp only [List.exists_mem_cons_iff]
      rw [ih htail howns]
      constructor
      · rintro (hp | ⟨hne, hx⟩)
        · refine ⟨fun he => hout ?_, Or.inl hp⟩
          exact he ▸ hown w List.mem_cons_self p hp
        · exact ⟨hne, Or.inr hx⟩
      · rintro ⟨hne, hp | hx⟩
        · exact Or.inl hp
        · exact Or.inr ⟨hne, hx⟩

/-- Releasing a port closes that port and no other. -/
theorem isOpen_releasePort {srv : RtpServer} (hs : srv.Sound) (port p : Int) :
    (srv.releasePort port).IsOpen p ↔ p ≠ port ∧ srv.IsOpen p :=
  isOpen_onWorker port p srv.workers hs.disjoint hs.own

@[simp] theorem ranges_releasePort (srv : RtpServer) (port : Int) :
    (srv.releasePort port).ranges = srv.ranges :=
  ranges_onWorker port srv.workers

theorem Sound.releasePort {srv : RtpServer} (hs : srv.Sound) (port : Int) :
    (srv.releasePort port).Sound := by
  refine hs.of_ranges (ranges_releasePort srv port) (own_onWorker port _ hs.own) ?_
  have hlen := congrArg List.length (ranges_releasePort srv port)
  simp only [ranges, List.length_map] at hlen
  rw [hlen]
  exact hs.next

/-! ## The pool `init` builds -/

theorem resolveThreads_pos (threadCount : Int) (hardwareConcurrency : Nat) :
    0 < resolveThreads threadCount hardwareConcurrency := by
  unfold resolveThreads
  split
  · split <;> omega
  · omega

/-- The ports of a worker lie in its share, and a share with a port in it has no negative width. -/
theorem inRange_initWorker {startPort endPort : Int} {n i : Nat} (hn : 0 < n)
    {p : Int} (h : (initWorker startPort endPort n i).inRange p = true) :
    0 ≤ (endPort - startPort + 1).tdiv n ∧
    startPort + i * (endPort - startPort + 1).tdiv n ≤ p ∧
    (i + 1 < n → p < startPort + (i + 1 : Nat) * (endPort - startPort + 1).tdiv n) := by
  obtain ⟨hlow, hhigh⟩ : (initWorker startPort endPort n i).startPort ≤ p ∧
      p ≤ (initWorker startPort endPort n i).endPort := by
    simpa only [RtpWorker.inRange, Bool.and_eq_true, decide_eq_true_eq] using h
  unfold initWorker at hlow hhigh
  set range := endPort - startPort + 1 with hrange
  set width := range.tdiv n with hwidth
  dsimp only at hlow hhigh
  replace hlow : startPort + i * width ≤ p := by
    split at hlow <;> omega
  have hsucc : ((i + 1 : Nat) : Int) * width = i * width + width := by
    push_cast
    ring
  have hnonneg : 0 ≤ width := by
    by_contra hneg
    rw [not_le] at hneg
    -- a negative width comes from a negative range, and leaves the last worker nothing as well
    have hrneg : range < 0 := by
      by_contra hr
      exact absurd (Int.tdiv_nonneg (not_lt.mp hr) (Int.natCast_nonneg n)) (by omega)
    split at hhigh
    · next hlast =>
      have hmul : range ≤ n * width := by
        have hq : (-range).tdiv n = -width := by rw [Int.neg_tdiv]
        have := Int.mul_tdiv_self_le (x := -range) (k := n) (by omega)
        rw [hq] at this
        linarith
      have hn1 : (n : Int) * width = i * width + width := by
        rw [← hsucc, hlast, Nat.sub_add_cancel hn]
      omega
    · omega
  refine ⟨hnonneg, hlow, fun hlt => ?_⟩
  rw [if_neg (by omega)] at hhigh
  omega

/-- **The pool `init` builds is sound**, for any bounds and any number of threads. -/
theorem init_sound (startPort endPort threadCount : Int) (hardwareConcurrency : Nat) :
    (init startPort endPort threadCount hardwareConcurrency).Sound := by
  have hn := resolveThreads_pos threadCount hardwareConcurrency
  unfold init
  set n := resolveThreads threadCount hardwareConcurrency
  have hmem : ∀ w ∈ (List.range n).map (initWorker startPort endPort n),
      ∃ i < n, w = initWorker startPort endPort n i := by
    intro w hw
    obtain ⟨i, hi, he⟩ := List.mem_map.mp hw
    exact ⟨i, List.mem_range.mp hi, he.symm⟩
  refine ⟨?_, ?_, ?_⟩
  · rw [List.pairwise_map, List.pairwise_iff_getElem]
    intro i j hi hj hij p ⟨h1, h2⟩
    rw [List.length_range] at hi hj
    rw [List.getElem_range] at h1 h2
    obtain ⟨hw, -, hlt⟩ := inRange_initWorker hn h1
    obtain ⟨-, hle, -⟩ := inRange_initWorker hn h2
    have hmul := mul_le_mul_of_nonneg_right
      (show ((i + 1 : Nat) : Int) ≤ (j : Int) by exact_mod_cast hij) hw
    have := hlt (by omega)
    omega
  · intro w hw p hp
    obtain ⟨i, -, rfl⟩ := hmem w hw
    exact absurd hp Std.ExtTreeMap.not_mem_empty
  · simpa using hn

/-- With a positive start port all ports of the pool are positive. -/
theorem init_positive {startPort : Int} (hstart : 1 ≤ startPort) (endPort threadCount : Int)
    (hardwareConcurrency : Nat) :
    ∀ w ∈ (init startPort endPort threadCount hardwareConcurrency).workers, ∀ p,
      w.inRange p = true → 0 < p := by
  intro w hw p hp
  obtain ⟨i, -, rfl⟩ := List.mem_map.mp hw
  obtain ⟨hwidth, hle, -⟩ := inRange_initWorker (resolveThreads_pos _ _) hp
  have := mul_nonneg (Int.natCast_nonneg i) hwidth
  omega

/-- Nothing is open at the start. -/
theorem init_not_isOpen (startPort endPort threadCount : Int) (hardwareConcurrency : Nat)
    (p : Int) : ¬ (init startPort endPort threadCount hardwareConcurrency).IsOpen p := by
  rintro ⟨w, hw, hp⟩
  obtain ⟨i, -, rfl⟩ := List.mem_map.mp hw
  exact absurd hp Std.ExtTreeMap.not_mem_empty

end RtpServer

end SipGateway
