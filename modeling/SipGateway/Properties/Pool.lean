import SipGateway.Infra.Machine
import SipGateway.Rtp.Server

/-!
# What the port pool hands out

A `Pool` is a server with the ports it has handed out, each with the worker that opened it. The
shares of the workers tile the even ports of the range (`exists_candidate`), so a search that
comes back empty-handed has seen every one of them.

`pool_correct` is what holds of `allocatePort`, `releasePort` and `send` after any history.
-/

namespace SipGateway

open Infra

/-! ## The shares -/

theorem RtpWorker.mem_candidates_iff {w : RtpWorker} {p : Int} :
    p ∈ w.candidates ↔ w.startPort ≤ p ∧ p ≤ w.endPort ∧ (p - w.startPort) % 2 = 0 := by
  unfold candidates
  rw [List.mem_map]
  constructor
  · rintro ⟨i, hi, rfl⟩
    have := List.mem_range.mp hi
    omega
  · rintro ⟨hstart, hend, heven⟩
    refine ⟨((p - w.startPort) / 2).toNat, ?_, ?_⟩
    · rw [List.mem_range]
      omega
    · omega

namespace RtpServer

theorem even_startPort (startPort endPort : Int) (n i : Nat) :
    (initWorker startPort endPort n i).startPort % 2 = 0 := by
  unfold initWorker
  dsimp only
  split <;> omega

/-- Every even port of the range is a candidate of some worker. -/
theorem exists_candidate {startPort endPort p : Int} {n : Nat} (hn : 0 < n)
    (hstart : startPort ≤ p) (hend : p ≤ endPort) (heven : p % 2 = 0) :
    ∃ i < n, p ∈ (initWorker startPort endPort n i).candidates := by
  -- the last worker whose share starts at the port or before it
  let Starts (i : Nat) : Prop := startPort + i * (endPort - startPort + 1).tdiv n ≤ p
  have hfirst : Starts 0 := by
    show startPort + (0 : Nat) * _ ≤ p
    simpa using hstart
  have hi : Starts (Nat.findGreatest Starts (n - 1)) :=
    Nat.findGreatest_spec (Nat.zero_le _) hfirst
  have hle : Nat.findGreatest Starts (n - 1) ≤ n - 1 := Nat.findGreatest_le _
  have hnext : Nat.findGreatest Starts (n - 1) + 1 ≤ n - 1 →
      ¬ Starts (Nat.findGreatest Starts (n - 1) + 1) :=
    Nat.findGreatest_is_greatest (Nat.lt_succ_self _)
  generalize Nat.findGreatest Starts (n - 1) = i at hi hle hnext
  have hsucc : ((i + 1 : Nat) : Int) * (endPort - startPort + 1).tdiv n =
      i * (endPort - startPort + 1).tdiv n + (endPort - startPort + 1).tdiv n := by
    push_cast
    ring
  unfold Starts at hi hnext
  rw [hsucc] at hnext
  refine ⟨i, by omega, RtpWorker.mem_candidates_iff.mpr ?_⟩
  have hworker := even_startPort startPort endPort n i
  refine ⟨?_, ?_, by omega⟩
  · unfold initWorker
    dsimp only
    split <;> omega
  · unfold initWorker
    dsimp only
    split
    · exact hend
    · omega

/-- No worker has a port outside the range. -/
theorem le_endPort_of_inRange {startPort endPort p : Int} {n i : Nat} (hn : 0 < n)
    (hle : startPort ≤ endPort) (hi : i < n)
    (h : (initWorker startPort endPort n i).inRange p = true) : startPort ≤ p ∧ p ≤ endPort := by
  obtain ⟨hwidth, hlow, hhigh⟩ := inRange_initWorker hn h
  have hshare : 0 ≤ (i : Int) * (endPort - startPort + 1).tdiv n :=
    mul_nonneg (Int.natCast_nonneg i) hwidth
  refine ⟨by omega, ?_⟩
  by_cases hlast : i + 1 < n
  · have hall : (n : Int) * (endPort - startPort + 1).tdiv n ≤ endPort - startPort + 1 :=
      Int.mul_tdiv_self_le (by omega)
    have hmono : ((i + 1 : Nat) : Int) * (endPort - startPort + 1).tdiv n ≤
        n * (endPort - startPort + 1).tdiv n :=
      mul_le_mul_of_nonneg_right (by exact_mod_cast hlast.le) hwidth
    have := hhigh hlast
    omega
  · have hend : (initWorker startPort endPort n i).endPort = endPort := by
      unfold initWorker
      exact if_pos (by omega)
    have hport : p ≤ (initWorker startPort endPort n i).endPort := by
      simp only [RtpWorker.inRange, Bool.and_eq_true, decide_eq_true_eq] at h
      exact h.2
    rwa [hend] at hport

/-! ## One worker among the others -/

variable {srv srv' : RtpServer} {w : RtpWorker} {p : Int} {i j k : Nat}

/-- The worker at this place has the port in its range. -/
def CoversAt (srv : RtpServer) (k : Nat) (p : Int) : Prop :=
  ∃ w, srv.workers[k]? = some w ∧ w.inRange p = true

/-- The worker at this place has the port open. -/
def OpenAt (srv : RtpServer) (k : Nat) (p : Int) : Prop :=
  ∃ w, srv.workers[k]? = some w ∧ p ∈ w.activeSockets

theorem Sound.coversAt_unique (hs : srv.Sound) (hi : srv.CoversAt i p) (hj : srv.CoversAt j p) :
    i = j := by
  obtain ⟨w, hw, hwp⟩ := hi
  obtain ⟨x, hx, hxp⟩ := hj
  obtain ⟨hilt, rfl⟩ := List.getElem?_eq_some_iff.mp hw
  obtain ⟨hjlt, rfl⟩ := List.getElem?_eq_some_iff.mp hx
  have hdisjoint := List.pairwise_iff_getElem.mp hs.disjoint
  rcases Nat.lt_trichotomy i j with hij | hij | hij
  · exact absurd ⟨hwp, hxp⟩ (hdisjoint i j hilt hjlt hij p)
  · exact hij
  · exact absurd ⟨hxp, hwp⟩ (hdisjoint j i hjlt hilt hij p)

/-- A worker has open what is open and lies in its range. -/
theorem Sound.openAt_iff (hs : srv.Sound) : srv.OpenAt k p ↔ srv.IsOpen p ∧ srv.CoversAt k p := by
  constructor
  · rintro ⟨w, hw, hp⟩
    have hmem := List.mem_of_getElem? hw
    exact ⟨⟨w, hmem, hp⟩, w, hw, hs.own w hmem p hp⟩
  · rintro ⟨⟨x, hx, hp⟩, w, hw, hin⟩
    have hxw := hs.unique hx (List.mem_of_getElem? hw) (hs.own x hx p hp) hin
    exact ⟨w, hw, hxw ▸ hp⟩

theorem isOpen_iff_openAt : srv.IsOpen p ↔ ∃ k, srv.OpenAt k p := by
  constructor
  · rintro ⟨w, hw, hp⟩
    obtain ⟨k, hk⟩ := List.getElem?_of_mem hw
    exact ⟨k, w, hk, hp⟩
  · rintro ⟨k, w, hw, hp⟩
    exact ⟨w, List.mem_of_getElem? hw, hp⟩

theorem coversAt_of_ranges (hr : srv'.ranges = srv.ranges) :
    srv'.CoversAt k p ↔ srv.CoversAt k p := by
  have hrange : ∀ srv : RtpServer, srv.CoversAt k p ↔
      ∃ r, srv.ranges[k]? = some r ∧ r.1 ≤ p ∧ p ≤ r.2 := by
    intro srv
    unfold CoversAt ranges RtpWorker.inRange
    simp
  rw [hrange, hrange, hr]

/-- The worker `releasePort` and `send` find for an open port. -/
theorem Sound.find_worker (hs : srv.Sound) (hw : srv.workers[k]? = some w)
    (hp : w.inRange p = true) : srv.workers.find? (fun x => x.inRange p) = some w := by
  have hsome : (srv.workers.find? fun x => x.inRange p).isSome := by
    rw [List.find?_isSome]
    exact ⟨w, List.mem_of_getElem? hw, hp⟩
  obtain ⟨x, hx⟩ := Option.isSome_iff_exists.mp hsome
  have hxp : x.inRange p = true := 
    List.find?_some (p := fun x : RtpWorker => x.inRange p) hx
  rw [hx, hs.unique (List.mem_of_find?_eq_some hx) (List.mem_of_getElem? hw) hxp hp]

theorem onWorker_eq_modify {ws : List RtpWorker} (f : RtpWorker → RtpWorker)
    (hw : ws[k]? = some w) (hp : w.inRange p = true)
    (hfirst : ∀ j < k, ∀ x, ws[j]? = some x → x.inRange p = false) :
    onWorker p f ws = ws.modify k f := by
  induction ws generalizing k with
  | nil => cases hw
  | cons x ws ih =>
    cases k with
    | zero =>
      cases hw
      rw [onWorker, if_pos hp]
      rfl
    | succ k =>
      have hx : x.inRange p = false := hfirst 0 (Nat.succ_pos k) x rfl
      have hrest : ∀ j < k, ∀ y, ws[j]? = some y → y.inRange p = false :=
        fun j hj y hy => hfirst (j + 1) (Nat.succ_lt_succ hj) y hy
      rw [onWorker, if_neg (by rw [hx]; decide), ih hw hrest]
      rfl

/-- `releasePort` changes the one worker that covers the port. -/
theorem Sound.releasePort_workers (hs : srv.Sound) (h : srv.CoversAt k p) :
    (srv.releasePort p).workers = srv.workers.modify k (·.releasePort p) := by
  obtain ⟨w, hw, hp⟩ := h
  refine onWorker_eq_modify _ hw hp ?_
  intro j hj x hx
  by_contra hin
  have hjk := hs.coversAt_unique ⟨x, hx, by simpa using hin⟩ ⟨w, hw, hp⟩
  omega

/-! ## Empty-handed searches -/

theorem search_eq_none {net : Int → SocketAttempt} (hnet : ∀ p, (net p).Ok) {ws : List RtpWorker}
    (hpos : ∀ w ∈ ws, ∀ p, w.inRange p = true → 0 < p) (h : search net ws = none) :
    ∀ w ∈ ws, ∀ p ∈ w.candidates, p ∈ w.activeSockets := by
  induction ws with
  | nil => exact nofun
  | cons w ws ih =>
    obtain ⟨hposw, hposrest⟩ := List.forall_mem_cons.mp hpos
    rw [search] at h
    split at h
    · next p hp =>
      have hin := (RtpWorker.mem_free (RtpWorker.opens_some hp).1).1
      rw [if_pos (hposw p hin)] at h
      cases h
    · next hnone =>
      refine List.forall_mem_cons.mpr ⟨?_, ih hposrest h⟩
      intro p hp
      by_contra hfree
      have hmem : p ∈ w.free := List.mem_filter.mpr ⟨hp, by simpa using hfree⟩
      have := List.find?_eq_none.mp hnone p hmem
      exact this (by simpa using hnet p)

/-- So many rounds away from `startWorker`, the loop does not use more of them. -/
theorem allocateLoop_more (net : Int → SocketAttempt) {startWorker rounds more : Nat}
    (hpos : 0 < rounds) (hmore : rounds ≤ more) (hnext : srv.nextWorker < srv.workers.length)
    (hstart : (srv.nextWorker + rounds) % srv.workers.length = startWorker) :
    allocateLoop net startWorker more srv = allocateLoop net startWorker rounds srv := by
  induction rounds generalizing more srv with
  | zero => exact absurd hpos (Nat.lt_irrefl 0)
  | succ rounds ih =>
    obtain ⟨more, rfl⟩ : ∃ m, more = m + 1 := ⟨more - 1, by omega⟩
    rw [allocateLoop, allocateLoop, List.getElem?_eq_getElem hnext]
    dsimp only
    split
    · rfl
    · split
      · rfl
      · next hback =>
        have hlen : 0 < srv.workers.length := by omega
        refine ih ?_ (by omega) ?_ ?_
        · by_contra hzero
          obtain rfl : rounds = 0 := by omega
          exact hback hstart
        · rw [List.length_set]
          exact Nat.mod_lt _ hlen
        · rw [List.length_set, Nat.mod_add_mod, Nat.add_right_comm]
          exact hstart

/-- `allocatePort` ends by the test of its loop, not for lack of rounds. -/
theorem Sound.allocatePort_more (hs : srv.Sound) (net : Int → SocketAttempt) {rounds : Nat}
    (hle : srv.workers.length ≤ rounds) :
    allocateLoop net srv.nextWorker rounds srv = srv.allocatePort net := by
  have hnext := hs.next
  refine allocateLoop_more net (by omega) hle hnext ?_
  rw [Nat.add_mod_right, Nat.mod_eq_of_lt hnext]

end RtpServer

/-! ## The history of a pool -/

/-- A server, and the ports it has handed out, each with the place of the worker that opened it. -/
structure Pool where
  srv : RtpServer
  allocated : List (Int × Nat) := []

inductive PoolEvent where
  /-- `allocatePort`, with what the system answers -/
  | allocate (net : Int → SocketAttempt)
  | release (port : Int)

namespace Pool

/-- The place of the worker that has the port open. -/
def opener (srv : RtpServer) (port : Int) : Nat :=
  srv.workers.findIdx fun w => port ∈ w.activeSockets

def step (pool : Pool) : PoolEvent → Option Pool
  | .allocate net =>
    let r := pool.srv.allocatePort net
    some { srv := r.1
           allocated := if r.2 > 0 then pool.allocated ++ [(r.2, opener r.1 r.2)]
             else pool.allocated }
  | .release port =>
    some { srv := pool.srv.releasePort port
           allocated := pool.allocated.filter fun a => a.1 ≠ port }

/-- The histories of a pool whose socket operations succeed. -/
def machine (startPort endPort threadCount : Int) (hardwareConcurrency : Nat) :
    Machine Pool PoolEvent where
  init pool := pool = { srv := RtpServer.init startPort endPort threadCount hardwareConcurrency }
  enabled _ e := ∀ net, e = .allocate net → ∀ p, (net p).Ok
  step := step

/-! ### The invariant -/

variable {startPort endPort threadCount : Int} {hardwareConcurrency : Nat} {pool pool' : Pool}
  {net : Int → SocketAttempt} {p : Int} {k : Nat}

/-- The pool is sound, has the workers it began with, and knows who has which port open. -/
structure PoolInv (start : RtpServer) (pool : Pool) : Prop where
  sound : pool.srv.Sound
  ranges : pool.srv.ranges = start.ranges
  allocated : ∀ p k, (p, k) ∈ pool.allocated ↔ pool.srv.OpenAt k p

theorem opener_spec {srv : RtpServer} (h : srv.IsOpen p) : srv.OpenAt (opener srv p) p := by
  obtain ⟨w, hw, hp⟩ := h
  have hlt : opener srv p < srv.workers.length :=
    List.findIdx_lt_length_of_exists ⟨w, hw, by simpa using hp⟩
  refine ⟨srv.workers[opener srv p], List.getElem?_eq_getElem hlt, ?_⟩
  exact of_decide_eq_true (List.findIdx_getElem (w := hlt))

/-- The workers of a pool have positive ports only. -/
def Positive (srv : RtpServer) : Prop :=
  ∀ w ∈ srv.workers, ∀ p, w.inRange p = true → 0 < p

theorem Positive.of_ranges {srv srv' : RtpServer} (hpos : Positive srv)
    (hr : srv'.ranges = srv.ranges) : Positive srv' := by
  intro w hw p hp
  obtain ⟨x, hx, hxp⟩ := RtpServer.exists_inRange hr hw hp
  exact hpos x hx p hxp

/-- What `allocatePort` does when every socket operation succeeds. -/
theorem allocatePort_cases {srv : RtpServer} (hs : srv.Sound) (hpos : Positive srv)
    (hnet : ∀ p, (net p).Ok) :
    (∃ p, srv.finds net = some p ∧ (srv.allocatePort net).2 = p ∧ 0 < p ∧
      ∀ q, (srv.allocatePort net).1.IsOpen q ↔ srv.IsOpen q ∨ q = p) ∨
    (srv.finds net = none ∧ (srv.allocatePort net).2 = -1 ∧
      ∀ q, (srv.allocatePort net).1.IsOpen q ↔ srv.IsOpen q) := by
  obtain ⟨hresult, -, -, hopen⟩ := RtpServer.allocatePort_spec net hs
  have hleaves := RtpServer.leaves_eq_nil hnet hpos
  cases hfinds : srv.finds net with
  | none =>
    right
    refine ⟨rfl, by rw [hresult, hfinds]; rfl, fun q => ?_⟩
    rw [hopen, hleaves, hfinds]
    simp
  | some p =>
    left
    refine ⟨p, rfl, by rw [hresult, hfinds]; rfl, (hs.finds_some hfinds).1, fun q => ?_⟩
    rw [hopen, hleaves, hfinds]
    simp [eq_comm]

theorem PoolInv.allocate {start : RtpServer} (h : PoolInv start pool) (hpos : Positive start)
    (hnet : ∀ p, (net p).Ok) (hstep : step pool (.allocate net) = some pool') :
    PoolInv start pool' := by
  have hspec := RtpServer.allocatePort_spec net h.sound
  have hcases := allocatePort_cases h.sound (hpos.of_ranges h.ranges) hnet
  cases hstep
  refine ⟨hspec.sound, hspec.ranges.trans h.ranges, ?_⟩
  intro q k
  have hopenAt : ∀ q k, (pool.srv.allocatePort net).1.OpenAt k q ↔
      (pool.srv.allocatePort net).1.IsOpen q ∧ pool.srv.CoversAt k q := by
    intro q k
    rw [hspec.sound.openAt_iff, RtpServer.coversAt_of_ranges hspec.ranges]
  rw [hopenAt]
  dsimp only
  rcases hcases with ⟨p, -, hp, hppos, hopen⟩ | ⟨-, hp, hopen⟩
  · rw [hp, if_pos hppos, List.mem_append, List.mem_singleton, h.allocated, h.sound.openAt_iff,
      hopen, or_and_right, Prod.mk.injEq]
    -- the place recorded is the one whose range has the port
    have hopener := opener_spec ((hopen p).mpr (Or.inr rfl))
    rw [hopenAt] at hopener
    refine or_congr_right ⟨?_, ?_⟩
    · rintro ⟨rfl, rfl⟩
      exact ⟨rfl, hopener.2⟩
    · rintro ⟨rfl, hcovers⟩
      exact ⟨rfl, h.sound.coversAt_unique hcovers hopener.2⟩
  · rw [hp, if_neg (by decide), h.allocated, h.sound.openAt_iff, hopen]

theorem PoolInv.release {start : RtpServer} (h : PoolInv start pool) (port : Int)
    (hstep : step pool (.release port) = some pool') : PoolInv start pool' := by
  have hsound := h.sound.releasePort port
  have hranges := pool.srv.ranges_releasePort port
  cases hstep
  refine ⟨hsound, hranges.trans h.ranges, ?_⟩
  intro q k
  dsimp only
  rw [List.mem_filter, h.allocated, hsound.openAt_iff, h.sound.openAt_iff,
    RtpServer.coversAt_of_ranges hranges, RtpServer.isOpen_releasePort h.sound]
  simp only [ne_eq, decide_not, Bool.not_eq_true', decide_eq_false_iff_not]
  tauto

theorem reachable_inv (hstart : 1 ≤ startPort)
    (h : (machine startPort endPort threadCount hardwareConcurrency).Reachable pool) :
    PoolInv (RtpServer.init startPort endPort threadCount hardwareConcurrency) pool := by
  have hpositive : Positive (RtpServer.init startPort endPort threadCount hardwareConcurrency) :=
    RtpServer.init_positive hstart endPort threadCount hardwareConcurrency
  refine h.invariant ?_ ?_
  · rintro pool rfl
    refine ⟨RtpServer.init_sound .., rfl, fun p k => iff_of_false (List.not_mem_nil) ?_⟩
    intro hopen
    exact RtpServer.init_not_isOpen _ _ _ _ p (RtpServer.isOpen_iff_openAt.mpr ⟨k, hopen⟩)
  · intro pool e pool' _ hinv hen hstep
    cases e with
    | allocate net => exact hinv.allocate hpositive (hen net rfl) hstep
    | release port => exact hinv.release port hstep

/-! ### The pool keeps its promises -/

/-- A port that was handed out before, and is not given back yet. -/
def Allocated (pool : Pool) (p : Int) : Prop := ∃ k, (p, k) ∈ pool.allocated

/-- What `allocatePort` promises. -/
structure AllocatesRight (startPort endPort : Int) (pool : Pool) (r : RtpServer × Int) : Prop where
  port : 0 < r.2 → r.2 % 2 = 0 ∧ startPort ≤ r.2 ∧ r.2 ≤ endPort ∧ ¬ pool.Allocated r.2
  full : ¬ 0 < r.2 → r.2 = -1 ∧
    ∀ p, startPort ≤ p → p ≤ endPort → p % 2 = 0 → pool.Allocated p

/-- What `send` and `releasePort` do with a port that the worker at this place opened. -/
structure ReachesOpener (srv : RtpServer) (p : Int) (k : Nat) : Prop where
  send : ∃ w fd, srv.workers[k]? = some w ∧ w.activeSockets[p]? = some fd ∧ srv.send p = some fd
  release : (srv.releasePort p).workers = srv.workers.modify k (·.releasePort p)
  onlyThat : ∀ q, (srv.releasePort p).IsOpen q ↔ q ≠ p ∧ srv.IsOpen q

/-- The ranges a pool began with, worker by worker. -/
theorem exists_initWorker {srv : RtpServer}
    (hr : srv.ranges =
      (RtpServer.init startPort endPort threadCount hardwareConcurrency).ranges)
    {w : RtpWorker} (hw : w ∈ srv.workers) :
    ∃ i < RtpServer.resolveThreads threadCount hardwareConcurrency,
      w.startPort = (RtpServer.initWorker startPort endPort
        (RtpServer.resolveThreads threadCount hardwareConcurrency) i).startPort ∧
      w.endPort = (RtpServer.initWorker startPort endPort
        (RtpServer.resolveThreads threadCount hardwareConcurrency) i).endPort := by
  have hmem : (w.startPort, w.endPort) ∈ srv.ranges := List.mem_map_of_mem hw
  rw [hr] at hmem
  obtain ⟨x, hx, hxw⟩ := List.mem_map.mp hmem
  obtain ⟨i, hi, rfl⟩ := List.mem_map.mp hx
  rw [Prod.mk.injEq] at hxw
  exact ⟨i, List.mem_range.mp hi, hxw.1.symm, hxw.2.symm⟩

/-- A port that a worker finds free is an even port of the range. -/
theorem PoolInv.free_port
    (h : PoolInv (RtpServer.init startPort endPort threadCount hardwareConcurrency) pool)
    (hle : startPort ≤ endPort) {w : RtpWorker} (hw : w ∈ pool.srv.workers) (hp : p ∈ w.free) :
    p % 2 = 0 ∧ startPort ≤ p ∧ p ≤ endPort := by
  obtain ⟨i, hi, hstart, hend⟩ := exists_initWorker h.ranges hw
  obtain ⟨hlow, hhigh, heven⟩ := RtpWorker.mem_candidates_iff.mp (List.mem_filter.mp hp).1
  rw [hstart] at hlow heven
  rw [hend] at hhigh
  have hworker := RtpServer.even_startPort startPort endPort
    (RtpServer.resolveThreads threadCount hardwareConcurrency) i
  have hin : (RtpServer.initWorker startPort endPort
      (RtpServer.resolveThreads threadCount hardwareConcurrency) i).inRange p = true := by
    unfold RtpWorker.inRange
    rw [decide_eq_true hlow, decide_eq_true hhigh]
    rfl
  refine ⟨by omega, ?_⟩
  exact RtpServer.le_endPort_of_inRange (RtpServer.resolveThreads_pos _ _) hle hi hin

/-- Every even port of the range is a candidate of some worker. -/
theorem PoolInv.exists_candidate
    (h : PoolInv (RtpServer.init startPort endPort threadCount hardwareConcurrency) pool)
    (hlow : startPort ≤ p) (hhigh : p ≤ endPort) (heven : p % 2 = 0) :
    ∃ w ∈ pool.srv.workers, p ∈ w.candidates := by
  obtain ⟨i, hi, hp⟩ := RtpServer.exists_candidate
    (RtpServer.resolveThreads_pos threadCount hardwareConcurrency) hlow hhigh heven
  have hmem : ((RtpServer.initWorker startPort endPort
        (RtpServer.resolveThreads threadCount hardwareConcurrency) i).startPort,
      (RtpServer.initWorker startPort endPort
        (RtpServer.resolveThreads threadCount hardwareConcurrency) i).endPort) ∈
      pool.srv.ranges := by
    rw [h.ranges]
    exact List.mem_map_of_mem (List.mem_map_of_mem (List.mem_range.mpr hi))
  obtain ⟨w, hw, hwi⟩ := List.mem_map.mp hmem
  rw [Prod.mk.injEq] at hwi
  refine ⟨w, hw, ?_⟩
  rw [RtpWorker.mem_candidates_iff] at hp ⊢
  rw [hwi.1, hwi.2]
  exact hp

theorem PoolInv.allocated_iff {start : RtpServer} (h : PoolInv start pool) :
    pool.Allocated p ↔ pool.srv.IsOpen p := by
  rw [RtpServer.isOpen_iff_openAt]
  exact exists_congr fun k => h.allocated p k

theorem PoolInv.allocatesRight (hstart : 1 ≤ startPort) (hle : startPort ≤ endPort)
    (h : PoolInv (RtpServer.init startPort endPort threadCount hardwareConcurrency) pool)
    (hnet : ∀ p, (net p).Ok) :
    AllocatesRight startPort endPort pool (pool.srv.allocatePort net) := by
  have hpositive : Positive pool.srv :=
    Positive.of_ranges (RtpServer.init_positive hstart endPort threadCount hardwareConcurrency)
      h.ranges
  rcases allocatePort_cases h.sound hpositive hnet with ⟨p, hfinds, hp, hpos, -⟩ | ⟨hfinds, hp, -⟩
  · rw [← hp] at hpos
    refine ⟨fun _ => ?_, fun hno => absurd hpos hno⟩
    rw [hp]
    obtain ⟨-, -, w, hw, hfree⟩ := RtpServer.search_some hfinds
    obtain ⟨heven, hlow, hhigh⟩ := h.free_port hle (List.mem_rotate.mp hw) hfree
    refine ⟨heven, hlow, hhigh, ?_⟩
    rw [h.allocated_iff]
    exact (h.sound.finds_some hfinds).2.1
  · refine ⟨fun hpos => ?_, fun _ => ⟨hp, ?_⟩⟩
    · rw [hp] at hpos
      exact absurd hpos (by decide)
    · intro q hlow hhigh heven
      obtain ⟨w, hw, hq⟩ := h.exists_candidate hlow hhigh heven
      have hpositive' : ∀ w ∈ pool.srv.asked, ∀ p, w.inRange p = true → 0 < p :=
        fun w hw => hpositive w (List.mem_rotate.mp hw)
      have hall := RtpServer.search_eq_none hnet hpositive' hfinds
      rw [h.allocated_iff]
      exact ⟨w, hw, hall w (List.mem_rotate.mpr hw) q hq⟩

theorem PoolInv.reachesOpener {start : RtpServer} (h : PoolInv start pool)
    (hp : (p, k) ∈ pool.allocated) : ReachesOpener pool.srv p k := by
  have hopen := (h.allocated p k).mp hp
  obtain ⟨hisOpen, hcovers⟩ := h.sound.openAt_iff.mp hopen
  refine ⟨?_, h.sound.releasePort_workers hcovers,
    fun q => RtpServer.isOpen_releasePort h.sound p q⟩
  obtain ⟨w, hw, hactive⟩ := hopen
  have hin := h.sound.own w (List.mem_of_getElem? hw) p hactive
  refine ⟨w, w.activeSockets[p], hw, Std.ExtTreeMap.getElem?_eq_some_getElem hactive, ?_⟩
  unfold RtpServer.send
  rw [h.sound.find_worker hw hin]
  exact Std.ExtTreeMap.getElem?_eq_some_getElem hactive

/--
**The port pool is safe and complete.** After any history `allocatePort` hands out an even port of
the range that is not handed out, or there is none; it stops by itself. `send` and `releasePort`
reach the worker that opened the port.
-/
theorem pool_correct (hstart : 1 ≤ startPort) (hle : startPort ≤ endPort)
    (h : (machine startPort endPort threadCount hardwareConcurrency).Reachable pool) :
    (∀ net : Int → SocketAttempt, (∀ p, (net p).Ok) →
      AllocatesRight startPort endPort pool (pool.srv.allocatePort net) ∧
      ∀ rounds, pool.srv.workers.length ≤ rounds →
        RtpServer.allocateLoop net pool.srv.nextWorker rounds pool.srv
          = pool.srv.allocatePort net) ∧
    ∀ p k, (p, k) ∈ pool.allocated → ReachesOpener pool.srv p k := by
  have hinv := reachable_inv hstart h
  refine ⟨fun net hnet => ⟨hinv.allocatesRight hstart hle hnet, ?_⟩, ?_⟩
  · intro rounds hrounds
    exact hinv.sound.allocatePort_more net hrounds
  · intro p k hp
    exact hinv.reachesOpener hp

/-- Every socket operation succeeds. -/
def exampleNet : Int → SocketAttempt := fun _ => { fd := 3, bound := true, added := true }

/-- Three threads share five ports with odd bounds; two ports have been handed out. -/
def examplePool : Pool :=
  let start : Pool := { srv := RtpServer.init 10001 10005 3 1 }
  let once := (start.step (.allocate exampleNet)).getD start
  (once.step (.allocate exampleNet)).getD once

/-- The two even ports are handed out, each to the worker that opened it, and there is no third. -/
theorem pool_correct_exhausted :
    AllocatesRight 10001 10005 examplePool (examplePool.srv.allocatePort exampleNet) ∧
    (examplePool.srv.allocatePort exampleNet).2 = -1 ∧
    examplePool.allocated = [(10002, 1), (10004, 2)] ∧ ReachesOpener examplePool.srv 10004 2 := by
  have hnet : ∀ p, (exampleNet p).Ok := fun _ => ⟨Int.natCast_nonneg 3, rfl, rfl⟩
  have hen : ∀ (e : PoolEvent), e = .allocate exampleNet →
      ∀ net, e = .allocate net → ∀ p, (net p).Ok := by
    rintro _ rfl net he
    cases he
    exact hnet
  have hreach : (machine 10001 10005 3 1).Reachable examplePool := by
    refine Machine.Reachable.next (e := .allocate exampleNet) ?_ (hen _ rfl) rfl
    exact Machine.Reachable.next (e := .allocate exampleNet) (Machine.Reachable.init rfl)
      (hen _ rfl) rfl
  have hallocated : examplePool.allocated = [(10002, 1), (10004, 2)] := by decide +kernel
  obtain ⟨hallocate, hopener⟩ := pool_correct (by decide) (by decide) hreach
  refine ⟨(hallocate exampleNet hnet).1, by decide +kernel, hallocated, ?_⟩
  exact hopener 10004 2 (by rw [hallocated]; decide)

end Pool

end SipGateway
