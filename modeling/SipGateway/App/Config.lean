import SipGateway.Util.Net

/-!
# Configuration and the outside world

`Config.h`, and what one step of the gateway is told from outside: clock readings and the answers
of the system calls it makes.
-/

namespace SipGateway

open Infra

/-- `enum class GatewayMode`. -/
inductive GatewayMode where
  | echo
  | grpc
  | audiosocket
deriving DecidableEq, Repr

/-- `class Config`, as far as the modelled code reads it. -/
structure Config where
  bindIp : Bytes := bytes "0.0.0.0"
  sipPort : Int := 5060
  rtpPortStart : Int := 20000
  rtpPortEnd : Int := 30000
  maxCalls : Int := 200
  grpcTarget : Bytes := bytes "127.0.0.1:50051"
  codecPreference : List Bytes := []
  mode : GatewayMode := .echo
  audiosocketTarget : Bytes := []
  recordingMode : Bool := false
  recordingPath : Bytes := bytes "./recordings"
deriving DecidableEq

/--
What one step is told from outside.

`start` and `lap` give the readings of `steady_clock`, which never goes back;
`system` those of `system_clock`, as a count of its ticks, `epoch` the seconds since 1970.
-/
structure Env where
  start : Nat
  lap : Nat → Nat := fun _ => 0
  system : Nat → Nat := fun _ => 0
  epoch : Nat := 0
  net : Int → SocketAttempt := fun _ => { fd := 3, bound := true, added := true }
  botStream : Bool := true
  tcpSocket : Int := 3
  tcpConnects : Bool := true
  opensFile : Bytes → Bool := fun _ => true

namespace Env

/-- The reading of `steady_clock` with the given number in the step, in nanoseconds. -/
def now (env : Env) : Nat → Nat
  | 0 => env.start
  | i + 1 => env.now i + env.lap i

theorem now_le_now (env : Env) {i j : Nat} (h : i ≤ j) : env.now i ≤ env.now j :=
  monotone_nat_of_le_succ (fun n => Nat.le_add_right (env.now n) (env.lap n)) h

theorem start_le_now (env : Env) (i : Nat) : env.start ≤ env.now i := env.now_le_now (Nat.zero_le i)

/-- Every socket call for an RTP port succeeds. -/
def NetOk (env : Env) : Prop := ∀ p, (env.net p).Ok

end Env

end SipGateway
