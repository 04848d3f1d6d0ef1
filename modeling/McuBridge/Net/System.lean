import McuBridge.Daemon.Link
import McuBridge.Mcu.Step

/-! # The two peers and the serial line

`Net` runs the daemon's link and the firmware side by side. What a peer writes is in flight until it is
delivered or lost; a delivery may pick any frame in flight, so frames are delayed and overtake each other
as the run chooses. `calls` and `frames` note every handler run with what it was run for: on the MCU the
call of `send` for a command with ACK, on the daemon the frame of the reliable queue. -/

namespace McuBridge

structure Net where
  daemon : Daemon.Link
  mcu : Mcu
  toMcu : List Sent := []
  toDaemon : List Sent := []
  calls : List Nat := []
  frames : List Nat := []

inductive NetEvent where
  | daemon (ev : Daemon.LinkEvent)
  | mcu (ev : McuEvent)
  /-- The board is reset, as the DTR line does on every connect. -/
  | reboot (postOk : Bool)
  | deliverToMcu (i : Nat) (hal : Hal)
  | deliverToDaemon (i : Nat) (io : Daemon.Io)
  | loseToMcu (i : Nat)
  | loseToDaemon (i : Nat)

/-- A reset of the board: `begin` runs again on a fresh object. The records go on. -/
def Mcu.reboot (postOk : Bool) (s : Mcu) : Mcu :=
  { Mcu.boot s.sharedSecret postOk with
    wire := s.wire
    seals := s.seals
    derived := s.derived
    accepts := s.accepts
    handled := s.handled
    acts := s.acts
    accepted := s.accepted }

namespace Net
variable (P : Platform) (random : Nat → UInt32)

/-- What a peer has written between two states of its record. -/
def written (before after : List Sent) : List Sent := after.drop before.length

def daemonStep (ev : Daemon.LinkEvent) (s : Net) : Net :=
  let d := s.daemon.step P random ev
  { s with daemon := d, toMcu := s.toMcu ++ written s.daemon.wire d.wire }

def mcuStep (ev : McuEvent) (s : Net) : Net :=
  let m := s.mcu.step P ev
  { s with mcu := m, toDaemon := s.toDaemon ++ written s.mcu.wire m.wire }

/-- The tickets after a delivery in which `runs` handlers ran. -/
def note (f : Sent) (runs : Nat) (l : List Nat) : List Nat :=
  match f.ticket with
  | some k => l ++ List.replicate runs k
  | none => l

def receiveMcu (f : Sent) (hal : Hal) (s : Net) : Net :=
  let t := s.mcuStep P (.recv hal (some f.env))
  let runs := if requiresAck f.env.rawCommand then t.mcu.handled.length - s.mcu.handled.length else 0
  { t with calls := note f runs t.calls }

def receiveDaemon (f : Sent) (io : Daemon.Io) (s : Net) : Net :=
  let t := s.daemonStep P random (.packet io f.env)
  { t with frames := note f (t.daemon.executed.length - s.daemon.executed.length) t.frames }

/-- Events of one peer alone. A frame reaches a peer by delivery only. -/
def isLocalDaemon : Daemon.LinkEvent → Bool
  | .packet _ _ => false
  | _ => true

def isLocalMcu : McuEvent → Bool
  | .recv _ (some _) => false
  | _ => true

def step : NetEvent → Net → Net
  | .daemon ev, s => if isLocalDaemon ev then s.daemonStep P random ev else s
  | .mcu ev, s => if isLocalMcu ev then s.mcuStep P ev else s
  | .reboot postOk, s => { s with mcu := s.mcu.reboot postOk }
  | .deliverToMcu i hal, s =>
    match s.toMcu[i]? with
    | some f => { s with toMcu := s.toMcu.eraseIdx i }.receiveMcu P f hal
    | none => s
  | .deliverToDaemon i io, s =>
    match s.toDaemon[i]? with
    | some f => { s with toDaemon := s.toDaemon.eraseIdx i }.receiveDaemon P random f io
    | none => s
  | .loseToMcu i, s => { s with toMcu := s.toMcu.eraseIdx i }
  | .loseToDaemon i, s => { s with toDaemon := s.toDaemon.eraseIdx i }

/-- The frame the event hands to the MCU. -/
def handedToMcu (ev : NetEvent) (s : Net) : Option Sent :=
  match ev with
  | .deliverToMcu i _ => s.toMcu[i]?
  | _ => none

/-- The frame the event hands to the daemon. -/
def handedToDaemon (ev : NetEvent) (s : Net) : Option Sent :=
  match ev with
  | .deliverToDaemon i _ => s.toDaemon[i]?
  | _ => none

/-- The daemon before its first connection, and the board after `begin`. -/
def init (secret mcuSecret : Bytes) (timing : HandshakeConfig) (maxAttempts : Nat) (service : Daemon.Service)
    (postOk : Bool) : Net where
  daemon := { sharedSecret := secret, timing := timing, maxAttempts := maxAttempts, service := service }
  mcu := Mcu.boot mcuSecret postOk

end Net

/-! ### A run to evaluate -/

namespace Net

def sampleInit : Net := init [7] [7] ⟨200, 5, 5000⟩ 3 (.sample []) true

/-- The nonce of the handshakes below. -/
def handshakeNonce : Bytes := [1, 2, 3, 4, 5, 6, 7, 8, 9, 10, 11, 12, 13, 14, 15, 16]

/-- The command just sent to the MCU, its two answers, and the ACKs of the last one. -/
def sampleExchange : List NetEvent :=
  [.deliverToMcu 0 .sample, .deliverToDaemon 0 .sample, .deliverToDaemon 0 .sample, .deliverToMcu 0 .sample,
    .deliverToDaemon 0 .sample]

/-- A handshake in which nothing is lost. -/
def sampleHandshake (nonce : Bytes) : List NetEvent :=
  [.daemon (.beginAttempt true nonce)] ++ sampleExchange ++ [.daemon (.sendLinkSync true)] ++ sampleExchange ++
    [.daemon .endAttempt]

end Net
end McuBridge
