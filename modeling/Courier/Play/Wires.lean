import Courier.Link.ClearNet
import Courier.World.Run

/-!
# Courier — the network of a play

The network on which a play is performed. Servers of a registry are bound on a host of its own
choice, on ports that are counted over the whole play, or on the machine itself. Every stream has
two ends, of which the dialer has the even number.

The machine may be without a network. Then servers can still be bound, but no stream is opened, and
a server that was bound cannot be stopped, since nobody can wake it.

* `Wires` — the state of the network;
* `surroundings` — nodes on this network.
-/

namespace Courier.Play

/-- The listeners of a play. -/
inductive Watcher where
  /-- Records what the nodes of a registry report. -/
  | nodes (r : RegistryRef)
  /-- Records the nodes that join and leave a registry. -/
  | registry (r : RegistryRef)
  /-- Does not return when its node shuts down, until it is released. -/
  | hanging
  /-- Hands sealed messages to a service. -/
  | mail (service : String)
deriving DecidableEq, Repr

/-- Where the nodes of a registry are. -/
inductive Site where
  /-- On a host of this name, in which `{node}` stands for the id of the node. -/
  | host (template : String)
  /-- On the machine itself. -/
  | machine (bindHost : String)
deriving DecidableEq, Repr, Inhabited

/-- Who answers at an address. -/
inductive Server where
  | node (r : RegistryRef) (id : String)
  | peer (name : String)
deriving DecidableEq, Repr, Inhabited

/-- A stream that was opened and that nobody has answered yet. -/
structure Opening where
  server : Server
  /-- The end of the one who answers. -/
  stream : StreamEnd
  origin : Address
deriving DecidableEq, Repr, Inhabited

structure Wires where
  /-- Streams can be opened. -/
  reachable : Bool
  sites : List (RegistryRef × Site)
  /-- The next port of a host, and the next one of the machine. -/
  nextPort : Nat
  nextMachinePort : Nat
  /-- The addresses that are taken. -/
  served : List (Address × Server)
  /-- The addresses on the machine that are taken. -/
  machineServed : List (Address × Server)
  /-- The ports of the machine that were taken, and for whom. -/
  machinePorts : List (UInt16 × Server)
  /-- The number of streams so far. -/
  streams : Nat
  openings : List Opening
  /-- The ends that were given up. -/
  hungUp : List Socket
  /-- The nodes whose shutdown waits for a listener, with the listeners still to be told. -/
  waiting : List (NodeRef × List (NodeListener Watcher))
  /-- Listeners do not wait any more. -/
  released : Bool
deriving DecidableEq

namespace Wires

def start (reachable : Bool) : Wires :=
  ⟨reachable, [], 7001, 40001, [], [], [], 0, [], [], [], false⟩

def site (r : RegistryRef) (w : Wires) : Site := (w.sites.lookup r).getD (.host "10.0.0.1")

/-- The local address of the end of a stream. -/
def localAddress (number : Nat) : Address := .localhost (UInt16.ofNat (50000 + number))

/-- An end on which nothing has arrived yet. -/
def idleEnd (number : Nat) : StreamEnd := ⟨number, ⟨[], [], .stalled⟩, .unlimited⟩

/-- Opens a stream to a server: the end of the dialer. -/
def openTo (server : Server) (w : Wires) : StreamEnd × Wires :=
  let number := 2 * w.streams
  (idleEnd number,
    { w with
      streams := w.streams + 1
      openings := w.openings ++ [⟨server, idleEnd (number + 1), localAddress number⟩] })

/-- The failure of a machine that is without a network. -/
def unreachable : String := "Network is unreachable (os error 101)"

/-- The failure of a machine without addresses of the kind that is asked for. -/
def noAddress : String := "Cannot assign requested address (os error 99)"

/-- Why a host is not reached without a network: such a machine has addresses of four bytes only. -/
def whyUnreachable (host : String) : String := if host.contains ':' then noAddress else unreachable

/-- Takes an address that nobody has taken. -/
def serve (a : Address) (server : Server) (w : Wires) : Except NetworkError Address × Wires :=
  if (w.served.lookup a).isSome then
    (.error (.connectionFailed "bind failed: address in use"), w)
  else (.ok a, { w with served := w.served ++ [(a, server)] })

/-- Takes an address on a host, on the next port for port zero. -/
def bindOnHost (template : String) (server : Server) (id : String) (port : UInt16) (w : Wires) :
    Except NetworkError Address × Wires :=
  let (port, w) :=
    if port = 0 then (UInt16.ofNat w.nextPort, { w with nextPort := w.nextPort + 1 })
    else (port, w)
  w.serve ⟨template.replace "\x7bnode\x7d" id, port⟩ server

/-- Takes an address on the machine. -/
def bindOnMachine (bindHost : String) (server : Server) (port : UInt16) (w : Wires) :
    Except NetworkError Address × Wires :=
  let (port, w) :=
    if port = 0 then
      (UInt16.ofNat w.nextMachinePort, { w with nextMachinePort := w.nextMachinePort + 1 })
    else (port, w)
  let a : Address := ⟨bindHost, port⟩
  let refuse (reason : String) :=
    (Except.error (NetworkError.connectionFailed s!"bind failed: {reason}"), w)
  if (w.machineServed.lookup a).isSome then refuse "Address already in use (os error 98)"
  else if !w.reachable && bindHost.contains ':' && bindHost != "::" then refuse noAddress
  else
    (.ok a, { w with
      machineServed := w.machineServed ++ [(a, server)]
      machinePorts := w.machinePorts ++ [(port, server)] })

def bind (r : RegistryRef) (id : String) (port : UInt16) (w : Wires) :
    Except NetworkError Address × Wires :=
  match w.site r with
  | .host template => w.bindOnHost template (.node r id) id port
  | .machine bindHost => w.bindOnMachine bindHost (.node r id) port

/-- Opens a stream to whoever serves an address on a host. -/
def dialHost (a : Address) (w : Wires) : Except NetworkError StreamEnd × Wires :=
  if a.host = "slow" then (.error .timeout, w)
  else
    match w.served.lookup a with
    | some server =>
      if w.reachable then
        let (stream, w) := w.openTo server
        (.ok stream, w)
      else (.error (.connectionFailed s!"no route to {a.text}"), w)
    | none => (.error (.connectionFailed s!"no route to {a.text}"), w)

/-- The machine of a play, on which every address names itself. -/
def machine : ClearNet Wires where
  resolve a w := (.ok [a], w)
  openStream a timeoutMs w :=
    if !w.reachable then (.error (whyUnreachable a.host), w)
    else if timeoutMs = 0 then (.error IoFailure.noTime.text, w)
    else
      match w.machineServed.lookup a with
      | some server =>
        let (stream, w) := w.openTo server
        (.ok stream, w)
      | none => (.error "Connection refused (os error 111)", w)
  setNoDelay _ w := (.ok (), w)

/-- Opens a stream to whoever serves an address on the machine. -/
def dialMachine (a : Address) (timeoutMs : UInt64) (w : Wires) :
    Except NetworkError StreamEnd × Wires :=
  machine.connect a timeoutMs w

def dial (r : RegistryRef) (a : Address) (timeoutMs : UInt64) (w : Wires) :
    Except NetworkError StreamEnd × Wires :=
  match w.site r with
  | .host _ => w.dialHost a
  | .machine _ => w.dialMachine a timeoutMs

/-- Stops the server at an address and frees the address. -/
def stopServer (a : Address) (w : Wires) : Bool × Wires :=
  if w.reachable then
    (true, { w with
      served := w.served.filter fun e => e.1 ≠ a
      machineServed := w.machineServed.filter fun e => e.1 ≠ a })
  else (false, w)

def hangUp (socket : Socket) (w : Wires) : Wires := { w with hungUp := w.hungUp ++ [socket] }

end Wires

/-- The id of a connection. -/
def connectionId (k : Nat) : String :=
  let digits := Hex.ofNat k
  "c0ffee00-0000-4000-8000-" ++ String.ofList (List.replicate (12 - digits.length) '0' ++ digits)

/-- Nodes on the wires, whose listeners do nothing with them. Every connection finds a reader. -/
def surroundings : Surroundings Watcher Wires where
  react _ _ _ := []
  bind := Wires.bind
  dial := Wires.dial
  stopServer := Wires.stopServer
  hangUp := Wires.hangUp
  startReader _ w := (.ok (), w)
  connectionId := connectionId
  timing := ⟨0, 0⟩

/-- Telling a listener of a play leaves a note of it. -/
def note : Watcher → Event → World Watcher Wires → World Watcher Wires :=
  World.call surroundings 0

end Courier.Play
