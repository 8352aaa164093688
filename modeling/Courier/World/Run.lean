import Courier.World.Registries

/-!
# Courier — runs

A run is a sequence of acts. Listeners perform acts of their own when they are called, during the
act that caused the call; `depth` bounds how far calls are nested.

* `World.call` — tells a listener of an event and lets it react;
* `World.perform` — one act, and what comes of it;
* `World.run` — a sequence of acts.
-/

namespace Courier.World

variable {L S : Type} (env : Surroundings L S)

/-- Performs an act, where `call` is what calling a listener does. -/
def performWith (call : L → Event → World L S → World L S) (act : Act L) (w : World L S) :
    Answer × World L S :=
  match act with
  | .node r nodeId => (nodeOf call r nodeId w).map .node id
  | .start r nodeId port => (startIn env call r nodeId port w).map .node id
  | .connect r nodeId a => (connectIn env call r nodeId a w).map .connection id
  | .send r nodeId payload target =>
    (sendIn env call r nodeId payload target w).map .connection id
  | .shutDown r => (shutDownRegistry env call r w).map (fun b => .shutDown (some b)) id
  | .startNode n port => (startNode env n port w).map .started id
  | .connectNode n a => (connectNode env call n a w).map .connection id
  | .sendFrom n payload target => (sendFrom env call n payload target w).map .connection id
  | .close n c reason => (.done, closeConnection call n c reason w)
  | .shutDownNode n => (shutDownNode env call n w).map .shutDown id
  | .ping c nonce => (ping env c nonce w).map .pinged id
  | .accept n stream origin => (.done, accept env call n stream origin w)
  | .read n c => (.done, readNext env call n c w)
  | .listen n l => (listen n l w).map .listening id
  | .unlisten n handle => (unlisten n handle w).map .removed id
  | .listenToRegistry r l => (listenToRegistry r l w).map .listening id
  | .unlistenToRegistry r handle => (unlistenToRegistry r handle w).map .removed id
  | .listenToNodes r l => (listenToNodes r l w).map .listening id
  | .unlistenToNodes r handle => (unlistenToNodes r handle w).map .removed id

/-- Tells a listener of an event, and performs what it does then. Its acts may call listeners in
turn, nested to a depth; at the greatest depth listeners do nothing. -/
def call : (depth : Nat) → L → Event → World L S → World L S
  | 0, l, e, w => w.log l e
  | depth + 1, l, e, w =>
    let w := w.log l e
    (env.react l e w).foldl (fun w act => (performWith env (call depth) act w).2) w

/-- Performs an act. -/
def perform (depth : Nat) (act : Act L) (w : World L S) : Answer × World L S :=
  performWith env (call env depth) act w

/-- Performs acts one after the other. -/
def run (depth : Nat) (acts : List (Act L)) (w : World L S) : List Answer × World L S :=
  acts.foldl
    (fun (answers, w) act =>
      let (answer, w) := perform env depth act w
      (answers ++ [answer], w)) ([], w)

end Courier.World
