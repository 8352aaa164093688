import Courier.Link.Socket

/-!
# Courier — the clear network

How an address is reached over the clear network: hidden services are refused, the machines that the
address names are tried one after the other, and the first that answers is taken.

* `ClearNet` — what the operating system does;
* `ClearNet.connect` — the stream to an address, or why there is none.
-/

namespace Courier

/-- What the operating system does for streams over the clear network, in a state `S` of its own. -/
structure ClearNet (S : Type) where
  /-- The machines that an address names, or why it names none. -/
  resolve : Address → S → Except String (List Address) × S
  /-- Opens a stream to a machine, for which there are so many milliseconds. -/
  openStream : Address → UInt64 → S → Except String StreamEnd × S
  /-- From now on what is written to a stream is sent at once. -/
  setNoDelay : StreamEnd → S → Except IoFailure Unit × S

namespace ClearNet

variable {S : Type} (net : ClearNet S)

/-- The stream to the first machine that answers, or the failure of the last one; `e`, if there is
none to be tried. -/
def firstOf (timeoutMs : UInt64) : List Address → NetworkError → S →
    Except NetworkError StreamEnd × S
  | [], e, s => (.error e, s)
  | machine :: machines, _, s =>
    match net.openStream machine timeoutMs s with
    | (.error reason, s) => firstOf timeoutMs machines (.connectionFailed reason) s
    | (.ok stream, s) =>
      match net.setNoDelay stream s with
      | (.error f, s) => (.error (.ofIo f), s)
      | (.ok _, s) => (.ok stream, s)

/-- Opens a stream to an address (`ClearNetTransport.connect`). -/
def connect (a : Address) (timeoutMs : UInt64) (s : S) : Except NetworkError StreamEnd × S :=
  if !a.isClearNet then
    (.error (.connectionFailed s!"{Transport.clearNet.text} transport cannot reach {a.text}"), s)
  else
    match net.resolve a s with
    | (.error reason, s) => (.error (.invalidAddress s!"{a.text}: {reason}"), s)
    | (.ok machines, s) =>
      net.firstOf timeoutMs machines (.invalidAddress s!"{a.text}: no addresses") s

end ClearNet

end Courier
