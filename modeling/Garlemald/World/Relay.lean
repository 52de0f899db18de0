import Garlemald.World.Processor

/-!
The read loop of a map-server link. Control packets are handled by the server;
every other subpacket is relayed to the client of its target session, on the
zone channel or else on the chat channel, and dropped without a target.
-/

namespace Garlemald.World
open Library Garlemald.Common

inductive RelayRoute where
  | worldPacket
  | client (connSeq : UInt64)
  | noTarget
  | unknownSession
deriving DecidableEq, Repr

namespace Server

variable {δ : Type} (db : Database δ) (inflate : Bytes → Option Bytes) (now : UInt32)

def relayRoute (w : Server δ) (sub : SubPacket) : RelayRoute :=
  if isWorldPacket sub then .worldPacket
  else
    let target := sub.header.targetId
    if target = 0 then .noTarget
    else match (w.sessions.get .zone target).or (w.sessions.get .chat target) with
      | some session => .client session.client.connSeq
      | none => .unknownSession

def relaySubPacket (w : Server δ) (sub : SubPacket) : Server δ :=
  match w.relayRoute sub with
  | .worldPacket => (handleWorldPacket db now sub w).1
  | .client connSeq => w.sendClient connSeq sub
  | .noTarget => w
  | .unknownSession => w

/-- A frame that does not inflate or split is passed over. -/
def relayFrame (frame : Bytes) (w : Server δ) : Server δ :=
  match subpacketsOf inflate frame with
  | .ok subs => subs.foldl (relaySubPacket db now) w
  | _ => w

theorem relayFrame_wrap {p : SubPacket} (sized : p.Sized) {time : UInt64}
    (fits : basepacketSize + p.encoding.length < 0x10000) (w : Server δ) :
    relayFrame db inflate now (wrapSubpacketsInBasepacket time p.encoding) w =
      relaySubPacket db now w p := by
  rw [relayFrame, subpacketsOf_wrap inflate time sized fits]
  rfl

end Server
end Garlemald.World
