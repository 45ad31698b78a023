import Hdcp.Packet.Format

/-!
# Transports as the protocol sees them

A transport takes the packets to write, hands over the packets read, and may be closed. The two
queues of a transport that never fails are one.
-/

namespace Hdcp

/-- A packet given to the transport. The transport sees the packet; `call` is bookkeeping of the
model, the identifier of the request the packet was written for. -/
structure Message where
  /-- The packet. -/
  packet : Packet
  /-- The request it belongs to; packets other than commands belong to none. -/
  call : Option Nat
  deriving DecidableEq

/-- `Transport`, with states `τ`. -/
structure Transport (τ : Type) where
  /-- `is_open`. -/
  isOpen : τ → Bool
  /-- `write` — the exception it raises, if any, and the transport after it. -/
  write : τ → Message → Option TransportExn × τ
  /-- `read` — the packet read, if one is there in time, and the transport after it. -/
  read : τ → Option Message × τ
  /-- `clear_queues`. -/
  clearQueues : τ → τ
  /-- `error_code`. -/
  errorCode : τ → Option ErrorCode

/-- A packet is read, or the queues are cleared. -/
def Transport.Moves {τ : Type} (transport : Transport τ) (before after : τ) : Prop :=
  after = (transport.read before).2 ∨ after = transport.clearQueues before

/-- `write_queue_` and `read_queue_`, oldest packet first. -/
structure Queues where
  /-- Packets not yet on the wire. -/
  writeQueue : List Message
  /-- Packets not yet read. -/
  readQueue : List Message
  deriving DecidableEq

namespace Queues

/-- Two empty queues. -/
def empty : Queues := ⟨[], []⟩

/-- The oldest packet is read, if there is one. -/
def read (queues : Queues) : Option Message × Queues :=
  match queues.readQueue with
  | [] => (none, queues)
  | message :: rest => (some message, { queues with readQueue := rest })

/-- Reading leaves the packets to write. -/
@[simp] theorem read_writeQueue (queues : Queues) :
    queues.read.2.writeQueue = queues.writeQueue := by
  unfold read
  split
  · rfl
  · rfl

/-- A transport that is always open and has room for every packet. -/
def transport : Transport Queues where
  isOpen := fun _ => true
  write := fun queues message =>
    (none, { queues with writeQueue := queues.writeQueue ++ [message] })
  read := read
  clearQueues := fun _ => empty
  errorCode := fun _ => none

end Queues

end Hdcp
