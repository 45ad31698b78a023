import Hdcp.Transport.Queues

/-!
# Packets numbered one after another

A party numbers the packets of a session from one on, and starts again at zero after 65535. A
command written again keeps its number.
-/

namespace Hdcp

/-- The packets carry the ids 1, 2, 3 and so on, modulo 65536. -/
def Numbered (messages : List Message) : Prop :=
  messages.map (fun message => message.packet.id) =
    (List.range messages.length).map fun index => UInt16.ofNat (index + 1)

/-- One more packet, under the next id. -/
theorem Numbered.snoc {messages : List Message} {message : Message} (numbered : Numbered messages)
    (next : message.packet.id = UInt16.ofNat messages.length + 1) :
    Numbered (messages ++ [message]) := by
  unfold Numbered at numbered ⊢
  rw [List.map_append, numbered, List.length_append, List.length_singleton, List.range_succ,
    List.map_append, List.map_singleton, List.map_singleton, next, UInt16.ofNat_add]
  rfl

/-- The packets written, without those that write a command again. -/
def firstWrites (messages : List Message) : List Message :=
  messages.foldl (fun kept message =>
    if message.call ≠ none ∧ message.call ∈ kept.map Message.call then kept
    else kept ++ [message]) []

/-- A packet is written for the first time. -/
theorem firstWrites_snoc {messages : List Message} {message : Message}
    (fresh : message.call = none ∨ message.call ∉ (firstWrites messages).map Message.call) :
    firstWrites (messages ++ [message]) = firstWrites messages ++ [message] := by
  have unwritten : ¬(message.call ≠ none ∧
      message.call ∈ (firstWrites messages).map Message.call) := by
    rintro ⟨called, written⟩
    rcases fresh with other | absent
    · exact called other
    · exact absent written
  unfold firstWrites at unwritten ⊢
  rw [List.foldl_append, List.foldl_cons, List.foldl_nil, if_neg unwritten]

/-- A command is written again. -/
theorem firstWrites_again {messages : List Message} {message : Message} {call : Nat}
    (names : message.call = some call)
    (written : some call ∈ (firstWrites messages).map Message.call) :
    firstWrites (messages ++ [message]) = firstWrites messages := by
  have again : message.call ≠ none ∧ message.call ∈ (firstWrites messages).map Message.call := by
    rw [names]
    exact ⟨Option.some_ne_none call, written⟩
  unfold firstWrites at again ⊢
  rw [List.foldl_append, List.foldl_cons, List.foldl_nil, if_pos again]

end Hdcp
