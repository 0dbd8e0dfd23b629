/-
Buffered channels.

A channel is a queue with a capacity.  A send into a full channel and a
receive from an empty one do not return, which is the answer `none`.
-/

import Mathlib.Logic.Function.Basic

structure Channel (capacity : Nat) (Value : Type) where
  buffer : List Value
  bounded : buffer.length ≤ capacity

namespace Channel

variable {capacity : Nat} {Value : Type}

def empty : Channel capacity Value := ⟨[], Nat.zero_le capacity⟩

def free (channel : Channel capacity Value) : Nat := capacity - channel.buffer.length

def send (channel : Channel capacity Value) (value : Value) : Option (Channel capacity Value) :=
  if room : channel.buffer.length < capacity then
    some ⟨channel.buffer ++ [value], by rw [List.length_append]; exact room⟩
  else none

def receive (channel : Channel capacity Value) : Option (Value × Channel capacity Value) :=
  match shape : channel.buffer with
  | [] => none
  | value :: rest =>
      some (value, ⟨rest, by
        have bounded := channel.bounded
        rw [shape, List.length_cons] at bounded
        omega⟩)

theorem send_buffer {channel sent : Channel capacity Value} {value : Value}
    (sends : channel.send value = some sent) : sent.buffer = channel.buffer ++ [value] := by
  unfold send at sends
  split at sends
  · cases sends
    rfl
  · cases sends

theorem receive_buffer {channel rest : Channel capacity Value} {value : Value}
    (receives : channel.receive = some (value, rest)) :
    channel.buffer = value :: rest.buffer := by
  unfold receive at receives
  split at receives
  · cases receives
  · cases receives
    assumption

theorem free_of_send {channel sent : Channel capacity Value} {value : Value}
    (sends : channel.send value = some sent) : sent.free + 1 = channel.free := by
  have room : channel.buffer.length < capacity := by
    unfold send at sends
    split at sends
    · assumption
    · cases sends
  unfold free
  rw [send_buffer sends, List.length_append, List.length_singleton]
  omega

theorem send_eq_none_iff {channel : Channel capacity Value} {value : Value} :
    channel.send value = none ↔ channel.free = 0 := by
  have bounded := channel.bounded
  unfold send free
  split
  · constructor
    · exact nofun
    · intro full
      omega
  · constructor
    · intro _
      omega
    · exact fun _ => rfl

end Channel
