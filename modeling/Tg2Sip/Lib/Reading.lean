/-
Readers of a format, and what is written for them.

A text is read when the reader, wherever the text stands, takes exactly the
text and returns the value that was written, and when every part of the text
that lacks its end is refused.  The two halves compose along a sequence of
readers: a part of two texts lacks either the end of the first or the end of
the second.
-/

import Mathlib.Data.List.Basic

namespace Reading

variable {Stream Symbol Fault Value Other : Type}

/-- A stream: what is still to be read, and how to go on. -/
structure Source (Stream Symbol : Type) where
  remaining : Stream → List Symbol
  advance : Nat → Stream → Stream
  remaining_advance : ∀ count stream,
    remaining (advance count stream) = (remaining stream).drop count
  advance_zero : ∀ stream, advance 0 stream = stream
  advance_advance : ∀ first second stream,
    advance second (advance first stream) = advance (first + second) stream

abbrev Reader (Stream Fault : Type) := StateT Stream (Except Fault)

/-- The reader takes the text and nothing else, and starves on less. -/
structure Reads (source : Source Stream Symbol) (short : Fault)
    (reader : Reader Stream Fault Value) (text : List Symbol) (value : Value) : Prop where
  whole : ∀ stream rest, source.remaining stream = text ++ rest →
    reader.run stream = .ok (value, source.advance text.length stream)
  starved : ∀ stream missing, missing ≠ [] → source.remaining stream ++ missing = text →
    reader.run stream = .error short

variable {source : Source Stream Symbol} {short : Fault} {reader : Reader Stream Fault Value}
  {text tail : List Symbol} {value : Value} {other : Other}

theorem Source.remaining_behind {stream : Stream} {rest : List Symbol}
    (stands : source.remaining stream = text ++ rest) :
    source.remaining (source.advance text.length stream) = rest := by
  rw [source.remaining_advance, stands, List.drop_left]

theorem Reads.pure : Reads source short (pure value) [] value where
  whole := by
    intro stream rest stands
    rw [List.length_nil, source.advance_zero]
    rfl
  starved := by
    intro stream missing some none
    exact absurd (List.append_eq_nil_iff.mp none).2 some

theorem part_of_append {part missing : List Symbol}
    (whole : part ++ missing = text ++ tail) :
    (∃ lacking, lacking ≠ [] ∧ part ++ lacking = text) ∨
      ∃ rest, part = text ++ rest ∧ rest ++ missing = tail := by
  rcases List.append_eq_append_iff.mp whole with ⟨middle, first, second⟩ | ⟨middle, first, second⟩
  · by_cases empty : middle = []
    · right
      refine ⟨[], ?_, ?_⟩
      · rw [first, empty, List.append_nil, List.append_nil]
      · rw [second, empty, List.nil_append, List.nil_append]
    · left
      exact ⟨middle, empty, first.symm⟩
  · right
    exact ⟨middle, first, second.symm⟩

theorem Reads.bind {next : Value → Reader Stream Fault Other}
    (first : Reads source short reader text value)
    (second : Reads source short (next value) tail other) :
    Reads source short (reader >>= next) (text ++ tail) other where
  whole := by
    intro stream rest stands
    rw [List.append_assoc] at stands
    have behind := source.remaining_behind stands
    rw [StateT.run_bind, first.whole stream _ stands]
    change (next value).run _ = _
    rw [second.whole _ rest behind, source.advance_advance, List.length_append]
  starved := by
    intro stream missing some part
    rw [StateT.run_bind]
    rcases part_of_append part with ⟨lacking, nonempty, less⟩ | ⟨rest, stands, less⟩
    · rw [first.starved stream lacking nonempty less]
      rfl
    · rw [first.whole stream rest stands]
      change (next value).run _ = _
      apply second.starved _ missing some
      rw [source.remaining_behind stands, less]

theorem Reads.map (function : Value → Other) (reads : Reads source short reader text value) :
    Reads source short (function <$> reader) text (function value) where
  whole := by
    intro stream rest stands
    rw [StateT.run_map, reads.whole stream rest stands]
    rfl
  starved := by
    intro stream missing some part
    rw [StateT.run_map, reads.starved stream missing some part]
    rfl

theorem Reads.last {next : Value → Reader Stream Fault Other}
    (first : Reads source short reader text value)
    (second : Reads source short (next value) [] other) :
    Reads source short (reader >>= next) text other := by
  have both := first.bind second
  rw [List.append_nil] at both
  exact both

def many (reader : Reader Stream Fault Value) : Nat → Reader Stream Fault (List Value)
  | 0 => pure []
  | count + 1 => do
      let value ← reader
      let values ← many reader count
      pure (value :: values)

theorem Reads.many {write : Value → List Symbol} {values : List Value}
    (each : ∀ value ∈ values, Reads source short reader (write value) value) :
    Reads source short (many reader values.length) (values.flatMap write) values := by
  induction values with
  | nil => exact Reads.pure
  | cons value values ih =>
      have rest := ih (fun value member => each value (List.mem_cons_of_mem _ member))
      rw [List.flatMap_cons]
      exact (each value List.mem_cons_self).bind (rest.last Reads.pure)

def Ensures (reader : Reader Stream Fault Value) (property : Value → Prop) : Prop :=
  ∀ stream value behind, reader.run stream = .ok (value, behind) → property value

theorem Ensures.any : Ensures reader (fun _ => True) := fun _ _ _ _ => trivial

theorem Ensures.holds {property : Value → Prop} (ensures : Ensures reader property)
    {stream : Stream} (read : reader.run' stream = .ok value) : property value := by
  rw [StateT.run'_eq] at read
  cases result : reader.run stream with
  | error fault =>
      rw [result] at read
      cases read
  | ok returned =>
      rw [result] at read
      cases read
      exact ensures stream returned.1 returned.2 result

theorem Ensures.pure {property : Value → Prop} (holds : property value) :
    Ensures (pure value : Reader Stream Fault Value) property := by
  intro stream returned behind read
  cases read
  exact holds

theorem Ensures.bind {property : Value → Prop} {next : Value → Reader Stream Fault Other}
    {last : Other → Prop} (first : Ensures reader property)
    (second : ∀ value, property value → Ensures (next value) last) :
    Ensures (reader >>= next) last := by
  intro stream returned behind read
  rw [StateT.run_bind] at read
  cases middle : reader.run stream with
  | error fault =>
      rw [middle] at read
      cases read
  | ok result =>
      obtain ⟨value, between⟩ := result
      rw [middle] at read
      exact second value (first stream value between middle) between returned behind read

theorem Ensures.many {property : Value → Prop} (each : Ensures reader property) (count : Nat) :
    Ensures (many reader count) (fun values => ∀ value ∈ values, property value) := by
  induction count with
  | zero => exact Ensures.pure (List.forall_mem_nil _)
  | succ count ih =>
      have rest (value : Value) (holds : property value) : Ensures (do
          let values ← Reading.many reader count
          return value :: values) (fun values => ∀ value ∈ values, property value) :=
        ih.bind (fun values others => Ensures.pure (List.forall_mem_cons.mpr ⟨holds, others⟩))
      exact each.bind rest

/-- The values that are read before the reader fails, and the failure or what
is left of the stream. -/
def collect (reader : Reader Stream Fault Value) : Nat → Stream → List Value × Except Fault Stream
  | 0, stream => ([], .ok stream)
  | count + 1, stream =>
      match reader.run stream with
      | .error fault => ([], .error fault)
      | .ok (value, behind) =>
          let (values, rest) := collect reader count behind
          (value :: values, rest)

theorem collect_of_many {count : Nat} {stream behind : Stream} {values : List Value}
    (read : (many reader count).run stream = .ok (values, behind)) :
    collect reader count stream = (values, .ok behind) := by
  induction count generalizing stream values with
  | zero =>
      cases read
      rfl
  | succ count ih =>
      rw [Reading.many, StateT.run_bind] at read
      rw [collect]
      cases first : reader.run stream with
      | error fault =>
          rw [first] at read
          cases read
      | ok result =>
          obtain ⟨value, middle⟩ := result
          rw [first] at read
          change (Reading.many reader count >>= fun values =>
            (Pure.pure (value :: values) : Reader Stream Fault _)).run middle = _ at read
          rw [StateT.run_bind] at read
          cases later : (many reader count).run middle with
          | error fault =>
              rw [later] at read
              cases read
          | ok result =>
              obtain ⟨others, last⟩ := result
              rw [later] at read
              cases read
              dsimp only
              rw [ih later]

end Reading
