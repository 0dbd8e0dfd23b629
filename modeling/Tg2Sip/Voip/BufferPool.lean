/-
`BufferPool`: buffers handed out by a bit set.

`usedBuffers` has one bit for each buffer.  `Get` returns the first buffer whose
bit is not set and sets the bit; `Reuse` clears it.  A buffer is named by its
index; pointers that are not from the pool do not occur.
-/

import Mathlib.Data.Fintype.Card
import Tg2Sip.Lib.Ownership

namespace Tg2Sip.Voip

structure BufferPool (bufferCount : Nat) where
  usedBuffers : BitVec 64
  deriving DecidableEq, Repr

variable {bufferCount : Nat} {pool : BufferPool bufferCount}

def BufferPool.empty : BufferPool bufferCount := ⟨0⟩

def BufferPool.used (pool : BufferPool bufferCount) (buffer : Fin bufferCount) : Bool :=
  pool.usedBuffers.getLsbD buffer.val

def BufferPool.get (pool : BufferPool bufferCount) :
    Option (Fin bufferCount) × BufferPool bufferCount :=
  match (List.finRange bufferCount).find? (fun buffer => !pool.used buffer) with
  | some buffer => (some buffer, ⟨pool.usedBuffers ||| (1#64 <<< buffer.val)⟩)
  | none => (none, pool)

def BufferPool.reuse (pool : BufferPool bufferCount) (buffer : Fin bufferCount) :
    BufferPool bufferCount :=
  ⟨pool.usedBuffers &&& ~~~(1#64 <<< buffer.val)⟩

theorem oneBit {position other : Nat} (inside : position < 64) :
    (1#64 <<< position).getLsbD other = decide (other = position) := by
  rw [BitVec.getLsbD_shiftLeft, BitVec.getLsbD_one]
  by_cases same : other = position
  · subst same
    simp [inside]
  · rw [decide_eq_false same]
    by_cases before : other < position
    · simp [before]
    · have later : other - position ≠ 0 := by omega
      simp [later]

section Small

variable (small : bufferCount ≤ 64)
include small

theorem used_reuse (buffer other : Fin bufferCount) :
    (pool.reuse buffer).used other = (pool.used other && !decide (other = buffer)) := by
  have inside : buffer.val < 64 := Nat.lt_of_lt_of_le buffer.isLt small
  have otherInside : other.val < 64 := Nat.lt_of_lt_of_le other.isLt small
  unfold BufferPool.reuse BufferPool.used
  rw [BitVec.getLsbD_and, BitVec.getLsbD_not, oneBit inside, decide_eq_true otherInside,
    Bool.true_and]
  simp only [Fin.ext_iff]

theorem used_get {buffer : Fin bufferCount} (got : pool.get.1 = some buffer)
    (other : Fin bufferCount) :
    pool.used buffer = false ∧
      pool.get.2.used other = (pool.used other || decide (other = buffer)) := by
  have inside : buffer.val < 64 := Nat.lt_of_lt_of_le buffer.isLt small
  unfold BufferPool.get at got ⊢
  split at got
  · rename_i first found
    cases Option.some.inj got
    have unused := List.find?_some found
    rw [Bool.not_eq_true'] at unused
    refine ⟨unused, ?_⟩
    unfold BufferPool.used
    rw [BitVec.getLsbD_or, oneBit inside]
    simp only [Fin.ext_iff]
  · cases got

end Small

/-- The pool fails only when every buffer is used. -/
theorem get_some {buffer : Fin bufferCount} (free : pool.used buffer = false) :
    ∃ first, pool.get.1 = some first := by
  have found : ((List.finRange bufferCount).find? (fun other => !pool.used other)).isSome := by
    rw [List.find?_isSome]
    exact ⟨buffer, List.mem_finRange buffer, by rw [free]; rfl⟩
  obtain ⟨first, same⟩ := Option.isSome_iff_exists.mp found
  refine ⟨first, ?_⟩
  unfold BufferPool.get
  rw [same]

end Tg2Sip.Voip
