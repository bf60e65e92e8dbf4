import Lox.Interpreter

/-!
# Writing to a sink

A text is written as a whole to a sink without a limit. A sink that holds at most so many bytes
takes a text as a whole if it fits, and else as much of it as fits.

## Main definitions

* `Sink.Precedes`: a sink to which more has been written.
* `Sink.Limitless`: a sink whose device takes everything.
* `Interpreter.appended`: a state after a text was written.
* `Interpreter.limited`, `Interpreter.filled`: the same state with a sink that holds so many bytes,
  as it is and after the sink has overflowed.

## Main results

* `Interpreter.write_of_takesAll`, `Interpreter.write_limited_of_le`,
  `Interpreter.write_limited_of_lt`: what writing does.
* `Interpreter.flush_limited`: what flushing does.
-/

namespace Lox

/-! ### The first bytes -/

section Bytes

variable {a c : ByteArray} {b : Nat}

theorem extract_of_size_le (h : a.size ≤ b) : a.extract 0 b = a := by
  have whole : a.extract 0 (max b a.size) = a := ByteArray.extract_zero_max_size
  rwa [Nat.max_eq_left h] at whole

theorem extract_append_of_le (h : b ≤ a.size) : (a ++ c).extract 0 b = a.extract 0 b := by
  rw [ByteArray.extract_append, Nat.sub_eq_zero_of_le h, Nat.zero_sub, ByteArray.extract_same,
    ByteArray.append_empty]

theorem extract_append_of_ge (h : a.size ≤ b) :
    (a ++ c).extract 0 b = a ++ c.extract 0 (b - a.size) := by
  rw [ByteArray.extract_append, extract_of_size_le h, Nat.zero_sub]

theorem extract_min_size (a : ByteArray) (b : Nat) :
    a.extract 0 (min b a.size) = a.extract 0 b := by
  have isExtract : (a.extract 0 a.size).extract 0 b = a.extract (0 + 0) (min (0 + b) a.size) :=
    ByteArray.extract_extract
  rw [ByteArray.extract_zero_size, Nat.zero_add, Nat.zero_add] at isExtract
  exact isExtract.symm

end Bytes

/-! ### Sinks -/

/-- A sink becomes another one by what it is asked for. -/
structure Sink.Precedes (sink sink' : Sink) : Prop where
  device : sink'.device = sink.device
  written : ∃ bytes, sink'.written = sink.written ++ bytes

/-- The device of a sink takes everything. It may refuse to be flushed, always for one reason. -/
structure Sink.Limitless (sink : Sink) : Prop where
  takesAll : sink.device.TakesAll
  refusal : ∃ refusal, ∀ memory, (sink.device.flush memory).map Prod.fst = refusal

namespace Sink

variable {sink : Sink}

/-- A sink that never fails is limitless. -/
theorem limitless_of_flushes (takesAll : sink.device.TakesAll) (flushes : sink.device.Flushes) :
    sink.Limitless :=
  ⟨takesAll, none, fun memory => by rw [flushes]; rfl⟩

theorem precedes_write (sink : Sink) (text : String) : sink.Precedes (sink.write text).2 := by
  unfold write
  split <;> exact ⟨rfl, _, rfl⟩

theorem precedes_flush (sink : Sink) : sink.Precedes sink.flush.2 := by
  unfold flush
  split <;> exact ⟨rfl, .empty, ByteArray.append_empty.symm⟩

end Sink

namespace Sink.Precedes

variable {sink sink' sink'' : Sink}

theorem refl (sink : Sink) : sink.Precedes sink :=
  ⟨rfl, .empty, ByteArray.append_empty.symm⟩

theorem trans (h : sink.Precedes sink') (h' : sink'.Precedes sink'') : sink.Precedes sink'' := by
  obtain ⟨bytes, isWritten⟩ := h.written
  obtain ⟨bytes', isWritten'⟩ := h'.written
  refine ⟨h'.device.trans h.device, bytes ++ bytes', ?_⟩
  rw [isWritten', isWritten, ByteArray.append_assoc]

theorem limitless (h : sink.Precedes sink') (limitless : sink.Limitless) : sink'.Limitless :=
  ⟨h.device ▸ limitless.takesAll, h.device ▸ limitless.refusal⟩

theorem size_le (h : sink.Precedes sink') : sink.written.size ≤ sink'.written.size := by
  obtain ⟨bytes, isWritten⟩ := h.written
  rw [isWritten, ByteArray.size_append]
  exact Nat.le_add_right _ _

/-- What is written later does not change the first bytes. -/
theorem extract_eq {b : Nat} (h : sink.Precedes sink') (le : b ≤ sink.written.size) :
    sink'.written.extract 0 b = sink.written.extract 0 b := by
  obtain ⟨bytes, isWritten⟩ := h.written
  rw [isWritten]
  exact extract_append_of_le le

end Sink.Precedes

/-! ### States -/

namespace Interpreter

variable {i : Interpreter} {b : Nat} {reason text : String}

/-- A state after a text is written to its sink. -/
def appended (i : Interpreter) (text : String) : Interpreter :=
  { i with sink := { i.sink with
    written := i.sink.written ++ text.toUTF8
    memory := (i.sink.device.write i.sink.memory text).memory } }

/-- A state whose sink holds so many bytes at most. -/
def limited (b : Nat) (reason : String) (i : Interpreter) : Interpreter :=
  { i with sink := ⟨i.sink.written, i.sink.device.limited b reason, i.sink.written.size⟩ }

/-- A state whose sink is full: it holds the first bytes of what was to be written. -/
def filled (b : Nat) (reason : String) (i : Interpreter) : Interpreter :=
  limited b reason { i with sink := { i.sink with written := i.sink.written.extract 0 b } }

theorem heap_limited : (i.limited b reason).heap = i.heap :=
  rfl

theorem precedes_write (i : Interpreter) (text : String) :
    i.sink.Precedes (i.write text).2.sink :=
  i.sink.precedes_write text

theorem precedes_flush (i : Interpreter) : i.sink.Precedes i.flush.2.sink :=
  i.sink.precedes_flush

/-- Flushing has no effect where it never fails. -/
theorem flush_of_flushes (flushes : i.sink.device.Flushes) : i.flush = (none, i) := by
  unfold flush Sink.flush
  rw [flushes]

/-- Flushing puts nothing out. -/
theorem written_flush (i : Interpreter) : i.flush.2.sink.written = i.sink.written := by
  unfold flush Sink.flush
  cases i.sink.device.flush i.sink.memory <;> rfl

/-- A limit does not change what flushing does. -/
theorem flush_limited (limitless : i.sink.Limitless) :
    (i.limited b reason).flush = (i.flush.1, i.flush.2.limited b reason) := by
  obtain ⟨-, refusal, isRefusal⟩ := limitless
  have now := isRefusal i.sink.memory
  have limited := isRefusal i.sink.written.size
  have isResponse : (i.limited b reason).sink.device.flush (i.limited b reason).sink.memory =
      (i.sink.device.flush i.sink.written.size).map fun failure =>
        (failure.1, i.sink.written.size) := rfl
  unfold flush Sink.flush
  rw [isResponse]
  rw [← now] at limited
  cases isFailure : i.sink.device.flush i.sink.memory with
  | none =>
    rw [isFailure] at limited
    rw [Option.map_eq_none_iff.1 limited]
    rfl
  | some failure =>
    rw [isFailure] at limited
    obtain ⟨failure', isFailure', isReason⟩ := Option.map_eq_some_iff.1 limited
    rw [isFailure', Option.map_some, isReason]
    rfl

/-- All of a text is written to a sink without a limit. -/
theorem write_of_takesAll (takesAll : i.sink.device.TakesAll) (text : String) :
    i.write text = (none, i.appended text) := by
  obtain ⟨memory, isResponse⟩ := takesAll i.sink.memory text
  unfold write Sink.write appended
  rw [isResponse]
  rfl

/-- All of a text that fits is written to a sink. -/
theorem write_limited_of_le (fits : (i.appended text).sink.written.size ≤ b) :
    (i.limited b reason).write text = (none, (i.appended text).limited b reason) := by
  have isSize : (i.appended text).sink.written.size =
      i.sink.written.size + text.toUTF8.size := ByteArray.size_append
  have hasRoom : text.toUTF8.size ≤ b - i.sink.written.size := by omega
  have isResponse : (i.limited b reason).sink.device.write (i.limited b reason).sink.memory text =
      .taken (i.appended text).sink.written.size := by
    rw [isSize]
    exact if_pos hasRoom
  unfold write Sink.write
  rw [isResponse]
  rfl

/-- The first bytes of a text that does not fit are written to a sink. -/
theorem write_limited_of_lt (le : i.sink.written.size ≤ b)
    (exceeds : b < (i.appended text).sink.written.size) :
    (i.limited b reason).write text = (some reason, (i.appended text).filled b reason) := by
  have isSize : (i.appended text).sink.written.size =
      i.sink.written.size + text.toUTF8.size := ByteArray.size_append
  have noRoom : ¬ text.toUTF8.size ≤ b - i.sink.written.size := by omega
  have isWritten : (i.appended text).sink.written.extract 0 b =
      i.sink.written ++ text.toUTF8.extract 0 (b - i.sink.written.size) :=
    extract_append_of_ge le
  have isFull : ((i.appended text).sink.written.extract 0 b).size =
      i.sink.written.size + (b - i.sink.written.size) := by
    rw [ByteArray.size_extract]
    omega
  have isResponse : (i.limited b reason).sink.device.write (i.limited b reason).sink.memory text =
      .failed (b - i.sink.written.size) reason
        ((i.appended text).sink.written.extract 0 b).size := by
    rw [isFull]
    exact if_neg noRoom
  unfold write Sink.write
  rw [isResponse, isWritten]
  unfold filled limited
  rw [isWritten]
  rfl

end Interpreter

end Lox
