/-!
# Where output goes

Programs write lines of text to a sink, and flush it at their end. The sink hands what it is given
to a device, which takes all of a text, or a part of it and then fails; it may fail to be flushed as
well. What a device does is free to depend on all texts that it was given before, and on all its
failures.

## Main definitions

* `Device`: what becomes of the texts.
* `Device.TakesAll`, `Device.Flushes`: devices that do not fail.
* `Device.limitless`, `Device.limited`: devices that take everything, or so many bytes at most.
* `Sink`: a device with what it remembers, and the bytes that it has taken.
* `Sink.write`, `Sink.flush`: write a text, and flush the sink.
* `Sink.drain`: take away what was written.
-/

namespace Lox

/-- What a device does with a text, and what it remembers from then on. -/
inductive Device.Response where
  /-- It takes the whole text. -/
  | taken (memory : Nat)
  /-- It takes the first bytes of the text, so many of them if there are as many, and fails. -/
  | failed (bytes : Nat) (reason : String) (memory : Nat)

/-- A device for output. What it remembers of its past is a number, as every finite history can be
numbered. -/
structure Device where
  /-- What it does with a text. -/
  write : Nat → String → Device.Response
  /-- The reason if it fails to be flushed, and what it remembers from then on. A flush that does
  not fail has no effect. -/
  flush : Nat → Option (String × Nat)

/-- What a device remembers after a text. -/
def Device.Response.memory : Device.Response → Nat
  | taken memory => memory
  | failed _ _ memory => memory

namespace Device

/-- Writing never fails. -/
def TakesAll (device : Device) : Prop :=
  ∀ memory text, ∃ memory', device.write memory text = .taken memory'

/-- Flushing never fails. -/
def Flushes (device : Device) : Prop :=
  ∀ memory, device.flush memory = none

/-- A device that takes everything. It may refuse to be flushed, for some reason. -/
def limitless (refusal : Option String) : Device where
  write memory _ := .taken memory
  flush memory := refusal.map (·, memory)

/-- A device that takes so many bytes in total. Of a text that does not fit, it takes the bytes that
do, and fails for some reason. It remembers how many bytes it has taken. It fails to be flushed if
the given device does. -/
def limited (limit : Nat) (reason : String) (device : Device) : Device where
  write memory text :=
    let size := text.toUTF8.size
    let room := limit - memory
    if size ≤ room then .taken (memory + size) else .failed room reason (memory + room)
  flush memory := (device.flush memory).map fun failure => (failure.1, memory)

end Device

/-- The bytes written since the sink was last emptied, the device to which they went, and what it
remembers. -/
structure Sink where
  written : ByteArray
  device : Device
  memory : Nat

namespace Sink

/-- A sink that takes everything and never fails. -/
def unlimited : Sink :=
  ⟨.empty, .limitless none, 0⟩

instance : Inhabited Sink := ⟨unlimited⟩

/-- Write a text. The result is the reason if this fails, and the sink after that. -/
def write (sink : Sink) (text : String) : Option String × Sink :=
  let bytes := text.toUTF8
  match sink.device.write sink.memory text with
  | .taken memory => (none, { sink with written := sink.written ++ bytes, memory := memory })
  | .failed count reason memory =>
    (some reason, { sink with written := sink.written ++ bytes.extract 0 count, memory := memory })

/-- Flush a sink. The result is the reason if this fails, and the sink after that. -/
def flush (sink : Sink) : Option String × Sink :=
  match sink.device.flush sink.memory with
  | none => (none, sink)
  | some (reason, memory) => (some reason, { sink with memory := memory })

/-- What was written, and the sink emptied. -/
def drain (sink : Sink) : ByteArray × Sink :=
  (sink.written, { sink with written := .empty })

end Sink

end Lox
