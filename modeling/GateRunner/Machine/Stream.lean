import GateRunner.Program.Action

/-!
# Streams

A channel of a process leads to a stream: the report of the whole run, a file that is being written, a text that is
being read, or one end of a pipe. Several channels, of several processes, may lead to one stream and share how far it
has come.
-/

namespace GateRunner.Machine

/-- What a channel leads to. -/
inductive Stream
  /-- One of the two channels of the whole run. -/
  | report (channel : Nat)
  | nothing
  /-- A directory, of which nothing can be read. -/
  | directory
  /-- A file being written, at its end or from a place on. -/
  | file (place : List String) (offset : Nat) (atEnd : Bool)
  /-- A text being read: a file as it was when it was opened, or a text within a script. -/
  | text (rest : List Char) (isFile : Bool)
  /-- The end of a pipe that is read. -/
  | intake (pipe : Nat)
  /-- The end of a pipe that is written. -/
  | outlet (pipe : Nat)

/-- What is in a pipe: the front as it will be read, and what was written after it in reverse order. -/
structure Pipe where
  front : List Char
  back : List String
  size : Nat
  /-- Whether a writer has to wait when much is in it. -/
  bounded : Bool

namespace Pipe

/-- A pipe with nothing in it. -/
def empty (bounded : Bool) : Pipe := ⟨[], [], 0, bounded⟩

/-- The size at which a writer has to wait. -/
def capacity : Nat := 65536

/-- The pipe with more in it. -/
def push (p : Pipe) (text : String) : Pipe := { p with back := text :: p.back, size := p.size + text.length }

/-- All that is in a pipe. -/
def held (p : Pipe) : List Char :=
  if p.back.isEmpty then p.front else p.front ++ p.back.reverse.flatMap String.toList

/-- The pipe with only this left in it. -/
def keep (p : Pipe) (rest : List Char) : Pipe := { p with front := rest, back := [], size := rest.length }

/-- Whether a writer has to wait. -/
def isFull (p : Pipe) : Bool := p.bounded && capacity < p.size

end Pipe

/-- A text written on a channel of the whole run. -/
structure Chunk where
  channel : Nat
  text : String

/-- The bytes of a file with a text written over them from a place on. Beyond the end there are zero bytes. -/
def overwrite (bytes : List UInt8) (offset : Nat) (text : String) : List UInt8 :=
  let new := Bytes.toList text
  bytes.take offset ++ List.replicate (offset - bytes.length) 0 ++ new ++ bytes.drop (offset + new.length)

end GateRunner.Machine
