import Vivarium.Lineage

/-!
# The lineage log

A log appends one line per birth to a file. Text waits in a buffer and reaches
the file when the buffer has no room for the next piece, or when the log is
flushed; closing the log flushes it. What the file and the buffer hold together
is therefore always the old content followed by the lines of all births so far.
-/
namespace Vivarium.Lineage

/-- An open log. -/
structure Log where
  /-- What the file holds. -/
  file : String
  /-- What waits in the buffer. -/
  buffer : String
  /-- How many lines have been written. -/
  written : Nat

namespace Log

def bufferSize : Nat := 8192

/-- Open a log on a file with this content. -/
def openOn (content : String) : Log := { file := content, buffer := "", written := 0 }

/-- Move what waits to the file. -/
def flush (log : Log) : Log := { log with file := log.file ++ log.buffer, buffer := "" }

/-- Write a piece of text. One that does not fit makes room first, and one that
would fill the whole buffer goes straight to the file. -/
def writePiece (log : Log) (piece : String) : Log :=
  let log :=
    if bufferSize < log.buffer.utf8ByteSize + piece.utf8ByteSize then log.flush else log
  if bufferSize ≤ piece.utf8ByteSize then { log with file := log.file ++ piece }
  else { log with buffer := log.buffer ++ piece }

/-- Write the line of a birth. -/
def write (log : Log) (record : BirthRecord) : Log := record.line.foldl writePiece log

/-- Write the line of a birth, and count it. -/
def append (log : Log) (record : BirthRecord) : Outcome Log := do
  let log := log.write record
  let written ← Count.add limit64 log.written 1
  return { log with written }

/-- The log that a birth leaves behind. The line is there even if it cannot be counted any
more. -/
def add (log : Log) (record : BirthRecord) : Log :=
  (log.append record).toOption.getD (log.write record)

/-- What the file holds when the log is closed. -/
def close (log : Log) : String := log.flush.file

/-- What was written so far, in the file or in the buffer. -/
def content (log : Log) : String := log.file ++ log.buffer

theorem content_flush (log : Log) : log.flush.content = log.content := by
  simp [content, flush]

theorem close_eq_content (log : Log) : log.close = log.content := rfl

end Log

end Vivarium.Lineage
