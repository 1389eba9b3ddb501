import Mathlib.Data.List.Basic

/-! # Input streams

A file opened as an input stream, with the three flags in which the stream keeps what went wrong.
A read that finds a flag set reads nothing.
-/

namespace Storage

/-- What comes after the bytes that can be read. -/
inductive Ending where
  | endOfFile
  /-- an error of the device; without `reported` the stream cannot tell it from the end -/
  | error (reported : Bool)
  deriving DecidableEq

inductive FileState where
  /-- absent or unreadable -/
  | cannotOpen
  | opened (bytes : List UInt8) (ending : Ending)
  deriving DecidableEq

structure InputStream where
  rest : List UInt8
  ending : Ending
  eofbit : Bool
  failbit : Bool
  badbit : Bool

namespace InputStream

/-- A file that cannot be opened sets the failbit. -/
def create : FileState → InputStream
  | .cannotOpen => ⟨[], .endOfFile, false, true, false⟩
  | .opened bytes ending => ⟨bytes, ending, false, false, false⟩

def good (stream : InputStream) : Bool :=
  !(stream.eofbit || stream.failbit || stream.badbit)

/-- The bytes read, the number of which is `gcount`.  A short read sets eofbit and failbit. -/
def read (size : Nat) (stream : InputStream) : List UInt8 × InputStream :=
  if stream.good then
    if size ≤ stream.rest.length then
      (stream.rest.take size, { stream with rest := stream.rest.drop size })
    else if stream.ending = .error true then
      (stream.rest, { stream with rest := [], badbit := true })
    else (stream.rest, { stream with rest := [], eofbit := true, failbit := true })
  else ([], { stream with failbit := true })

variable {stream : InputStream} {size : Nat}

theorem read_of_le (good : stream.good = true) (enough : size ≤ stream.rest.length) :
    read size stream = (stream.rest.take size, { stream with rest := stream.rest.drop size }) := by
  rw [read, if_pos good, if_pos enough]

theorem read_of_lt (good : stream.good = true) (short : stream.rest.length < size) :
    read size stream = (stream.rest,
      if stream.ending = .error true then { stream with rest := [], badbit := true }
      else { stream with rest := [], eofbit := true, failbit := true }) := by
  rw [read, if_pos good, if_neg (Nat.not_le.mpr short)]
  split <;> rfl

theorem read_of_not_good (failed : stream.good = false) :
    read size stream = ([], { stream with failbit := true }) := by
  rw [read, if_neg (by simp [failed])]

theorem good_of_flags (eof : stream.eofbit = false) (fail : stream.failbit = false)
    (bad : stream.badbit = false) : stream.good = true := by
  simp [good, eof, fail, bad]

end InputStream

end Storage
