import PolicyTrial.Text.Utf8

/-!
# Keeping what a server writes

A server's output is read to its end, so that the server never waits for a reader, but only its
start is kept.

* `Capture.limit`: how much is kept.
* `Capture.drain`: reads a stream to its end and keeps its start.
* `Capture.reads`: the reads of a stream that always has more to be read.
-/

namespace PolicyTrial.Capture

/-- How much of a stream is kept, in octets. -/
def limit : Nat := 65536

/-- How much is read at a time at most, in octets. -/
def chunkSize : Nat := 4096

/-- What comes of one read of a stream. -/
inductive ReadEnd
  /-- The octets that were there; none at the end of the stream. -/
  | chunk (octets : Bytes)
  | failed
  deriving Repr, DecidableEq

/-- One more chunk; what finds no room is dropped. -/
def keep (kept chunk : Bytes) : Bytes := kept ++ chunk.take (limit - kept.length)

/-- Reads on until a read comes to nothing, whether there is still room or not. What is kept in the
end, and the reads that were not made. -/
def drain (kept : Bytes) : List ReadEnd → Bytes × List ReadEnd
  | [] => (kept, [])
  | .failed :: later => (kept, later)
  | .chunk octets :: later =>
    if octets = [] then (kept, later) else drain (keep kept octets) later

/-- A stream in chunks of the largest size. -/
def chunks (stream : Bytes) : List Bytes :=
  if _h : stream = [] then []
  else stream.take chunkSize :: chunks (stream.drop chunkSize)
termination_by stream.length
decreasing_by
  have : 0 < stream.length := List.length_pos_iff.2 _h
  simp only [List.length_drop, chunkSize]
  omega

/-- The reads of a stream that always has more to be read, up to its end. -/
def reads (stream : Bytes) : List ReadEnd := (chunks stream).map .chunk ++ [.chunk []]

theorem length_keep_le {kept : Bytes} (h : kept.length ≤ limit) (chunk : Bytes) :
    (keep kept chunk).length ≤ limit := by
  simp only [keep, List.length_append, List.length_take]
  omega

end PolicyTrial.Capture
