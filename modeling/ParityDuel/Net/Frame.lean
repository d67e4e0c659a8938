import ParityDuel.Text.Utf8

/-!
# Frames and signals

Data travels in frames, of text or of any bytes. What a server sends goes out as text whenever the
bytes are the written form of a text. A client sends frames, probes, which nobody above the socket
hears of, and at last a goodbye, to which it may have been asked by one from the server; or it goes
away without one, or sends what cannot be read.
-/

namespace ParityDuel

/-- A frame of data. -/
inductive Frame where
  | text (s : String)
  | binary (data : Bytes)
deriving DecidableEq, Repr

namespace Frame

/-- The frame that carries the bytes. -/
def ofBytes (data : Bytes) : Frame :=
  match Utf8.decode? data with
  | some cs => .text (String.ofList cs)
  | none => .binary data

/-- The bytes that a frame carries. -/
def data : Frame → Bytes
  | text s => Utf8.ofString s
  | binary data => data

end Frame

/-- What a client does on its connection. -/
inductive Signal where
  | frame (f : Frame)
  | ping (data : Bytes)
  | pong (data : Bytes)
  /-- A goodbye. -/
  | close
  /-- The connection is dropped without a goodbye. Nothing gets through to the client any more. -/
  | abort
  /-- Something comes that cannot be read, and nothing is read any more. What is sent to the client
  still gets through. -/
  | fault (words : String)
deriving DecidableEq, Repr

end ParityDuel
