import Mathlib.Data.List.Basic
import Gortsplib.Bufio

/-!
# The client connection of the publish path

The data of `ClientConn` that `Announce`, `Record`, `WriteFrame` and the record loops read and write, together with
the tasks that run on it. Go runs `WriteFrame` in the callers' goroutines and the record loop, with its response
reader, in goroutines of its own; here each task is a program counter in the connection's state (`Writer`, `Loop`,
`Reader`), and the socket outputs are logs: the frames passed to the RTCP senders (`senderIn`), the datagrams written
(`datagrams`) and the bytes written on the control connection (`wire`). The control connection is written through
the buffered writer `c.bw`, which nothing synchronizes (`Bufio.BufWriter`): a task writing an interleaved frame is at
a place of `frame.Write(c.bw)` (`Bufio.BwPc`).

`publishWriteMutex` is not a field: a `WriteFrame` holds its read lock while its program counter is inside the call
(`Writer.holdsRLock`), and the record loop wants or holds its write lock while reporting or leaving
(`Loop.wantsLock`).

Types of the package that are not in the sources are modelled from the spec: the connection states, the methods,
`base.InterleavedFrame` and its wire format, and `Tracks.Write`. `Tracks` is a slice of pointers: two of its entries
can be one track, and two tracks can share one media description.
-/

namespace Gortsplib.Client

/-- Modelled from the spec: the states of a client connection (`clientConnState`). -/
inductive ClientConnState where
  | initial | prePlay | play | preRecord | record | closed
  deriving DecidableEq, Repr

/-- `StreamProtocol`. -/
inductive StreamProtocol where
  | udp | tcp
  deriving DecidableEq, Repr

/-- `StreamType`. -/
inductive StreamType where
  | rtp | rtcp
  deriving DecidableEq, Repr

/-- Modelled from the spec: `base.Method`. -/
inductive Method where
  | describe | announce | setup | play | pause | record | teardown | options | getParameter | setParameter
  deriving DecidableEq, Repr

/-- The errors the publish path returns or keeps: `liberrors.ErrClientWrongState`,
`liberrors.ErrClientWrongStatusCode`, `fmt.Errorf("terminated")`, `io.ErrShortWrite` (set by `bufio.Writer.Flush`),
and an error of the network connection (a failed read or write, or a deadline), told apart by a number. -/
inductive Err where
  | wrongState (allowed : List ClientConnState) (state : ClientConnState)
  | wrongStatusCode (code : Nat) (message : String)
  | terminated
  | shortWrite
  | net (id : Nat)
  deriving DecidableEq, Repr

/-- `base.Response`, with the fields the publish path reads. -/
structure Response where
  statusCode : Nat
  statusMessage : String
  deriving DecidableEq, Repr

/-- `base.StatusOK`. -/
def statusOK : Nat := 200

/-- An SDP attribute (`psdp.Attribute`). -/
structure Attribute where
  key : String
  value : String
  deriving DecidableEq, Repr

/-- A media description (`psdp.MediaDescription`), with its attributes. -/
structure Media where
  attributes : List Attribute
  deriving DecidableEq, Repr

/-- `Track`; a URL is kept as its text, and `Media`, a `*psdp.MediaDescription`, is the address of a media
description. -/
structure Track where
  id : Nat
  baseURL : Option String
  media : Nat
  deriving DecidableEq, Repr

/-- `Tracks`, a slice of `*Track`: the addresses of its tracks, with the tracks and the media descriptions in memory.
No pointer is nil; two entries can point to one track, and two tracks to one media description. -/
structure Tracks where
  ptrs : List Nat
  tracks : List Track
  media : List Media
  ptrs_lt : ∀ p ∈ ptrs, p < tracks.length
  media_lt : ∀ t ∈ tracks, t.media < media.length
  deriving DecidableEq, Repr

/-- The track at address `p`. -/
def Tracks.track (ts : Tracks) (p : Nat) : Track := ts.tracks.getD p ⟨0, none, 0⟩

/-- The attributes of the media description at address `m`. -/
def Tracks.attrs (ts : Tracks) (m : Nat) : List Attribute := (ts.media.getD m ⟨[]⟩).attributes

/-- The IDs of the tracks, in order. -/
def Tracks.ids (ts : Tracks) : List Nat := ts.ptrs.map fun p => (ts.track p).id

/-- Modelled from the spec: `Tracks.Write` (not in the sources), the SDP of the tracks, one media description per
track in order; only the attributes of each media are kept. -/
def Tracks.write (ts : Tracks) : List (List Attribute) := ts.ptrs.map fun p => ts.attrs (ts.track p).media

/-- Tracks with no track. -/
def Tracks.empty : Tracks := ⟨[], [], [], nofun, nofun⟩

/-- `base.Request`; the body of an ANNOUNCE is the SDP of its tracks. -/
structure Request where
  method : Method
  url : Option String
  header : List (String × List String)
  body : List (List Attribute)
  deriving DecidableEq, Repr

/-! ## Interleaved frames -/

/-- `base.InterleavedFrame`. -/
structure InterleavedFrame where
  trackID : Nat
  streamType : StreamType
  payload : List UInt8
  deriving DecidableEq, Repr

/-- Modelled from the spec: the channel id of a frame, `trackID * 2` for RTP and `trackID * 2 + 1` for RTCP. -/
def InterleavedFrame.channel (f : InterleavedFrame) : UInt8 :=
  UInt8.ofNat (f.trackID * 2 + if f.streamType = .rtcp then 1 else 0)

/-- Modelled from the spec: the bytes `InterleavedFrame.Write` writes, `0x24 | channel | length (16 bits, big
endian) | payload`. -/
def InterleavedFrame.bytes (f : InterleavedFrame) : List UInt8 :=
  0x24 :: f.channel :: UInt8.ofNat (f.payload.length / 256) :: UInt8.ofNat f.payload.length :: f.payload

/-! ## Tasks -/

/-- A Go channel: nil, made and open, or closed. -/
inductive Chan where
  | nil | live | closed
  deriving DecidableEq, Repr

/-- Where a task calling `WriteFrame` is; `k` numbers the calls on the connection. -/
inductive Writer where
  /-- Not in a call. -/
  | idle
  /-- Holds the read lock and saw `publishOpen`. -/
  | opened (k : Nat) (f : InterleavedFrame)
  /-- After `ProcessFrame`, before the transport write. -/
  | processed (k : Nat) (f : InterleavedFrame)
  /-- TCP: inside `frame.Write(c.bw)`, at `pc`. -/
  | writing (k : Nat) (f : InterleavedFrame) (pc : Bufio.BwPc Err)
  /-- Returned the result of the transport write. -/
  | returned (k : Nat) (f : InterleavedFrame) (r : Option Err)
  /-- Returned `publishError`, having seen `publishOpen` false. -/
  | returnedClosed (k : Nat) (f : InterleavedFrame) (r : Option Err)
  deriving DecidableEq, Repr

/-- The task holds the read lock of `publishWriteMutex`. -/
def Writer.holdsRLock : Writer → Bool
  | .opened .. | .processed .. | .writing .. => true
  | _ => false

/-- The task is not inside a `WriteFrame` call. -/
def Writer.isOut : Writer → Bool
  | .idle | .returned .. | .returnedClosed .. => true
  | _ => false

/-- Where the record loop (`backgroundRecordUDP` or `backgroundRecordTCP`) is. -/
inductive Loop where
  /-- `Record` has not started a loop. -/
  | none
  /-- In the `select`. -/
  | select
  /-- A report tick: waiting for the write lock. -/
  | tickLock
  /-- Holding the write lock: the reports `rs` still to write, and the TCP report frame being written (its number,
  the frame, and the place in `frame.Write(c.bw)`). -/
  | report (rs : List (Nat × List UInt8)) (cur : Option (Nat × InterleavedFrame × Bufio.BwPc Err))
  /-- UDP: the terminate signal seen and the read deadline set to now; waiting on `<-readerDone`. -/
  | drain
  /-- Returned: the deferred function waits for the write lock to clear `publishOpen`. -/
  | exitLock
  /-- `publishOpen` cleared; `close(backgroundDone)` next. -/
  | exitClose
  /-- `backgroundDone` closed. -/
  | exited
  deriving DecidableEq, Repr

/-- The loop holds the write lock, or waits for it; a waiting writer blocks new readers of a `sync.RWMutex`. -/
def Loop.wantsLock : Loop → Bool
  | .tickLock | .report .. | .exitLock => true
  | _ => false

/-- The loop has returned. -/
def Loop.returned : Loop → Bool
  | .exitLock | .exitClose | .exited => true
  | _ => false

/-- Where the response reader of `backgroundRecordUDP` is. -/
inductive Reader where
  | none
  /-- In `res.Read(c.br)`. -/
  | reading
  /-- Blocked on `readerDone <- err`. -/
  | sending (e : Err)
  | exited
  deriving DecidableEq, Repr

/-- Who wrote a byte or a datagram: `WriteFrame` call `k`, made by task `i`, or report frame `j` of the loop; a zero
byte of the buffer that no write has filled is `unwritten`. -/
inductive Src where
  | call (i k : Nat)
  | report (j : Nat)
  | unwritten
  deriving DecidableEq, Repr

/-! ## The connection -/

/-- A client connection with its tasks: the fields of `ClientConn` that the publish path uses, the tasks calling
`WriteFrame`, the record loop and its response reader, the buffered writer `c.bw` of the control connection, and what
was written on the sockets. `calls`, `reports` and `handoffs` count `WriteFrame` calls, report frames
and values passed on `readerDone`. -/
structure ClientConn where
  state : ClientConnState
  streamURL : Option String
  streamProtocol : Option StreamProtocol
  publishOpen : Bool
  publishError : Option Err
  backgroundTerminate : Chan
  backgroundDone : Chan
  writers : List Writer
  loop : Loop
  reader : Reader
  bw : Bufio.BufWriter Src Err
  senderIn : List (Src × InterleavedFrame)
  datagrams : List (Src × InterleavedFrame)
  wire : List (Src × UInt8)
  calls : Nat
  reports : Nat
  handoffs : Nat
  deriving DecidableEq, Repr

/-- A new connection with `n` tasks that may call `WriteFrame`, and a buffer of `size` bytes for `c.bw`. -/
def ClientConn.init (n size : Nat) : ClientConn where
  state := .initial
  streamURL := none
  streamProtocol := none
  publishOpen := false
  publishError := none
  backgroundTerminate := .nil
  backgroundDone := .nil
  writers := List.replicate n .idle
  loop := .none
  reader := .none
  bw := ⟨size, [], 0, none⟩
  senderIn := []
  datagrams := []
  wire := []
  calls := 0
  reports := 0
  handoffs := 0

/-- Modelled from the spec: `checkState`, which fails with `WrongState` unless the state is one of `allowed`. -/
def ClientConn.checkState (c : ClientConn) (allowed : List ClientConnState) : Except Err Unit :=
  if c.state ∈ allowed then .ok () else .error (.wrongState allowed c.state)

end Gortsplib.Client
