import Gortsplib.Client.Publish

/-!
# The tasks of a publishing connection

One step of the system is one atomic step of one task: a foreground call (`Announce`, `Setup`, `Record`, each with
the server's answer), the close of `backgroundTerminate`, a step of a task inside `WriteFrame`, a step of the record
loop, or the failure of the blocked read of the response reader. The steps follow the sources line by line where they
touch shared data:

* `WriteFrame` takes the read lock and reads `publishOpen` (`WriterAct.call`), passes the frame to the RTCP sender
  (`processFrame`), then writes one datagram (`writeUDP`) or, on TCP, calls `frame.Write(c.bw)` (`beginTCP`) and
  takes its steps (`bw`, and `sock` for a write of `c.bw` to the connection, with what the connection returns).
  Nothing synchronizes `c.bw`: the steps of several tasks inside it interleave (`Bufio.BwPc.next`,
  `Bufio.BwPc.sock`).
* A report tick takes the write lock (`lock`) once no task holds the read lock; a writer that waits for the lock
  keeps new readers out (`Loop.wantsLock`). On UDP each report is one datagram whose error is ignored; on TCP it is an
  interleaved frame written through `c.bw` like the ones of `WriteFrame`.
* `receive` is the hand-off on the unbuffered `readerDone`: the reader's send and the loop's receive are one step.
  The UDP loop receives in its `select` (a read error) or after the terminate signal (`drain`), when the read
  deadline set to now has made the blocked read fail; the TCP loop returns on the terminate signal alone.
* On return the deferred function takes the write lock and clears `publishOpen` (`exitLock`), then
  `backgroundDone` is closed (`closeDone`): deferred calls run last-in first-out.
* Of `ClientConn.Close`, which is not in the sources, only `close(backgroundTerminate)` is a step (`Act.terminate`).

The rest of the module gives one inversion lemma per action: what the step needs, and the state it leaves.
-/

namespace Gortsplib.Client

/-- A step of a task inside `WriteFrame`. -/
inductive WriterAct where
  /-- `RLock`, then the check of `publishOpen`; a call is made with the frame `f`. -/
  | call (f : InterleavedFrame)
  /-- `c.rtcpSenders[trackID].ProcessFrame`. -/
  | processFrame
  /-- The write of the datagram on UDP, with its result. -/
  | writeUDP (r : Option Err)
  /-- The start of `frame.Write(c.bw)` on TCP. -/
  | beginTCP
  /-- A step of `frame.Write(c.bw)` other than a write to the connection. -/
  | bw
  /-- The write of `c.bw` to the connection, which writes `m` bytes and returns `e`. -/
  | sock (m : Nat) (e : Option Err)
  deriving DecidableEq, Repr

/-- A step of the record loop. -/
inductive LoopAct where
  /-- `case <-c.backgroundTerminate`. -/
  | terminate
  /-- `case <-reportTicker.C`. -/
  | tick
  /-- `publishWriteMutex.Lock()`; the non-nil reports `rs` of the tracks' RTCP senders, as track ID and bytes. -/
  | lock (rs : List (Nat × List UInt8))
  /-- UDP: one report written as a datagram, with the result of the write (which the loop ignores). -/
  | reportUDP (r : Option Err)
  /-- TCP: the start of `frame.Write(c.bw)` for one report. -/
  | beginReport
  /-- TCP: a step of `frame.Write(c.bw)` for the report, other than a write to the connection (its result is
  ignored). -/
  | reportBw
  /-- TCP: the write of `c.bw` to the connection for the report, which writes `m` bytes and returns `e`. -/
  | reportSock (m : Nat) (e : Option Err)
  /-- `publishWriteMutex.Unlock()` after the last report. -/
  | unlock
  /-- A value passed on `readerDone`. -/
  | receive
  /-- The deferred function: `Lock`, `publishOpen = false`, `Unlock`. -/
  | exitLock
  /-- `close(c.backgroundDone)`. -/
  | closeDone
  deriving DecidableEq, Repr

/-- A step of the system. -/
inductive Act where
  | announce (u : String) (tracks : Tracks) (res : Except Err Response)
  | setup (p : StreamProtocol) (res : Except Err Response)
  | record (res : Except Err Response)
  /-- `close(c.backgroundTerminate)`, when the connection is closed. -/
  | terminate
  /-- A step of task `i` inside `WriteFrame`. -/
  | writer (i : Nat) (a : WriterAct)
  | loop (a : LoopAct)
  /-- The blocked `res.Read(c.br)` of the response reader fails with `e`. -/
  | readFail (e : Err)
  deriving Repr

/-! ## Steps -/

/-- Where call `k` with the frame `f` is after a step of `frame.Write(c.bw)`. -/
def writerAt (k : Nat) (f : InterleavedFrame) : Bufio.BwNext Err → Writer
  | .at pc => .writing k f pc
  | .done r => .returned k f r

/-- Where the report frame `j` is after a step of `frame.Write(c.bw)`: still being written, or done. -/
def reportAt (j : Nat) (f : InterleavedFrame) : Bufio.BwNext Err → Option (Nat × InterleavedFrame × Bufio.BwPc Err)
  | .at pc => some (j, f, pc)
  | .done _ => none

/-- Where call number `calls` of `WriteFrame`, with the frame `f`, is after the check of `publishOpen`. -/
def ClientConn.checkOpen (c : ClientConn) (f : InterleavedFrame) : Writer :=
  if c.publishOpen then .opened c.calls f else .returnedClosed c.calls f c.publishError

/-- A step of task `i` in `ClientConn.WriteFrame`. -/
def ClientConn.writeFrameStep (c : ClientConn) (i : Nat) : WriterAct → Option ClientConn
  | .call f =>
    match c.writers[i]? with
    | some w =>
      if w.isOut && !c.loop.wantsLock then
        some { c with writers := c.writers.set i (c.checkOpen f), calls := c.calls + 1 }
      else none
    | none => none
  | .processFrame =>
    match c.writers[i]? with
    | some (.opened k f) =>
      some { c with writers := c.writers.set i (.processed k f), senderIn := c.senderIn ++ [(.call i k, f)] }
    | _ => none
  | .writeUDP r =>
    match c.writers[i]?, c.streamProtocol with
    | some (.processed k f), some .udp =>
      some { c with writers := c.writers.set i (.returned k f r),
                    datagrams := if r.isNone then c.datagrams ++ [(.call i k, f)] else c.datagrams }
    | _, _ => none
  | .beginTCP =>
    match c.writers[i]?, c.streamProtocol with
    | some (.processed k f), some .tcp => some { c with writers := c.writers.set i (.writing k f (.loop f.bytes)) }
    | _, _ => none
  | .bw =>
    match c.writers[i]? with
    | some (.writing k f pc) =>
      (pc.next .unwritten .shortWrite (.call i k) c.bw).map fun x =>
        { c with writers := c.writers.set i (writerAt k f x.1), bw := x.2 }
    | _ => none
  | .sock m e =>
    match c.writers[i]? with
    | some (.writing k f pc) =>
      (pc.sock .unwritten (.call i k) m e c.bw).map fun x =>
        { c with writers := c.writers.set i (writerAt k f x.1), bw := x.2.1, wire := c.wire ++ x.2.2 }
    | _ => none

/-- No task holds the read lock. -/
def ClientConn.noReaders (c : ClientConn) : Bool := c.writers.all fun w => !w.holdsRLock

/-- A step of `backgroundRecordUDP` or `backgroundRecordTCP`, with the deferred functions they share. -/
def ClientConn.recordLoopStep (c : ClientConn) : LoopAct → Option ClientConn
  | .terminate =>
    match c.loop, c.backgroundTerminate, c.streamProtocol with
    | .select, .closed, some .udp => some { c with loop := .drain }
    | .select, .closed, some .tcp => some { c with loop := .exitLock }
    | _, _, _ => none
  | .tick =>
    match c.loop with
    | .select => some { c with loop := .tickLock }
    | _ => none
  | .lock rs =>
    match c.loop with
    | .tickLock => if c.noReaders then some { c with loop := .report rs none } else none
    | _ => none
  | .reportUDP r =>
    match c.loop, c.streamProtocol with
    | .report ((t, p) :: rs) none, some .udp =>
      some { c with loop := .report rs none, reports := c.reports + 1,
                    datagrams := if r.isNone then c.datagrams ++ [(.report c.reports, ⟨t, .rtcp, p⟩)] else c.datagrams }
    | _, _ => none
  | .beginReport =>
    match c.loop, c.streamProtocol with
    | .report ((t, p) :: rs) none, some .tcp =>
      some { c with loop := .report rs (some (c.reports, ⟨t, .rtcp, p⟩, .loop (InterleavedFrame.bytes ⟨t, .rtcp, p⟩))),
                    reports := c.reports + 1 }
    | _, _ => none
  | .reportBw =>
    match c.loop with
    | .report rs (some (j, f, pc)) =>
      (pc.next .unwritten .shortWrite (.report j) c.bw).map fun x =>
        { c with loop := .report rs (reportAt j f x.1), bw := x.2 }
    | _ => none
  | .reportSock m e =>
    match c.loop with
    | .report rs (some (j, f, pc)) =>
      (pc.sock .unwritten (.report j) m e c.bw).map fun x =>
        { c with loop := .report rs (reportAt j f x.1), bw := x.2.1, wire := c.wire ++ x.2.2 }
    | _ => none
  | .unlock =>
    match c.loop with
    | .report [] none => some { c with loop := .select }
    | _ => none
  | .receive =>
    match c.loop, c.reader with
    | .select, .sending e =>
      some { c with loop := .exitLock, reader := .exited, publishError := some e, handoffs := c.handoffs + 1 }
    | .drain, .sending _ =>
      some { c with loop := .exitLock, reader := .exited, publishError := some .terminated, handoffs := c.handoffs + 1 }
    | _, _ => none
  | .exitLock =>
    match c.loop with
    | .exitLock => if c.noReaders then some { c with loop := .exitClose, publishOpen := false } else none
    | _ => none
  | .closeDone =>
    match c.loop with
    | .exitClose => some { c with loop := .exited, backgroundDone := .closed }
    | _ => none

/-- A step of the system; `none` where the step cannot be taken (a task blocked, or not at that place) or panics. -/
def ClientConn.step (c : ClientConn) : Act → Option ClientConn
  | .announce u ts res => some (c.announce u ts fun _ => res).conn
  | .setup p res => some (c.setup p fun _ => res).2
  | .record res => (c.record fun _ => res).map (·.2)
  | .terminate =>
    match c.backgroundTerminate with
    | .live => some { c with backgroundTerminate := .closed }
    | _ => none
  | .writer i a => c.writeFrameStep i a
  | .loop a => c.recordLoopStep a
  | .readFail e =>
    match c.reader with
    | .reading => some { c with reader := .sending e }
    | _ => none

/-- The steps `as` one after the other. -/
def ClientConn.run (c : ClientConn) : List Act → Option ClientConn
  | [] => some c
  | a :: as => (c.step a).bind (·.run as)

/-- The states reachable from a new connection with `n` tasks that may call `WriteFrame`, whatever the size of the
buffer of `c.bw`. -/
inductive Reach (n : Nat) : ClientConn → Prop
  | init (size : Nat) : Reach n (ClientConn.init n size)
  | step {c c' : ClientConn} (a : Act) : Reach n c → c.step a = some c' → Reach n c'

theorem Reach.run {n : Nat} : ∀ {c c' : ClientConn} (as : List Act), Reach n c → c.run as = some c' → Reach n c'
  | _, _, [], h, e => by cases e; exact h
  | c, _, a :: as, h, e => by
    cases hs : c.step a with
    | none => simp [ClientConn.run, hs] at e
    | some c₁ => exact Reach.run as (h.step a hs) (by simpa [ClientConn.run, hs] using e)

/-- A new connection taken to `Record` with protocol `p`, every answer a 200. -/
def recordRun (p : StreamProtocol) : List Act :=
  [.announce "rtsp://localhost:8554/teststream" .empty (.ok ⟨200, "OK"⟩), .setup p (.ok ⟨200, "OK"⟩),
    .record (.ok ⟨200, "OK"⟩)]

/-! ## Inversion of the steps of `WriteFrame` -/

section WriterSteps

variable {c c' : ClientConn} {i : Nat}

theorem writeFrameStep_call {f : InterleavedFrame} (h : c.writeFrameStep i (.call f) = some c') :
    ∃ w, c.writers[i]? = some w ∧ w.isOut = true ∧ c.loop.wantsLock = false ∧
      c' = { c with writers := c.writers.set i (c.checkOpen f), calls := c.calls + 1 } := by
  simp only [ClientConn.writeFrameStep] at h
  split at h
  · rename_i w hw
    split at h
    · rename_i hg
      simp only [Bool.and_eq_true, Bool.not_eq_true'] at hg
      exact ⟨w, hw, hg.1, hg.2, (Option.some.inj h).symm⟩
    · cases h
  · cases h

theorem writeFrameStep_processFrame (h : c.writeFrameStep i .processFrame = some c') :
    ∃ k f, c.writers[i]? = some (.opened k f) ∧
      c' = { c with writers := c.writers.set i (.processed k f), senderIn := c.senderIn ++ [(.call i k, f)] } := by
  simp only [ClientConn.writeFrameStep] at h
  split at h
  · exact ⟨_, _, ‹_›, (Option.some.inj h).symm⟩
  · cases h

theorem writeFrameStep_writeUDP {r : Option Err} (h : c.writeFrameStep i (.writeUDP r) = some c') :
    ∃ k f, c.writers[i]? = some (.processed k f) ∧ c.streamProtocol = some .udp ∧
      c' = { c with writers := c.writers.set i (.returned k f r),
                    datagrams := if r.isNone then c.datagrams ++ [(.call i k, f)] else c.datagrams } := by
  simp only [ClientConn.writeFrameStep] at h
  split at h
  · exact ⟨_, _, ‹_›, ‹_›, (Option.some.inj h).symm⟩
  · cases h

theorem writeFrameStep_beginTCP (h : c.writeFrameStep i .beginTCP = some c') :
    ∃ k f, c.writers[i]? = some (.processed k f) ∧ c.streamProtocol = some .tcp ∧
      c' = { c with writers := c.writers.set i (.writing k f (.loop f.bytes)) } := by
  simp only [ClientConn.writeFrameStep] at h
  split at h
  · exact ⟨_, _, ‹_›, ‹_›, (Option.some.inj h).symm⟩
  · cases h

theorem writeFrameStep_bw (h : c.writeFrameStep i .bw = some c') :
    ∃ k f pc nx b, c.writers[i]? = some (.writing k f pc) ∧
      pc.next .unwritten .shortWrite (.call i k) c.bw = some (nx, b) ∧
      c' = { c with writers := c.writers.set i (writerAt k f nx), bw := b } := by
  simp only [ClientConn.writeFrameStep] at h
  split at h
  · obtain ⟨⟨nx, b⟩, hn, rfl⟩ := Option.map_eq_some'.mp h
    exact ⟨_, _, _, nx, b, ‹_›, hn, rfl⟩
  · cases h

theorem writeFrameStep_sock {m : Nat} {e : Option Err} (h : c.writeFrameStep i (.sock m e) = some c') :
    ∃ k f pc nx b ys, c.writers[i]? = some (.writing k f pc) ∧
      pc.sock .unwritten (.call i k) m e c.bw = some (nx, b, ys) ∧
      c' = { c with writers := c.writers.set i (writerAt k f nx), bw := b, wire := c.wire ++ ys } := by
  simp only [ClientConn.writeFrameStep] at h
  split at h
  · obtain ⟨⟨nx, b, ys⟩, hn, rfl⟩ := Option.map_eq_some'.mp h
    exact ⟨_, _, _, nx, b, ys, ‹_›, hn, rfl⟩
  · cases h

end WriterSteps

/-! ## Inversion of the steps of the record loop -/

section LoopSteps

variable {c c' : ClientConn}

theorem recordLoopStep_terminate (h : c.recordLoopStep .terminate = some c') :
    c.loop = .select ∧ c.backgroundTerminate = .closed ∧
      (c.streamProtocol = some .udp ∧ c' = { c with loop := .drain } ∨
        c.streamProtocol = some .tcp ∧ c' = { c with loop := .exitLock }) := by
  simp only [ClientConn.recordLoopStep] at h
  split at h
  · exact ⟨‹_›, ‹_›, .inl ⟨‹_›, (Option.some.inj h).symm⟩⟩
  · exact ⟨‹_›, ‹_›, .inr ⟨‹_›, (Option.some.inj h).symm⟩⟩
  · cases h

theorem recordLoopStep_tick (h : c.recordLoopStep .tick = some c') :
    c.loop = .select ∧ c' = { c with loop := .tickLock } := by
  simp only [ClientConn.recordLoopStep] at h
  split at h
  · exact ⟨‹_›, (Option.some.inj h).symm⟩
  · cases h

theorem recordLoopStep_lock {rs : List (Nat × List UInt8)} (h : c.recordLoopStep (.lock rs) = some c') :
    c.loop = .tickLock ∧ c.noReaders = true ∧ c' = { c with loop := .report rs none } := by
  simp only [ClientConn.recordLoopStep] at h
  split at h
  · split at h
    · exact ⟨‹_›, ‹_›, (Option.some.inj h).symm⟩
    · cases h
  · cases h

theorem recordLoopStep_reportUDP {r : Option Err} (h : c.recordLoopStep (.reportUDP r) = some c') :
    ∃ t p rs, c.loop = .report ((t, p) :: rs) none ∧ c.streamProtocol = some .udp ∧
      c' = { c with loop := .report rs none, reports := c.reports + 1,
                    datagrams := if r.isNone then c.datagrams ++ [(.report c.reports, ⟨t, .rtcp, p⟩)]
                      else c.datagrams } := by
  simp only [ClientConn.recordLoopStep] at h
  split at h
  · exact ⟨_, _, _, ‹_›, ‹_›, (Option.some.inj h).symm⟩
  · cases h

theorem recordLoopStep_beginReport (h : c.recordLoopStep .beginReport = some c') :
    ∃ t p rs, c.loop = .report ((t, p) :: rs) none ∧ c.streamProtocol = some .tcp ∧
      c' = { c with loop := .report rs (some (c.reports, ⟨t, .rtcp, p⟩, .loop (InterleavedFrame.bytes ⟨t, .rtcp, p⟩))),
                    reports := c.reports + 1 } := by
  simp only [ClientConn.recordLoopStep] at h
  split at h
  · exact ⟨_, _, _, ‹_›, ‹_›, (Option.some.inj h).symm⟩
  · cases h

theorem recordLoopStep_reportBw (h : c.recordLoopStep .reportBw = some c') :
    ∃ rs j f pc nx b, c.loop = .report rs (some (j, f, pc)) ∧
      pc.next .unwritten .shortWrite (.report j) c.bw = some (nx, b) ∧
      c' = { c with loop := .report rs (reportAt j f nx), bw := b } := by
  simp only [ClientConn.recordLoopStep] at h
  split at h
  · obtain ⟨⟨nx, b⟩, hn, rfl⟩ := Option.map_eq_some'.mp h
    exact ⟨_, _, _, _, nx, b, ‹_›, hn, rfl⟩
  · cases h

theorem recordLoopStep_reportSock {m : Nat} {e : Option Err} (h : c.recordLoopStep (.reportSock m e) = some c') :
    ∃ rs j f pc nx b ys, c.loop = .report rs (some (j, f, pc)) ∧
      pc.sock .unwritten (.report j) m e c.bw = some (nx, b, ys) ∧
      c' = { c with loop := .report rs (reportAt j f nx), bw := b, wire := c.wire ++ ys } := by
  simp only [ClientConn.recordLoopStep] at h
  split at h
  · obtain ⟨⟨nx, b, ys⟩, hn, rfl⟩ := Option.map_eq_some'.mp h
    exact ⟨_, _, _, _, nx, b, ys, ‹_›, hn, rfl⟩
  · cases h

theorem recordLoopStep_unlock (h : c.recordLoopStep .unlock = some c') :
    c.loop = .report [] none ∧ c' = { c with loop := .select } := by
  simp only [ClientConn.recordLoopStep] at h
  split at h
  · exact ⟨‹_›, (Option.some.inj h).symm⟩
  · cases h

theorem recordLoopStep_receive (h : c.recordLoopStep .receive = some c') :
    ∃ e, c.reader = .sending e ∧
      (c.loop = .select ∧
          c' = { c with loop := .exitLock, reader := .exited, publishError := some e, handoffs := c.handoffs + 1 } ∨
        c.loop = .drain ∧ c' = { c with loop := .exitLock, reader := .exited, publishError := some .terminated,
                                        handoffs := c.handoffs + 1 }) := by
  simp only [ClientConn.recordLoopStep] at h
  split at h
  · exact ⟨_, ‹_›, .inl ⟨‹_›, (Option.some.inj h).symm⟩⟩
  · exact ⟨_, ‹_›, .inr ⟨‹_›, (Option.some.inj h).symm⟩⟩
  · cases h

theorem recordLoopStep_exitLock (h : c.recordLoopStep .exitLock = some c') :
    c.loop = .exitLock ∧ c.noReaders = true ∧ c' = { c with loop := .exitClose, publishOpen := false } := by
  simp only [ClientConn.recordLoopStep] at h
  split at h
  · split at h
    · exact ⟨‹_›, ‹_›, (Option.some.inj h).symm⟩
    · cases h
  · cases h

theorem recordLoopStep_closeDone (h : c.recordLoopStep .closeDone = some c') :
    c.loop = .exitClose ∧ c' = { c with loop := .exited, backgroundDone := .closed } := by
  simp only [ClientConn.recordLoopStep] at h
  split at h
  · exact ⟨‹_›, (Option.some.inj h).symm⟩
  · cases h

end LoopSteps

/-! ## Inversion of the other steps -/

section OtherSteps

variable {c c' : ClientConn}

theorem step_announce {u : String} {ts : Tracks} {res : Except Err Response}
    (h : c.step (.announce u ts res) = some c') :
    c' = c ∨ c.state = .initial ∧ c' = { c with streamURL := some u, state := .preRecord } := by
  simp only [ClientConn.step, Option.some.injEq] at h
  subst h
  rcases c.announce_spec u ts fun _ => res with ⟨-, he⟩ | ⟨hs, -, -, ⟨-, hc⟩ | ⟨-, hc, -⟩⟩
  · exact .inl (by rw [he])
  · exact .inr ⟨hs, hc⟩
  · exact .inl hc

theorem step_setup {p : StreamProtocol} {res : Except Err Response} (h : c.step (.setup p res) = some c') :
    c' = c ∨ c.state ≠ .record ∧
      c' = { c with streamProtocol := some p, state := if c.state = .preRecord then .preRecord else .prePlay } := by
  simp only [ClientConn.step, Option.some.injEq, ClientConn.setup, ClientConn.checkState] at h
  subst h
  by_cases hs : c.state ∈ [.initial, .prePlay, .preRecord]
  · have hr : c.state ≠ .record := fun e => by simp [e] at hs
    simp only [hs, if_true]
    rcases res with e | res
    · exact .inl rfl
    · by_cases h200 : res.statusCode = statusOK <;> simp [h200, hr]
  · simp [hs]

theorem step_record {res : Except Err Response} (h : c.step (.record res) = some c') :
    c' = c ∨ c.state = .preRecord ∧ ∃ p, c.streamProtocol = some p ∧ c' = c.recording p := by
  cases hp : c.streamProtocol with
  | none =>
    simp only [ClientConn.step, ClientConn.record, ClientConn.checkState] at h
    split at h
    · simp at h; exact .inl h.symm
    · split at h
      · simp at h; exact .inl h.symm
      · split at h
        · simp at h; exact .inl h.symm
        · simp [hp] at h
  | some p =>
    simp only [ClientConn.step] at h
    rcases c.record_spec hp fun _ => res with ⟨e, he, -⟩ | ⟨hs, -, he⟩
    · rw [he] at h; exact .inl (Option.some.inj h).symm
    · rw [he] at h; exact .inr ⟨hs, p, rfl, (Option.some.inj h).symm⟩

theorem step_terminate (h : c.step .terminate = some c') :
    c.backgroundTerminate = .live ∧ c' = { c with backgroundTerminate := .closed } := by
  simp only [ClientConn.step] at h
  split at h
  · exact ⟨‹_›, (Option.some.inj h).symm⟩
  · cases h

theorem step_readFail {e : Err} (h : c.step (.readFail e) = some c') :
    c.reader = .reading ∧ c' = { c with reader := .sending e } := by
  simp only [ClientConn.step] at h
  split at h
  · exact ⟨‹_›, (Option.some.inj h).symm⟩
  · cases h

end OtherSteps

end Gortsplib.Client
