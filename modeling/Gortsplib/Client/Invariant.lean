import Gortsplib.Client.Tasks

/-!
# The invariant of a publishing connection

`Inv n c` holds of every state reachable with `n` tasks calling `WriteFrame` (`Reach.inv`). It says:

* where the record loop is fixes the rest of the published state (`ClientConn.Phase`): before `Record` nothing runs
  and nothing is published; while the loop runs `publishOpen` is set, `publishError` is nil and, on UDP, the reader
  reads or waits to send; once it has returned, the UDP reader has exited after exactly one hand-off that set
  `publishError`, and on TCP nothing was set; `publishOpen` is cleared before `backgroundDone` is closed;
* while the loop holds the write lock no task holds the read lock;
* every write in the logs, and every byte in the buffer of `c.bw`, was made by a call already numbered;
* each task's place in `WriteFrame` agrees with the logs (`WriterOk`): a call that passed the check of `publishOpen`
  has given its frame to the RTCP sender before it writes, is inside `frame.Write(c.bw)` only on TCP, and has written
  its datagram if it returned nil on UDP; a call that found `publishOpen` false wrote nothing.

A step changes one task's place. Every other task sees the logs grow only by writes it did not make, no byte it
copied appears anew on the connection or in the buffer, and the state and the protocol stay as they were (`Frame`),
which keeps its `WriterOk` (`Frame.writerOk`). What `c.bw` does with the bytes of several tasks is not part of the
invariant: nothing synchronizes it.
-/

namespace Gortsplib.Client

/-! ## The record loop -/

/-- The loop holds the write lock. -/
def Loop.holdsLock : Loop → Bool
  | .report .. => true
  | _ => false

/-- `Record` has succeeded: a protocol was chosen and `backgroundTerminate` was made. -/
def ClientConn.Started (c : ClientConn) : Prop :=
  c.state = .record ∧ c.streamProtocol ≠ none ∧ c.backgroundTerminate ≠ .nil

/-- Nothing was passed on `readerDone` yet: on UDP the reader reads or waits to send; on TCP there is no reader. -/
def ClientConn.Listening (c : ClientConn) : Prop :=
  c.publishError = none ∧ c.handoffs = 0 ∧
    (c.streamProtocol = some .udp → c.reader = .reading ∨ ∃ e, c.reader = .sending e) ∧
    (c.streamProtocol = some .tcp → c.reader = .none)

/-- The loop has returned: on UDP after one hand-off, which set `publishError`; on TCP with nothing set. -/
def ClientConn.Stopped (c : ClientConn) : Prop :=
  (c.streamProtocol = some .udp → c.reader = .exited ∧ c.handoffs = 1 ∧ c.publishError ≠ none) ∧
    (c.streamProtocol = some .tcp → c.reader = .none ∧ c.handoffs = 0 ∧ c.publishError = none)

/-- What holds when the record loop is at `l`. -/
def ClientConn.PhaseAt (c : ClientConn) : Loop → Prop
  | .none => c.state ≠ .record ∧ c.publishOpen = false ∧ c.publishError = none ∧ c.reader = .none ∧
      c.handoffs = 0 ∧ c.backgroundTerminate = .nil ∧ c.backgroundDone = .nil
  | .select | .tickLock | .report .. | .drain =>
      c.Started ∧ c.publishOpen = true ∧ c.backgroundDone = .live ∧ c.Listening
  | .exitLock => c.Started ∧ c.publishOpen = true ∧ c.backgroundDone = .live ∧ c.Stopped
  | .exitClose => c.Started ∧ c.publishOpen = false ∧ c.backgroundDone = .live ∧ c.Stopped
  | .exited => c.Started ∧ c.publishOpen = false ∧ c.backgroundDone = .closed ∧ c.Stopped

/-- What holds at the place of the record loop. -/
def ClientConn.Phase (c : ClientConn) : Prop := c.PhaseAt c.loop

/-! ## What the calls of `WriteFrame` wrote -/

/-- The task that made a write, if a call of `WriteFrame` made it. -/
def Src.owner : Src → Option Nat
  | .call i _ => some i
  | _ => none

/-- The bytes on the control connection, then those in the buffer of `c.bw`, with their tags. -/
def ClientConn.bytes (c : ClientConn) : List (Src × UInt8) := c.wire ++ c.bw.buf

/-- Some log, or the buffer of `c.bw`, holds a write made by `s`. -/
def ClientConn.Traced (c : ClientConn) (s : Src) : Prop :=
  s ∈ c.senderIn.map Prod.fst ∨ s ∈ c.datagrams.map Prod.fst ∨ s ∈ c.bytes.map Prod.fst

/-- The bytes `s` wrote on the control connection, in order. -/
def bytesOf (s : Src) (l : List (Src × UInt8)) : List UInt8 :=
  l.filterMap fun x => if x.1 = s then some x.2 else none

@[simp] theorem bytesOf_nil (s : Src) : bytesOf s [] = [] := rfl

@[simp] theorem bytesOf_append (s : Src) (l l' : List (Src × UInt8)) :
    bytesOf s (l ++ l') = bytesOf s l ++ bytesOf s l' := List.filterMap_append _ _ _

@[simp] theorem bytesOf_singleton (s s' : Src) (b : UInt8) :
    bytesOf s [(s', b)] = if s' = s then [b] else [] := by
  by_cases h : s' = s <;> simp [bytesOf, h]

/-- What the place of task `i` in `WriteFrame` says of the connection and the logs. -/
def WriterOk (c : ClientConn) (i : Nat) : Writer → Prop
  | .idle => True
  | .opened k _ => c.state = .record ∧ k < c.calls ∧ ¬c.Traced (.call i k)
  | .processed k f => c.state = .record ∧ k < c.calls ∧ (.call i k, f) ∈ c.senderIn
  | .writing k f _ => c.state = .record ∧ k < c.calls ∧ (.call i k, f) ∈ c.senderIn ∧ c.streamProtocol = some .tcp
  | .returned k f r =>
      c.state = .record ∧ (.call i k, f) ∈ c.senderIn ∧
        (r = none → c.streamProtocol = some .udp → (.call i k, f) ∈ c.datagrams)
  | .returnedClosed k _ _ => ¬c.Traced (.call i k)

/-! ## What a step keeps for the other tasks -/

/-- `l'` is `l` with writes appended that task `j` did not make. -/
def Extends {α : Type} (j : Nat) (l l' : List (Src × α)) : Prop :=
  ∃ xs, l' = l ++ xs ∧ ∀ x ∈ xs, x.1.owner ≠ some j

section Extends

variable {α : Type} {j : Nat} {l l' : List (Src × α)}

theorem Extends.refl (l : List (Src × α)) : Extends j l l := ⟨[], by simp, by simp⟩

theorem Extends.snoc {x : Src × α} (h : x.1.owner ≠ some j) : Extends j l (l ++ [x]) := ⟨[x], rfl, by simpa using h⟩

theorem Extends.snoc_if (p : Bool) {x : Src × α} (h : x.1.owner ≠ some j) :
    Extends j l (if p then l ++ [x] else l) := by
  cases p
  · exact Extends.refl l
  · exact Extends.snoc h

theorem Extends.mem {a : Src × α} (h : Extends j l l') (ha : a ∈ l) : a ∈ l' := by
  obtain ⟨xs, rfl, -⟩ := h
  exact List.mem_append_left xs ha

theorem Extends.mem_call {k : Nat} (h : Extends j l l') (hs : Src.call j k ∈ l'.map Prod.fst) :
    Src.call j k ∈ l.map Prod.fst := by
  obtain ⟨xs, rfl, hx⟩ := h
  rw [List.map_append, List.mem_append] at hs
  refine hs.resolve_right fun h' => ?_
  obtain ⟨x, hxs, e⟩ := List.mem_map.mp h'
  exact hx x hxs (by rw [e]; rfl)

end Extends

/-- From `c` to `c'`, as task `j` sees it: the state and the protocol stay, calls are still numbered, the logs grow
only by writes `j` did not make, and every byte of `j` on the connection or in the buffer was there before. -/
structure Frame (j : Nat) (c c' : ClientConn) : Prop where
  state : c'.state = c.state
  streamProtocol : c'.streamProtocol = c.streamProtocol
  calls : c.calls ≤ c'.calls
  senderIn : Extends j c.senderIn c'.senderIn
  datagrams : Extends j c.datagrams c'.datagrams
  bytes : ∀ x ∈ c'.bytes, x.1.owner = some j → x ∈ c.bytes

section Frame

variable {j : Nat} {c c' : ClientConn}

theorem Frame.traced {k : Nat} (h : Frame j c c') (ht : c'.Traced (.call j k)) : c.Traced (.call j k) := by
  rcases ht with ht | ht | ht
  · exact .inl (h.senderIn.mem_call ht)
  · exact .inr (.inl (h.datagrams.mem_call ht))
  · obtain ⟨x, hx, e⟩ := List.mem_map.mp ht
    exact .inr (.inr (List.mem_map.mpr ⟨x, h.bytes x hx (by rw [e]; rfl), e⟩))

/-- A step that keeps `Frame j` keeps what task `j`'s place says. -/
theorem Frame.writerOk {w : Writer} (h : Frame j c c') (hw : WriterOk c j w) : WriterOk c' j w := by
  cases w with
  | idle => trivial
  | opened k f => exact ⟨h.state ▸ hw.1, lt_of_lt_of_le hw.2.1 h.calls, fun ht => hw.2.2 (h.traced ht)⟩
  | processed k f => exact ⟨h.state ▸ hw.1, lt_of_lt_of_le hw.2.1 h.calls, h.senderIn.mem hw.2.2⟩
  | writing k f pc => exact ⟨h.state ▸ hw.1, lt_of_lt_of_le hw.2.1 h.calls, h.senderIn.mem hw.2.2.1,
      h.streamProtocol ▸ hw.2.2.2⟩
  | returned k f r => exact ⟨h.state ▸ hw.1, h.senderIn.mem hw.2.1,
      fun hr hp => h.datagrams.mem (hw.2.2 hr (h.streamProtocol ▸ hp))⟩
  | returnedClosed k f r => exact fun ht => hw (h.traced ht)

end Frame

/-! ## Facts of the places -/

section Places

variable {c : ClientConn}

theorem Loop.holdsLock_eq_false {l : Loop} (h : l.wantsLock = false) : l.holdsLock = false := by
  cases l <;> simp_all [Loop.wantsLock, Loop.holdsLock]

theorem ClientConn.Phase.started (hp : c.Phase) (hl : c.loop ≠ .none) : c.Started := by
  unfold ClientConn.Phase at hp
  cases h : c.loop <;> rw [h] at hp
  case none => exact absurd h hl
  all_goals exact hp.1

theorem ClientConn.Phase.loop_none (hp : c.Phase) (hs : c.state ≠ .record) : c.loop = .none :=
  Classical.byContradiction fun hl => hs (hp.started hl).1

theorem ClientConn.Phase.state_of_open (hp : c.Phase) (ho : c.publishOpen = true) : c.state = .record := by
  by_cases hl : c.loop = .none
  · unfold ClientConn.Phase at hp
    rw [hl] at hp
    simp [ClientConn.PhaseAt, hp.2.1] at ho
  · exact (hp.started hl).1

theorem noReaders_get {i : Nat} {w : Writer} (h : c.noReaders = true) (hw : c.writers[i]? = some w) :
    w.holdsRLock = false := by
  simp only [ClientConn.noReaders, List.all_eq_true, Bool.not_eq_true'] at h
  exact h w (List.getElem?_mem hw)

theorem owner_call_ne {i j k : Nat} {α : Type} {x : α} (h : j ≠ i) : (Src.call i k, x).1.owner ≠ some j := by
  simpa [Src.owner] using Ne.symm h

theorem owner_report {j m : Nat} {α : Type} {x : α} : (Src.report m, x).1.owner ≠ some j := by
  simp [Src.owner]

/-- A byte of the connection or the buffer after a step of the writer tagged `s` in `c.bw`: it was there before, or
`s` copied it, or it is a zero no write filled. -/
def NewByte (c : ClientConn) (s : Src) (x : Src × UInt8) : Prop := x ∈ c.bytes ∨ x.1 = s ∨ x = (.unwritten, 0)

theorem NewByte.of_owner {j : Nat} {s : Src} {x : Src × UInt8} (h : NewByte c s x) (hs : s.owner ≠ some j)
    (hx : x.1.owner = some j) : x ∈ c.bytes := by
  rcases h with h | h | rfl
  · exact h
  · exact absurd (h ▸ hx) hs
  · cases hx

theorem newByte_next {s : Src} {pc : Bufio.BwPc Err} {nx : Bufio.BwNext Err} {b : Bufio.BufWriter Src Err}
    (h : pc.next .unwritten .shortWrite s c.bw = some (nx, b)) : ∀ x ∈ c.wire ++ b.buf, NewByte c s x := by
  intro x hx
  rcases List.mem_append.mp hx with hx | hx
  · exact .inl (List.mem_append_left _ hx)
  · exact (Bufio.BwPc.next_mem _ h hx).imp_left (List.mem_append_right _)

theorem newByte_sock {s : Src} {pc : Bufio.BwPc Err} {m : Nat} {e : Option Err} {nx : Bufio.BwNext Err}
    {b : Bufio.BufWriter Src Err} {ys : List (Src × UInt8)} (h : pc.sock .unwritten s m e c.bw = some (nx, b, ys)) :
    ∀ x ∈ c.wire ++ ys ++ b.buf, NewByte c s x := by
  obtain ⟨hb, hys⟩ := Bufio.BwPc.sock_mem _ h
  intro x hx
  simp only [List.mem_append, hb] at hx
  rcases hx with (hx | hx) | hx
  · exact .inl (List.mem_append_left _ hx)
  · exact (hys x hx).imp_left (List.mem_append_right _)
  · exact .inl (List.mem_append_right _ hx)

end Places

/-! ## The invariant -/

/-- The invariant of the states reachable with `n` tasks calling `WriteFrame`. -/
structure Inv (n : Nat) (c : ClientConn) : Prop where
  length : c.writers.length = n
  phase : c.Phase
  lockExcl : c.loop.holdsLock = true → c.noReaders = true
  fresh : ∀ i k, c.Traced (.call i k) → k < c.calls
  writer : ∀ i w, c.writers[i]? = some w → WriterOk c i w

theorem Inv.init (n size : Nat) : Inv n (ClientConn.init n size) where
  length := List.length_replicate n _
  phase := by simp [ClientConn.Phase, ClientConn.PhaseAt, ClientConn.init]
  lockExcl := by simp [ClientConn.init, Loop.holdsLock]
  fresh := by simp [ClientConn.Traced, ClientConn.bytes, ClientConn.init]
  writer i w h := by
    simp only [ClientConn.init, List.getElem?_replicate] at h
    split at h
    · cases h; trivial
    · cases h

section Preservation

variable {n : Nat} {c c' : ClientConn}

/-- A step that leaves the tasks where they are and keeps `Frame` for each of them. -/
theorem Inv.of_frame (hi : Inv n c) (hw : c'.writers = c.writers) (hf : ∀ j, Frame j c c') (hp : c'.Phase)
    (hl : c'.loop.holdsLock = true → c'.noReaders = true) : Inv n c' where
  length := hw ▸ hi.length
  phase := hp
  lockExcl := hl
  fresh i k ht := lt_of_lt_of_le (hi.fresh i k ((hf i).traced ht)) (hf i).calls
  writer i w h := (hf i).writerOk (hi.writer i w (hw ▸ h))

/-- A step of task `i` from `w` to `w'`, with the loop not holding the write lock. -/
theorem Inv.set_writer (hi : Inv n c) {i : Nat} {w w' : Writer} (hw : c.writers[i]? = some w)
    (hws : c'.writers = c.writers.set i w') (hp : c'.Phase) (hl : c'.loop = c.loop)
    (hlock : c.loop.holdsLock = false) (hf : ∀ j, j ≠ i → Frame j c c')
    (hfresh : ∀ k, c'.Traced (.call i k) → k < c'.calls) (hok : WriterOk c' i w') : Inv n c' where
  length := by rw [hws, List.length_set, hi.length]
  phase := hp
  lockExcl h := absurd (hl ▸ h) (by simp [hlock])
  fresh j k ht := if hj : j = i then hfresh k (hj ▸ ht)
    else lt_of_lt_of_le (hi.fresh j k ((hf j hj).traced ht)) (hf j hj).calls
  writer j w'' hj := by
    rw [hws, List.getElem?_set] at hj
    split at hj
    · split at hj
      · cases hj; subst_vars; exact hok
      · cases hj
    · exact (hf j (Ne.symm ‹_›)).writerOk (hi.writer j w'' hj)

/-- A task at a place that holds the read lock: the loop does not hold the write lock. -/
theorem Inv.unlocked (hi : Inv n c) {i : Nat} {w : Writer} (hw : c.writers[i]? = some w)
    (hr : w.holdsRLock = true) : c.loop.holdsLock = false := by
  cases h : c.loop.holdsLock
  · rfl
  · rw [noReaders_get (hi.lockExcl h) hw] at hr; cases hr

/-- A step of task `i` in `c.bw`, for call `k`: the calls of `i` traced afterwards are still numbered. -/
theorem fresh_bytes {i k : Nat} (hf : ∀ k', c.Traced (.call i k') → k' < c.calls) (hk : k < c.calls)
    (hs : c'.senderIn = c.senderIn) (hd : c'.datagrams = c.datagrams) (hc : c'.calls = c.calls)
    (hb : ∀ x ∈ c'.bytes, NewByte c (.call i k) x) : ∀ k', c'.Traced (.call i k') → k' < c'.calls := by
  rintro k' (ht | ht | ht)
  · exact hc ▸ hf k' (.inl (hs ▸ ht))
  · exact hc ▸ hf k' (.inr (.inl (hd ▸ ht)))
  · obtain ⟨x, hx, e⟩ := List.mem_map.mp ht
    rcases hb x hx with h | h | rfl
    · exact hc ▸ hf k' (.inr (.inr (List.mem_map.mpr ⟨x, h, e⟩)))
    · cases h.symm.trans e; exact hc ▸ hk
    · cases e

/-- Where a step of `frame.Write(c.bw)` leaves a call on TCP. -/
theorem WriterOk.writerAt {i k : Nat} {f : InterleavedFrame} (hs : c.state = .record) (hk : k < c.calls)
    (hin : (.call i k, f) ∈ c.senderIn) (hp : c.streamProtocol = some .tcp) :
    ∀ nx : Bufio.BwNext Err, WriterOk c i (writerAt k f nx)
  | .at _ => ⟨hs, hk, hin, hp⟩
  | .done _ => ⟨hs, hin, fun _ hu => absurd (hp.symm.trans hu) (by simp)⟩

/-- A step of a task inside `WriteFrame` keeps the invariant. -/
theorem Inv.writer_step (hi : Inv n c) {i : Nat} {a : WriterAct} (h : c.writeFrameStep i a = some c') :
    Inv n c' := by
  cases a with
  | call f =>
    obtain ⟨w, hw, -, hwl, rfl⟩ := writeFrameStep_call h
    have hnew : ¬c.Traced (.call i c.calls) := fun ht => Nat.lt_irrefl _ (hi.fresh i _ ht)
    refine hi.set_writer hw rfl hi.phase rfl (Loop.holdsLock_eq_false hwl)
      (fun _ _ => ⟨rfl, rfl, Nat.le_succ _, .refl _, .refl _, fun _ hx _ => hx⟩)
      (fun k ht => Nat.lt_succ_of_lt (hi.fresh i k ht)) ?_
    unfold ClientConn.checkOpen
    split
    · exact ⟨hi.phase.state_of_open ‹_›, Nat.lt_succ_self _, hnew⟩
    · exact hnew
  | processFrame =>
    obtain ⟨k, f, hw, rfl⟩ := writeFrameStep_processFrame h
    obtain ⟨hs, hk, -⟩ := hi.writer i _ hw
    refine hi.set_writer hw rfl hi.phase rfl (hi.unlocked hw rfl)
      (fun _ hj => ⟨rfl, rfl, le_rfl, .snoc (owner_call_ne hj), .refl _, fun _ hx _ => hx⟩) ?_ ⟨hs, hk, by simp⟩
    intro k' ht
    simp only [ClientConn.Traced, List.map_append, List.map_cons, List.map_nil, List.mem_append,
      List.mem_singleton, Src.call.injEq, true_and] at ht
    rcases ht with (ht | rfl) | ht
    · exact hi.fresh i k' (.inl ht)
    · exact hk
    · exact hi.fresh i k' (.inr ht)
  | writeUDP r =>
    obtain ⟨k, f, hw, hp, rfl⟩ := writeFrameStep_writeUDP h
    obtain ⟨hs, hk, hin⟩ := hi.writer i _ hw
    refine hi.set_writer hw rfl hi.phase rfl (hi.unlocked hw rfl)
      (fun _ hj => ⟨rfl, rfl, le_rfl, .refl _, .snoc_if _ (owner_call_ne hj), fun _ hx _ => hx⟩) ?_
      ⟨hs, hin, fun hr _ => by simp [hr]⟩
    intro k' ht
    rcases ht with ht | ht | ht
    · exact hi.fresh i k' (.inl ht)
    · cases hr : r.isNone <;> simp only [hr, if_true, if_false, List.map_append, List.map_cons, List.map_nil,
        List.mem_append, List.mem_singleton, Src.call.injEq, true_and, Bool.false_eq_true] at ht
      · exact hi.fresh i k' (.inr (.inl ht))
      · rcases ht with ht | rfl
        · exact hi.fresh i k' (.inr (.inl ht))
        · exact hk
    · exact hi.fresh i k' (.inr (.inr ht))
  | beginTCP =>
    obtain ⟨k, f, hw, hp, rfl⟩ := writeFrameStep_beginTCP h
    obtain ⟨hs, hk, hin⟩ := hi.writer i _ hw
    exact hi.set_writer hw rfl hi.phase rfl (hi.unlocked hw rfl)
      (fun _ _ => ⟨rfl, rfl, le_rfl, .refl _, .refl _, fun _ hx _ => hx⟩) (hi.fresh i) ⟨hs, hk, hin, hp⟩
  | bw =>
    obtain ⟨k, f, pc, nx, b, hw, hn, rfl⟩ := writeFrameStep_bw h
    obtain ⟨hs, hk, hin, hp⟩ := hi.writer i _ hw
    have hb := newByte_next hn
    exact hi.set_writer hw rfl hi.phase rfl (hi.unlocked hw rfl)
      (fun _ hj => ⟨rfl, rfl, le_rfl, .refl _, .refl _, fun x hx => (hb x hx).of_owner (by simpa [Src.owner] using Ne.symm hj)⟩)
      (fresh_bytes (hi.fresh i) hk rfl rfl rfl hb) (by apply WriterOk.writerAt <;> assumption)
  | sock m e =>
    obtain ⟨k, f, pc, nx, b, ys, hw, hn, rfl⟩ := writeFrameStep_sock h
    obtain ⟨hs, hk, hin, hp⟩ := hi.writer i _ hw
    have hb := newByte_sock hn
    exact hi.set_writer hw rfl hi.phase rfl (hi.unlocked hw rfl)
      (fun _ hj => ⟨rfl, rfl, le_rfl, .refl _, .refl _, fun x hx => (hb x hx).of_owner (by simpa [Src.owner] using Ne.symm hj)⟩)
      (fresh_bytes (hi.fresh i) hk rfl rfl rfl hb) (by apply WriterOk.writerAt <;> assumption)

/-- A step that changes none of what task `j` sees. -/
theorem Frame.same {j : Nat} (hs : c'.state = c.state := by rfl) (hp : c'.streamProtocol = c.streamProtocol := by rfl)
    (hc : c'.calls = c.calls := by rfl) (h₁ : c'.senderIn = c.senderIn := by rfl)
    (h₂ : c'.datagrams = c.datagrams := by rfl) (h₃ : c'.bytes = c.bytes := by rfl) : Frame j c c' :=
  ⟨hs, hp, hc ▸ le_rfl, h₁ ▸ .refl _, h₂ ▸ .refl _, fun _ hx _ => h₃ ▸ hx⟩

/-- Running to returned, for a TCP loop: nothing was set. -/
theorem ClientConn.Listening.stopped_tcp (hl : c.Listening) (hp : c.streamProtocol = some .tcp) : c.Stopped :=
  ⟨fun h => absurd (hp.symm.trans h) (by simp), fun _ => ⟨hl.2.2.2 hp, hl.2.1, hl.1⟩⟩

/-- A step of the record loop keeps the invariant. -/
theorem Inv.loop_step (hi : Inv n c) {a : LoopAct} (h : c.recordLoopStep a = some c') : Inv n c' := by
  have hp := hi.phase
  cases a with
  | terminate =>
    obtain ⟨hl, -, ⟨hpr, rfl⟩ | ⟨hpr, rfl⟩⟩ := recordLoopStep_terminate h
    · refine hi.of_frame (by rfl) (fun _ => .same) ?_ (by simp [Loop.holdsLock])
      unfold ClientConn.Phase at hp ⊢; rw [hl] at hp; exact hp
    · refine hi.of_frame (by rfl) (fun _ => .same) ?_ (by simp [Loop.holdsLock])
      unfold ClientConn.Phase at hp ⊢; rw [hl] at hp
      exact ⟨hp.1, hp.2.1, hp.2.2.1, hp.2.2.2.stopped_tcp hpr⟩
  | tick =>
    obtain ⟨hl, rfl⟩ := recordLoopStep_tick h
    refine hi.of_frame (by rfl) (fun _ => .same) ?_ (by simp [Loop.holdsLock])
    unfold ClientConn.Phase at hp ⊢; rw [hl] at hp; exact hp
  | lock rs =>
    obtain ⟨hl, hr, rfl⟩ := recordLoopStep_lock h
    refine hi.of_frame (by rfl) (fun _ => .same) ?_ fun _ => hr
    unfold ClientConn.Phase at hp ⊢; rw [hl] at hp; exact hp
  | reportUDP r =>
    obtain ⟨t, p, rs, hl, -, rfl⟩ := recordLoopStep_reportUDP h
    refine hi.of_frame (by rfl)
      (fun _ => ⟨rfl, rfl, Nat.le_refl _, .refl _, .snoc_if _ owner_report, fun _ hx _ => hx⟩)
      ?_ fun _ => hi.lockExcl (by simp [hl, Loop.holdsLock])
    unfold ClientConn.Phase at hp ⊢; rw [hl] at hp; exact hp
  | beginReport =>
    obtain ⟨t, p, rs, hl, -, rfl⟩ := recordLoopStep_beginReport h
    refine hi.of_frame (by rfl) (fun _ => .same) ?_ fun _ => hi.lockExcl (by simp [hl, Loop.holdsLock])
    unfold ClientConn.Phase at hp ⊢; rw [hl] at hp; exact hp
  | reportBw =>
    obtain ⟨rs, j, f, pc, nx, b, hl, hn, rfl⟩ := recordLoopStep_reportBw h
    refine hi.of_frame (by rfl)
      (fun _ => ⟨rfl, rfl, le_rfl, .refl _, .refl _, fun x hx => (newByte_next hn x hx).of_owner (by simp [Src.owner])⟩)
      ?_ fun _ => hi.lockExcl (by simp [hl, Loop.holdsLock])
    unfold ClientConn.Phase at hp ⊢; rw [hl] at hp; exact hp
  | reportSock m e =>
    obtain ⟨rs, j, f, pc, nx, b, ys, hl, hn, rfl⟩ := recordLoopStep_reportSock h
    refine hi.of_frame (by rfl)
      (fun _ => ⟨rfl, rfl, le_rfl, .refl _, .refl _, fun x hx => (newByte_sock hn x hx).of_owner (by simp [Src.owner])⟩)
      ?_ fun _ => hi.lockExcl (by simp [hl, Loop.holdsLock])
    unfold ClientConn.Phase at hp ⊢; rw [hl] at hp; exact hp
  | unlock =>
    obtain ⟨hl, rfl⟩ := recordLoopStep_unlock h
    refine hi.of_frame (by rfl) (fun _ => .same) ?_ (by simp [Loop.holdsLock])
    unfold ClientConn.Phase at hp ⊢; rw [hl] at hp; exact hp
  | receive =>
    obtain ⟨e, hr, hc⟩ := recordLoopStep_receive h
    have hrun : c.Started ∧ c.publishOpen = true ∧ c.backgroundDone = .live ∧ c.Listening := by
      unfold ClientConn.Phase at hp
      rcases hc with ⟨hl, -⟩ | ⟨hl, -⟩ <;> rw [hl] at hp <;> exact hp
    obtain ⟨hst, ho, hd, pe, h0, -, htcp⟩ := hrun
    have stopped : ∀ e', ({ c with loop := .exitLock, reader := .exited, publishError := some e',
                                   handoffs := c.handoffs + 1 } : ClientConn).Phase :=
      fun _ => ⟨hst, ho, hd, fun _ => ⟨rfl, by simp [h0], by simp⟩, fun h => absurd (htcp h) (by simp [hr])⟩
    rcases hc with ⟨-, rfl⟩ | ⟨-, rfl⟩ <;>
      exact hi.of_frame (by rfl) (fun _ => .same) (stopped _) (by simp [Loop.holdsLock])
  | exitLock =>
    obtain ⟨hl, -, rfl⟩ := recordLoopStep_exitLock h
    refine hi.of_frame (by rfl) (fun _ => .same) ?_ (by simp [Loop.holdsLock])
    unfold ClientConn.Phase at hp ⊢; rw [hl] at hp
    exact ⟨hp.1, rfl, hp.2.2.1, hp.2.2.2⟩
  | closeDone =>
    obtain ⟨hl, rfl⟩ := recordLoopStep_closeDone h
    refine hi.of_frame (by rfl) (fun _ => .same) ?_ (by simp [Loop.holdsLock])
    unfold ClientConn.Phase at hp ⊢; rw [hl] at hp
    exact ⟨hp.1, hp.2.1, rfl, hp.2.2.2⟩

/-- Before `Record` no task has passed the check of `publishOpen`, so what the tasks' places say reads only the logs. -/
theorem WriterOk.of_not_record {i : Nat} {w : Writer} (hw : WriterOk c i w) (hs : c.state ≠ .record)
    (h₁ : c'.senderIn = c.senderIn) (h₂ : c'.datagrams = c.datagrams) (h₃ : c'.bytes = c.bytes) : WriterOk c' i w := by
  cases w with
  | idle => trivial
  | returnedClosed k f r => exact fun ht => hw (by unfold ClientConn.Traced at ht ⊢; rwa [h₁, h₂, h₃] at ht)
  | _ => exact absurd hw.1 hs

/-- A foreground call made before `Record` has succeeded. -/
theorem Inv.of_not_record (hi : Inv n c) (hs : c.state ≠ .record) (hw : c'.writers = c.writers)
    (hc : c'.calls = c.calls) (h₁ : c'.senderIn = c.senderIn) (h₂ : c'.datagrams = c.datagrams)
    (h₃ : c'.bytes = c.bytes) (hp : c'.Phase) (hl : c'.loop.holdsLock = false) : Inv n c' where
  length := hw ▸ hi.length
  phase := hp
  lockExcl h := absurd (hl ▸ h) (by simp)
  fresh i k ht := hc ▸ hi.fresh i k (by unfold ClientConn.Traced at ht ⊢; rwa [h₁, h₂, h₃] at ht)
  writer i w h := (hi.writer i w (hw ▸ h)).of_not_record hs h₁ h₂ h₃

/-- Closing `backgroundTerminate` keeps the invariant. -/
theorem Inv.terminate (hi : Inv n c) (h : c.step .terminate = some c') : Inv n c' := by
  obtain ⟨ht, rfl⟩ := step_terminate h
  have hp : c.PhaseAt c.loop := hi.phase
  refine hi.of_frame (by rfl) (fun _ => .same) ?_ hi.lockExcl
  show ClientConn.PhaseAt _ c.loop
  have started : c.Started → ({ c with backgroundTerminate := .closed } : ClientConn).Started :=
    fun h => ⟨h.1, h.2.1, by simp⟩
  cases hl : c.loop <;> rw [hl] at hp
  case none => simp [hp.2.2.2.2.2.1] at ht
  all_goals exact ⟨started hp.1, hp.2⟩

/-- The failed read of the response reader keeps the invariant. -/
theorem Inv.readFail (hi : Inv n c) {e : Err} (h : c.step (.readFail e) = some c') : Inv n c' := by
  obtain ⟨hr, rfl⟩ := step_readFail h
  have hp : c.PhaseAt c.loop := hi.phase
  refine hi.of_frame (by rfl) (fun _ => .same) ?_ hi.lockExcl
  show ClientConn.PhaseAt _ c.loop
  have stopped : c.Started → ¬c.Stopped := fun hst hs => by
    rcases hpr : c.streamProtocol with _ | _ | _
    · exact hst.2.1 hpr
    · simp [(hs.1 hpr).1] at hr
    · simp [(hs.2 hpr).1] at hr
  cases hl : c.loop <;> rw [hl] at hp
  case none => simp [hp.2.2.2.1] at hr
  case exitLock | exitClose | exited => exact absurd hp.2.2.2 (stopped hp.1)
  all_goals exact ⟨hp.1, hp.2.1, hp.2.2.1, hp.2.2.2.1, hp.2.2.2.2.1, fun _ => .inr ⟨e, rfl⟩,
    fun h => absurd (hp.2.2.2.2.2.2 h) (by simp [hr])⟩

/-- `Announce` keeps the invariant. -/
theorem Inv.announce (hi : Inv n c) {u : String} {ts : Tracks} {res : Except Err Response}
    (h : c.step (.announce u ts res) = some c') : Inv n c' := by
  rcases step_announce h with rfl | ⟨hs, rfl⟩
  · exact hi
  · have hs' : c.state ≠ .record := by simp [hs]
    have hl := hi.phase.loop_none hs'
    have hp : c.PhaseAt c.loop := hi.phase
    rw [hl] at hp
    refine hi.of_not_record hs' (by rfl) (by rfl) (by rfl) (by rfl) (by rfl) ?_ (by simp [hl, Loop.holdsLock])
    show ClientConn.PhaseAt _ c.loop
    rw [hl]
    exact ⟨by simp, hp.2⟩

/-- `Setup` keeps the invariant. -/
theorem Inv.setup (hi : Inv n c) {p : StreamProtocol} {res : Except Err Response}
    (h : c.step (.setup p res) = some c') : Inv n c' := by
  rcases step_setup h with rfl | ⟨hs, rfl⟩
  · exact hi
  · have hl := hi.phase.loop_none hs
    have hp : c.PhaseAt c.loop := hi.phase
    rw [hl] at hp
    refine hi.of_not_record hs (by rfl) (by rfl) (by rfl) (by rfl) (by rfl) ?_ (by simp [hl, Loop.holdsLock])
    show ClientConn.PhaseAt _ c.loop
    rw [hl]
    exact ⟨by split <;> simp, hp.2⟩

/-- `Record` keeps the invariant: it starts the loop from a connection where none runs. -/
theorem Inv.record (hi : Inv n c) {res : Except Err Response} (h : c.step (.record res) = some c') : Inv n c' := by
  rcases step_record h with rfl | ⟨hs, p, hpr, rfl⟩
  · exact hi
  · have hs' : c.state ≠ .record := by simp [hs]
    have hl := hi.phase.loop_none hs'
    have hp : c.PhaseAt c.loop := hi.phase
    rw [hl] at hp
    obtain ⟨-, -, pe, hr, h0, -, -⟩ := hp
    refine hi.of_not_record hs' (by rfl) (by rfl) (by rfl) (by rfl) (by rfl) ?_ (by rfl)
    show ClientConn.PhaseAt _ .select
    refine ⟨⟨rfl, by simp [ClientConn.recording, hpr], by simp [ClientConn.recording]⟩, rfl, rfl, pe, h0,
      fun hu => .inl ?_, fun ht => ?_⟩
    · simp only [ClientConn.recording, hpr, Option.some.injEq] at hu ⊢; simp [hu]
    · simp only [ClientConn.recording, hpr, Option.some.injEq] at ht ⊢; simp [ht, hr]

/-- Every step keeps the invariant. -/
theorem Inv.step (hi : Inv n c) {a : Act} (h : c.step a = some c') : Inv n c' := by
  cases a with
  | announce u ts res => exact hi.announce h
  | setup p res => exact hi.setup h
  | record res => exact hi.record h
  | terminate => exact hi.terminate h
  | writer i a => exact hi.writer_step h
  | loop a => exact hi.loop_step h
  | readFail e => exact hi.readFail h

end Preservation

/-- Every reachable state satisfies the invariant. -/
theorem Reach.inv {n : Nat} {c : ClientConn} (h : Reach n c) : Inv n c := by
  induction h with
  | init size => exact Inv.init n size
  | step _ _ hs ih => exact ih.step hs

end Gortsplib.Client
