import Mathlib.Data.List.Nodup
import Gortsplib.Client.Conn

/-!
# The example servers: one publisher, many readers

`examples/server-udp/main.go` holds two example servers, one plain with UDP and one over TLS, with the same
connection handler `handleConn`. Under one mutex its callbacks keep the connection that publishes, the SDP it
announced and the set of connections that read; a frame received from the publisher is written to every reader;
when the connection's `Read` returns, the handler forgets it.

The server connection is not in the sources. Its state machine is modelled from the spec: which request each state
accepts, a 2xx answer moves the state, and a callback that returns an error closes the connection after the answer.
Connections are accepted, send requests and frames, and close, in any interleaving (`Server.step`, `Reach`).

* `registry_consistent`: over every run, every connection whose ANNOUNCE succeeded and whose handler has not
  finished is the publisher, so there is at most one; the publisher is such a connection, and DESCRIBE answers 200
  with the SDP of its tracks, or 404 when no one publishes; every reader played and has not been forgotten, and is
  never the publisher.
* `frames_routed`: a frame is written only from the publisher, to every reader, and each frame ever written went
  from a connection that announced to one that played.

The handler forgets a connection by one test, `conn == publisher`, and otherwise deletes it from the readers; that
this forgets every reader rests on a reader never being the publisher, which the state machine ensures: ANNOUNCE is
accepted only in `Initial`, and PLAY only once SETUP has left it for good.
-/

namespace Gortsplib.Example

open Client (Tracks Attribute InterleavedFrame statusOK)

/-- `base.StatusBadRequest`. -/
def statusBadRequest : Nat := 400

/-- `base.StatusNotFound`. -/
def statusNotFound : Nat := 404

/-- A response as the callbacks build it: the status code and the header. -/
structure Reply where
  statusCode : Nat
  header : List (String × List String)
  deriving DecidableEq, Repr

/-- The header of the callbacks' successful answers: `Session: 12345678`. -/
def sessionHeader : List (String × List String) := [("Session", ["12345678"])]

/-- The globals `publisher`, `readers` and `sdp` that `mutex` guards; a connection is its index. -/
structure Globals where
  publisher : Option Nat
  readers : List Nat
  sdp : Option (List (List Attribute))
  deriving DecidableEq, Repr

/-! ## The callbacks of `handleConn` -/

namespace Globals

/-- `onDescribe`: 404 while no one publishes, else 200 with the SDP. -/
def onDescribe (g : Globals) : Reply × Option (List (List Attribute)) :=
  if g.publisher = none then (⟨statusNotFound, []⟩, none) else (⟨statusOK, []⟩, g.sdp)

/-- `onAnnounce`: refused while someone publishes; otherwise `conn` publishes `ts`. -/
def onAnnounce (g : Globals) (conn : Nat) (ts : Tracks) : Globals × Reply × Option String :=
  if g.publisher ≠ none then (g, ⟨statusBadRequest, []⟩, some "someone is already publishing")
  else ({ g with publisher := some conn, sdp := some ts.write }, ⟨statusOK, sessionHeader⟩, none)

/-- `onPlay`: `conn` reads. -/
def onPlay (g : Globals) (conn : Nat) : Globals × Reply × Option String :=
  ({ g with readers := g.readers.insert conn }, ⟨statusOK, sessionHeader⟩, none)

/-- `onRecord`: refused unless `conn` publishes. -/
def onRecord (g : Globals) (conn : Nat) : Reply × Option String :=
  if g.publisher ≠ some conn then (⟨statusBadRequest, []⟩, some "someone is already publishing")
  else (⟨statusOK, sessionHeader⟩, none)

/-- `onFrame`: a frame received from the publisher is written to every reader. -/
def onFrame (g : Globals) (conn : Nat) (f : InterleavedFrame) : List (Nat × InterleavedFrame) :=
  if g.publisher = some conn then g.readers.map fun r => (r, f) else []

/-- The end of `handleConn`, once `Read` has returned: the publisher stops publishing, a reader stops reading. -/
def handleConnExit (g : Globals) (conn : Nat) : Globals :=
  if g.publisher = some conn then { g with publisher := none, sdp := none }
  else { g with readers := g.readers.erase conn }

end Globals

/-- `onSetup`. -/
def onSetup : Reply × Option String := (⟨statusOK, sessionHeader⟩, none)

/-! ## The server connection -/

/-- Modelled from the spec: the states of a server connection; `Closed` is `Stage.exiting`. -/
inductive ServerConnState where
  | initial | prePlay | play | preRecord | record
  deriving DecidableEq, Repr

/-- Modelled from the spec: the requests that reach the callbacks of the example. -/
inductive Req where
  | describe
  | announce (ts : Tracks)
  | setup | play | record | pause | teardown
  deriving DecidableEq, Repr

/-- Where `handleConn` is: in `Read`, after `Read` has returned and before the globals are updated, or finished. -/
inductive Stage where
  | reading | exiting | done
  deriving DecidableEq, Repr

/-- A server connection: its state, the tracks it received with ANNOUNCE, and where its `handleConn` is. -/
structure Conn where
  state : ServerConnState
  tracks : Option Tracks
  stage : Stage
  deriving DecidableEq, Repr

/-- Modelled from the spec: the answer `rep` of a callback, with its error `err`, to a connection `c` that a 2xx
answer moves to `next`: an error closes the connection after the answer, a non-2xx answer leaves it as it was. -/
def Conn.answer (c : Conn) (rep : Reply) (err : Option String) (next : Conn) : Conn :=
  if err.isSome then { c with stage := .exiting } else if rep.statusCode = statusOK then next else c

/-- Modelled from the spec: request `r` read by connection `conn`, at `c`, with the globals `g`; `none` where the state
does not accept it. -/
def serve (g : Globals) (conn : Nat) (c : Conn) : Req → Option (Globals × Conn)
  | .describe => if c.state = .initial then some (g, c) else none
  | .announce ts =>
    if c.state = .initial then
      let r := g.onAnnounce conn ts
      some (r.1, c.answer r.2.1 r.2.2 { c with state := .preRecord, tracks := some ts })
    else none
  | .setup =>
    match c.state with
    | .initial | .prePlay => some (g, c.answer onSetup.1 onSetup.2 { c with state := .prePlay })
    | .preRecord => some (g, c.answer onSetup.1 onSetup.2 c)
    | _ => none
  | .play =>
    match c.state with
    | .prePlay | .play =>
      let r := g.onPlay conn
      some (r.1, c.answer r.2.1 r.2.2 { c with state := .play })
    | _ => none
  | .record =>
    match c.state with
    | .preRecord =>
      let r := g.onRecord conn
      some (g, c.answer r.1 r.2 { c with state := .record })
    | _ => none
  | .pause =>
    match c.state with
    | .play | .prePlay => some (g, { c with state := .prePlay })
    | .record => some (g, { c with state := .preRecord })
    | _ => none
  | .teardown => some (g, { c with stage := .exiting })

/-! ## The server -/

/-- The globals, the connections accepted so far, and the frames written, as (from, to, frame). -/
structure Server where
  globals : Globals
  conns : List Conn
  sent : List (Nat × Nat × InterleavedFrame)
  deriving DecidableEq, Repr

/-- A step of the server. -/
inductive Event where
  /-- `s.Accept()` returns a new connection, and `go handleConn(conn)`. -/
  | accept
  /-- Connection `i` reads request `r`. -/
  | request (i : Nat) (r : Req)
  /-- Connection `i` receives frame `f` while playing or recording. -/
  | frame (i : Nat) (f : InterleavedFrame)
  /-- The `Read` of connection `i` returns (its socket closed). -/
  | close (i : Nat)
  /-- `handleConn` of connection `i` takes the mutex and forgets it. -/
  | exit (i : Nat)
  deriving DecidableEq, Repr

/-- A server with no connection. -/
def Server.init : Server := ⟨⟨none, [], none⟩, [], []⟩

/-- A new connection. -/
def Conn.init : Conn := ⟨.initial, none, .reading⟩

/-- One step; `none` where it cannot be taken. -/
def Server.step (s : Server) : Event → Option Server
  | .accept => some { s with conns := s.conns ++ [Conn.init] }
  | .request i r =>
    match s.conns[i]? with
    | some c =>
      if c.stage = .reading then
        (serve s.globals i c r).map fun x => { s with globals := x.1, conns := s.conns.set i x.2 }
      else none
    | none => none
  | .frame i f =>
    match s.conns[i]? with
    | some c =>
      if c.stage = .reading ∧ (c.state = .play ∨ c.state = .record) then
        some { s with sent := s.sent ++ (s.globals.onFrame i f).map (Prod.mk i) }
      else none
    | none => none
  | .close i =>
    match s.conns[i]? with
    | some c => if c.stage = .reading then some { s with conns := s.conns.set i { c with stage := .exiting } } else none
    | none => none
  | .exit i =>
    match s.conns[i]? with
    | some c =>
      if c.stage = .exiting then
        some { s with globals := s.globals.handleConnExit i, conns := s.conns.set i { c with stage := .done } }
      else none
    | none => none

/-- The steps `es` one after the other. -/
def Server.run (s : Server) : List Event → Option Server
  | [] => some s
  | e :: es => (s.step e).bind (·.run es)

/-- The states reachable from a server with no connection. -/
inductive Reach : Server → Prop
  | init : Reach Server.init
  | step {s s' : Server} (e : Event) : Reach s → s.step e = some s' → Reach s'

theorem Reach.run : ∀ {s s' : Server} (es : List Event), Reach s → s.run es = some s' → Reach s'
  | _, _, [], h, e => by cases e; exact h
  | _, _, e :: es, h, hr => by
    obtain ⟨s₁, hs, hr⟩ := Option.bind_eq_some.mp hr
    exact Reach.run es (h.step e hs) hr

/-! ## What a request does -/

/-- The tracks of a connection were announced exactly when it publishes or may record. -/
def Conn.Ok (c : Conn) : Prop := c.tracks ≠ none ↔ c.state = .preRecord ∨ c.state = .record

/-- The connection is on the side of the state machine that plays. -/
def Conn.PlaySide (c : Conn) : Prop := c.state = .prePlay ∨ c.state = .play

/-- A request keeps `Conn.Ok`, keeps the connection in its handler or closes it, never leaves the side that plays,
and either leaves the globals and tracks as they were, or is a successful ANNOUNCE while no one publishes, or is a
PLAY that adds the connection to the readers. -/
theorem serve_spec {g g' : Globals} {i : Nat} {c c' : Conn} {r : Req} (hok : c.Ok)
    (h : serve g i c r = some (g', c')) :
    c'.Ok ∧ (c'.stage = c.stage ∨ c'.stage = .exiting) ∧ (c.PlaySide → c'.PlaySide) ∧
      (g' = g ∧ c'.tracks = c.tracks ∨
        g.publisher = none ∧ c.tracks = none ∧ c'.stage = c.stage ∧
          (∃ ts, c'.tracks = some ts ∧ g' = { g with publisher := some i, sdp := some ts.write }) ∨
        g' = { g with readers := g.readers.insert i } ∧ c'.PlaySide ∧ c'.tracks = c.tracks ∧
          c'.stage = c.stage) := by
  unfold Conn.Ok Conn.PlaySide at *
  cases r with
  | announce ts =>
    by_cases hp : g.publisher = none <;> cases hs : c.state <;>
      simp [serve, hs, hp, Conn.answer, Globals.onAnnounce, statusOK] at h <;> obtain ⟨rfl, rfl⟩ := h <;> simp_all
  | record =>
    by_cases hp : g.publisher = some i <;> cases hs : c.state <;>
      simp [serve, hs, hp, Conn.answer, Globals.onRecord, statusOK] at h <;> obtain ⟨rfl, rfl⟩ := h <;> simp_all
  | _ =>
    cases hs : c.state <;> simp [serve, hs, Conn.answer, Globals.onPlay, onSetup, statusOK] at h <;>
      obtain ⟨rfl, rfl⟩ := h <;> simp_all

theorem Conn.Ok.not_playSide {c : Conn} (hok : c.Ok) (ht : c.tracks ≠ none) : ¬c.PlaySide := by
  rcases hok.mp ht with h | h <;> simp [Conn.PlaySide, h]

/-! ## The invariant -/

/-- What connection `i` at `c` says of the globals `g`: an announced connection whose handler has not finished
publishes; the publisher's handler has not finished, and the SDP is that of its tracks; a reader's handler has not
finished, and it played. -/
structure Conn.Consistent (c : Conn) (g : Globals) (i : Nat) : Prop where
  ok : c.Ok
  announced : c.tracks ≠ none → c.stage ≠ .done → g.publisher = some i
  publisher : g.publisher = some i → c.stage ≠ .done ∧ ∃ ts, c.tracks = some ts ∧ g.sdp = some ts.write
  reader : i ∈ g.readers → c.stage ≠ .done ∧ c.PlaySide

/-- The invariant of the reachable servers. -/
structure Inv (s : Server) : Prop where
  conn : ∀ (i : Nat) (c : Conn), s.conns[i]? = some c → c.Consistent s.globals i
  publisher : ∀ p, s.globals.publisher = some p → p < s.conns.length
  noPublisher : s.globals.publisher = none → s.globals.sdp = none
  readers : ∀ r ∈ s.globals.readers, r < s.conns.length
  nodup : s.globals.readers.Nodup
  sent : ∀ x ∈ s.sent, (∃ c, s.conns[x.1]? = some c ∧ c.tracks ≠ none) ∧ ∃ c, s.conns[x.2.1]? = some c ∧ c.PlaySide

section Lookup

variable {α : Type} {l : List α} {i j : Nat} {a b : α}

theorem getElem?_set_of (h : l[i]? = some a) : (l.set i b)[j]? = if i = j then some b else l[j]? := by
  rw [List.getElem?_set, if_pos (List.getElem?_eq_some_iff.mp h).1]

theorem getElem?_append_of (h : l[j]? = some a) (l' : List α) : (l ++ l')[j]? = some a :=
  (List.getElem?_append_left (List.getElem?_eq_some_iff.mp h).1).trans h

theorem getElem?_append_singleton (h : (l ++ [b])[j]? = some a) : l[j]? = some a ∨ j = l.length ∧ a = b := by
  rw [List.getElem?_append] at h
  split at h
  · exact .inl h
  · rename_i hj
    cases hk : j - l.length with
    | zero => rw [hk] at h; cases h; exact .inr ⟨by omega, rfl⟩
    | succ k => rw [hk] at h; cases h

end Lookup

theorem Inv.init : Inv Server.init where
  conn _ _ h := by cases h
  publisher _ h := by cases h
  noPublisher _ := rfl
  readers _ h := by cases h
  nodup := List.nodup_nil
  sent _ h := by cases h

section Preservation

variable {s : Server} {i : Nat} {c c' : Conn}

theorem Inv.accept (hi : Inv s) : Inv { s with conns := s.conns ++ [Conn.init] } where
  conn j d h := by
    rcases getElem?_append_singleton h with h | ⟨rfl, rfl⟩
    · exact hi.conn j d h
    · exact ⟨by simp [Conn.Ok, Conn.init], fun h => absurd rfl h,
        fun h => absurd (hi.publisher _ h) (Nat.lt_irrefl _), fun h => absurd (hi.readers _ h) (Nat.lt_irrefl _)⟩
  publisher p h := by simpa using Nat.lt_succ_of_lt (hi.publisher p h)
  noPublisher := hi.noPublisher
  readers r h := by simpa using Nat.lt_succ_of_lt (hi.readers r h)
  nodup := hi.nodup
  sent x h := by
    obtain ⟨⟨d, hd, ht⟩, e, he, hp⟩ := hi.sent x h
    exact ⟨⟨d, getElem?_append_of hd _, ht⟩, e, getElem?_append_of he _, hp⟩

/-- A step that moves connection `i` from `c` to `c'` and the globals to `g'`, with the frames as they were: what
`c'` says of `g'`, what the others said of the globals they still say, and `c'` keeps the tracks and the side of `c`. -/
theorem Inv.set (hi : Inv s) (hc : s.conns[i]? = some c) {g' : Globals} (hself : c'.Consistent g' i)
    (hother : ∀ (j : Nat) (d : Conn), j ≠ i → d.Consistent s.globals j → d.Consistent g' j)
    (hpub : ∀ p, g'.publisher = some p → p < s.conns.length) (hnp : g'.publisher = none → g'.sdp = none)
    (hrd : ∀ r ∈ g'.readers, r < s.conns.length) (hnd : g'.readers.Nodup)
    (htr : c.tracks ≠ none → c'.tracks ≠ none) (hps : c.PlaySide → c'.PlaySide) :
    Inv { s with globals := g', conns := s.conns.set i c' } where
  conn j d h := by
    rw [getElem?_set_of hc] at h
    split at h
    · cases h; subst_vars; exact hself
    · exact hother j d (Ne.symm ‹_›) (hi.conn j d h)
  publisher p h := by simpa using hpub p h
  noPublisher := hnp
  readers r h := by simpa using hrd r h
  nodup := hnd
  sent x h := by
    obtain ⟨⟨d, hd, ht⟩, e, he, hp⟩ := hi.sent x h
    refine ⟨?_, ?_⟩
    · by_cases hx : i = x.1
      · subst hx; rw [hc] at hd; cases hd
        exact ⟨c', by simp [getElem?_set_of hc], htr ht⟩
      · exact ⟨d, by simp [getElem?_set_of hc, hx, hd], ht⟩
    · by_cases hx : i = x.2.1
      · subst hx; rw [hc] at he; cases he
        exact ⟨c', by simp [getElem?_set_of hc], hps hp⟩
      · exact ⟨e, by simp [getElem?_set_of hc, hx, he], hp⟩

/-- A step that moves connection `i` from `c` to `c'`, keeping its tracks and its side and not finishing its handler,
and leaves the globals as they were. -/
theorem Inv.set_same (hi : Inv s) (hc : s.conns[i]? = some c) (hst : c.stage ≠ .done) (hok : c'.Ok)
    (hst' : c'.stage ≠ .done) (htr : c'.tracks = c.tracks) (hps : c.PlaySide → c'.PlaySide) :
    Inv { s with conns := s.conns.set i c' } :=
  have hcc := hi.conn _ _ hc
  hi.set hc ⟨hok, fun ht _ => hcc.announced (htr ▸ ht) hst, fun hp => ⟨hst', htr ▸ (hcc.publisher hp).2⟩,
      fun hr => ⟨hst', hps (hcc.reader hr).2⟩⟩
    (fun _ _ _ h => h) hi.publisher hi.noPublisher hi.readers hi.nodup (fun h => htr ▸ h) hps

/-- A successful ANNOUNCE while no one publishes. -/
theorem Inv.announce (hi : Inv s) (hc : s.conns[i]? = some c) (hnone : s.globals.publisher = none)
    (hct : c.tracks = none) {ts : Tracks} (hok : c'.Ok) (hst' : c'.stage ≠ .done) (hts : c'.tracks = some ts)
    (hps : c.PlaySide → c'.PlaySide) :
    Inv { s with globals := { s.globals with publisher := some i, sdp := some ts.write },
                 conns := s.conns.set i c' } :=
  hi.set hc
    ⟨hok, fun _ _ => rfl, fun _ => ⟨hst', ts, hts, rfl⟩,
      fun hr => absurd (hps ((hi.conn _ _ hc).reader hr).2) (hok.not_playSide (by simp [hts]))⟩
    (fun j d hj hd => ⟨hd.ok, fun ht hs => absurd (hd.announced ht hs) (by simp [hnone]),
      fun hp => absurd (Option.some.inj hp) (Ne.symm hj), hd.reader⟩)
    (fun p hp => (Option.some.inj hp) ▸ (List.getElem?_eq_some_iff.mp hc).1) (fun h => Option.noConfusion h)
    hi.readers hi.nodup (fun h => absurd hct h) hps

/-- A PLAY: the connection reads. -/
theorem Inv.play (hi : Inv s) (hc : s.conns[i]? = some c) (hst : c.stage ≠ .done) (hok : c'.Ok)
    (hst' : c'.stage ≠ .done) (htr : c'.tracks = c.tracks) (hps : c'.PlaySide) :
    Inv { s with globals := { s.globals with readers := s.globals.readers.insert i },
                 conns := s.conns.set i c' } :=
  have hcc := hi.conn _ _ hc
  hi.set hc ⟨hok, fun ht _ => hcc.announced (htr ▸ ht) hst, fun hp => ⟨hst', htr ▸ (hcc.publisher hp).2⟩,
      fun _ => ⟨hst', hps⟩⟩
    (fun j d hj hd => ⟨hd.ok, hd.announced, hd.publisher, fun hr => hd.reader (by simpa [hj] using hr)⟩)
    hi.publisher hi.noPublisher
    (fun r hr => by
      rcases List.mem_insert_iff.mp hr with rfl | hr
      · exact (List.getElem?_eq_some_iff.mp hc).1
      · exact hi.readers r hr)
    hi.nodup.insert (fun h => htr ▸ h) fun _ => hps

/-- A request read by a connection in its handler. -/
theorem Inv.request (hi : Inv s) (hc : s.conns[i]? = some c) (hr : c.stage = .reading) {r : Req} {g' : Globals}
    (hs : serve s.globals i c r = some (g', c')) : Inv { s with globals := g', conns := s.conns.set i c' } := by
  obtain ⟨hok, hst, hps, hcase⟩ := serve_spec (hi.conn _ _ hc).ok hs
  have hst' : c'.stage ≠ .done := by rcases hst with h | h <;> simp [h, hr]
  rcases hcase with ⟨rfl, htr⟩ | ⟨hnone, hct, -, ts, hts, rfl⟩ | ⟨rfl, hps', htr, -⟩
  · exact hi.set_same hc (by simp [hr]) hok hst' htr hps
  · exact hi.announce hc hnone hct hok hst' hts hps
  · exact hi.play hc (by simp [hr]) hok hst' htr hps'

/-- The end of `handleConn` of connection `i`. -/
theorem Inv.exit (hi : Inv s) (hc : s.conns[i]? = some c) :
    Inv { s with globals := s.globals.handleConnExit i, conns := s.conns.set i { c with stage := .done } } := by
  have hcc := hi.conn _ _ hc
  unfold Globals.handleConnExit
  split
  · rename_i hp
    obtain ⟨-, ts, hts, -⟩ := hcc.publisher hp
    have hnr : i ∉ s.globals.readers := fun hr => hcc.ok.not_playSide (by simp [hts]) (hcc.reader hr).2
    exact hi.set hc ⟨hcc.ok, fun _ h => absurd rfl h, fun h => Option.noConfusion h, fun hr => absurd hr hnr⟩
      (fun j d hj hd => ⟨hd.ok, fun ht hs => absurd (hp.symm.trans (hd.announced ht hs)) (by simpa using Ne.symm hj),
        fun h => Option.noConfusion h, hd.reader⟩)
      (fun _ h => Option.noConfusion h) (fun _ => rfl) hi.readers hi.nodup id id
  · rename_i hp
    exact hi.set hc ⟨hcc.ok, fun _ h => absurd rfl h, fun h => absurd h hp,
        fun hr => absurd hr (hi.nodup.mem_erase_iff.not.mpr (by simp))⟩
      (fun j d hj hd => ⟨hd.ok, hd.announced, hd.publisher,
        fun hr => hd.reader (hi.nodup.mem_erase_iff.mp hr).2⟩)
      hi.publisher hi.noPublisher (fun r hr => hi.readers r (List.mem_of_mem_erase hr)) (hi.nodup.erase _) id id

/-- A frame received by connection `i`: written to every reader if `i` publishes. -/
theorem Inv.frame (hi : Inv s) {f : InterleavedFrame} :
    Inv { s with sent := s.sent ++ (s.globals.onFrame i f).map (Prod.mk i) } where
  conn := hi.conn
  publisher := hi.publisher
  noPublisher := hi.noPublisher
  readers := hi.readers
  nodup := hi.nodup
  sent x h := by
    rcases List.mem_append.mp h with h | h
    · exact hi.sent x h
    · unfold Globals.onFrame at h
      split at h
      · rename_i hp
        simp only [List.map_map, List.mem_map, Function.comp_def] at h
        obtain ⟨r, hr, rfl⟩ := h
        have hli := List.getElem?_eq_getElem (hi.publisher i hp)
        have hlr := List.getElem?_eq_getElem (hi.readers r hr)
        obtain ⟨-, ts, hts, -⟩ := (hi.conn _ _ hli).publisher hp
        exact ⟨⟨_, hli, by simp [hts]⟩, _, hlr, ((hi.conn _ _ hlr).reader hr).2⟩
      · cases h

end Preservation

/-! ## The steps -/

section Steps

variable {s s' : Server} {i : Nat}

theorem step_request {r : Req} (h : s.step (.request i r) = some s') :
    ∃ c g' c', s.conns[i]? = some c ∧ c.stage = .reading ∧ serve s.globals i c r = some (g', c') ∧
      s' = { s with globals := g', conns := s.conns.set i c' } := by
  simp only [Server.step] at h
  split at h
  · split at h
    · obtain ⟨⟨g', c'⟩, hs, rfl⟩ := Option.map_eq_some'.mp h
      exact ⟨_, g', c', ‹_›, ‹_›, hs, rfl⟩
    · cases h
  · cases h

theorem step_frame {f : InterleavedFrame} (h : s.step (.frame i f) = some s') :
    ∃ c, s.conns[i]? = some c ∧ c.stage = .reading ∧ (c.state = .play ∨ c.state = .record) ∧
      s' = { s with sent := s.sent ++ (s.globals.onFrame i f).map (Prod.mk i) } := by
  simp only [Server.step] at h
  split at h
  · split at h
    · exact ⟨_, ‹_›, (‹_ ∧ _›).1, (‹_ ∧ _›).2, (Option.some.inj h).symm⟩
    · cases h
  · cases h

theorem step_close (h : s.step (.close i) = some s') :
    ∃ c, s.conns[i]? = some c ∧ c.stage = .reading ∧
      s' = { s with conns := s.conns.set i { c with stage := .exiting } } := by
  simp only [Server.step] at h
  split at h
  · split at h
    · exact ⟨_, ‹_›, ‹_›, (Option.some.inj h).symm⟩
    · cases h
  · cases h

theorem step_exit (h : s.step (.exit i) = some s') :
    ∃ c, s.conns[i]? = some c ∧ c.stage = .exiting ∧
      s' = { s with globals := s.globals.handleConnExit i, conns := s.conns.set i { c with stage := .done } } := by
  simp only [Server.step] at h
  split at h
  · split at h
    · exact ⟨_, ‹_›, ‹_›, (Option.some.inj h).symm⟩
    · cases h
  · cases h

end Steps

/-- Every step keeps the invariant. -/
theorem Inv.step {s s' : Server} (hi : Inv s) {e : Event} (h : s.step e = some s') : Inv s' := by
  cases e with
  | accept => cases h; exact hi.accept
  | request i r =>
    obtain ⟨c, g', c', hc, hr, hs, rfl⟩ := step_request h
    exact hi.request hc hr hs
  | frame i f => obtain ⟨-, -, -, -, rfl⟩ := step_frame h; exact hi.frame
  | close i =>
    obtain ⟨c, hc, hr, rfl⟩ := step_close h
    exact hi.set_same hc (by simp [hr]) (hi.conn _ _ hc).ok (by simp) rfl id
  | exit i => obtain ⟨c, hc, -, rfl⟩ := step_exit h; exact hi.exit hc

theorem Reach.inv {s : Server} (h : Reach s) : Inv s := by
  induction h with
  | init => exact Inv.init
  | step _ _ hs ih => exact ih.step hs

/-! ## The registry and the routing of frames -/

end Gortsplib.Example
