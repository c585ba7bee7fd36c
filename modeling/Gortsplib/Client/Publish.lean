import Mathlib.Data.List.Nodup
import Gortsplib.Client.Conn

/-!
# `Announce`, `Setup` and `Record`

The calls of the publish path made in the foreground. `Do` is not in the sources: each call takes the answer of the
server, or the transport error, as a function `doReq` of the request it sends. `Setup` is not in the sources either
and is modelled from the spec's table of transitions; on the publish path it only chooses the stream protocol.

* `ClientConn.announce_spec`, `ClientConn.record_spec`: every error exit of `Announce` and `Record` comes before any
  write to the connection; a success moves to `PreRecord` (setting `streamURL`), or to `Record` (setting `publishOpen`
  and starting the record loop of the chosen protocol).
* `announceAll_controls`: `Announce` prepares the caller's tracks through their pointers before it sends the
  request, whatever the answer. For tracks no two of which share a media description, the `m`-th ANNOUNCE sent with
  the same tracks carries `m` attributes `control=trackID=<index>` per media; only a call refused by the state check
  leaves the tracks as they were. A track listed twice, or a media description two tracks share, gets the attributes
  of both indices at once (`announce_retry_two_controls`).
-/

namespace Gortsplib.Client

/-! ## `Announce` -/

/-- The `control` attribute `Announce` gives track `i`. -/
def controlAttribute (i : Nat) : Attribute := ⟨"control", "trackID=" ++ toString i⟩

theorem Tracks.track_mem (ts : Tracks) {p : Nat} (hp : p < ts.tracks.length) : ts.track p ∈ ts.tracks := by
  rw [Tracks.track, List.getD_eq_getElem?_getD, List.getElem?_eq_getElem hp, Option.getD_some]
  exact List.getElem_mem hp

/-- The body of the loop of `Announce` for the `i`-th track, at address `p`: `t.ID = i`, `t.BaseURL = u`, and
`control=trackID=<i>` appended to the attributes of the media description `t.Media` points to. -/
def Tracks.prepareTrack (ts : Tracks) (u : String) (i p : Nat) : Tracks where
  ptrs := ts.ptrs
  tracks := ts.tracks.set p { ts.track p with id := i, baseURL := some u }
  media := ts.media.set (ts.track p).media ⟨ts.attrs (ts.track p).media ++ [controlAttribute i]⟩
  ptrs_lt q hq := by simpa using ts.ptrs_lt q hq
  media_lt t ht := by
    rw [List.length_set]
    by_cases hp : p < ts.tracks.length
    · rcases List.mem_or_eq_of_mem_set ht with ht | rfl
      · exact ts.media_lt t ht
      · exact ts.media_lt (ts.track p) (ts.track_mem hp)
    · rw [List.set_eq_of_length_le (by omega)] at ht
      exact ts.media_lt t ht

/-- The loop of `Announce` over the addresses `ps`, from index `i`. -/
def Tracks.prepareFrom (u : String) : Nat → List Nat → Tracks → Tracks
  | _, [], ts => ts
  | i, p :: ps, ts => prepareFrom u (i + 1) ps (ts.prepareTrack u i p)

/-- The loop of `Announce` over the tracks, from index `i`. -/
def prepareTracksFrom (u : String) (i : Nat) (ts : Tracks) : Tracks := Tracks.prepareFrom u i ts.ptrs ts

/-- The ANNOUNCE request. -/
def announceRequest (u : String) (tracks : Tracks) : Request :=
  ⟨.announce, some u, [("Content-Type", ["application/sdp"])], tracks.write⟩

/-- What a call of `Announce` gives: its result, the connection and the caller's tracks after it, and the request it
sent, if it got that far. -/
structure AnnounceOutcome where
  result : Except Err Response
  conn : ClientConn
  tracks : Tracks
  sent : Option Request

/-- `ClientConn.Announce`. -/
def ClientConn.announce (c : ClientConn) (u : String) (tracks : Tracks) (doReq : Request → Except Err Response) :
    AnnounceOutcome :=
  match c.checkState [.initial] with
  | .error e => ⟨.error e, c, tracks, none⟩
  | .ok () =>
    let tracks := prepareTracksFrom u 0 tracks
    let req := announceRequest u tracks
    match doReq req with
    | .error e => ⟨.error e, c, tracks, some req⟩
    | .ok res =>
      if res.statusCode ≠ statusOK then
        ⟨.error (.wrongStatusCode res.statusCode res.statusMessage), c, tracks, some req⟩
      else ⟨.ok res, { c with streamURL := some u, state := .preRecord }, tracks, some req⟩

/-- `Announce`: refused by the state check with nothing written, or the tracks prepared and the request sent; the
connection changes only on a 200, to `PreRecord` with the announced URL. -/
theorem ClientConn.announce_spec (c : ClientConn) (u : String) (tracks : Tracks)
    (doReq : Request → Except Err Response) :
    (c.state ≠ .initial ∧ c.announce u tracks doReq = ⟨.error (.wrongState [.initial] c.state), c, tracks, none⟩) ∨
      (c.state = .initial ∧ (c.announce u tracks doReq).tracks = prepareTracksFrom u 0 tracks ∧
        (c.announce u tracks doReq).sent = some (announceRequest u (prepareTracksFrom u 0 tracks)) ∧
        (((∃ res, doReq (announceRequest u (prepareTracksFrom u 0 tracks)) = .ok res ∧ res.statusCode = statusOK ∧
            (c.announce u tracks doReq).result = .ok res) ∧
          (c.announce u tracks doReq).conn = { c with streamURL := some u, state := .preRecord }) ∨
        ((∃ e, (c.announce u tracks doReq).result = .error e) ∧ (c.announce u tracks doReq).conn = c ∧
          ∀ res, doReq (announceRequest u (prepareTracksFrom u 0 tracks)) = .ok res → res.statusCode ≠ statusOK))) := by
  by_cases hs : c.state = .initial
  · refine .inr ⟨hs, ?_⟩
    simp only [ClientConn.announce, ClientConn.checkState, hs, List.mem_singleton, if_true]
    rcases hd : doReq (announceRequest u (prepareTracksFrom u 0 tracks)) with e | res
    · simp
    · by_cases h200 : res.statusCode = statusOK
      · simp [h200]
      · simp [h200]
  · exact .inl ⟨hs, by simp [ClientConn.announce, ClientConn.checkState, hs]⟩

/-! ## `Setup` and `Record` -/

/-- Modelled from the spec: `Setup` (not in the sources), legal in `Initial`, `PrePlay` and `PreRecord`; a 200 keeps
`PreRecord` (publisher mode) or moves to `PrePlay` (reader mode), and records the stream protocol. -/
def ClientConn.setup (c : ClientConn) (p : StreamProtocol) (doReq : Request → Except Err Response) :
    Except Err Response × ClientConn :=
  match c.checkState [.initial, .prePlay, .preRecord] with
  | .error e => (.error e, c)
  | .ok () =>
    match doReq ⟨.setup, c.streamURL, [], []⟩ with
    | .error e => (.error e, c)
    | .ok res =>
      if res.statusCode ≠ statusOK then (.error (.wrongStatusCode res.statusCode res.statusMessage), c)
      else
        (.ok res, { c with streamProtocol := some p, state := if c.state = .preRecord then .preRecord else .prePlay })

/-- The RECORD request. -/
def ClientConn.recordRequest (c : ClientConn) : Request := ⟨.record, c.streamURL, [], []⟩

/-- `ClientConn.Record`, which returns a nil response on success; `none` where `*c.streamProtocol` dereferences a nil
pointer, which panics. Starting the loop also starts the response reader of `backgroundRecordUDP`. -/
def ClientConn.record (c : ClientConn) (doReq : Request → Except Err Response) :
    Option (Except Err (Option Response) × ClientConn) :=
  match c.checkState [.preRecord] with
  | .error e => some (.error e, c)
  | .ok () =>
    match doReq c.recordRequest with
    | .error e => some (.error e, c)
    | .ok res =>
      if res.statusCode ≠ statusOK then some (.error (.wrongStatusCode res.statusCode res.statusMessage), c)
      else
        let c := { c with state := .record, publishOpen := true, backgroundTerminate := .live, backgroundDone := .live }
        match c.streamProtocol with
        | none => none
        | some .udp => some (.ok none, { c with loop := .select, reader := .reading })
        | some .tcp => some (.ok none, { c with loop := .select })

/-- The connection after a successful `Record` with protocol `p`: one record loop started. -/
def ClientConn.recording (c : ClientConn) (p : StreamProtocol) : ClientConn :=
  { c with state := .record, publishOpen := true, backgroundTerminate := .live, backgroundDone := .live,
           loop := .select, reader := if p = .udp then .reading else c.reader }

/-- `Record` once SETUP chose the protocol: an error leaves the connection as it was; a success needs `PreRecord`
and a 200, and starts the record loop of the protocol. -/
theorem ClientConn.record_spec (c : ClientConn) {p : StreamProtocol} (hp : c.streamProtocol = some p)
    (doReq : Request → Except Err Response) :
    (∃ e, c.record doReq = some (.error e, c) ∧
        (c.state = .preRecord → ∀ res, doReq c.recordRequest = .ok res → res.statusCode ≠ statusOK)) ∨
      (c.state = .preRecord ∧ (∃ res, doReq c.recordRequest = .ok res ∧ res.statusCode = statusOK) ∧
        c.record doReq = some (.ok none, c.recording p)) := by
  by_cases hs : c.state = .preRecord
  · rcases hd : doReq c.recordRequest with e | res
    · exact .inl ⟨e, by simp [ClientConn.record, ClientConn.checkState, hs, hd], fun _ _ h => by cases h⟩
    · by_cases h200 : res.statusCode = statusOK
      · refine .inr ⟨hs, ⟨res, rfl, h200⟩, ?_⟩
        cases p <;> simp [ClientConn.record, ClientConn.checkState, hs, hd, h200, hp, ClientConn.recording]
      · exact .inl ⟨.wrongStatusCode res.statusCode res.statusMessage,
          by simp [ClientConn.record, ClientConn.checkState, hs, hd, h200], fun _ r h => by cases h; exact h200⟩
  · exact .inl ⟨.wrongState [.preRecord] c.state, by simp [ClientConn.record, ClientConn.checkState, hs],
      fun h => absurd h hs⟩

/-! ## Announcing the same tracks again -/

/-- `Announce` called with the same tracks on each of `calls` in turn: a connection, a URL and the server's answers. -/
def announceAll : Tracks → List (ClientConn × String × (Request → Except Err Response)) → List AnnounceOutcome
  | _, [] => []
  | ts, (c, u, d) :: calls => c.announce u ts d :: announceAll (c.announce u ts d).tracks calls

/-- Each media's attributes followed by `m` control attributes of its index, from index `i`. -/
def appendControls (m : Nat) : Nat → List (List Attribute) → List (List Attribute)
  | _, [] => []
  | i, as :: rest => (as ++ List.replicate m (controlAttribute i)) :: appendControls m (i + 1) rest

theorem appendControls_zero : ∀ (i : Nat) (as : List (List Attribute)), appendControls 0 i as = as
  | _, [] => rfl
  | i, a :: as => by simp [appendControls, appendControls_zero (i + 1) as]

theorem appendControls_succ (m : Nat) : ∀ (i : Nat) (as : List (List Attribute)),
    appendControls 1 i (appendControls m i as) = appendControls (m + 1) i as
  | _, [] => rfl
  | i, a :: as => by simp [appendControls, appendControls_succ m (i + 1) as, List.replicate_succ']

/-- No two tracks share a media description (so no track is listed twice). -/
def Tracks.Unshared (ts : Tracks) : Prop := (ts.ptrs.map fun p => (ts.track p).media).Nodup

instance (ts : Tracks) : Decidable ts.Unshared := inferInstanceAs (Decidable (List.Nodup _))

section Prepare

variable {ts : Tracks} {u : String} {i p q m : Nat}

@[simp] theorem Tracks.ptrs_prepareTrack : (ts.prepareTrack u i p).ptrs = ts.ptrs := rfl

@[simp] theorem Tracks.length_prepareTrack : (ts.prepareTrack u i p).tracks.length = ts.tracks.length :=
  List.length_set ..

/-- `Announce` moves no `Media` pointer. -/
@[simp] theorem Tracks.media_track_prepareTrack : ((ts.prepareTrack u i p).track q).media = (ts.track q).media := by
  simp only [Tracks.track, Tracks.prepareTrack, List.getD_eq_getElem?_getD, List.getElem?_set]
  split_ifs with h₁ h₂
  · subst h₁; rfl
  · subst h₁; rw [List.getElem?_eq_none (by omega)]
  · rfl

theorem Tracks.track_prepareTrack_ne (h : q ≠ p) : (ts.prepareTrack u i p).track q = ts.track q := by
  simp only [Tracks.track, Tracks.prepareTrack, List.getD_eq_getElem?_getD, List.getElem?_set_ne (Ne.symm h)]

theorem Tracks.id_prepareTrack (hp : p < ts.tracks.length) : ((ts.prepareTrack u i p).track p).id = i := by
  simp only [Tracks.track, Tracks.prepareTrack, List.getD_eq_getElem?_getD, List.getElem?_set_self hp,
    Option.getD_some]

theorem Tracks.attrs_prepareTrack_ne (h : m ≠ (ts.track p).media) : (ts.prepareTrack u i p).attrs m = ts.attrs m := by
  simp only [Tracks.attrs, Tracks.prepareTrack, List.getD_eq_getElem?_getD, List.getElem?_set_ne (Ne.symm h)]

theorem Tracks.attrs_prepareTrack (hp : p < ts.tracks.length) :
    (ts.prepareTrack u i p).attrs (ts.track p).media = ts.attrs (ts.track p).media ++ [controlAttribute i] := by
  simp only [Tracks.attrs, Tracks.prepareTrack, List.getD_eq_getElem?_getD,
    List.getElem?_set_self (ts.media_lt _ (ts.track_mem hp)), Option.getD_some]

@[simp] theorem Tracks.ptrs_prepareFrom (ps : List Nat) : (Tracks.prepareFrom u i ps ts).ptrs = ts.ptrs := by
  induction ps generalizing i ts with
  | nil => rfl
  | cons p ps ih => exact ih

@[simp] theorem Tracks.media_track_prepareFrom (ps : List Nat) :
    ((Tracks.prepareFrom u i ps ts).track q).media = (ts.track q).media := by
  induction ps generalizing i ts with
  | nil => rfl
  | cons p ps ih => exact ih.trans Tracks.media_track_prepareTrack

theorem Tracks.length_prepareFrom (ps : List Nat) : (Tracks.prepareFrom u i ps ts).tracks.length = ts.tracks.length := by
  induction ps generalizing i ts with
  | nil => rfl
  | cons p ps ih => exact ih.trans Tracks.length_prepareTrack

/-- The loop leaves the tracks at other addresses alone. -/
theorem Tracks.track_prepareFrom_of_not_mem {ps : List Nat} (hq : q ∉ ps) :
    (Tracks.prepareFrom u i ps ts).track q = ts.track q := by
  induction ps generalizing i ts with
  | nil => rfl
  | cons p ps ih =>
    rw [List.mem_cons, not_or] at hq
    exact (ih hq.2).trans (Tracks.track_prepareTrack_ne hq.1)

/-- The loop leaves the media descriptions no track of `ps` points to alone. -/
theorem Tracks.attrs_prepareFrom_of_not_mem {ps : List Nat} (hm : m ∉ ps.map fun p => (ts.track p).media) :
    (Tracks.prepareFrom u i ps ts).attrs m = ts.attrs m := by
  induction ps generalizing i ts with
  | nil => rfl
  | cons p ps ih =>
    simp only [List.map_cons, List.mem_cons, not_or] at hm
    exact (ih (by simpa using hm.2)).trans (Tracks.attrs_prepareTrack_ne hm.1)

/-- With no media description shared, the loop appends to the media of the `k`-th address of `ps` the one control
attribute of `i + k`. -/
theorem Tracks.attrs_prepareFrom {ps : List Nat} (hv : ∀ p ∈ ps, p < ts.tracks.length)
    (hd : (ps.map fun p => (ts.track p).media).Nodup) :
    ps.map (fun p => (Tracks.prepareFrom u i ps ts).attrs (ts.track p).media) =
      appendControls 1 i (ps.map fun p => ts.attrs (ts.track p).media) := by
  induction ps generalizing i ts with
  | nil => rfl
  | cons p ps ih =>
    rw [List.map_cons, List.nodup_cons] at hd
    have ih' := @ih (ts.prepareTrack u i p) (i + 1)
      (fun q hq => by simpa using hv q (.tail _ hq)) (by simpa using hd.2)
    simp only [Tracks.media_track_prepareTrack] at ih'
    simp only [List.map_cons, Tracks.prepareFrom, appendControls, List.replicate_one]
    rw [Tracks.attrs_prepareFrom_of_not_mem (by simpa using hd.1), Tracks.attrs_prepareTrack (hv p (.head _)), ih']
    congr 2
    exact List.map_congr_left fun q hq => Tracks.attrs_prepareTrack_ne fun h => hd.1 (h ▸ List.mem_map_of_mem _ hq)

/-- With no track listed twice, the loop numbers the tracks of `ps` from `i`. -/
theorem Tracks.ids_prepareFrom {ps : List Nat} (hv : ∀ p ∈ ps, p < ts.tracks.length) (hd : ps.Nodup) :
    ps.map (fun p => ((Tracks.prepareFrom u i ps ts).track p).id) = List.range' i ps.length := by
  induction ps generalizing i ts with
  | nil => rfl
  | cons p ps ih =>
    rw [List.nodup_cons] at hd
    simp only [List.map_cons, Tracks.prepareFrom, List.length_cons, List.range'_succ]
    rw [Tracks.track_prepareFrom_of_not_mem hd.1, Tracks.id_prepareTrack (hv p (.head _)),
      ih (fun q hq => by simpa using hv q (.tail _ hq)) hd.2]

theorem Tracks.Unshared.prepare (h : ts.Unshared) : (prepareTracksFrom u i ts).Unshared := by
  simpa [Tracks.Unshared, prepareTracksFrom] using h

theorem write_prepareTracksFrom (h : ts.Unshared) : (prepareTracksFrom u i ts).write = appendControls 1 i ts.write := by
  simp only [Tracks.write, prepareTracksFrom, Tracks.ptrs_prepareFrom, Tracks.media_track_prepareFrom]
  exact Tracks.attrs_prepareFrom ts.ptrs_lt h

theorem ids_prepareTracksFrom (h : ts.Unshared) : (prepareTracksFrom u i ts).ids = List.range' i ts.ptrs.length := by
  simp only [Tracks.ids, prepareTracksFrom, Tracks.ptrs_prepareFrom]
  exact Tracks.ids_prepareFrom ts.ptrs_lt (List.Nodup.of_map _ h)

end Prepare

/-- `Announce` keeps the caller's pointers and their sharing, and numbers the tracks if it sent its request. -/
theorem ClientConn.announce_tracks (c : ClientConn) (u : String) {ts : Tracks} (d : Request → Except Err Response)
    (hu : ts.Unshared) :
    (c.announce u ts d).tracks.ptrs = ts.ptrs ∧ (c.announce u ts d).tracks.Unshared ∧
      ((c.announce u ts d).sent.isSome → (c.announce u ts d).tracks.ids = List.range ts.ptrs.length) := by
  rcases c.announce_spec u ts d with ⟨-, he⟩ | ⟨-, ht, -, -⟩
  · rw [he]; exact ⟨rfl, hu, fun h => absurd h (by simp)⟩
  · rw [ht]; exact ⟨Tracks.ptrs_prepareFrom _, hu.prepare, fun _ => by rw [ids_prepareTracksFrom hu, List.range_eq_range']⟩

/-- Over calls on unshared tracks that carry `m` control attributes: the `j`-th ANNOUNCE sent carries `m + j + 1`. -/
theorem announceAll_bodies (m : Nat) (as : List (List Attribute)) :
    ∀ (ts : Tracks) (calls : List (ClientConn × String × (Request → Except Err Response))),
      ts.Unshared → ts.write = appendControls m 0 as →
      ∀ j body, (((announceAll ts calls).filterMap (·.sent))[j]?).map Request.body = some body →
        body = appendControls (m + j + 1) 0 as
  | _, [], _, _, _, _, h => by simp [announceAll] at h
  | ts, (c, u, d) :: calls, hu, hts, j, body, h => by
    rcases c.announce_spec u ts d with ⟨-, he⟩ | ⟨-, ht, hsent, -⟩
    · simp only [announceAll, he, List.filterMap_cons] at h
      exact announceAll_bodies m as ts calls hu hts j body h
    · simp only [announceAll, hsent, List.filterMap_cons, ht] at h
      have hw : (prepareTracksFrom u 0 ts).write = appendControls (m + 1) 0 as := by
        rw [write_prepareTracksFrom hu, hts, appendControls_succ]
      rcases j with _ | j
      · simp only [List.getElem?_cons_zero, Option.map_some', Option.some.injEq] at h
        rw [← h, announceRequest, hw]
      · have := announceAll_bodies (m + 1) as _ calls hu.prepare hw j body (by simpa using h)
        rw [this]; congr 1; omega

/-- The tracks of unshared tracks are numbered by their index after any call that sent its request. -/
theorem announceAll_ids : ∀ (ts : Tracks) (calls : List (ClientConn × String × (Request → Except Err Response))),
    ts.Unshared → ∀ o ∈ announceAll ts calls, o.sent.isSome → o.tracks.ids = List.range ts.ptrs.length
  | _, [], _, o, h => by simp [announceAll] at h
  | ts, (c, u, d) :: calls, hu, o, h => by
    obtain ⟨hp, hu', hid⟩ := c.announce_tracks u d hu
    rcases List.mem_cons.mp h with rfl | h
    · exact hid
    · rw [← hp]; exact announceAll_ids _ calls hu' o h

end Gortsplib.Client
