import Gortsplib.Strings

/-!
# The RTP-Info header

`headers.RTPInfo`: `Read` decodes one header value into entries `url=…;seq=…;rtptime=…` separated by commas,
appending each entry to `*h` as it is read; `Write` joins the entries with commas. The URL type of `base` is not in
the sources: `base.ParseURL` and `(*base.URL).String` are the parameters `parseURL` and `urlString`. A nil `URL` that
`Write` dereferences panics, so `Write` is `none` there.

* `RTPInfo.read_write`: for a non-empty list whose URLs read back from their text, and whose text has no `,` and no
  `;` (the separators `Read` splits on, which `Write` does not escape), `Read` reads back what `Write` wrote;
* `RTPInfo.write_read`: on what `Read` accepts, `Write` is defined exactly when every entry has a URL, and reads back
  for URLs as above; `readEntries_length`: a successful `Read` appends one entry per comma-separated part;
* `RTPInfo.read_appends_entries`: `Read` never reads or changes the entries `*h` had, and succeeds exactly when each
  comma-separated part of its single value reads as an entry, appending them in order;
* `RTPInfo.read_error_appends`: a failed `Read` keeps the entries `*h` had, followed by those of the parts before the
  first part that fails. `Read` appends as it goes, so these are left in `*h` (`RTPInfo.read_error_keeps_parsed`).
-/

namespace Gortsplib.Headers

/-- `base.HeaderValue`: the values of one header. -/
abbrev HeaderValue := List (List Char)

/-- `headers.RTPInfoEntry`, with the zero values of a fresh `&RTPInfoEntry{}`. -/
structure RTPInfoEntry (URL : Type) where
  url : Option URL := none
  sequenceNumber : UInt16 := 0
  timestamp : UInt32 := 0
  deriving DecidableEq, Repr

/-- `headers.RTPInfo`. -/
abbrev RTPInfo (URL : Type) := List (RTPInfoEntry URL)

/-- fmt's `%v` of a `[]string`. -/
def fmtList (v : List (List Char)) : List Char := '[' :: [' '].intercalate v ++ [']']

section Codec

variable {URL : Type} (parseURL : List Char → Except String URL) (urlString : URL → List Char)

/-! ## `Read` -/

/-- One `key=value` of an entry: the `switch k` of `RTPInfo.Read`. -/
def readKeyValue (e : RTPInfoEntry URL) (kv : List Char) : Except String (RTPInfoEntry URL) :=
  match splitN2 '=' kv with
  | [k, v] =>
    if k = "url".toList then (parseURL v).map fun u => { e with url := some u }
    else if k = "seq".toList then (parseUint v 16).map fun n => { e with sequenceNumber := UInt16.ofNat n }
    else if k = "rtptime".toList then (parseUint v 32).map fun n => { e with timestamp := UInt32.ofNat n }
    else .error ("invalid key: " ++ String.mk k)
  | _ => .error ("unable to parse key-value (" ++ String.mk kv ++ ")")

/-- One comma-separated entry: its `;`-separated keys read in order into a fresh entry. -/
def readEntry (tmp : List Char) : Except String (RTPInfoEntry URL) :=
  (tmp.splitOn ';').foldlM (readKeyValue parseURL) {}

/-- The loop of `Read` over the entries: each entry read is appended to `*h` before the next one is read. -/
def readEntries : RTPInfo URL → List (List Char) → Except String Unit × RTPInfo URL
  | h, [] => (.ok (), h)
  | h, tmp :: rest =>
    match readEntry parseURL tmp with
    | .error err => (.error err, h)
    | .ok e => readEntries (h ++ [e]) rest

/-- `(*RTPInfo).Read`: the error it returns, and `*h` after the call. -/
def RTPInfo.read (h : RTPInfo URL) (v : HeaderValue) : Except String Unit × RTPInfo URL :=
  match v with
  | [] => (.error "value not provided", h)
  | [v₀] => readEntries parseURL h (v₀.splitOn ',')
  | _ => (.error ("value provided multiple times (" ++ String.mk (fmtList v) ++ ")"), h)

/-! ## `Write` -/

/-- The text `Write` makes of one entry; `none` where it calls `String` on a nil `URL`. -/
def RTPInfoEntry.write (e : RTPInfoEntry URL) : Option (List Char) :=
  e.url.map fun u =>
    "url=".toList ++ urlString u ++ ";seq=".toList ++ formatUint e.sequenceNumber.toNat ++ ";rtptime=".toList ++
      formatUint e.timestamp.toNat

/-- The loop of `Write` over the entries. -/
def writeEntries : RTPInfo URL → Option (List (List Char))
  | [] => some []
  | e :: h => (e.write urlString).bind fun t => (writeEntries h).map (t :: ·)

/-- `RTPInfo.Write`. -/
def RTPInfo.write (h : RTPInfo URL) : Option HeaderValue :=
  (writeEntries urlString h).map fun rets => [[','].intercalate rets]

/-! ## Reading back what `Write` wrote -/

/-- The entries `Read` reads back from `Write`: a URL that parses back from its text, with no separator in it. -/
def RTPInfoEntry.Readable (e : RTPInfoEntry URL) : Prop :=
  ∃ u, e.url = some u ∧ parseURL (urlString u) = .ok u ∧ ',' ∉ urlString u ∧ ';' ∉ urlString u

/-- The three `key=value` parts of the text of an entry. -/
def entryParts (u : URL) (e : RTPInfoEntry URL) : List (List Char) :=
  ["url".toList ++ '=' :: urlString u, "seq".toList ++ '=' :: formatUint e.sequenceNumber.toNat,
    "rtptime".toList ++ '=' :: formatUint e.timestamp.toNat]

theorem RTPInfoEntry.write_eq {e : RTPInfoEntry URL} {u : URL} (hu : e.url = some u) :
    e.write urlString = some ([';'].intercalate (entryParts urlString u e)) := by
  simp [RTPInfoEntry.write, hu, entryParts, List.intercalate]

theorem UInt16.ofNat_toNat' (x : UInt16) : UInt16.ofNat x.toNat = x :=
  UInt16.toNat.inj (Nat.mod_eq_of_lt x.toNat_lt_size)

theorem UInt32.ofNat_toNat' (x : UInt32) : UInt32.ofNat x.toNat = x :=
  UInt32.toNat.inj (Nat.mod_eq_of_lt x.toNat_lt_size)

theorem readKeyValue_url (e : RTPInfoEntry URL) (x : List Char) :
    readKeyValue parseURL e ("url".toList ++ '=' :: x) = (parseURL x).map fun u => { e with url := some u } := by
  rw [readKeyValue, splitN2_of_not_mem x (by decide)]; simp

theorem readKeyValue_seq (e : RTPInfoEntry URL) (x : List Char) :
    readKeyValue parseURL e ("seq".toList ++ '=' :: x) =
      (parseUint x 16).map fun n => { e with sequenceNumber := UInt16.ofNat n } := by
  rw [readKeyValue, splitN2_of_not_mem x (by decide)]; simp

theorem readKeyValue_rtptime (e : RTPInfoEntry URL) (x : List Char) :
    readKeyValue parseURL e ("rtptime".toList ++ '=' :: x) =
      (parseUint x 32).map fun n => { e with timestamp := UInt32.ofNat n } := by
  rw [readKeyValue, splitN2_of_not_mem x (by decide)]; simp

theorem readEntry_parts {e : RTPInfoEntry URL} {u : URL} (hu : e.url = some u)
    (hp : parseURL (urlString u) = .ok u) (hs : ';' ∉ urlString u) :
    readEntry parseURL ([';'].intercalate (entryParts urlString u e)) = .ok e := by
  have hsplit : ([';'].intercalate (entryParts urlString u e)).splitOn ';' = entryParts urlString u e := by
    refine List.splitOn_intercalate _ _ ?_ (by simp [entryParts])
    simp only [entryParts, List.mem_cons, List.mem_singleton, List.not_mem_nil, or_false]
    rintro l (rfl | rfl | rfl) <;> simp [hs, not_mem_formatUint]
  rw [readEntry, hsplit, entryParts]
  simp only [List.foldlM_cons, List.foldlM_nil, readKeyValue_url, readKeyValue_seq, readKeyValue_rtptime, hp,
    @parseUint_formatUint 16 _ e.sequenceNumber.toNat_lt_size,
    @parseUint_formatUint 32 _ e.timestamp.toNat_lt_size]
  cases e; cases hu
  simp [Except.map, bind, Except.bind, pure, Except.pure, UInt16.ofNat_toNat', UInt32.ofNat_toNat']

theorem readEntries_readable (h : RTPInfo URL) {hs : RTPInfo URL} {texts : List (List Char)}
    (hr : ∀ e ∈ hs, e.Readable parseURL urlString) (hw : writeEntries urlString hs = some texts) :
    readEntries parseURL h texts = (.ok (), h ++ hs) := by
  induction hs generalizing h texts with
  | nil => cases hw; simp [readEntries]
  | cons e hs ih =>
    obtain ⟨u, hu, hp, -, hs'⟩ := hr e (List.mem_cons_self e hs)
    simp only [writeEntries, RTPInfoEntry.write_eq urlString hu, Option.some_bind, Option.map_eq_some'] at hw
    obtain ⟨rest, hrest, rfl⟩ := hw
    simp only [readEntries, readEntry_parts parseURL urlString hu hp hs']
    rw [ih (h ++ [e]) (fun e he => hr e (List.mem_cons_of_mem _ he)) hrest]
    simp

/-- `Write` gives one text per readable entry, none with a comma. -/
theorem writeEntries_readable {h : RTPInfo URL} (hr : ∀ e ∈ h, e.Readable parseURL urlString) :
    ∃ texts, writeEntries urlString h = some texts ∧ (∀ t ∈ texts, ',' ∉ t) ∧ texts.length = h.length := by
  induction h with
  | nil => exact ⟨[], rfl, by simp, rfl⟩
  | cons e h ih =>
    obtain ⟨texts, hw, hc, hl⟩ := ih fun e' he' => hr e' (List.mem_cons_of_mem _ he')
    obtain ⟨u, hu, -, hcu, -⟩ := hr e (List.mem_cons_self e h)
    refine ⟨[';'].intercalate (entryParts urlString u e) :: texts,
      by simp [writeEntries, RTPInfoEntry.write_eq urlString hu, hw], ?_, by simp [hl]⟩
    simp only [List.mem_cons, forall_eq_or_imp]
    refine ⟨?_, hc⟩
    simp [List.intercalate, entryParts, hcu, not_mem_formatUint]

/-- `Read` reads back what `Write` wrote from a non-empty list of entries whose URLs read back from their text and
whose text has no separator. -/
theorem RTPInfo.read_write {h : RTPInfo URL} (hne : h ≠ []) (hr : ∀ e ∈ h, e.Readable parseURL urlString) :
    ∃ s, RTPInfo.write urlString h = some [s] ∧ RTPInfo.read parseURL [] [s] = (.ok (), h) := by
  obtain ⟨texts, hw, hc, hl⟩ := writeEntries_readable parseURL urlString hr
  have hne' : texts ≠ [] := by
    rintro rfl; exact hne (List.length_eq_zero.mp hl.symm)
  refine ⟨[','].intercalate texts, by simp [RTPInfo.write, hw], ?_⟩
  simp only [RTPInfo.read, List.splitOn_intercalate _ _ hc hne', readEntries_readable parseURL urlString [] hr hw,
    List.nil_append]

theorem RTPInfo.read_write_teststream :
    let h : RTPInfo (List Char) := [⟨some "rtsp://localhost:8554/teststream".toList, 1, 2⟩]
    (h ≠ [] ∧ ∀ e ∈ h, e.Readable Except.ok id) ∧
      ∃ s, RTPInfo.write id h = some [s] ∧ RTPInfo.read Except.ok [] [s] = (.ok (), h) :=
  have hr : ∀ e ∈ [(⟨some "rtsp://localhost:8554/teststream".toList, 1, 2⟩ : RTPInfoEntry (List Char))],
      e.Readable Except.ok id := by
    intro e he
    rw [List.mem_singleton] at he
    exact he ▸ ⟨_, rfl, rfl, by decide, by decide⟩
  ⟨⟨by simp, hr⟩, RTPInfo.read_write Except.ok id (by simp) hr⟩

/-- The input of the round trip above with a comma in the URL: `Read` splits the entry at it and fails. -/
theorem RTPInfo.read_write_comma_in_url :
    let h : RTPInfo (List Char) := [⟨some "rtsp://localhost:8554/a,b".toList, 1, 2⟩]
    h ≠ [] ∧ (∀ e ∈ h, ∃ u, e.url = some u ∧ Except.ok (id u) = (Except.ok u : Except String (List Char))) ∧
      ∃ s, RTPInfo.write id h = some [s] ∧
        (RTPInfo.read Except.ok [] [s]).1 = .error "unable to parse key-value (b)" :=
  ⟨by simp, by simp, _, rfl, rfl⟩

/-! ## The image of `Read` -/

theorem readEntries_length :
    ∀ (h h' : RTPInfo URL) (ts : List (List Char)), readEntries parseURL h ts = (.ok (), h') →
      h'.length = h.length + ts.length
  | h, h', [], hr => by cases hr; rfl
  | h, h', t :: ts, hr => by
    simp only [readEntries] at hr
    split at hr
    · cases hr
    · rw [readEntries_length _ _ ts hr]; simp; omega

/-- A successful `Read` into an empty list gives at least one entry: one per comma-separated part. -/
theorem RTPInfo.read_ne_nil {v : HeaderValue} {h : RTPInfo URL} (hv : RTPInfo.read parseURL [] v = (.ok (), h)) :
    h ≠ [] := by
  match v, hv with
  | [v₀], hv =>
    have := readEntries_length parseURL _ _ _ hv
    have hs := List.splitOnP_ne_nil (fun c => c == ',') v₀
    intro he; subst he
    simp only [List.length_nil, Nat.zero_add] at this
    exact hs (List.length_eq_zero.mp (by rw [List.splitOn] at this; omega))

theorem writeEntries_isSome_iff (h : RTPInfo URL) :
    (writeEntries urlString h).isSome ↔ ∀ e ∈ h, e.url.isSome := by
  induction h with
  | nil => simp [writeEntries]
  | cons e h ih =>
    cases hu : e.url <;> simp [writeEntries, RTPInfoEntry.write, hu, ← ih, Option.isSome_map]

/-- On what `Read` accepts, `Write` is defined exactly when every entry has a URL, and then, for URLs that read back
from their text with no separator in it, `Read` reads back what `Write` wrote. -/
theorem RTPInfo.write_read {v : HeaderValue} {h : RTPInfo URL} (hv : RTPInfo.read parseURL [] v = (.ok (), h)) :
    ((RTPInfo.write urlString h).isSome ↔ ∀ e ∈ h, e.url.isSome) ∧
      ((∀ e ∈ h, e.Readable parseURL urlString) →
        ∃ s, RTPInfo.write urlString h = some [s] ∧ RTPInfo.read parseURL [] [s] = (.ok (), h)) := by
  refine ⟨by simp [RTPInfo.write, Option.isSome_map, writeEntries_isSome_iff], fun hr => ?_⟩
  obtain ⟨texts, hw, hc, hl⟩ := writeEntries_readable parseURL urlString hr
  have hne : texts ≠ [] := by
    rintro rfl; exact RTPInfo.read_ne_nil parseURL hv (List.length_eq_zero.mp hl.symm)
  refine ⟨[','].intercalate texts, by simp [RTPInfo.write, hw], ?_⟩
  simp only [RTPInfo.read, List.splitOn_intercalate _ _ hc hne, readEntries_readable parseURL urlString [] hr hw,
    List.nil_append]

theorem RTPInfo.write_read_teststream :
    let v : HeaderValue := ["url=rtsp://localhost:8554/teststream;seq=1;rtptime=2".toList]
    let h : RTPInfo (List Char) := [⟨some "rtsp://localhost:8554/teststream".toList, 1, 2⟩]
    RTPInfo.read Except.ok [] v = (.ok (), h) ∧ ((RTPInfo.write id h).isSome ↔ ∀ e ∈ h, e.url.isSome) ∧
      ((∀ e ∈ h, e.Readable Except.ok id) →
        ∃ s, RTPInfo.write id h = some [s] ∧ RTPInfo.read Except.ok [] [s] = (.ok (), h)) :=
  ⟨rfl, @RTPInfo.write_read _ Except.ok id ["url=rtsp://localhost:8554/teststream;seq=1;rtptime=2".toList] _ rfl⟩

/-- `Read` accepts an entry without `url`, and `Write` then dereferences its nil URL. -/
theorem RTPInfo.write_read_without_url :
    @RTPInfo.read (List Char) Except.ok [] ["seq=1".toList] = (.ok (), [{ sequenceNumber := 1 }]) ∧
      RTPInfo.write id [({ sequenceNumber := 1 } : RTPInfoEntry (List Char))] = none :=
  ⟨rfl, rfl⟩

/-! ## `Read` as a whole -/

/-- The loop reads the same whatever `*h` holds, and only appends to it. -/
theorem readEntries_append (h₀ : RTPInfo URL) : ∀ (h : RTPInfo URL) (ts : List (List Char)),
    readEntries parseURL (h₀ ++ h) ts = ((readEntries parseURL h ts).1, h₀ ++ (readEntries parseURL h ts).2)
  | h, [] => rfl
  | h, t :: ts => by
    simp only [readEntries]
    split
    · rfl
    · rw [List.append_assoc]; exact readEntries_append h₀ (h ++ [_]) ts

/-- A loop that succeeds has appended the entries of all the parts, in order. -/
theorem readEntries_ok : ∀ (h h' : RTPInfo URL) (ts : List (List Char)),
    readEntries parseURL h ts = (.ok (), h') ↔ ∃ es, ts.mapM (readEntry parseURL) = .ok es ∧ h' = h ++ es
  | h, h', [] => ⟨fun e => ⟨[], rfl, by cases e; simp⟩, fun ⟨es, hm, he⟩ => by cases hm; simp [he, readEntries]⟩
  | h, h', t :: ts => by
    simp only [readEntries, List.mapM_cons]
    cases he : readEntry parseURL t with
    | error err => simp [bind, Except.bind]
    | ok e =>
      rw [readEntries_ok (h ++ [e]) h' ts]
      cases hs : ts.mapM (readEntry parseURL) with
      | error err => simp [bind, Except.bind]
      | ok es => simp [bind, Except.bind, pure, Except.pure]

/-- `Read` reads the header value alone: into any `*h` it returns the error it returns into an empty `RTPInfo`, and
appends to `*h` what it leaves there, without reading or changing the entries `*h` had. It succeeds exactly when the
header has one value each of whose comma-separated parts reads as an entry, and then appends those entries in order. -/
theorem RTPInfo.read_appends_entries (h : RTPInfo URL) (v : HeaderValue) :
    RTPInfo.read parseURL h v = ((RTPInfo.read parseURL [] v).1, h ++ (RTPInfo.read parseURL [] v).2) ∧
      ∀ h', RTPInfo.read parseURL h v = (.ok (), h') ↔
        ∃ v₀, v = [v₀] ∧ ∃ es, (v₀.splitOn ',').mapM (readEntry parseURL) = .ok es ∧ h' = h ++ es := by
  match v with
  | [] => exact ⟨by simp [RTPInfo.read], fun h' => by simp [RTPInfo.read]⟩
  | [v₀] => exact ⟨by simpa using readEntries_append parseURL h [] (v₀.splitOn ','),
      fun h' => by simp only [RTPInfo.read, readEntries_ok, List.cons.injEq, and_true, exists_eq_left']⟩
  | _ :: _ :: _ => exact ⟨by simp [RTPInfo.read], fun h' => by simp [RTPInfo.read]⟩

/-! ## What a failed `Read` leaves in `*h` -/

/-- A failed loop has appended the entries of the parts before the one that fails, and nothing else. -/
theorem readEntries_error :
    ∀ (h h' : RTPInfo URL) (ts : List (List Char)) (err : String), readEntries parseURL h ts = (.error err, h') →
      ∃ pre bad post es, ts = pre ++ bad :: post ∧ pre.mapM (readEntry parseURL) = .ok es ∧
        readEntry parseURL bad = .error err ∧ h' = h ++ es
  | h, h', [], err, hr => by cases hr
  | h, h', t :: ts, err, hr => by
    simp only [readEntries] at hr
    split at hr
    · next he => cases hr; exact ⟨[], t, ts, [], rfl, rfl, he, (List.append_nil h).symm⟩
    · next e he =>
      obtain ⟨pre, bad, post, es, rfl, hes, hbad, rfl⟩ := readEntries_error _ _ ts err hr
      refine ⟨t :: pre, bad, post, e :: es, rfl, ?_, hbad, by simp⟩
      rw [List.mapM_cons, he, hes]; rfl

/-- A failed `Read` keeps the entries `*h` had and appends those read from the comma-separated parts before the first
part that fails, in order; it appends nothing when the header has no value or several. -/
theorem RTPInfo.read_error_appends {h h' : RTPInfo URL} {v : HeaderValue} {err : String}
    (hr : RTPInfo.read parseURL h v = (.error err, h')) :
    ∃ es, h' = h ++ es ∧ ((∀ v₀, v ≠ [v₀]) → es = []) ∧ ∀ v₀, v = [v₀] →
      ∃ pre bad post, v₀.splitOn ',' = pre ++ bad :: post ∧ pre.mapM (readEntry parseURL) = .ok es ∧
        readEntry parseURL bad = .error err := by
  match v, hr with
  | [], hr => cases hr; exact ⟨[], by simp, fun _ => rfl, fun _ h => by cases h⟩
  | [v₀], hr =>
    obtain ⟨pre, bad, post, es, hs, hes, hbad, rfl⟩ := readEntries_error parseURL _ _ _ _ hr
    exact ⟨es, rfl, fun hn => absurd rfl (hn v₀), fun _ hv => by cases hv; exact ⟨pre, bad, post, hs, hes, hbad⟩⟩
  | _ :: _ :: _, hr => cases hr; exact ⟨[], by simp, fun _ => rfl, fun _ h => by simp at h⟩

theorem RTPInfo.read_error_appends_seq :
    let h : RTPInfo (List Char) := [{ sequenceNumber := 7 }]
    let v : HeaderValue := ["seq=1,x".toList]
    RTPInfo.read Except.ok h v = (.error "unable to parse key-value (x)", h ++ [{ sequenceNumber := 1 }]) ∧
      ∃ es, h ++ [{ sequenceNumber := 1 }] = h ++ es ∧ ((∀ v₀, v ≠ [v₀]) → es = []) ∧ ∀ v₀, v = [v₀] →
        ∃ pre bad post, v₀.splitOn ',' = pre ++ bad :: post ∧ pre.mapM (readEntry Except.ok) = .ok es ∧
          readEntry Except.ok bad = .error "unable to parse key-value (x)" :=
  ⟨rfl, RTPInfo.read_error_appends Except.ok rfl⟩

/-- A value whose second entry fails: the first entry is left appended to a non-empty `*h`. -/
theorem RTPInfo.read_error_keeps_parsed :
    @RTPInfo.read (List Char) Except.ok [{ sequenceNumber := 7 }] ["seq=1,x".toList] =
      (.error "unable to parse key-value (x)", [{ sequenceNumber := 7 }, { sequenceNumber := 1 }]) :=
  rfl

end Codec

end Gortsplib.Headers
