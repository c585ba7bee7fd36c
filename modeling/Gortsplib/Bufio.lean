import Mathlib.Data.List.Basic

/-!
# `bufio.Writer`, as concurrent callers see it

The control connection of a client is written through `c.bw`, a `bufio.Writer`: a buffer of `size` bytes, the
count `b.n` of bytes in it and the error `b.err` it keeps. An interleaved frame is written with `frame.Write(c.bw)`,
which (modelled from the spec, its source is not given) writes the bytes of the frame with `bw.Write` and, if that
returned nil, sends them with `bw.Flush`:

```go
func (b *Writer) Write(p []byte) (nn int, err error) {
	for len(p) > b.Available() && b.err == nil {
		var n int
		if b.Buffered() == 0 {
			n, b.err = b.wr.Write(p)
		} else {
			n = copy(b.buf[b.n:], p)
			b.n += n
			b.Flush()
		}
		nn += n
		p = p[n:]
	}
	if b.err != nil {
		return nn, b.err
	}
	n := copy(b.buf[b.n:], p)
	b.n += n
	nn += n
	return nn, nil
}

func (b *Writer) Flush() error {
	if b.err != nil {
		return b.err
	}
	if b.n == 0 {
		return nil
	}
	n, err := b.wr.Write(b.buf[0:b.n])
	if n < b.n && err == nil {
		err = io.ErrShortWrite
	}
	if err != nil {
		if n > 0 && n < b.n {
			copy(b.buf[0:b.n-n], b.buf[n:b.n])
		}
		b.n -= n
		b.err = err
		return err
	}
	b.n = 0
	return nil
}
```

Nothing in it is synchronized. A caller is a program counter (`BwPc`); each step reads or writes `b.n`, `b.err` or
the buffer once, or writes to the connection, and the steps of several callers interleave. A step is `none` where Go
panics: a slice of the buffer out of its bounds. Each byte in the buffer and on the connection carries a ghost tag,
the writer that copied it into the buffer (`τ`); a byte of the buffer no write has filled is zero, tagged `z`.

Used by one caller at a time, a frame write appends its frame to what the connection and the buffer hold together
(`BwPc.Ok`, kept by every step: `BwPc.Ok.next`, `BwPc.Ok.sock`): the bytes of the frame on the connection, then
those in the buffer, then those `Write` has left, are the frame. At a nil return the whole frame is on the
connection and the buffer is empty; once a write has failed, the frame write can only return the error
(`BwNext.Failed`), and `b.err` stays.
-/

namespace Gortsplib.Bufio

/-- `bufio.Writer`: the size of its buffer, the bytes of the buffer some write has filled, each with the tag of the
writer that copied it (the bytes past the end of `buf` are zero), `b.n` and `b.err`. -/
structure BufWriter (τ ε : Type) where
  size : Nat
  buf : List (τ × UInt8)
  n : Int
  err : Option ε
  deriving DecidableEq, Repr

/-- Where a caller of `frame.Write(bw)` is: in `bw.Write` of the frame's bytes, with `p` left to write, then in
`bw.Flush`. A `Flush` called in the loop of `Write` goes back to the loop with the bytes left (`some p`); the `Flush`
of `frame.Write` returns its result from it (`none`). -/
inductive BwPc (ε : Type) where
  /-- `len(p) > b.Available() && b.err == nil` and `b.Buffered() == 0` in the loop, or `b.err != nil` after it. -/
  | loop (p : List UInt8)
  /-- `n, b.err = b.wr.Write(p)`: a large write into an empty buffer goes to the connection. -/
  | direct (p : List UInt8)
  /-- `n = copy(b.buf[b.n:], p)`, in the loop of `Write` or after it. -/
  | copy (p : List UInt8) (inLoop : Bool)
  /-- `b.n += n`, then `Flush`. -/
  | add (m : Nat) (ret : Option (List UInt8))
  /-- `if b.err != nil { return b.err }` and `if b.n == 0 { return nil }`. -/
  | flush (ret : Option (List UInt8))
  /-- `n, err := b.wr.Write(b.buf[0:b.n])`. -/
  | flushWrite (ret : Option (List UInt8))
  /-- The rest of `Flush` once its write returned `m` and `e`. -/
  | flushed (ret : Option (List UInt8)) (m : Nat) (e : Option ε)
  deriving DecidableEq, Repr

/-- Where a step of `frame.Write(bw)` leads: a place in it, or its return with an error. -/
inductive BwNext (ε : Type) where
  | at (pc : BwPc ε)
  | done (r : Option ε)
  deriving DecidableEq, Repr

/-- The return of `Flush` with `r`: to the loop of `Write`, which drops `r`, or out of `frame.Write`. -/
def BwNext.back {ε : Type} (r : Option ε) : Option (List UInt8) → BwNext ε
  | some p => .at (.loop p)
  | none => .done r

/-- What a write of `len` bytes to a `net.Conn` returns: all of them and nil, or at most all of them and an error. -/
def Written {ε : Type} (len m : Nat) : Option ε → Prop
  | none => m = len
  | some _ => m ≤ len

instance {ε : Type} (len m : Nat) : (e : Option ε) → Decidable (Written len m e)
  | none => inferInstanceAs (Decidable (m = len))
  | some _ => inferInstanceAs (Decidable (m ≤ len))

section Steps

variable {τ ε : Type} (z : τ) (short : ε)

/-- The byte at index `i` of the buffer, with its tag. -/
def BufWriter.cell (b : BufWriter τ ε) (i : Nat) : τ × UInt8 := b.buf.getD i (z, 0)

/-- `b.buf[lo:hi]`. -/
def BufWriter.slice (b : BufWriter τ ε) (lo hi : Nat) : List (τ × UInt8) :=
  (List.range' lo (hi - lo)).map (b.cell z)

/-- `copy(b.buf[o:], xs)`, for `xs` that fit. -/
def BufWriter.fill (b : BufWriter τ ε) (o : Nat) (xs : List (τ × UInt8)) : BufWriter τ ε :=
  { b with buf := (List.range (max b.buf.length (o + xs.length))).map fun i =>
      if o ≤ i ∧ i < o + xs.length then xs.getD (i - o) (z, 0) else b.cell z i }

/-- A step of `frame.Write(bw)` at `pc` by the writer tagged `s`, other than a write to the connection. -/
def BwPc.next (s : τ) (b : BufWriter τ ε) : BwPc ε → Option (BwNext ε × BufWriter τ ε)
  | .loop p =>
    if (b.size : Int) - b.n < p.length ∧ b.err.isNone then
      some (.at (if b.n = 0 then .direct p else .copy p true), b)
    else
      match b.err with
      | some e => some (.done (some e), b)
      | none => some (.at (.copy p false), b)
  | .copy p inLoop =>
    if 0 ≤ b.n ∧ b.n ≤ b.size then
      let m := min p.length (b.size - b.n.toNat)
      some (.at (.add m (if inLoop then some (p.drop m) else none)),
        b.fill z b.n.toNat ((p.take m).map (Prod.mk s)))
    else none
  | .add m ret => some (.at (.flush ret), { b with n := b.n + m })
  | .flush ret =>
    match b.err with
    | some e => some (.back (some e) ret, b)
    | none => some (if b.n = 0 then .back none ret else .at (.flushWrite ret), b)
  | .flushed ret m e =>
    match (if (m : Int) < b.n ∧ e.isNone then some short else e) with
    | some e' =>
      if 0 < m ∧ (m : Int) < b.n then
        if b.n ≤ b.size then
          some (.back (some e') ret,
            { b.fill z 0 (b.slice z m b.n.toNat) with n := b.n - m, err := some e' })
        else none
      else some (.back (some e') ret, { b with n := b.n - m, err := some e' })
    | none => some (.back none ret, { b with n := 0 })
  | .direct _ | .flushWrite _ => none

/-- The write to the connection at `pc`, which wrote `m` bytes and returned `e`: where it leads, the writer, and the
bytes that reached the connection. -/
def BwPc.sock (s : τ) (m : Nat) (e : Option ε) (b : BufWriter τ ε) :
    BwPc ε → Option (BwNext ε × BufWriter τ ε × List (τ × UInt8))
  | .direct p =>
    if Written p.length m e then some (.at (.loop (p.drop m)), { b with err := e }, (p.take m).map (Prod.mk s))
    else none
  | .flushWrite ret =>
    if 0 ≤ b.n ∧ b.n ≤ b.size ∧ Written b.n.toNat m e then
      some (.at (.flushed ret m e), b, (b.slice z 0 b.n.toNat).take m)
    else none
  | _ => none

end Steps

/-! ## The buffer as a list of bytes -/

section Buffer

variable {τ ε : Type} (z : τ) {b : BufWriter τ ε}

theorem BufWriter.length_slice (lo hi : Nat) : (b.slice z lo hi).length = hi - lo := by
  simp [BufWriter.slice]

theorem BufWriter.cell_fill (o : Nat) (xs : List (τ × UInt8)) (i : Nat) :
    (b.fill z o xs).cell z i = if o ≤ i ∧ i < o + xs.length then xs.getD (i - o) (z, 0) else b.cell z i := by
  unfold BufWriter.cell BufWriter.fill
  rw [List.getD_eq_getElem?_getD, List.getElem?_map]
  by_cases hi : i < max b.buf.length (o + xs.length)
  · rw [List.getElem?_range hi]; rfl
  · rw [List.getElem?_eq_none (by simp only [List.length_range]; omega), if_neg (by omega),
      List.getD_eq_getElem?_getD, List.getElem?_eq_none (by omega)]
    rfl

@[simp] theorem BufWriter.size_fill (o : Nat) (xs : List (τ × UInt8)) : (b.fill z o xs).size = b.size := rfl
@[simp] theorem BufWriter.n_fill (o : Nat) (xs : List (τ × UInt8)) : (b.fill z o xs).n = b.n := rfl
@[simp] theorem BufWriter.err_fill (o : Nat) (xs : List (τ × UInt8)) : (b.fill z o xs).err = b.err := rfl

theorem map_range'_getD (d : τ × UInt8) : ∀ (o : Nat) (xs : List (τ × UInt8)),
    (List.range' o xs.length).map (fun i => xs.getD (i - o) d) = xs
  | _, [] => rfl
  | o, x :: xs => by
    simp only [List.length_cons, List.range'_succ, List.map_cons, Nat.sub_self, List.getD_cons_zero,
      List.cons.injEq, true_and]
    conv_rhs => rw [← map_range'_getD d (o + 1) xs]
    refine List.map_congr_left fun i hi => ?_
    obtain ⟨h₁, -⟩ := List.mem_range'_1.mp hi
    rw [show i - o = (i - (o + 1)) + 1 by omega, List.getD_cons_succ]

/-- Filling the buffer from `o` leaves the bytes before `o` and puts `xs` after them. -/
theorem BufWriter.slice_fill (o : Nat) (xs : List (τ × UInt8)) :
    (b.fill z o xs).slice z 0 (o + xs.length) = b.slice z 0 o ++ xs := by
  unfold BufWriter.slice
  rw [Nat.sub_zero, Nat.sub_zero, Nat.add_comm o, ← List.range'_append_1 0 o xs.length, List.map_append,
    Nat.zero_add]
  congr 1
  · refine List.map_congr_left fun i hi => ?_
    rw [BufWriter.cell_fill, if_neg fun h => by have := List.mem_range'_1.mp hi; omega]
  · conv_rhs => rw [← map_range'_getD (z, 0) o xs]
    refine List.map_congr_left fun i hi => ?_
    rw [BufWriter.cell_fill, if_pos (by have := List.mem_range'_1.mp hi; omega)]

end Buffer

/-! ## One caller at a time -/

section Serial

variable {τ ε : Type} (z : τ) (short : ε)

/-- The first `k` bytes of the buffer are `xs`, copied by the writer tagged `s`, and fit in it. -/
def BufWriter.Has (b : BufWriter τ ε) (s : τ) (k : Nat) (xs : List UInt8) : Prop :=
  k ≤ b.size ∧ b.slice z 0 k = xs.map (Prod.mk s)

/-- The buffer holds `xs`, copied by the writer tagged `s`: `b.n` counts them. -/
def BufWriter.Holds (b : BufWriter τ ε) (s : τ) (xs : List UInt8) : Prop :=
  0 ≤ b.n ∧ b.Has z s b.n.toNat xs

/-- What holds at `pc` of a frame write of `F` by the writer tagged `s`, the only caller, while `b.err` is nil: the
bytes of `F` already on the connection (`sent`), then those in the buffer, then those `Write` has left, are `F`. -/
def BwPc.Ok (s : τ) (F sent : List UInt8) (b : BufWriter τ ε) : BwPc ε → Prop
  | .loop p => ∃ xs, b.Holds z s xs ∧ F = sent ++ xs ++ p
  | .direct p => b.n = 0 ∧ F = sent ++ p
  | .copy p inLoop => ∃ xs, b.Holds z s xs ∧ F = sent ++ xs ++ p ∧ (inLoop = false → xs.length + p.length ≤ b.size)
  | .add m ret => ∃ xs, 0 ≤ b.n ∧ b.Has z s (b.n.toNat + m) xs ∧ F = sent ++ xs ++ ret.getD []
  | .flush ret | .flushWrite ret => ∃ xs, b.Holds z s xs ∧ F = sent ++ xs ++ ret.getD []
  | .flushed ret m e => ∃ xs, b.Holds z s xs ∧ Written xs.length m e ∧ F = sent ++ xs.drop m ++ ret.getD []

/-- What holds after a step: `Ok` at the next place; at a nil return, the whole frame is on the connection and the
buffer is empty. -/
def BwNext.Ok (s : τ) (F sent : List UInt8) (b : BufWriter τ ε) : BwNext ε → Prop
  | .at pc => pc.Ok z s F sent b
  | .done r => r = none ∧ sent = F ∧ b.n = 0

/-- After a failed write the frame write can only return the error: it is at the loop of `Write`, or has returned
an error. -/
def BwNext.Failed {ε : Type} : BwNext ε → Prop
  | .at pc => ∃ p, pc = .loop p
  | .done r => r.isSome

variable {z} {s : τ} {b b' : BufWriter τ ε} {xs : List UInt8}

theorem BufWriter.Has.length {k : Nat} (h : b.Has z s k xs) : xs.length = k := by
  have := congrArg List.length h.2
  rw [BufWriter.length_slice, List.length_map] at this
  omega

theorem BufWriter.Holds.length (h : b.Holds z s xs) : (xs.length : Int) = b.n := by
  rw [h.2.length]; exact Int.toNat_of_nonneg h.1

theorem BufWriter.holds_nil (h : b.n = 0) : b.Holds z s [] :=
  ⟨by omega, by simp [h], by simp [h, BufWriter.slice]⟩

theorem BufWriter.Has.fill {o : Nat} (h : b.Has z s o xs) (ys : List UInt8) (hs : o + ys.length ≤ b.size) :
    (b.fill z o (ys.map (Prod.mk s))).Has z s (o + ys.length) (xs ++ ys) := by
  refine ⟨hs, ?_⟩
  have := BufWriter.slice_fill z (b := b) o (ys.map (Prod.mk s))
  rw [List.length_map] at this
  rw [this, h.2, List.map_append]

/-- A frame write keeps a prefix of its frame on the connection. -/
theorem BwPc.Ok.prefix {F sent : List UInt8} {pc : BwPc ε} (h : pc.Ok z s F sent b) : sent <+: F := by
  cases pc with
  | loop p => obtain ⟨xs, -, rfl⟩ := h; simp [List.append_assoc]
  | direct p => obtain ⟨-, rfl⟩ := h; simp
  | copy p inLoop => obtain ⟨xs, -, rfl, -⟩ := h; simp [List.append_assoc]
  | add m ret => obtain ⟨xs, -, -, rfl⟩ := h; simp [List.append_assoc]
  | flush ret | flushWrite ret => obtain ⟨xs, -, rfl⟩ := h; simp [List.append_assoc]
  | flushed ret m e => obtain ⟨xs, -, -, rfl⟩ := h; simp [List.append_assoc]

theorem BufWriter.Has.of_buf {k : Nat} (h : b.Has z s k xs) (hs : b'.size = b.size) (hb : b'.buf = b.buf) :
    b'.Has z s k xs := by
  unfold BufWriter.Has BufWriter.slice BufWriter.cell at h ⊢
  rw [hs, hb]; exact h

/-- A step of a frame write by the only caller, while no write has failed: the frame write goes on, or returns nil
with the whole frame on the connection and the buffer empty, or (a failed `Flush`) has failed `b.err` and can only
return the error. -/
theorem BwPc.Ok.next {F sent : List UInt8} {pc : BwPc ε} {nx : BwNext ε} (hok : pc.Ok z s F sent b)
    (he : b.err = none) (h : pc.next z short s b = some (nx, b')) :
    b'.err = none ∧ nx.Ok z s F sent b' ∨ b'.err.isSome ∧ nx.Failed := by
  cases pc with
  | loop p =>
    obtain ⟨xs, hx, rfl⟩ := hok
    have hn := hx.length
    simp only [BwPc.next, he, Option.isNone_none, and_true] at h
    split at h <;> (obtain ⟨rfl, rfl⟩ := Prod.mk.inj (Option.some.inj h); refine .inl ⟨he, ?_⟩)
    · split
      · obtain rfl : xs = [] := List.length_eq_zero.mp (by omega)
        exact ⟨‹_›, by simp⟩
      · exact ⟨xs, hx, rfl, nofun⟩
    · exact ⟨xs, hx, rfl, fun _ => by omega⟩
  | direct p => cases h
  | copy p inLoop =>
    obtain ⟨xs, hx, rfl, hfit⟩ := hok
    have hn := hx.length
    have hsz := hx.2.1
    simp only [BwPc.next] at h
    rw [if_pos ⟨hx.1, by omega⟩] at h
    obtain ⟨rfl, rfl⟩ := Prod.mk.inj (Option.some.inj h)
    have hm : (p.take (min p.length (b.size - b.n.toNat))).length = min p.length (b.size - b.n.toNat) := by
      simp only [List.length_take]; omega
    have hhas := hx.2.fill (p.take (min p.length (b.size - b.n.toNat))) (by omega)
    rw [hm] at hhas
    refine .inl ⟨he, xs ++ p.take (min p.length (b.size - b.n.toNat)), hx.1, hhas, ?_⟩
    cases inLoop with
    | true => simp [List.append_assoc]
    | false =>
      have := hfit rfl
      have hl := hx.2.length
      rw [List.take_of_length_le (by omega)]
      simp
  | add m ret =>
    obtain ⟨xs, h0, hx, rfl⟩ := hok
    obtain ⟨rfl, rfl⟩ := Prod.mk.inj (Option.some.inj h)
    refine .inl ⟨he, xs, ⟨by simp only; omega, hx.of_buf rfl rfl |> fun h' => ?_⟩, rfl⟩
    rwa [show (b.n + (m : Int)).toNat = b.n.toNat + m by omega]
  | flush ret =>
    obtain ⟨xs, hx, rfl⟩ := hok
    have hn := hx.length
    simp only [BwPc.next, he] at h
    obtain ⟨rfl, rfl⟩ := Prod.mk.inj (Option.some.inj h)
    refine .inl ⟨he, ?_⟩
    split
    · obtain rfl : xs = [] := List.length_eq_zero.mp (by omega)
      cases ret with
      | none => exact ⟨rfl, by simp, ‹_›⟩
      | some p => exact ⟨[], hx, by simp⟩
    · exact ⟨xs, hx, rfl⟩
  | flushWrite ret => cases h
  | flushed ret m e =>
    obtain ⟨xs, hx, hw, rfl⟩ := hok
    have hn := hx.length
    cases e with
    | none =>
      have hm : m = xs.length := hw
      simp only [BwPc.next, Option.isNone_none, and_true, show ¬((m : Int) < b.n) by omega, if_false] at h
      obtain ⟨rfl, rfl⟩ := Prod.mk.inj (Option.some.inj h)
      refine .inl ⟨he, ?_⟩
      cases ret with
      | none => exact ⟨rfl, by simp [hm], rfl⟩
      | some p => exact ⟨[], BufWriter.holds_nil rfl, by simp [hm]⟩
    | some e =>
      simp only [BwPc.next, Option.isNone_some, Bool.false_eq_true, and_false, if_false] at h
      have hf : (BwNext.back (some e) ret : BwNext ε).Failed := by cases ret <;> simp [BwNext.back, BwNext.Failed]
      split at h
      · split at h
        · obtain ⟨rfl, rfl⟩ := Prod.mk.inj (Option.some.inj h); exact .inr ⟨rfl, hf⟩
        · cases h
      · obtain ⟨rfl, rfl⟩ := Prod.mk.inj (Option.some.inj h); exact .inr ⟨rfl, hf⟩

/-- The write to the connection by the only caller, while no write has failed: the bytes written are the next bytes
of the frame, and the frame write goes on, or has failed `b.err` and can only return the error. -/
theorem BwPc.Ok.sock {F sent : List UInt8} {pc : BwPc ε} {nx : BwNext ε} {m : Nat} {e : Option ε}
    {ys : List (τ × UInt8)} (hok : pc.Ok z s F sent b) (he : b.err = none)
    (h : pc.sock z s m e b = some (nx, b', ys)) :
    ∃ zs, ys = zs.map (Prod.mk s) ∧ sent ++ zs <+: F ∧
      (b'.err = none ∧ nx.Ok z s F (sent ++ zs) b' ∨ b'.err.isSome ∧ nx.Failed) := by
  cases pc with
  | direct p =>
    obtain ⟨hn, rfl⟩ := hok
    simp only [BwPc.sock] at h
    split at h
    · simp only [Option.some.injEq, Prod.mk.injEq] at h
      obtain ⟨rfl, rfl, rfl⟩ := h
      refine ⟨p.take m, rfl, (List.prefix_append_right_inj sent).mpr (List.take_prefix m p), ?_⟩
      cases e with
      | none =>
        have hm : m = p.length := ‹Written _ _ none›
        exact .inl ⟨rfl, [], BufWriter.holds_nil hn, by simp [hm]⟩
      | some e => exact .inr ⟨rfl, _, rfl⟩
    · cases h
  | flushWrite ret =>
    obtain ⟨xs, hx, rfl⟩ := hok
    simp only [BwPc.sock] at h
    split at h
    · rename_i hc
      simp only [Option.some.injEq, Prod.mk.injEq] at h
      obtain ⟨rfl, rfl, rfl⟩ := h
      have hl := hx.2.length
      have hp : sent ++ xs.take m <+: sent ++ xs ++ ret.getD [] := by
        rw [List.append_assoc]
        exact (List.prefix_append_right_inj sent).mpr ((List.take_prefix m xs).trans (List.prefix_append _ _))
      refine ⟨xs.take m, by rw [hx.2.2, List.map_take], hp, ?_⟩
      exact .inl ⟨he, xs, hx, by rw [hl]; exact hc.2.2, by simp [List.append_assoc]⟩
    · cases h
  | _ => cases h

end Serial

/-! ## What a step can put in the buffer and on the connection -/

section Tags

variable {τ ε : Type} (z : τ) {short : ε} {s : τ} {b b' : BufWriter τ ε}

theorem BufWriter.mem_cell (i : Nat) : b.cell z i ∈ b.buf ∨ b.cell z i = (z, 0) := by
  unfold BufWriter.cell
  rw [List.getD_eq_getElem?_getD]
  cases h : b.buf[i]? with
  | none => exact .inr rfl
  | some x => exact .inl (List.getElem?_mem h)

theorem BufWriter.mem_slice {lo hi : Nat} {x : τ × UInt8} (hx : x ∈ b.slice z lo hi) : x ∈ b.buf ∨ x = (z, 0) := by
  obtain ⟨i, -, rfl⟩ := List.mem_map.mp hx
  exact b.mem_cell z i

theorem BufWriter.mem_fill {o : Nat} {xs : List (τ × UInt8)} {x : τ × UInt8} (hx : x ∈ (b.fill z o xs).buf) :
    x ∈ xs ∨ x ∈ b.buf ∨ x = (z, 0) := by
  obtain ⟨i, -, rfl⟩ := List.mem_map.mp hx
  split
  · rw [List.getD_eq_getElem?_getD]
    cases h : xs[i - o]? with
    | none => exact .inr (.inr rfl)
    | some y => exact .inl (List.getElem?_mem h)
  · exact .inr (b.mem_cell z i)

/-- A step of the writer tagged `s` leaves in the buffer only bytes that were there, bytes it copied, and zeros. -/
theorem BwPc.next_mem {pc : BwPc ε} {nx : BwNext ε} (h : pc.next z short s b = some (nx, b')) {x : τ × UInt8}
    (hx : x ∈ b'.buf) : x ∈ b.buf ∨ x.1 = s ∨ x = (z, 0) := by
  cases pc with
  | loop p =>
    simp only [BwPc.next] at h
    split at h
    · obtain ⟨-, rfl⟩ := Prod.mk.inj (Option.some.inj h); exact .inl hx
    · split at h <;> (obtain ⟨-, rfl⟩ := Prod.mk.inj (Option.some.inj h); exact .inl hx)
  | copy p inLoop =>
    simp only [BwPc.next] at h
    split at h
    · obtain ⟨-, rfl⟩ := Prod.mk.inj (Option.some.inj h)
      rcases BufWriter.mem_fill z hx with hx | hx | hx
      · obtain ⟨y, -, rfl⟩ := List.mem_map.mp hx; exact .inr (.inl rfl)
      · exact .inl hx
      · exact .inr (.inr hx)
    · cases h
  | add m ret => obtain ⟨-, rfl⟩ := Prod.mk.inj (Option.some.inj h); exact .inl hx
  | flush ret =>
    simp only [BwPc.next] at h
    split at h <;> (obtain ⟨-, rfl⟩ := Prod.mk.inj (Option.some.inj h); exact .inl hx)
  | flushed ret m e =>
    simp only [BwPc.next] at h
    split at h
    · split at h
      · split at h
        · obtain ⟨-, rfl⟩ := Prod.mk.inj (Option.some.inj h)
          rcases BufWriter.mem_fill z hx with hx | hx | hx
          · exact (BufWriter.mem_slice z hx).imp_right .inr
          · exact .inl hx
          · exact .inr (.inr hx)
        · cases h
      · obtain ⟨-, rfl⟩ := Prod.mk.inj (Option.some.inj h); exact .inl hx
    · obtain ⟨-, rfl⟩ := Prod.mk.inj (Option.some.inj h); exact .inl hx
  | direct p | flushWrite ret => cases h

/-- A write to the connection by the writer tagged `s` leaves the buffer, and writes bytes of the buffer or bytes it
copied. -/
theorem BwPc.sock_mem {pc : BwPc ε} {nx : BwNext ε} {m : Nat} {e : Option ε} {ys : List (τ × UInt8)}
    (h : pc.sock z s m e b = some (nx, b', ys)) : b'.buf = b.buf ∧ ∀ x ∈ ys, x ∈ b.buf ∨ x.1 = s ∨ x = (z, 0) := by
  cases pc with
  | direct p =>
    simp only [BwPc.sock] at h
    split at h
    · simp only [Option.some.injEq, Prod.mk.injEq] at h
      obtain ⟨-, rfl, rfl⟩ := h
      refine ⟨rfl, fun x hx => ?_⟩
      obtain ⟨y, -, rfl⟩ := List.mem_map.mp hx
      exact .inr (.inl rfl)
    · cases h
  | flushWrite ret =>
    simp only [BwPc.sock] at h
    split at h
    · simp only [Option.some.injEq, Prod.mk.injEq] at h
      obtain ⟨-, rfl, rfl⟩ := h
      exact ⟨rfl, fun x hx => (BufWriter.mem_slice z (List.mem_of_mem_take hx)).imp_right .inr⟩
    · cases h
  | _ => cases h

end Tags

/-! ## A failed writer -/

section Failed

variable {τ ε : Type} (z : τ) (short : ε) {s : τ} {b b' : BufWriter τ ε}

/-- Once `b.err` is set, `Write` returns it at once and changes nothing. -/
theorem BwPc.next_loop_err {e : ε} (he : b.err = some e) (p : List UInt8) :
    (BwPc.loop p).next z short s b = some (.done (some e), b) := by
  simp [BwPc.next, he]

theorem BwNext.back_eq_done {r r' : Option ε} {ret : Option (List UInt8)} (h : BwNext.back r ret = .done r') :
    ret = none ∧ r = r' := by
  cases ret <;> simp_all [BwNext.back]

/-- A frame write that returns an error leaves it in `b.err`. -/
theorem BwPc.next_done_err {pc : BwPc ε} {e : ε} (h : pc.next z short s b = some (.done (some e), b')) :
    b'.err = some e := by
  cases pc with
  | loop p =>
    simp only [BwPc.next] at h
    split at h
    · simp at h
    · split at h <;> simp_all
  | copy p inLoop => simp only [BwPc.next] at h; split at h <;> simp at h
  | add m ret => simp [BwPc.next] at h
  | flush ret =>
    simp only [BwPc.next] at h
    split at h
    · obtain ⟨h₁, rfl⟩ := Prod.mk.inj (Option.some.inj h)
      rw [← (BwNext.back_eq_done h₁).2]; assumption
    · split at h
      · cases (BwNext.back_eq_done (Prod.mk.inj (Option.some.inj h)).1).2
      · simp at h
  | flushed ret m e' =>
    simp only [BwPc.next] at h
    split at h
    · split at h
      · split at h
        · obtain ⟨h₁, rfl⟩ := Prod.mk.inj (Option.some.inj h)
          rw [← (BwNext.back_eq_done h₁).2]
        · cases h
      · obtain ⟨h₁, rfl⟩ := Prod.mk.inj (Option.some.inj h)
        rw [← (BwNext.back_eq_done h₁).2]
    · cases (BwNext.back_eq_done (Prod.mk.inj (Option.some.inj h)).1).2
  | direct p | flushWrite ret => cases h

/-- A write to the connection never ends the frame write. -/
theorem BwPc.sock_at {pc : BwPc ε} {m : Nat} {e : Option ε} {nx : BwNext ε} {ys : List (τ × UInt8)}
    (h : pc.sock z s m e b = some (nx, b', ys)) : ∃ pc', nx = .at pc' := by
  cases pc with
  | direct p | flushWrite ret =>
    simp only [BwPc.sock] at h
    split at h
    · simp only [Option.some.injEq, Prod.mk.injEq] at h; exact ⟨_, h.1.symm⟩
    · cases h
  | _ => cases h

end Failed

/-! ## The only caller always moves on -/

section Progress

variable {τ ε : Type} (z : τ) (short : ε) {s : τ} {b : BufWriter τ ε}

/-- The steps a frame write at `pc` has left, at most, once every write to the connection writes all it is given. -/
def BwPc.rank (b : BufWriter τ ε) : BwPc ε → Nat
  | .loop p =>
    if b.err.isSome then 1 else if (b.size : Int) - b.n < p.length then (if b.n = 0 then 8 else 14) else 6
  | .direct _ => 7
  | .copy _ inLoop => if inLoop then 13 else 5
  | .add _ ret => 4 + ret.elim 0 fun _ => 8
  | .flush ret => 3 + ret.elim 0 fun _ => 8
  | .flushWrite ret => 2 + ret.elim 0 fun _ => 8
  | .flushed ret _ _ => 1 + ret.elim 0 fun _ => 8

/-- The rank after a step; nothing is left once the frame write has returned. -/
def BwNext.rank (b : BufWriter τ ε) : BwNext ε → Nat
  | .at pc => pc.rank b
  | .done _ => 0

theorem BwPc.rank_le (pc : BwPc ε) : pc.rank b ≤ 14 := by
  cases pc with
  | loop p => simp only [BwPc.rank]; split_ifs <;> omega
  | copy p inLoop => cases inLoop <;> simp [BwPc.rank]
  | add _ ret | flush ret | flushWrite ret | flushed ret _ _ => cases ret <;> simp [BwPc.rank]
  | direct p => simp [BwPc.rank]

theorem BwPc.rank_loop_empty (he : b.err = none) (hn : b.n = 0) (p : List UInt8) : (BwPc.loop p).rank b ≤ 8 := by
  simp only [BwPc.rank, he, hn]; split_ifs <;> omega

theorem BwNext.rank_back_lt {r : Option ε} (ret : Option (List UInt8))
    (hb : ∀ p, ret = some p → (BwPc.loop p).rank b ≤ 8) : (BwNext.back r ret).rank b < 1 + ret.elim 0 fun _ => 8 := by
  cases ret with
  | none => simp [BwNext.back, BwNext.rank]
  | some p => have := hb p rfl; simp only [BwNext.back, BwNext.rank, Option.elim_some]; omega

/-- The only caller, while no write has failed, has a step of its own, or a write to the connection that writes all
it is given, and it lowers the rank. -/
theorem BwPc.Ok.progress {F sent : List UInt8} {pc : BwPc ε} (hok : pc.Ok z s F sent b) (he : b.err = none) :
    (∃ nx b', pc.next z short s b = some (nx, b') ∧ nx.rank b' < pc.rank b) ∨
      ∃ m nx b' ys, pc.sock z s m none b = some (nx, b', ys) ∧ nx.rank b' < pc.rank b := by
  cases pc with
  | loop p =>
    refine .inl ?_
    by_cases hbig : (b.size : Int) - b.n < p.length
    · refine ⟨.at (if b.n = 0 then .direct p else .copy p true), b, by simp [BwPc.next, he, hbig], ?_⟩
      by_cases hn : b.n = 0
      · simp [BwNext.rank, BwPc.rank, he, hn, show b.size < p.length by omega]
      · simp [BwNext.rank, BwPc.rank, he, hbig, hn]
    · refine ⟨.at (.copy p false), b, by simp [BwPc.next, he, hbig], ?_⟩
      simp [BwNext.rank, BwPc.rank, he, hbig]
  | direct p =>
    obtain ⟨hn, -⟩ := hok
    refine .inr ⟨p.length, .at (.loop []), { b with err := none }, p.map (Prod.mk s), by simp [BwPc.sock, Written], ?_⟩
    simp [BwNext.rank, BwPc.rank, hn, show ¬((b.size : Int) < 0) by omega]
  | copy p inLoop =>
    obtain ⟨xs, hx, -⟩ := hok
    have := hx.2.1
    refine .inl ⟨_, _, by rw [BwPc.next, if_pos ⟨hx.1, by omega⟩], ?_⟩
    cases inLoop <;> simp [BwNext.rank, BwPc.rank]
  | add m ret => exact .inl ⟨_, _, rfl, by simp only [BwNext.rank, BwPc.rank]; omega⟩
  | flush ret =>
    refine .inl ?_
    by_cases hn : b.n = 0
    · refine ⟨.back none ret, b, by simp [BwPc.next, he, hn], ?_⟩
      exact BwNext.rank_back_lt ret (fun p _ => BwPc.rank_loop_empty he hn p) |>.trans_le (by simp only [BwPc.rank]; omega)
    · refine ⟨.at (.flushWrite ret), b, by simp [BwPc.next, he, hn], ?_⟩
      simp only [BwNext.rank, BwPc.rank]; omega
  | flushWrite ret =>
    obtain ⟨xs, hx, -⟩ := hok
    have hl := hx.2.length
    have := hx.2.1
    refine .inr ⟨b.n.toNat, _, _, _, by rw [BwPc.sock, if_pos ⟨hx.1, by omega, rfl⟩], ?_⟩
    simp only [BwNext.rank, BwPc.rank]; omega
  | flushed ret m e =>
    obtain ⟨xs, hx, hw, -⟩ := hok
    have hl := hx.length
    have := hx.2.1
    refine .inl ?_
    cases e with
    | none =>
      have hm : m = xs.length := hw
      refine ⟨.back none ret, { b with n := 0 }, by simp [BwPc.next, show ¬((m : Int) < b.n) by omega], ?_⟩
      exact BwNext.rank_back_lt ret fun p _ => BwPc.rank_loop_empty (b := { b with n := 0 }) he rfl p
    | some e =>
      have hback : ∀ b' : BufWriter τ ε, b'.err = some e →
          (BwNext.back (some e) ret).rank b' < (BwPc.flushed ret m (some e)).rank b := fun b' he' => by
        cases ret <;> simp [BwNext.back, BwNext.rank, BwPc.rank, he']
      simp only [BwPc.next, Option.isNone_some, Bool.false_eq_true, and_false, if_false]
      split_ifs with h₁ h₂
      · exact ⟨_, _, rfl, hback _ rfl⟩
      · omega
      · exact ⟨_, _, rfl, hback _ rfl⟩

end Progress

end Gortsplib.Bufio
