import ShaderVariants.Proofs.OutputPaths
/-!
# One origin per output line

An expansion's text is the concatenation of the pieces its renderer writes, each piece a text
with the place of the segment that wrote it. Its source map is computed byte by byte
(`Expansion.originsFrom`): the first byte of a line fixes the line's origin, a line feed closes
the line, and the end of the text closes a last line left open. So an empty piece sets no origin,
and a piece that goes on from where the line before it stopped (an include in the middle of a
line, a value with line feeds in it) leaves the line the origin it had.

The output lines of a text are the pieces between its line feeds, a last piece after the last
line feed counting only when it is not empty (`Bytes.lineCount`); line `i`, from 0, starts after
the lines before it and their line feeds (`Bytes.lineStart`). Read line by line
(`List.sepInduction`), the origins of a stream of placed bytes are one per line
(`Expansion.length_originsFrom`), each the place of the byte the line starts with
(`Expansion.getElem?_originsFrom`). `sourceLine` cuts the same text at the same line feeds, after
reading each CR LF pair as a line feed, which keeps the line feeds where they are; so it reads
the line the origin belongs to (`Bytes.sourceLine_succ`).

`Session.expand_origins_per_line` puts these together for whatever expands, with any includes
and any values.
-/

namespace ShaderVariants

/-! ## §1 — Induction along separators -/

namespace List

/-- A list is a last run free of separators, or a run free of separators, a separator and the
rest. -/
theorem sepInduction {α : Type} (p : α → Prop) {motive : List α → Prop}
    (last : ∀ l, (∀ y ∈ l, ¬ p y) → motive l)
    (line : ∀ l x r, (∀ y ∈ l, ¬ p y) → p x → motive r → motive (l ++ x :: r))
    (xs : List α) : motive xs := by
  -- the run read since the last separator is carried along as `l`
  suffices h : ∀ l, (∀ y ∈ l, ¬ p y) → motive (l ++ xs) from h [] (by simp)
  induction xs with
  | nil =>
    intro l hl
    simpa using last l hl
  | cons x r ih =>
    intro l hl
    by_cases hx : p x
    · exact line l x r hl hx (by simpa using ih [] (by simp))
    · have hlx : ∀ y ∈ l ++ [x], ¬ p y := by
        intro y hy
        rcases List.mem_append.1 hy with hy | hy
        · exact hl y hy
        · rw [List.mem_singleton.1 hy]
          exact hx
      simpa using ih (l ++ [x]) hlx

end List

/-! ## §2 — The lines of a text -/

namespace Bytes

/-- The number of lines of a text: one per line feed, and one more for a last line that no line
feed ends. -/
def lineCount (t : Bytes) : Nat :=
  t.count lf + if t ≠ [] ∧ t.getLast? ≠ some lf then 1 else 0

/-- Line `i` (from 0) of a text, without its line feed; empty past the last line. -/
def line (t : Bytes) (i : Nat) : Bytes :=
  ((splitOn lf t)[i]?).getD []

/-- Where line `i` (from 0) of a text starts: after the lines before it, each with its line
feed. -/
def lineStart (t : Bytes) (i : Nat) : Nat :=
  (((splitOn lf t).take i).map fun l => l.length + 1).sum

theorem lineCount_last {l : Bytes} (hl : lf ∉ l) : lineCount l = if l = [] then 0 else 1 := by
  have hlast : l.getLast? ≠ some lf := fun h => hl (List.mem_of_getLast? h)
  simp [lineCount, List.count_eq_zero.2 hl, hlast]

/-- A line and its line feed add one line. -/
theorem lineCount_line {l : Bytes} (hl : lf ∉ l) (r : Bytes) :
    lineCount (l ++ lf :: r) = lineCount r + 1 := by
  have hcount : (l ++ lf :: r).count lf = r.count lf + 1 := by
    simp [List.count_eq_zero.2 hl]
  cases r with
  | nil => simp [lineCount, hcount]
  | cons b r =>
    have hlast : (l ++ lf :: b :: r).getLast? = (b :: r).getLast? := by
      rw [List.getLast?_append_of_ne_nil _ (List.cons_ne_nil _ _), List.getLast?_cons_cons]
    rw [lineCount, lineCount, hcount, hlast]
    simp only [ne_eq, List.append_eq_nil_iff, and_false, not_false_eq_true, true_and,
      List.cons_ne_nil]
    omega

theorem line_last {l : Bytes} (hl : lf ∉ l) (i : Nat) : line l i = ([l][i]?).getD [] := by
  rw [line, splitOn_of_not_mem hl]

theorem line_line_zero {l : Bytes} (hl : lf ∉ l) (r : Bytes) : line (l ++ lf :: r) 0 = l := by
  rw [line, splitOn_line hl]
  rfl

theorem line_line_succ {l : Bytes} (hl : lf ∉ l) (r : Bytes) (i : Nat) :
    line (l ++ lf :: r) (i + 1) = line r i := by
  rw [line, line, splitOn_line hl, List.getElem?_cons_succ]

@[simp] theorem lineStart_zero (t : Bytes) : lineStart t 0 = 0 := by
  simp [lineStart]

/-- Past the last line, a text without line feeds has started it and its missing line feed. -/
theorem lineStart_last_succ {l : Bytes} (hl : lf ∉ l) (i : Nat) :
    lineStart l (i + 1) = l.length + 1 := by
  simp [lineStart, splitOn_of_not_mem hl]

theorem lineStart_line_succ {l : Bytes} (hl : lf ∉ l) (r : Bytes) (i : Nat) :
    lineStart (l ++ lf :: r) (i + 1) = l.length + 1 + lineStart r i := by
  simp [lineStart, splitOn_line hl]

/-- A text without line feeds keeps its CR LF reading. -/
theorem normalizeLineEnds_of_not_mem {l : Bytes} (hl : lf ∉ l) : normalizeLineEnds l = l := by
  induction l with
  | nil => rfl
  | cons b r ih =>
    have hr : lf ∉ r := fun h => hl (List.mem_cons_of_mem b h)
    cases r with
    | nil =>
      rw [normalizeLineEnds.eq_3 b [] fun _ _ h => List.cons_ne_nil _ _ h.symm]
      rfl
    | cons c r' =>
      have hc : c ≠ lf := fun h => hr (by simp [h])
      rw [normalizeLineEnds.eq_3 b _ fun _ _ h => hc (List.cons.inj h).1, ih hr]

/-- **Line `i + 1` that `sourceLine` reads is line `i` of the text,** less one final carriage
return when a line feed ends it: reading CR LF pairs as line feeds moves no line feed. -/
theorem sourceLine_succ (t : Bytes) (i : Nat) :
    sourceLine t (i + 1) = if i < t.count lf then dropFinalCr (line t i) else line t i := by
  rw [sourceLine, if_neg (by omega), Nat.add_sub_cancel]
  induction t using List.sepInduction (fun b => b = lf) generalizing i with
  | last l hl =>
    have hl' : lf ∉ l := fun h => hl lf h rfl
    rw [normalizeLineEnds_of_not_mem hl', List.count_eq_zero.2 hl', if_neg (Nat.not_lt_zero i),
      line_last hl', splitOn_of_not_mem hl']
  | line l x r hl hx ih =>
    subst hx
    have hl' : lf ∉ l := fun h => hl lf h rfl
    rw [normalizeLineEnds_line hl', splitOn_line (lf_not_mem_dropFinalCr hl')]
    cases i with
    | zero => simp [line_line_zero hl']
    | succ i =>
      rw [List.getElem?_cons_succ, ih i, line_line_succ hl']
      simp [List.count_eq_zero.2 hl']

end Bytes

/-! ## §3 — The origins of placed bytes -/

namespace Expansion

/-- Bytes other than line feeds leave the line under way open, its origin the first of theirs
unless it had one already. -/
theorem originsFrom_append_run {ys : List (UInt8 × Place)} (hys : ∀ y ∈ ys, ¬ y.1 = Bytes.lf)
    (cur : Option Place) (zs : List (UInt8 × Place)) :
    originsFrom cur (ys ++ zs) = originsFrom (cur.or (ys.head?.map Prod.snd)) zs := by
  induction ys generalizing cur with
  | nil => simp
  | cons y ys ih =>
    obtain ⟨b, p⟩ := y
    have hb : (b == Bytes.lf) = false := by simpa using hys (b, p) (by simp)
    rw [List.cons_append, originsFrom, if_neg (by simp [hb]),
      ih (fun y hy => hys y (List.mem_cons_of_mem _ hy))]
    cases cur <;> rfl

/-- A line feed closes the line under way, with its own place when nothing opened it. -/
theorem originsFrom_lf (cur : Option Place) (p : Place) (r : List (UInt8 × Place)) :
    originsFrom cur ((Bytes.lf, p) :: r) = cur.getD p :: originsFrom none r := by
  simp [originsFrom]

theorem lf_not_mem_map_fst {l : List (UInt8 × Place)} (hl : ∀ y ∈ l, ¬ y.1 = Bytes.lf) :
    Bytes.lf ∉ l.map Prod.fst := by
  intro h
  obtain ⟨y, hy, hy1⟩ := List.mem_map.1 h
  exact hl y hy hy1

/-- **One origin per line** of the placed bytes. -/
theorem length_originsFrom (xs : List (UInt8 × Place)) :
    (originsFrom none xs).length = Bytes.lineCount (xs.map Prod.fst) := by
  induction xs using List.sepInduction (fun x : UInt8 × Place => x.1 = Bytes.lf) with
  | last l hl =>
    have hl' := lf_not_mem_map_fst hl
    rw [← List.append_nil l, originsFrom_append_run hl, List.append_nil,
      Bytes.lineCount_last hl']
    cases l <;> simp [originsFrom]
  | line l x r hl hx ih =>
    obtain ⟨b, p⟩ := x
    simp only at hx
    subst hx
    have hl' := lf_not_mem_map_fst hl
    rw [originsFrom_append_run hl, originsFrom_lf, List.length_cons, ih, List.map_append,
      List.map_cons, Bytes.lineCount_line hl']

/-- **The origin of each line is the place of its first byte;** there is none past the last
line. -/
theorem getElem?_originsFrom (xs : List (UInt8 × Place)) (i : Nat) :
    (originsFrom none xs)[i]? = (xs[Bytes.lineStart (xs.map Prod.fst) i]?).map Prod.snd := by
  induction xs using List.sepInduction (fun x : UInt8 × Place => x.1 = Bytes.lf)
    generalizing i with
  | last l hl =>
    have hl' := lf_not_mem_map_fst hl
    rw [← List.append_nil l, originsFrom_append_run hl, List.append_nil]
    cases i with
    | zero => cases l <;> simp [originsFrom]
    | succ i =>
      -- past the one line, the start lies beyond the end of the bytes
      rw [Bytes.lineStart_last_succ hl', List.length_map]
      cases l <;> simp [originsFrom]
  | line l x r hl hx ih =>
    obtain ⟨b, p⟩ := x
    simp only at hx
    subst hx
    have hl' := lf_not_mem_map_fst hl
    rw [originsFrom_append_run hl, originsFrom_lf, List.map_append, List.map_cons]
    cases i with
    | zero => cases l <;> simp
    | succ i =>
      -- the rest starts one line feed after the first line
      have hrest : ∀ k, (l ++ (Bytes.lf, p) :: r)[l.length + 1 + k]? = r[k]? := fun k => by
        rw [List.getElem?_append_right (by omega),
          show l.length + 1 + k - l.length = k + 1 by omega, List.getElem?_cons_succ]
      rw [List.getElem?_cons_succ, ih i, Bytes.lineStart_line_succ hl', List.length_map, hrest]

/-! ## §4 — The pieces that write a line -/

theorem map_fst_placed (ps : List Piece) :
    (ps.flatMap fun p => p.text.map fun b => (b, p.place)).map Prod.fst =
      ps.flatMap Piece.text := by
  simp [List.map_flatMap, List.map_map, Function.comp_def]

/-- The byte at position `k` of what the pieces write comes from the piece that spans `k`. -/
theorem exists_piece_of_getElem? {ps : List Piece} {k : Nat} {x : UInt8 × Place}
    (h : (ps.flatMap fun p => p.text.map fun b => (b, p.place))[k]? = some x) :
    ∃ pre p post, ps = pre ++ p :: post ∧ (pre.flatMap Piece.text).length ≤ k ∧
      k < (pre.flatMap Piece.text).length + p.text.length ∧ x.2 = p.place := by
  induction ps generalizing k with
  | nil => simp at h
  | cons q qs ih =>
    rw [List.flatMap_cons] at h
    by_cases hk : k < q.text.length
    · -- the first piece spans `k`
      rw [List.getElem?_append_left (by simpa using hk), List.getElem?_map] at h
      obtain ⟨b, -, rfl⟩ := Option.map_eq_some_iff.1 h
      exact ⟨[], q, qs, rfl, Nat.zero_le _, by simpa using hk, rfl⟩
    · rw [List.getElem?_append_right (by simpa using hk), List.length_map] at h
      obtain ⟨pre, p, post, rfl, hle, hlt, hx⟩ := ih h
      -- the piece found in the rest lies past the first piece
      have hlen : ((q :: pre).flatMap Piece.text).length =
          q.text.length + (pre.flatMap Piece.text).length := by
        simp
      exact ⟨q :: pre, p, post, rfl, by omega, by omega, hx⟩

/-- **One origin per line** of the text the pieces write. -/
theorem length_lineOrigins (ps : List Piece) :
    (lineOrigins ps).length = Bytes.lineCount (ps.flatMap Piece.text) := by
  rw [lineOrigins, length_originsFrom, map_fst_placed]

/-- **The origin of a line is the place of the piece that wrote its first byte.** -/
theorem lineOrigins_piece {ps : List Piece} {i : Nat}
    (hi : i < Bytes.lineCount (ps.flatMap Piece.text)) :
    ∃ pre p post, ps = pre ++ p :: post ∧
      (pre.flatMap Piece.text).length ≤ Bytes.lineStart (ps.flatMap Piece.text) i ∧
      Bytes.lineStart (ps.flatMap Piece.text) i <
        (pre.flatMap Piece.text).length + p.text.length ∧
      (lineOrigins ps)[i]? = some p.place := by
  have hin : i < (lineOrigins ps).length := by
    rw [length_lineOrigins]
    exact hi
  have horigin : (lineOrigins ps)[i]? = some (lineOrigins ps)[i] := List.getElem?_eq_getElem hin
  have hat := getElem?_originsFrom (ps.flatMap fun p => p.text.map fun b => (b, p.place)) i
  rw [map_fst_placed, ← lineOrigins, horigin] at hat
  -- the line's first byte exists, and its place is the line's origin
  obtain ⟨x, hx, hplace⟩ := Option.map_eq_some_iff.1 hat.symm
  obtain ⟨pre, p, post, hps, hle, hlt, hxp⟩ := exists_piece_of_getElem? hx
  exact ⟨pre, p, post, hps, hle, hlt, by rw [horigin, ← hplace, hxp]⟩

/-- A piece that goes on from the middle of a line leaves the line its origin, and an empty piece
sets none: `a LF b`, `c LF`, nothing and `d` make the lines `a`, `bc` and `d`. -/
example : lineOrigins [⟨Bytes.ofString "a\nb", ⟨Bytes.ofString "x", 1⟩⟩,
    ⟨Bytes.ofString "c\n", ⟨Bytes.ofString "y", 1⟩⟩, ⟨[], ⟨Bytes.ofString "z", 1⟩⟩,
    ⟨Bytes.ofString "d", ⟨Bytes.ofString "x", 2⟩⟩] =
      [⟨Bytes.ofString "x", 1⟩, ⟨Bytes.ofString "x", 1⟩, ⟨Bytes.ofString "x", 2⟩] := by
  decide +kernel

/-- The origin of output line `n` is there exactly for the lines the source map has. -/
theorem origin?_isSome_iff (e : Expansion) (n : Int) :
    (e.origin? n).isSome ↔ 1 ≤ n ∧ n ≤ e.origins.length := by
  unfold origin?
  split
  · simp only [Option.isSome_none, Bool.false_eq_true, false_iff]
    omega
  · rw [isSome_getElem?]
    omega

theorem origin?_succ (e : Expansion) (i : Nat) : e.origin? (i + 1) = e.origins[i]? := by
  rw [origin?, if_neg (by omega)]
  congr 1
  omega

end Expansion

/-! ## §5 — Expansions -/

namespace Session

/-- **One origin per output line.** Whatever expands, through any nesting of includes and with
any values: the text is what the rendered pieces write; the source map has one origin for each
line of it, so the origin of line `n` is there exactly for `1 ≤ n ≤` that number; and for each
line, its origin is the place of the piece that wrote the line's first byte, the first piece
that wrote anything on it, while `sourceLine` reads that same line. -/
theorem expand_origins_per_line (s : Session) (src file : Bytes) (e : Expansion)
    (h : s.expand src file = .ok e) :
    ∃ doc ps fs, s.parse src file = .ok doc ∧ s.renderNodes 0 doc.nodes = .ok (ps, fs) ∧
      e.text = ps.flatMap Piece.text ∧ e.origins.length = Bytes.lineCount e.text ∧
      (∀ n : Int, (e.origin? n).isSome ↔ 1 ≤ n ∧ n ≤ Bytes.lineCount e.text) ∧
      ∀ i < Bytes.lineCount e.text, ∃ pre p post, ps = pre ++ p :: post ∧
        (pre.flatMap Piece.text).length ≤ Bytes.lineStart e.text i ∧
        Bytes.lineStart e.text i < (pre.flatMap Piece.text).length + p.text.length ∧
        e.origin? (i + 1) = some p.place ∧
        sourceLine e.text (i + 1) =
          if i < e.text.count Bytes.lf then Bytes.dropFinalCr (Bytes.line e.text i)
          else Bytes.line e.text i := by
  obtain ⟨doc, ps, fs, hdoc, hr, rfl⟩ := expand_eq_ok.1 h
  have hlen : (Expansion.ofPieces ps (Node.flagsNamedAll doc.nodes ++ fs)).origins.length =
      Bytes.lineCount (ps.flatMap Piece.text) := Expansion.length_lineOrigins ps
  refine ⟨doc, ps, fs, hdoc, hr, rfl, hlen, fun n => ?_, fun i hi => ?_⟩
  · rw [Expansion.origin?_isSome_iff, hlen]
    rfl
  · obtain ⟨pre, p, post, hps, hle, hlt, horigin⟩ := Expansion.lineOrigins_piece hi
    exact ⟨pre, p, post, hps, hle, hlt, by rw [Expansion.origin?_succ]; exact horigin,
      Bytes.sourceLine_succ _ i⟩

/-- A file with an include whose file ends without a line feed, and a value with a line feed in
it: `top`, the included `b1` and `b2`, the include line's own line feed, then `v=1` and `2`, the
value's second line placed at the reference. -/
theorem expand_origins_per_line_sample :
    let s : Session := ⟨[], [(Bytes.ofString "v", Bytes.ofString "1\n2")],
      Loader.ofTable [(Bytes.ofString "b.glsl", Bytes.ofString "b1\nb2")], 0⟩
    let src := Bytes.ofString "top\n#include b.glsl\nv=#{v}"
    ∃ e, s.expand src (Bytes.ofString "a") = .ok e ∧
      e.text = Bytes.ofString "top\nb1\nb2\n\nv=1\n2\n" ∧
      (∀ n : Int, (e.origin? n).isSome ↔ 1 ≤ n ∧ n ≤ 6) ∧
      e.origin? 6 = some ⟨Bytes.ofString "a", 3⟩ ∧
      sourceLine e.text 6 = Bytes.ofString "2" := by
  intro s src
  obtain ⟨e, he⟩ := s.exists_expand src (Bytes.ofString "a") (by decide +kernel)
  have hmap := expand_map_pieces s src (Bytes.ofString "a")
  rw [he, show (s.expandLive 0 src (Bytes.ofString "a")).map
      (fun ps => (ps.flatMap Piece.text, Expansion.lineOrigins ps)) =
      .ok (Bytes.ofString "top\nb1\nb2\n\nv=1\n2\n", [⟨Bytes.ofString "a", 1⟩,
        ⟨Bytes.ofString "b.glsl", 1⟩, ⟨Bytes.ofString "b.glsl", 2⟩,
        ⟨Bytes.ofString "a", 2⟩, ⟨Bytes.ofString "a", 3⟩, ⟨Bytes.ofString "a", 3⟩]) by
      decide +kernel] at hmap
  obtain ⟨htext, horigins⟩ := Prod.mk.inj (Except.ok.inj hmap)
  obtain ⟨doc, ps, fs, -, -, -, -, hsome, hline⟩ := expand_origins_per_line s src _ e he
  have hcount : Bytes.lineCount e.text = 6 := by
    rw [htext]
    decide +kernel
  refine ⟨e, he, htext, fun n => by simp [hsome n, hcount], ?_, ?_⟩
  · rw [show (6 : Int) = ((5 : Nat) : Int) + 1 from rfl, Expansion.origin?_succ, horigins]
    rfl
  · obtain ⟨pre, p, post, -, -, -, -, hsrc⟩ := hline 5 (by omega)
    rw [hsrc, htext]
    decide +kernel

end Session

end ShaderVariants
