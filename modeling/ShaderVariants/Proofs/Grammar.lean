import ShaderVariants.Proofs.TokenStream
/-!
# The grammar of the directive language

A stream of tokens is read as a sequence of items (`Token.Items`): a text or value reference
token, an `#include` followed on its line by its path, or a region

    #if HEAD body (#elseif HEAD body)* [#else TAIL body] #endif TAIL

where a `HEAD` is an optional negation and a flag that the flags define, on the directive's line,
followed by a `TAIL`, and a `TAIL` is blanks up to the line's end. Every head counts, in branches
that are selected and in branches that are not.

`parse_isOk_iff_items` states that on a stream of whole lines, the stream of every source
(`lined_ofSource`), the parse succeeds exactly when the stream is of the grammar. One direction
holds of every stream: the sweep, and so the parse, reads any stream of the grammar through
(`sweep_items`). For the other, a successful sweep leaves, inside the regions it has open, what
those regions still need (`Token.Inside`).
-/

namespace ShaderVariants

namespace Token

/-! ## The grammar -/

/-- The end of a directive's line: blanks on the line, then its line end. -/
inductive LineRest (dir : Token) : List Token → Prop
  | lineEnd (e : Token) : e.isLineEnd = true → e.line = dir.line → LineRest dir [e]
  | blank (t : Token) {ts : List Token} : t.isBlank = true → t.line = dir.line →
      LineRest dir ts → LineRest dir (t :: ts)

/-- The condition of `#if` or `#elseif` with the end of its line: on the directive's line, an
optional negation and a flag that the flags define, then blanks up to the line end. -/
inductive Head (flags : Flags) (dir : Token) : List Token → Prop
  | flag (f : Token) {ts : List Token} : Document.isArgument dir f = true →
      flags.mem f.text = true → LineRest dir ts → Head flags dir (f :: ts)
  | negated (n f : Token) {ts : List Token} : n.kind = .negation → n.line = dir.line →
      Document.isArgument dir f = true → flags.mem f.text = true → LineRest dir ts →
      Head flags dir (n :: f :: ts)

mutual
/-- A sequence of items: text and value reference tokens, an `#include` followed on its line by
its path, and regions whose every head names a flag that `flags` defines. -/
inductive Items (flags : Flags) : List Token → Prop
  | nil : Items flags []
  | text (t : Token) {ts : List Token} : t.kind = .text → Items flags ts → Items flags (t :: ts)
  | reference (t : Token) {ts : List Token} : t.kind = .reference → Items flags ts →
      Items flags (t :: ts)
  | include (dir path : Token) {ts : List Token} : dir.kind = .include →
      Document.isArgument dir path = true → Items flags ts → Items flags (dir :: path :: ts)
  | region (opener : Token) {head body arms ts : List Token} : opener.kind = .openIf →
      Head flags opener head → Items flags body → Arms flags arms → Items flags ts →
      Items flags (opener :: (head ++ (body ++ (arms ++ ts))))

/-- The rest of a region after its first body: any number of `#elseif` with a condition and a
body, at most one `#else` with a body, and `#endif`, each keyword ending its line. -/
inductive Arms (flags : Flags) : List Token → Prop
  | endIf (t : Token) {tail : List Token} : t.kind = .endIf → LineRest t tail →
      Arms flags (t :: tail)
  | elseIf (t : Token) {head body arms : List Token} : t.kind = .elseIf → Head flags t head →
      Items flags body → Arms flags arms → Arms flags (t :: (head ++ (body ++ arms)))
  | otherwise (t e : Token) {tail body tail' : List Token} : t.kind = .otherwise →
      LineRest t tail → Items flags body → e.kind = .endIf → LineRest e tail' →
      Arms flags (t :: (tail ++ (body ++ e :: tail')))
end

/-! ## A stream of the grammar sweeps through -/

theorem isLineEnd_of_isBlank {t : Token} (h : t.isBlank = true) : t.isLineEnd = false := by
  unfold isBlank at h
  simp only [Bool.and_eq_true, Bool.not_eq_true'] at h
  exact h.1.2

theorem isLineEnd_of_isArgument {dir t : Token} (h : Document.isArgument dir t = true) :
    t.isLineEnd = false := by
  unfold Document.isArgument at h
  simp only [Bool.and_eq_true, Bool.not_eq_true'] at h
  exact h.1.2

theorem kind_of_isArgument {dir t : Token} (h : Document.isArgument dir t = true) :
    t.kind = .text := by
  unfold Document.isArgument at h
  simp only [Bool.and_eq_true, beq_iff_eq] at h
  exact h.1.1.1

theorem line_of_isArgument {dir t : Token} (h : Document.isArgument dir t = true) :
    t.line = dir.line := by
  unfold Document.isArgument at h
  simp only [Bool.and_eq_true, beq_iff_eq] at h
  exact h.1.1.2

/-- The end of a directive's line is taken whole, whatever follows it. -/
theorem closeLine_lineRest {dir : Token} {ts : List Token} (h : LineRest dir ts)
    (more : List Token) : ∃ hr, Document.closeLine dir (ts ++ more) = .ok ⟨more, hr⟩ := by
  induction h with
  | lineEnd e he hl =>
    refine ⟨by simp, ?_⟩
    change Document.closeLine dir (e :: more) = _
    rw [Document.closeLine]
    simp [hl, he]
  | @blank t ts hb hl h ih =>
    obtain ⟨hr, heq⟩ := ih
    refine ⟨by simp; omega, ?_⟩
    change Document.closeLine dir (t :: (ts ++ more)) = _
    rw [Document.closeLine]
    simp [hl, isLineEnd_of_isBlank hb, hb, heq]

/-- A condition is read whole, whatever follows its line. -/
theorem condition_head {flags : Flags} {dir : Token} {ts : List Token} (h : Head flags dir ts)
    (more : List Token) :
    ∃ b hr, Document.condition flags dir (ts ++ more) = .ok (b, ⟨more, hr⟩) := by
  cases h with
  | @flag f ts harg hmem hrest =>
    obtain ⟨v, hv⟩ := Option.isSome_iff_exists.1 hmem
    obtain ⟨hr, hclose⟩ := closeLine_lineRest hrest more
    refine ⟨⟨some ⟨f.text, false⟩, v != false, dir.line, []⟩, by simp; omega, ?_⟩
    change Document.condition flags dir (f :: (ts ++ more)) = _
    simp [Document.condition, kind_of_isArgument harg, harg, hv, hclose]
  | @negated n f ts hn hline harg hmem hrest =>
    obtain ⟨v, hv⟩ := Option.isSome_iff_exists.1 hmem
    obtain ⟨hr, hclose⟩ := closeLine_lineRest hrest more
    refine ⟨⟨some ⟨f.text, true⟩, v != true, dir.line, []⟩, by simp; omega, ?_⟩
    change Document.condition flags dir (n :: f :: (ts ++ more)) = _
    simp [Document.condition, hn, hline, harg, hv, hclose]

theorem includeNode_argument {dir path : Token} (h : Document.isArgument dir path = true)
    (more : List Token) :
    Document.includeNode dir (path :: more) =
      .ok (.include path.text dir.place, ⟨more, Nat.lt_add_one more.length⟩) := by
  simp [Document.includeNode, h]

mutual
/-- **The sweep reads items through.** Over a sequence of items the sweep keeps its state and
yields some items, whatever follows. -/
theorem sweep_items {flags : Flags} : ∀ {xs : List Token}, Items flags xs →
    ∀ (live : Bool) (frames : List Frame) (rest : List Token), ∃ ys,
      Token.sweep flags live frames (xs ++ rest) =
        (Token.sweep flags live frames rest).map (ys ++ ·)
  | _, .nil, live, frames, rest => ⟨[], by simp⟩
  | _, .text t ht h, live, frames, rest => by
    obtain ⟨ys, hys⟩ := sweep_items h live frames rest
    refine ⟨keepIf live [.segment (.literal t.text t.place)] ++ ys, ?_⟩
    rw [List.cons_append, sweep_literal (.inl ht), hys, except_map_append_map]
  | _, .reference t ht h, live, frames, rest => by
    obtain ⟨ys, hys⟩ := sweep_items h live frames rest
    refine ⟨keepIf live [.segment (.reference t.text t.place)] ++ ys, ?_⟩
    rw [List.cons_append, sweep_reference ht, hys, except_map_append_map]
  | _, .include dir path hdir harg h, live, frames, rest => by
    obtain ⟨ys, hys⟩ := sweep_items h live frames rest
    refine ⟨keepIf live (Node.include path.text dir.place).items ++ ys, ?_⟩
    rw [List.cons_append, List.cons_append, sweep_include hdir (includeNode_argument harg _), hys,
      except_map_append_map]
  | _, @Items.region _ opener head body arms ts ho hh hb ha hts, live, frames, rest => by
    obtain ⟨b, hr, hc⟩ := condition_head hh (body ++ (arms ++ (ts ++ rest)))
    -- the region's frame is pushed, its body and arms read, and the frame popped
    obtain ⟨ys1, h1⟩ := sweep_items hb (live && b.cond) (⟨opener.place, live, b.cond, false⟩ :: frames)
      (arms ++ (ts ++ rest))
    obtain ⟨ys2, h2⟩ := sweep_arms ha (live && b.cond) ⟨opener.place, live, b.cond, false⟩ frames
      (ts ++ rest) rfl
    obtain ⟨ys3, h3⟩ := sweep_items hts live frames rest
    refine ⟨ys1 ++ (ys2 ++ ys3), ?_⟩
    simp only [List.cons_append, List.append_assoc]
    rw [sweep_openIf ho hc, h1, h2, h3, except_map_append_map, except_map_append_map]
    simp

/-- **The sweep reads the arms of a region through**, from within the region's frame, and leaves
the frame. -/
theorem sweep_arms {flags : Flags} : ∀ {xs : List Token}, Arms flags xs →
    ∀ (live : Bool) (fr : Frame) (up : List Frame) (rest : List Token), fr.inElse = false →
      ∃ ys, Token.sweep flags live (fr :: up) (xs ++ rest) =
        (Token.sweep flags fr.outer up rest).map (ys ++ ·)
  | _, @Arms.endIf _ t tail ht htail, live, fr, up, rest, _ => by
    obtain ⟨hr, hc⟩ := closeLine_lineRest htail rest
    refine ⟨[], ?_⟩
    rw [List.cons_append, sweep_endIf ht hc]
    simp
  | _, @Arms.elseIf _ t head body arms ht hh hb ha, live, fr, up, rest, hin => by
    obtain ⟨b, hr, hc⟩ := condition_head hh (body ++ (arms ++ rest))
    obtain ⟨ys1, h1⟩ := sweep_items hb (fr.outer && !fr.taken && b.cond)
      ({ fr with taken := fr.taken || b.cond } :: up) (arms ++ rest)
    obtain ⟨ys2, h2⟩ := sweep_arms ha (fr.outer && !fr.taken && b.cond)
      { fr with taken := fr.taken || b.cond } up rest hin
    refine ⟨ys1 ++ ys2, ?_⟩
    simp only [List.cons_append, List.append_assoc]
    rw [sweep_elseIf ht hin hc, h1, h2, except_map_append_map]
    simp
  | _, @Arms.otherwise _ t e tail body tail' ht htail hb he htail', live, fr, up, rest, hin => by
    obtain ⟨hr, hc⟩ := closeLine_lineRest htail (body ++ e :: (tail' ++ rest))
    obtain ⟨ys1, h1⟩ := sweep_items hb (fr.outer && !fr.taken)
      ({ fr with taken := true, inElse := true } :: up) (e :: (tail' ++ rest))
    obtain ⟨hr', hc'⟩ := closeLine_lineRest htail' rest
    refine ⟨ys1, ?_⟩
    simp only [List.cons_append, List.append_assoc]
    rw [sweep_otherwise ht hin hc, h1, sweep_endIf he hc']
end

/-- A stream of the grammar sweeps through. -/
theorem sweep_isOk_of_items {flags : Flags} {ts : List Token} (h : Items flags ts) :
    (Token.sweep flags true [] ts).isOk = true := by
  obtain ⟨ys, hys⟩ := sweep_items h true [] []
  rw [List.append_nil] at hys
  rw [hys, Token.sweep.eq_def]
  rfl

/-! ## A stream that sweeps through is of the grammar -/

/-- The end of a region once its `#else` has begun: its `#endif` line. -/
def EndLine (ts : List Token) : Prop :=
  ∃ e tail, ts = e :: tail ∧ e.kind = .endIf ∧ LineRest e tail

/-- What the open regions `frames`, innermost first, still need: the items of the branch under
way, then the rest of the innermost region (its `#endif` line alone once its `#else` has begun),
then what the regions around it need. -/
def Inside (flags : Flags) : List Frame → List Token → Prop
  | [], ts => Items flags ts
  | fr :: up, ts => ∃ a b c, ts = a ++ (b ++ c) ∧ Items flags a ∧
      (if fr.inElse then EndLine b else Arms flags b) ∧ Inside flags up c

/-- Items in front of the branch under way join it. -/
theorem Inside.prepend {flags : Flags} (xs : List Token)
    (hxs : ∀ c, Items flags c → Items flags (xs ++ c)) :
    ∀ {frames : List Frame} {ts : List Token}, Inside flags frames ts →
      Inside flags frames (xs ++ ts)
  | [], _, h => hxs _ h
  | _ :: _, _, ⟨a, b, c, rfl, ha, hb, hc⟩ => ⟨xs ++ a, b, c, by simp, hxs a ha, hb, hc⟩

theorem LineRest.ne_nil {dir : Token} {ts : List Token} (h : LineRest dir ts) : ts ≠ [] := by
  cases h <;> simp

theorem Head.ne_nil {flags : Flags} {dir : Token} {ts : List Token} (h : Head flags dir ts) :
    ts ≠ [] := by
  cases h <;> simp

theorem LineRest.last_lineEnd {dir : Token} {ts : List Token} (h : LineRest dir ts) :
    ∀ x ∈ ts.getLast?, x.isLineEnd = true := by
  induction h with
  | lineEnd e he _ => simpa using he
  | @blank t ts _ _ h ih =>
    cases h with
    | lineEnd e he _ => simpa using he
    | blank t' _ _ _ => simpa using ih

theorem Head.last_lineEnd {flags : Flags} {dir : Token} {ts : List Token} (h : Head flags dir ts) :
    ∀ x ∈ ts.getLast?, x.isLineEnd = true := by
  cases h with
  | flag f _ _ hrest =>
    cases hrest with
    | lineEnd e he _ => simpa using he
    | blank t _ _ h => simpa using (LineRest.blank t ‹_› ‹_› h).last_lineEnd
  | negated n f _ _ _ _ hrest =>
    cases hrest with
    | lineEnd e he _ => simpa using he
    | blank t _ _ h => simpa using (LineRest.blank t ‹_› ‹_› h).last_lineEnd

/-- After a directive's whole line, the stream is again one of whole lines. -/
theorem Lined.after_line {xs ys : List Token} (h : Lined (xs ++ ys))
    (hx : ∀ x ∈ xs.getLast?, x.isLineEnd = true) : Lined ys :=
  h.of_append fun a ha => by
    have := hx a ha
    simp only [isLineEnd, Bool.and_eq_true, beq_iff_eq] at this
    rw [this.1]
    rfl

/-- After a directive and the rest of its line, the stream is again one of whole lines. -/
theorem Lined.after_directive {dir : Token} {line ys : List Token} (h : Lined (dir :: (line ++ ys)))
    (hne : line ≠ []) (hx : ∀ x ∈ line.getLast?, x.isLineEnd = true) : Lined ys := by
  cases line with
  | nil => exact absurd rfl hne
  | cons a l =>
    have hx' : ∀ x ∈ (dir :: a :: l).getLast?, x.isLineEnd = true := by
      rw [List.getLast?_cons_cons]
      exact hx
    exact @Lined.after_line (dir :: a :: l) ys h hx'

/-- **The end of a directive's line, as the parser takes it**, in a stream of whole lines: the
line's end comes before any other line, so the parser takes blanks and then the line end. -/
theorem lineRest_of_closeLine {dir : Token} : ∀ {p : Token} {ts r : List Token}
    {hr : r.length ≤ ts.length}, (p :: ts).IsChain Follows →
    (∀ t ∈ (p :: ts).getLast?, t.isLineEnd = true) → p.isLineEnd = false → p.line = dir.line →
    Document.closeLine dir ts = .ok ⟨r, hr⟩ → ∃ tail, ts = tail ++ r ∧ LineRest dir tail
  | p, [], _, _, _, hlast, hp, _, _ => by
    have := hlast p (by simp)
    rw [hp] at this
    cases this
  | p, t :: ts, r, hr, hc, hlast, hp, hline, h => by
    obtain ⟨⟨hfollow, -⟩, hc'⟩ := List.isChain_cons_cons.1 hc
    have ht : t.line = dir.line := (hfollow hp).trans hline
    rw [Document.closeLine, if_neg (by simp [ht])] at h
    split at h
    · next hend =>
      simp only [Except.ok.injEq, Subtype.mk.injEq] at h
      exact ⟨[t], by simp [h], .lineEnd t hend ht⟩
    · next hend =>
      split at h
      · next hblank =>
        split at h
        · next r' hr' heq =>
          simp only [Except.ok.injEq, Subtype.mk.injEq] at h
          subst h
          obtain ⟨tail, htail, hrest⟩ := lineRest_of_closeLine hc' (by simpa using hlast)
            (by simpa using hend) ht heq
          exact ⟨t :: tail, by simp [htail], .blank t hblank ht hrest⟩
        · cases h
      · split at h <;> cases h

/-! ## Reading a condition -/

theorem isLineEnd_of_kind {t : Token} (h : t.kind ≠ .text) : t.isLineEnd = false := by
  simp [isLineEnd, h]

/-- The optional negation after a condition keyword, on its line. -/
def Negated (dir : Token) (neg : List Token) : Prop :=
  neg = [] ∨ ∃ n, neg = [n] ∧ n.kind = .negation ∧ n.line = dir.line

theorem Negated.line {dir : Token} {neg : List Token} (h : Negated dir neg) :
    ∀ t ∈ neg, t.line = dir.line := by
  rcases h with rfl | ⟨n, rfl, -, hline⟩
  · simp
  · simpa using hline

theorem Head.of_negated {flags : Flags} {dir f : Token} {neg tail : List Token}
    (hneg : Negated dir neg) (harg : Document.isArgument dir f = true)
    (hmem : flags.mem f.text = true) (hrest : LineRest dir tail) :
    Head flags dir (neg ++ f :: tail) := by
  rcases hneg with rfl | ⟨n, rfl, hn, hline⟩
  · exact .flag f harg hmem hrest
  · exact .negated n f hn hline harg hmem hrest

/-- In a stream of whole lines, what follows a directive that is no line end is an optional
negation on its line and then a candidate for its flag. -/
theorem negated_split {dir : Token} {ts : List Token} (hts : ts ≠ [])
    (hlast : ∀ t ∈ (dir :: ts).getLast?, t.isLineEnd = true) :
    ∃ neg f r, ts = neg ++ f :: r ∧ Negated dir neg ∧
      (neg = [] → f.kind = .negation → f.line ≠ dir.line) := by
  cases ts with
  | nil => exact absurd rfl hts
  | cons t ts =>
    by_cases hneg : t.kind = .negation ∧ t.line = dir.line
    · cases ts with
      | nil =>
        have hend := hlast t (by simp)
        rw [isLineEnd_of_kind (by simp [hneg.1])] at hend
        cases hend
      | cons f r => exact ⟨[t], f, r, rfl, .inr ⟨t, rfl, hneg.1, hneg.2⟩, by simp⟩
    · exact ⟨[], t, ts, rfl, .inl rfl, fun _ h1 h2 => hneg ⟨h1, h2⟩⟩

section Condition

variable {flags : Flags} {dir f : Token} {neg r : List Token}

theorem condition_missingFlag (hneg : Negated dir neg)
    (hnn : neg = [] → f.kind = .negation → f.line ≠ dir.line)
    (harg : Document.isArgument dir f = false) :
    Document.condition flags dir (neg ++ f :: r) = .error (.missingFlag dir.place dir.text) := by
  rcases hneg with rfl | ⟨n, rfl, hn, hline⟩
  · have hf : ¬ (f.kind = .negation ∧ f.line = dir.line) := fun h => hnn rfl h.1 h.2
    simp [Document.condition, hf, harg]
  · simp [Document.condition, hn, hline, harg]

theorem condition_undefinedFlag (hneg : Negated dir neg) (harg : Document.isArgument dir f = true)
    (hv : flags.get? f.text = none) :
    Document.condition flags dir (neg ++ f :: r) = .error (.undefinedFlag f.place f.text) := by
  have hf : ¬ (f.kind = .negation ∧ f.line = dir.line) := by simp [kind_of_isArgument harg]
  rcases hneg with rfl | ⟨n, rfl, hn, hline⟩
  · simp [Document.condition, hf, harg, hv]
  · simp [Document.condition, hn, hline, harg, hv]

theorem condition_lineError {b : Bool} {e : Problem} (hneg : Negated dir neg)
    (harg : Document.isArgument dir f = true) (hv : flags.get? f.text = some b)
    (hcl : Document.closeLine dir r = .error e) :
    Document.condition flags dir (neg ++ f :: r) = .error e := by
  have hf : ¬ (f.kind = .negation ∧ f.line = dir.line) := by simp [kind_of_isArgument harg]
  rcases hneg with rfl | ⟨n, rfl, hn, hline⟩
  · simp [Document.condition, hf, harg, hv, hcl]
  · simp [Document.condition, hn, hline, harg, hv, hcl]

theorem condition_lineOk {b : Bool} {rest : List Token} {hr : rest.length ≤ r.length}
    (hneg : Negated dir neg) (harg : Document.isArgument dir f = true)
    (hv : flags.get? f.text = some b) (hcl : Document.closeLine dir r = .ok ⟨rest, hr⟩) :
    ∃ b' hr', Document.condition flags dir (neg ++ f :: r) = .ok (b', ⟨rest, hr'⟩) := by
  have hf : ¬ (f.kind = .negation ∧ f.line = dir.line) := by simp [kind_of_isArgument harg]
  rcases hneg with rfl | ⟨n, rfl, hn, hline⟩
  · simp [Document.condition, hf, harg, hv, hcl]
    omega
  · simp [Document.condition, hn, hline, harg, hv, hcl]
    omega

end Condition

/-- **A condition as the parser reads it**, in a stream of whole lines. -/
theorem head_of_condition {flags : Flags} {dir : Token} {ts r : List Token} {b : Branch}
    {hr : r.length ≤ ts.length} (hc : (dir :: ts).IsChain Follows)
    (hlast : ∀ t ∈ (dir :: ts).getLast?, t.isLineEnd = true)
    (h : Document.condition flags dir ts = .ok (b, ⟨r, hr⟩)) :
    ∃ head, ts = head ++ r ∧ Head flags dir head := by
  obtain ⟨_, f, r', v, hsplit, harg, hv, ⟨_, hcl⟩, -⟩ := Document.condition_eq_ok.1 h
  -- the optional negation in front of the flag
  obtain ⟨neg, rfl, hneg⟩ : ∃ neg, ts = neg ++ f :: r' ∧ Negated dir neg := by
    rcases hsplit with ⟨rfl, -⟩ | ⟨n, rfl, hn, hline, -⟩
    · exact ⟨[], rfl, .inl rfl⟩
    · exact ⟨[n], rfl, .inr ⟨n, rfl, hn, hline⟩⟩
  -- after the flag, the rest of its line
  have hc' : (f :: r').IsChain Follows := (List.isChain_append.1 hc.tail).2.1
  have hlast' : ∀ t ∈ (f :: r').getLast?, t.isLineEnd = true := by
    rw [← List.getLast?_append_of_ne_nil neg (List.cons_ne_nil _ _)]
    rw [← List.getLast?_append_of_ne_nil [dir] (by simp)]
    exact hlast
  obtain ⟨tail, rfl, htail⟩ := lineRest_of_closeLine hc' hlast'
    (isLineEnd_of_isArgument harg) (line_of_isArgument harg) hcl
  exact ⟨neg ++ f :: tail, by simp, Head.of_negated hneg harg (by simp [Table.mem, hv]) htail⟩

/-- An include as the parser reads it: its path is the next token. -/
theorem path_of_includeNode {dir : Token} {ts r : List Token} {n : Node}
    {hr : r.length < ts.length} (h : Document.includeNode dir ts = .ok (n, ⟨r, hr⟩)) :
    ∃ path, ts = path :: r ∧ Document.isArgument dir path = true := by
  cases ts with
  | nil => simp [Document.includeNode] at h
  | cons path ts =>
    by_cases harg : Document.isArgument dir path = true
    · simp only [Document.includeNode, harg, if_true, Except.ok.injEq, Prod.mk.injEq,
        Subtype.mk.injEq] at h
      exact ⟨path, by rw [h.2], harg⟩
    · simp [Document.includeNode, harg] at h

/-- **What a successful sweep leaves inside its open regions.** On a stream of whole lines that
the sweep reads through from the open regions `frames`, the stream is what those regions still
need. -/
theorem inside_of_sweep (flags : Flags) : ∀ (live : Bool) (frames : List Frame)
    (ts : List Token) (ys : List Item), Lined ts → Token.sweep flags live frames ts = .ok ys →
    Inside flags frames ts
  | _, frames, [], _, _, h => by
    obtain ⟨rfl, -⟩ := sweep_nil_eq_ok.1 h
    exact Items.nil
  | live, frames, t :: r, ys, hl, h => by
    have hnot : t.kind.takesCondition = false → Lined r := hl.tail
    cases hk : t.kind with
    | text =>
      rw [sweep_literal (.inl hk)] at h
      obtain ⟨ys', h', -⟩ := except_map_eq_ok h
      have hr : Lined r := hnot (by rw [hk]; rfl)
      exact Inside.prepend [t] (fun c hc => Items.text t hk hc)
        (inside_of_sweep flags live frames r ys' hr h')
    | negation => exact absurd hk (hl.head t rfl)
    | reference =>
      rw [sweep_reference hk] at h
      obtain ⟨ys', h', -⟩ := except_map_eq_ok h
      have hr : Lined r := hnot (by rw [hk]; rfl)
      exact Inside.prepend [t] (fun c hc => Items.reference t hk hc)
        (inside_of_sweep flags live frames r ys' hr h')
    | «include» =>
      obtain ⟨n, r', hr', ys', hn, h', -⟩ := (sweep_include_eq_ok hk).1 h
      obtain ⟨path, rfl, harg⟩ := path_of_includeNode hn
      -- the path is text, so no negation can follow it
      have hpath : ∀ a ∈ [t, path].getLast?, a.kind.takesCondition = false := by
        simp [kind_of_isArgument harg, TokenKind.takesCondition]
      have hl' : Lined r' := @Lined.of_append [t, path] r' hl hpath
      exact Inside.prepend [t, path] (fun c hc => Items.include t path hk harg hc)
        (inside_of_sweep flags live frames r' ys' hl' h')
    | openIf =>
      obtain ⟨b, r', hr', hc, h'⟩ := (sweep_openIf_eq_ok hk).1 h
      obtain ⟨head, rfl, hhead⟩ := head_of_condition hl.chain hl.last hc
      have hl' : Lined r' := hl.after_directive hhead.ne_nil hhead.last_lineEnd
      -- the region just opened has not begun its `#else`
      obtain ⟨a, b', c, rfl, ha, hb, hc'⟩ := inside_of_sweep flags _ _ r' ys hl' h'
      simp only [Bool.false_eq_true, if_false] at hb
      have := Inside.prepend (t :: (head ++ (a ++ b')))
        (fun c hc => by simpa using Items.region t hk hhead ha hb hc) hc'
      simpa using this
    | elseIf =>
      obtain ⟨fr, up, rfl, hin, b, r', hr', hc, h'⟩ := (sweep_elseIf_eq_ok hk).1 h
      obtain ⟨head, rfl, hhead⟩ := head_of_condition hl.chain hl.last hc
      have hl' : Lined r' := hl.after_directive hhead.ne_nil hhead.last_lineEnd
      obtain ⟨a, b', c, rfl, ha, hb, hc'⟩ := inside_of_sweep flags _ _ r' ys hl' h'
      simp only [hin, Bool.false_eq_true, if_false] at hb
      refine ⟨[], t :: (head ++ (a ++ b')), c, by simp, .nil, ?_, hc'⟩
      rw [hin]
      exact Arms.elseIf t hk hhead ha hb
    | otherwise =>
      obtain ⟨fr, up, rfl, hin, r', hr', hc, h'⟩ := (sweep_otherwise_eq_ok hk).1 h
      obtain ⟨tail, rfl, htail⟩ :=
        lineRest_of_closeLine hl.chain hl.last (isLineEnd_of_kind (by simp [hk])) rfl hc
      have hl' : Lined r' := hl.after_directive htail.ne_nil htail.last_lineEnd
      -- the `#else` has begun, so only the `#endif` line is left of the region
      obtain ⟨a, b', c, rfl, ha, hb, hc'⟩ := inside_of_sweep flags _ _ r' ys hl' h'
      simp only [if_true] at hb
      obtain ⟨e, tail', rfl, he, htail'⟩ := hb
      refine ⟨[], t :: (tail ++ (a ++ e :: tail')), c, by simp, .nil, ?_, hc'⟩
      rw [hin]
      exact Arms.otherwise t e hk htail ha he htail'
    | endIf =>
      obtain ⟨fr, up, rfl, r', hr', hc, h'⟩ := (sweep_endIf_eq_ok hk).1 h
      obtain ⟨tail, rfl, htail⟩ :=
        lineRest_of_closeLine hl.chain hl.last (isLineEnd_of_kind (by simp [hk])) rfl hc
      have hl' : Lined r' := hl.after_directive htail.ne_nil htail.last_lineEnd
      refine ⟨[], t :: tail, r', by simp, .nil, ?_, inside_of_sweep flags _ _ r' ys hl' h'⟩
      cases fr.inElse
      · exact Arms.endIf t hk htail
      · exact ⟨t, tail, rfl, hk, htail⟩
termination_by _ _ ts => ts.length
decreasing_by all_goals simp only [List.length_cons]; omega

/-- A stream of whole lines that the sweep reads through is of the grammar. -/
theorem items_of_sweep {flags : Flags} {ts : List Token} (hl : Lined ts)
    (h : (Token.sweep flags true [] ts).isOk = true) : Items flags ts := by
  cases hs : Token.sweep flags true [] ts with
  | error e => rw [hs] at h; cases h
  | ok ys => exact inside_of_sweep flags true [] ts ys hl hs

/-- **The parse accepts exactly the grammar**, on a stream of whole lines. -/
theorem parse_isOk_iff_items (flags : Flags) (file : Bytes) {ts : List Token} (hl : Lined ts) :
    (Document.parse flags file ts).isOk = true ↔ Items flags ts := by
  have hok : (Document.parse flags file ts).isOk = (Token.sweep flags true [] ts).isOk := by
    rw [← parse_map_items flags file ts]
    cases Document.parse flags file ts <;> rfl
  rw [hok]
  exact ⟨items_of_sweep hl, sweep_isOk_of_items⟩

end Token

end ShaderVariants
