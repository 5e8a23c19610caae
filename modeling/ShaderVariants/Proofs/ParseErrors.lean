import ShaderVariants.Proofs.Grammar
/-!
# Where a parse fails

A parse that fails reports the first token at which the stream stops being a prefix of the
grammar, with the problem that names what is wrong there; a stream that is a prefix of the
grammar to its end fails only by leaving a region open, and is reported at the innermost `#if`
left open.

The grammar is read from the left by `Token.Steps`: whole steps (a text or reference token, an
include with its path, a directive with the rest of its line) that keep the stack of regions
left open. `Token.Breaks` is the table of violations: with some regions open, the step begun by
some tokens cannot take the next one, and the table names the problem. `Token.Viable` says what a
prefix of the grammar is without the parser: tokens after it make a stream of items, under flags
that define the same names among its texts, since a flag the prefix does not name is still free.

`parse_reports_first_violation` puts these together. On the tokens of any source the parse
succeeds exactly when they are items of the grammar; when it fails, its problem is the one the
table gives at the first token where the stream stops being viable, or, when the whole stream is
viable, the innermost region it leaves open.
-/

namespace ShaderVariants

/-- A region that the tokens read so far leave open: the place of its `#if`, and whether its
`#else` has begun. -/
structure Token.Unclosed where
  opener : Place
  inElse : Bool
  deriving DecidableEq, Repr

/-- The open region a sweep frame stands for, whether it is live forgotten. -/
def Frame.unclosed (fr : Frame) : Token.Unclosed := ⟨fr.opener, fr.inElse⟩

theorem Frame.map_unclosed_eq_cons {frames : List Frame} {r : Token.Unclosed}
    {rs : List Token.Unclosed} (h : frames.map Frame.unclosed = r :: rs) :
    ∃ fr up, frames = fr :: up ∧ fr.opener = r.opener ∧ fr.inElse = r.inElse ∧
      up.map Frame.unclosed = rs := by
  obtain ⟨fr, up, rfl, hfr, hup⟩ := List.map_eq_cons_iff.1 h
  subst hfr
  exact ⟨fr, up, rfl, rfl, rfl, hup⟩

theorem Table.mem_set_ne {α : Type} (x : Table α) {k n : Bytes} (v : α) (h : n ≠ k) :
    (x.set k v).mem n = x.mem n := by
  have hk : (k == n) = false := by simpa using fun h' => h h'.symm
  simp only [Table.mem, Table.set, Table.get?, List.find?_cons, hk, List.find?_filter]
  -- an entry named `n` is no entry named `k`
  congr 3
  funext e
  by_cases he : e.1 = n <;> simp [he, h]

theorem except_map_eq_error {ε α β : Type} {x : Except ε α} {f : α → β} {e : ε}
    (h : x.map f = .error e) : x = .error e := by
  cases x with
  | error e' =>
    simp only [Except.map, Except.error.injEq] at h
    rw [h]
  | ok a => cases h

namespace Token

/-! ## The grammar read from the left -/

/-- **Whole steps of the grammar**, read from the left. From the regions `rs` left open,
innermost first, the tokens are text and reference tokens, includes with their paths, and
directives with the rest of their lines: `#if` with its condition opens a region, `#elseif` with
its condition goes on in a region whose `#else` has not begun, `#else` begins it, and `#endif`
closes the innermost region. The regions `rs'` are left open. -/
inductive Steps (flags : Flags) : List Unclosed → List Token → List Unclosed → Prop
  | nil {rs : List Unclosed} : Steps flags rs [] rs
  | text (t : Token) {rs rs' : List Unclosed} {ts : List Token} : t.kind = .text →
      Steps flags rs ts rs' → Steps flags rs (t :: ts) rs'
  | reference (t : Token) {rs rs' : List Unclosed} {ts : List Token} : t.kind = .reference →
      Steps flags rs ts rs' → Steps flags rs (t :: ts) rs'
  | include (dir path : Token) {rs rs' : List Unclosed} {ts : List Token} : dir.kind = .include →
      Document.isArgument dir path = true → Steps flags rs ts rs' →
      Steps flags rs (dir :: path :: ts) rs'
  | openIf (t : Token) {rs rs' : List Unclosed} {head ts : List Token} : t.kind = .openIf →
      Head flags t head → Steps flags (⟨t.place, false⟩ :: rs) ts rs' →
      Steps flags rs (t :: (head ++ ts)) rs'
  | elseIf (t : Token) {p : Place} {rs rs' : List Unclosed} {head ts : List Token} :
      t.kind = .elseIf → Head flags t head → Steps flags (⟨p, false⟩ :: rs) ts rs' →
      Steps flags (⟨p, false⟩ :: rs) (t :: (head ++ ts)) rs'
  | otherwise (t : Token) {p : Place} {rs rs' : List Unclosed} {tail ts : List Token} :
      t.kind = .otherwise → LineRest t tail → Steps flags (⟨p, true⟩ :: rs) ts rs' →
      Steps flags (⟨p, false⟩ :: rs) (t :: (tail ++ ts)) rs'
  | endIf (t : Token) {r : Unclosed} {rs rs' : List Unclosed} {tail ts : List Token} :
      t.kind = .endIf → LineRest t tail → Steps flags rs ts rs' →
      Steps flags (r :: rs) (t :: (tail ++ ts)) rs'

/-- The flags `flags'` define the same names as `flags` among the texts of the tokens `ts`. -/
def AgreeOn (flags flags' : Flags) (ts : List Token) : Prop :=
  ∀ t ∈ ts, flags'.mem t.text = flags.mem t.text

section Steps

variable {flags flags' : Flags}

theorem AgreeOn.mono {ts us : List Token} (h : AgreeOn flags flags' ts)
    (hsub : ∀ t ∈ us, t ∈ ts) : AgreeOn flags flags' us :=
  fun t ht => h t (hsub t ht)

theorem Steps.append {rs rs₁ rs₂ : List Unclosed} {xs ys : List Token}
    (hx : Steps flags rs xs rs₁) (hy : Steps flags rs₁ ys rs₂) : Steps flags rs (xs ++ ys) rs₂ := by
  induction hx with
  | nil => exact hy
  | text t ht _ ih => exact .text t ht (ih hy)
  | reference t ht _ ih => exact .reference t ht (ih hy)
  | «include» dir path hdir harg _ ih => exact .include dir path hdir harg (ih hy)
  | openIf t ht hh _ ih =>
    rw [List.cons_append, List.append_assoc]
    exact .openIf t ht hh (ih hy)
  | elseIf t ht hh _ ih =>
    rw [List.cons_append, List.append_assoc]
    exact .elseIf t ht hh (ih hy)
  | otherwise t ht hl _ ih =>
    rw [List.cons_append, List.append_assoc]
    exact .otherwise t ht hl (ih hy)
  | endIf t ht hl _ ih =>
    rw [List.cons_append, List.append_assoc]
    exact .endIf t ht hl (ih hy)

theorem Head.transfer {dir : Token} {ts : List Token} (h : Head flags dir ts)
    (hag : AgreeOn flags flags' ts) : Head flags' dir ts := by
  cases h with
  | flag f harg hmem hrest =>
    exact .flag f harg (by rw [hag f (by simp)]; exact hmem) hrest
  | negated n f hn hline harg hmem hrest =>
    exact .negated n f hn hline harg (by rw [hag f (by simp)]; exact hmem) hrest

/-- Whole steps depend on the flags only through the names they define. -/
theorem Steps.transfer {rs rs' : List Unclosed} {ts : List Token} (h : Steps flags rs ts rs')
    (hag : AgreeOn flags flags' ts) : Steps flags' rs ts rs' := by
  induction h with
  | nil => exact .nil
  | text t ht _ ih => exact .text t ht (ih (hag.mono fun u hu => by simp [hu]))
  | reference t ht _ ih => exact .reference t ht (ih (hag.mono fun u hu => by simp [hu]))
  | «include» dir path hdir harg _ ih =>
    exact .include dir path hdir harg (ih (hag.mono fun u hu => by simp [hu]))
  | openIf t ht hh _ ih =>
    exact .openIf t ht (hh.transfer (hag.mono fun u hu => by simp [hu]))
      (ih (hag.mono fun u hu => by simp [hu]))
  | elseIf t ht hh _ ih =>
    exact .elseIf t ht (hh.transfer (hag.mono fun u hu => by simp [hu]))
      (ih (hag.mono fun u hu => by simp [hu]))
  | otherwise t ht hl _ ih => exact .otherwise t ht hl (ih (hag.mono fun u hu => by simp [hu]))
  | endIf t ht hl _ ih => exact .endIf t ht hl (ih (hag.mono fun u hu => by simp [hu]))

/-- **The sweep reads whole steps through**, from frames that stand for the regions the steps
start from to frames that stand for the regions they leave open, whatever follows. -/
theorem steps_sweep {rs rs' : List Unclosed} {ts : List Token} (h : Steps flags rs ts rs') :
    ∀ (live : Bool) (frames : List Frame), frames.map Frame.unclosed = rs → ∀ rest : List Token,
      ∃ live' frames' ys, frames'.map Frame.unclosed = rs' ∧
        Token.sweep flags live frames (ts ++ rest) =
          (Token.sweep flags live' frames' rest).map (ys ++ ·) := by
  induction h with
  | nil => exact fun live frames hfr rest => ⟨live, frames, [], hfr, by simp⟩
  | text t ht _ ih =>
    intro live frames hfr rest
    obtain ⟨live', frames', ys, hfr', h⟩ := ih live frames hfr rest
    refine ⟨live', frames', keepIf live [.segment (.literal t.text t.place)] ++ ys, hfr', ?_⟩
    rw [List.cons_append, sweep_literal (.inl ht), h, except_map_append_map]
  | reference t ht _ ih =>
    intro live frames hfr rest
    obtain ⟨live', frames', ys, hfr', h⟩ := ih live frames hfr rest
    refine ⟨live', frames', keepIf live [.segment (.reference t.text t.place)] ++ ys, hfr', ?_⟩
    rw [List.cons_append, sweep_reference ht, h, except_map_append_map]
  | «include» dir path hdir harg _ ih =>
    intro live frames hfr rest
    obtain ⟨live', frames', ys, hfr', h⟩ := ih live frames hfr rest
    refine ⟨live', frames', keepIf live (Node.include path.text dir.place).items ++ ys, hfr', ?_⟩
    rw [List.cons_append, List.cons_append, sweep_include hdir (includeNode_argument harg _), h,
      except_map_append_map]
  | openIf t ht hh _ ih =>
    intro live frames hfr rest
    obtain ⟨b, hr, hc⟩ := condition_head hh (_ ++ rest)
    -- the region's frame is pushed
    obtain ⟨live', frames', ys, hfr', h⟩ := ih (live && b.cond)
      (⟨t.place, live, b.cond, false⟩ :: frames) (by simp [Frame.unclosed, hfr]) rest
    refine ⟨live', frames', ys, hfr', ?_⟩
    rw [List.cons_append, List.append_assoc, sweep_openIf ht hc, h]
  | elseIf t ht hh _ ih =>
    intro live frames hfr rest
    obtain ⟨fr, up, rfl, hop, hin, hup⟩ := Frame.map_unclosed_eq_cons hfr
    obtain ⟨b, hr, hc⟩ := condition_head hh (_ ++ rest)
    obtain ⟨live', frames', ys, hfr', h⟩ := ih _ ({ fr with taken := fr.taken || b.cond } :: up)
      (by simp [Frame.unclosed, hop, hin, hup]) rest
    refine ⟨live', frames', ys, hfr', ?_⟩
    rw [List.cons_append, List.append_assoc, sweep_elseIf ht hin hc, h]
  | otherwise t ht hl _ ih =>
    intro live frames hfr rest
    obtain ⟨fr, up, rfl, hop, hin, hup⟩ := Frame.map_unclosed_eq_cons hfr
    obtain ⟨hr, hc⟩ := closeLine_lineRest hl (_ ++ rest)
    obtain ⟨live', frames', ys, hfr', h⟩ := ih _
      ({ fr with taken := true, inElse := true } :: up) (by simp [Frame.unclosed, hop, hup]) rest
    refine ⟨live', frames', ys, hfr', ?_⟩
    rw [List.cons_append, List.append_assoc, sweep_otherwise ht hin hc, h]
  | endIf t ht hl _ ih =>
    intro live frames hfr rest
    obtain ⟨fr, up, rfl, -, -, hup⟩ := Frame.map_unclosed_eq_cons hfr
    obtain ⟨hr, hc⟩ := closeLine_lineRest hl (_ ++ rest)
    obtain ⟨live', frames', ys, hfr', h⟩ := ih fr.outer up hup rest
    refine ⟨live', frames', ys, hfr', ?_⟩
    rw [List.cons_append, List.append_assoc, sweep_endIf ht hc, h]

/-- Whole steps that leave no region open sweep through. -/
theorem sweep_isOk_of_steps {ts : List Token} (h : Steps flags [] ts []) :
    (Token.sweep flags true [] ts).isOk = true := by
  obtain ⟨live', frames', ys, hfr, hsweep⟩ := steps_sweep h true [] rfl []
  rw [List.map_eq_nil_iff] at hfr
  subst hfr
  rw [List.append_nil] at hsweep
  rw [hsweep, Token.sweep.eq_def]
  rfl

end Steps

/-! ## The table of violations -/

/-- Whether the innermost open region can still take an `#elseif` or an `#else`: its `#else` has
not begun. -/
def armsOpen : List Unclosed → Prop
  | r :: _ => r.inElse = false
  | [] => False

/-- Whether `dir` begins a condition with the regions `rs` open: it is `#if`, or `#elseif` in a
region that can still take one. -/
def Opens (rs : List Unclosed) (dir : Token) : Prop :=
  dir.kind = .openIf ∨ (dir.kind = .elseIf ∧ armsOpen rs)

/-- Blanks on a directive's line. -/
def Blanks (dir : Token) (bs : List Token) : Prop :=
  ∀ b ∈ bs, b.isBlank = true ∧ b.line = dir.line

theorem Blanks.nil {dir : Token} : Blanks dir [] := by simp [Blanks]

theorem Blanks.append {dir : Token} {bs cs : List Token} (hb : Blanks dir bs)
    (hc : Blanks dir cs) : Blanks dir (bs ++ cs) :=
  fun u hu => (List.mem_append.1 hu).elim (hb u) (hc u)

/-- What a directive begun with the regions `rs` open has taken of its line, all of it
acceptable: a condition and blanks after `#if` or `#elseif`, blanks after `#else` or
`#endif`. -/
inductive LineTaken (flags : Flags) (rs : List Unclosed) (dir : Token) : List Token → Prop
  | condition {neg : List Token} (f : Token) {bs : List Token} : Opens rs dir → Negated dir neg →
      Document.isArgument dir f = true → flags.mem f.text = true → Blanks dir bs →
      LineTaken flags rs dir (neg ++ f :: bs)
  | otherwise {bs : List Token} : dir.kind = .otherwise → armsOpen rs → Blanks dir bs →
      LineTaken flags rs dir bs
  | endIf {bs : List Token} : dir.kind = .endIf → rs ≠ [] → Blanks dir bs →
      LineTaken flags rs dir bs

/-- **The table of violations.** With the regions `rs` open, the step begun by the tokens `part`
cannot take the token `v`, and `e` is the problem that names the violation. -/
inductive Breaks (flags : Flags) : List Unclosed → List Token → Token → Problem → Prop
  /-- An `#elseif`, `#else` or `#endif` with no region open. -/
  | unmatched {v : Token} : v.kind.endsBody = true → Breaks flags [] [] v (.unmatched v.place v.text)
  /-- An `#elseif` once the region's `#else` has begun. -/
  | elseIfAfterElse {p : Place} {rs : List Unclosed} {v : Token} : v.kind = .elseIf →
      Breaks flags (⟨p, true⟩ :: rs) [] v (.elseIfAfterElse v.place)
  /-- A second `#else` in one region. -/
  | duplicateElse {p : Place} {rs : List Unclosed} {v : Token} : v.kind = .otherwise →
      Breaks flags (⟨p, true⟩ :: rs) [] v (.duplicateElse v.place)
  /-- An `#include` followed by no path on its line. -/
  | missingPath {rs : List Unclosed} {dir v : Token} : dir.kind = .include →
      Document.isArgument dir v = false → Breaks flags rs [dir] v (.missingPath dir.place)
  /-- An `#if` or `#elseif` followed by no flag on its line. -/
  | missingFlag {rs : List Unclosed} {dir v : Token} {neg : List Token} : Opens rs dir →
      Negated dir neg → Document.isArgument dir v = false →
      (neg = [] → v.kind = .negation → v.line ≠ dir.line) →
      Breaks flags rs (dir :: neg) v (.missingFlag dir.place dir.text)
  /-- A flag that the flags do not define, named by the flag. -/
  | undefinedFlag {rs : List Unclosed} {dir v : Token} {neg : List Token} : Opens rs dir →
      Negated dir neg → Document.isArgument dir v = true → flags.mem v.text = false →
      Breaks flags rs (dir :: neg) v (.undefinedFlag v.place v.text)
  /-- A value reference after a directive on its line. -/
  | trailingReference {rs : List Unclosed} {dir v : Token} {taken : List Token} :
      LineTaken flags rs dir taken → v.line = dir.line → v.kind = .reference →
      Breaks flags rs (dir :: taken) v (.trailingReference v.place v.text dir.text)
  /-- Other text, or a keyword, after a directive on its line. -/
  | trailingText {rs : List Unclosed} {dir v : Token} {taken : List Token} :
      LineTaken flags rs dir taken → v.line = dir.line → v.kind ≠ .reference →
      v.isBlank = false → v.isLineEnd = false →
      Breaks flags rs (dir :: taken) v (.trailingText v.place v.text dir.text)

/-- A step begun by the tokens `part`, with the regions `rs` open: none yet, an `#include`, a
condition keyword with its optional negation, or a directive with some of its line. -/
inductive Begun (flags : Flags) (rs : List Unclosed) : List Token → Prop
  | between : Begun flags rs []
  | awaitsPath {dir : Token} : dir.kind = .include → Begun flags rs [dir]
  | awaitsFlag {dir : Token} {neg : List Token} : Opens rs dir → Negated dir neg →
      Begun flags rs (dir :: neg)
  | onLine {dir : Token} {taken : List Token} : LineTaken flags rs dir taken →
      Begun flags rs (dir :: taken)

/-- **A violation of the grammar at `v`**, after the tokens `pre`: whole steps read from no open
region leave the regions `rs` open, and the step begun after them by `part` cannot take `v`; `e`
is the problem the table gives. -/
def Violation (flags : Flags) (pre : List Token) (v : Token) (e : Problem) : Prop :=
  ∃ done part rs, pre = done ++ part ∧ Steps flags [] done rs ∧ Breaks flags rs part v e

/-- **A prefix of the grammar**: some tokens after it make a stream of items, under flags that
define the same names among its texts as `flags` (a flag it does not name is still free). -/
def Viable (flags : Flags) (pre : List Token) : Prop :=
  ∃ (flags' : Flags) (more : List Token), AgreeOn flags flags' pre ∧ Items flags' (pre ++ more)

section Violations

variable {flags flags' : Flags}

theorem LineTaken.append_blanks {rs : List Unclosed} {dir : Token} {taken bs : List Token}
    (ht : LineTaken flags rs dir taken) (hbs : Blanks dir bs) :
    LineTaken flags rs dir (taken ++ bs) := by
  cases ht with
  | condition f ho hneg harg hmem hbs' =>
    rw [List.append_assoc, List.cons_append]
    exact .condition f ho hneg harg hmem (hbs'.append hbs)
  | otherwise hk ho hbs' => exact .otherwise hk ho (hbs'.append hbs)
  | endIf hk hne hbs' => exact .endIf hk hne (hbs'.append hbs)

/-- Everything a directive has taken stands on its line. -/
theorem LineTaken.line {rs : List Unclosed} {dir : Token} {taken : List Token}
    (ht : LineTaken flags rs dir taken) : ∀ t ∈ taken, t.line = dir.line := by
  cases ht with
  | condition f _ hneg harg _ hbs =>
    intro t ht
    rcases List.mem_append.1 ht with hn | hf
    · exact hneg.line t hn
    · rcases List.mem_cons.1 hf with rfl | hb
      · exact line_of_isArgument harg
      · exact (hbs t hb).2
  | otherwise _ _ hbs => exact fun t ht => (hbs t ht).2
  | endIf _ _ hbs => exact fun t ht => (hbs t ht).2

theorem LineTaken.transfer {rs : List Unclosed} {dir : Token} {taken : List Token}
    (ht : LineTaken flags rs dir taken) (hag : AgreeOn flags flags' taken) :
    LineTaken flags' rs dir taken := by
  cases ht with
  | condition f ho hneg harg hmem hbs =>
    exact .condition f ho hneg harg (by rw [hag f (by simp)]; exact hmem) hbs
  | otherwise hk ho hbs => exact .otherwise hk ho hbs
  | endIf hk hne hbs => exact .endIf hk hne hbs

/-- The table depends on the flags only through the names the tokens involved define. -/
theorem Breaks.transfer {rs : List Unclosed} {part : List Token} {v : Token} {e : Problem}
    (h : Breaks flags rs part v e) (hag : AgreeOn flags flags' (part ++ [v])) :
    Breaks flags' rs part v e := by
  cases h with
  | unmatched hv => exact .unmatched hv
  | elseIfAfterElse hv => exact .elseIfAfterElse hv
  | duplicateElse hv => exact .duplicateElse hv
  | missingPath hdir harg => exact .missingPath hdir harg
  | missingFlag ho hneg harg hnn => exact .missingFlag ho hneg harg hnn
  | undefinedFlag ho hneg harg hmem =>
    exact .undefinedFlag ho hneg harg (by rw [hag v (by simp)]; exact hmem)
  | trailingReference ht hline hk =>
    exact .trailingReference (ht.transfer (hag.mono fun u hu => by simp [hu])) hline hk
  | trailingText ht hline hk hblank hend =>
    exact .trailingText (ht.transfer (hag.mono fun u hu => by simp [hu])) hline hk hblank hend

/-- Every row of the table breaks a step begun. -/
theorem Breaks.begun {rs : List Unclosed} {part : List Token} {v : Token} {e : Problem}
    (h : Breaks flags rs part v e) : Begun flags rs part := by
  cases h with
  | unmatched _ | elseIfAfterElse _ | duplicateElse _ => exact .between
  | missingPath hdir _ => exact .awaitsPath hdir
  | missingFlag ho hneg _ _ | undefinedFlag ho hneg _ _ => exact .awaitsFlag ho hneg
  | trailingReference ht _ _ | trailingText ht _ _ _ _ => exact .onLine ht

end Violations

/-! ## A violation fails the sweep -/

section Failing

variable {flags : Flags}

/-- Blanks in front of a failing line end keep it failing. -/
theorem closeLine_blanks_error {dir : Token} {bs r : List Token} {e : Problem}
    (hbs : Blanks dir bs) (h : Document.closeLine dir r = .error e) :
    Document.closeLine dir (bs ++ r) = .error e := by
  induction bs with
  | nil => exact h
  | cons b bs ih =>
    obtain ⟨hb, hline⟩ := hbs b (.head _)
    change Document.closeLine dir (b :: (bs ++ r)) = _
    rw [Document.closeLine]
    simp [hline, isLineEnd_of_isBlank hb, hb, ih fun u hu => hbs u (.tail _ hu)]

/-- A token on a directive's line that is neither blank nor its end fails the line. -/
theorem closeLine_trailing {dir v : Token} (hline : v.line = dir.line) (hblank : v.isBlank = false)
    (hend : v.isLineEnd = false) (more : List Token) :
    Document.closeLine dir (v :: more) =
      .error (if v.kind = .reference then .trailingReference v.place v.text dir.text
        else .trailingText v.place v.text dir.text) := by
  rw [Document.closeLine]
  by_cases hk : v.kind = .reference <;> simp [hline, hblank, hend, hk]

/-- A condition that fails fails the sweep at its directive. -/
theorem sweep_condition_error {rs : List Unclosed} {live : Bool} {frames : List Frame}
    {dir : Token} {r : List Token} {e : Problem} (ho : Opens rs dir)
    (hfr : frames.map Frame.unclosed = rs) (h : Document.condition flags dir r = .error e) :
    Token.sweep flags live frames (dir :: r) = .error e := by
  rcases ho with hk | ⟨hk, hopen⟩
  · exact sweep_openIf_error hk h
  · cases rs with
    | nil => exact hopen.elim
    | cons r0 rs =>
      obtain ⟨fr, up, rfl, -, hin, -⟩ := Frame.map_unclosed_eq_cons hfr
      exact sweep_elseIf_error hk (hin.trans hopen) h

/-- A directive line that fails after what the directive has taken fails the sweep. -/
theorem sweep_lineTaken_error {rs : List Unclosed} {live : Bool} {frames : List Frame}
    {dir : Token} {taken r : List Token} {e : Problem} (ht : LineTaken flags rs dir taken)
    (hfr : frames.map Frame.unclosed = rs) (hcl : Document.closeLine dir r = .error e) :
    Token.sweep flags live frames (dir :: (taken ++ r)) = .error e := by
  subst hfr
  cases ht with
  | condition f ho hneg harg hmem hbs =>
    obtain ⟨b, hv⟩ := Option.isSome_iff_exists.1 hmem
    rw [List.append_assoc, List.cons_append]
    exact sweep_condition_error ho rfl
      (condition_lineError hneg harg hv (closeLine_blanks_error hbs hcl))
  | otherwise hk hopen hbs =>
    cases frames with
    | nil => exact hopen.elim
    | cons fr up => exact sweep_otherwise_error hk hopen (closeLine_blanks_error hbs hcl)
  | endIf hk hne hbs =>
    cases frames with
    | nil => exact absurd rfl hne
    | cons fr up => exact sweep_endIf_error hk (closeLine_blanks_error hbs hcl)

/-- **A violation fails the sweep** with the problem the table gives, whatever follows it. -/
theorem breaks_sweep {rs : List Unclosed} {part : List Token} {v : Token} {e : Problem}
    (h : Breaks flags rs part v e) (live : Bool) (frames : List Frame)
    (hfr : frames.map Frame.unclosed = rs) (more : List Token) :
    Token.sweep flags live frames (part ++ v :: more) = .error e := by
  cases h with
  | unmatched hv =>
    rw [List.map_eq_nil_iff] at hfr
    subst hfr
    exact sweep_unmatched hv
  | elseIfAfterElse hv =>
    obtain ⟨fr, up, rfl, -, hin, -⟩ := Frame.map_unclosed_eq_cons hfr
    exact sweep_elseIf_inElse hv hin
  | duplicateElse hv =>
    obtain ⟨fr, up, rfl, -, hin, -⟩ := Frame.map_unclosed_eq_cons hfr
    exact sweep_otherwise_inElse hv hin
  | missingPath hdir harg =>
    apply sweep_include_error hdir
    simp [Document.includeNode, harg]
  | missingFlag ho hneg harg hnn =>
    rw [List.cons_append]
    exact sweep_condition_error ho hfr (condition_missingFlag hneg hnn harg)
  | undefinedFlag ho hneg harg hmem =>
    have hv : flags.get? v.text = none := by simpa [Table.mem] using hmem
    rw [List.cons_append]
    exact sweep_condition_error ho hfr (condition_undefinedFlag hneg harg hv)
  | trailingReference ht hline hk =>
    have hcl := closeLine_trailing hline (by simp [isBlank, hk]) (by simp [isLineEnd, hk]) more
    rw [if_pos hk] at hcl
    rw [List.cons_append]
    exact sweep_lineTaken_error ht hfr hcl
  | trailingText ht hline hk hblank hend =>
    have hcl := closeLine_trailing hline hblank hend more
    rw [if_neg hk] at hcl
    rw [List.cons_append]
    exact sweep_lineTaken_error ht hfr hcl

end Failing

/-! ## Where a sweep fails -/

/-- How the tokens `ts`, read from the open regions `rs`, fail with `e`: whole steps lead to a
step that breaks at some token with `e`, or the tokens are whole steps that leave a region open
and `e` reports the innermost one. -/
def FailsAt (flags : Flags) (rs : List Unclosed) (ts : List Token) (e : Problem) : Prop :=
  (∃ done part rs' v post, ts = done ++ (part ++ v :: post) ∧ Steps flags rs done rs' ∧
    Breaks flags rs' part v e) ∨
  (∃ r rs', Steps flags rs ts (r :: rs') ∧ e = .unclosed r.opener)

section Locating

variable {flags : Flags}

/-- A whole step in front of a failing stream. -/
theorem FailsAt.prepend {rs rs₁ : List Unclosed} (x : List Token) {ts : List Token} {e : Problem}
    (hx : ∀ {done : List Token} {rs' : List Unclosed}, Steps flags rs₁ done rs' →
      Steps flags rs (x ++ done) rs')
    (h : FailsAt flags rs₁ ts e) : FailsAt flags rs (x ++ ts) e := by
  rcases h with ⟨done, part, rs', v, post, rfl, hs, hb⟩ | ⟨r, rs', hs, rfl⟩
  · exact .inl ⟨x ++ done, part, rs', v, post, by simp, hx hs, hb⟩
  · exact .inr ⟨r, rs', hx hs, rfl⟩

/-- Where reading the rest of a directive's line fails: at a token of its line after blanks. -/
theorem trailing_of_closeLine {dir : Token} : ∀ {ts : List Token} {e : Problem},
    Document.closeLine dir ts = .error e →
    ∃ bs v post, ts = bs ++ v :: post ∧ Blanks dir bs ∧ v.line = dir.line ∧
      v.isBlank = false ∧ v.isLineEnd = false ∧
      e = (if v.kind = .reference then .trailingReference v.place v.text dir.text
        else .trailingText v.place v.text dir.text)
  | [], _, h => by simp [Document.closeLine] at h
  | t :: ts, e, h => by
    by_cases hl : t.line = dir.line
    · by_cases hend : t.isLineEnd = true
      · simp [Document.closeLine, hl, hend] at h
      · by_cases hb : t.isBlank = true
        · -- a blank: the failure is further on
          cases hcl : Document.closeLine dir ts with
          | ok p => simp [Document.closeLine, hl, hend, hb, hcl] at h
          | error e' =>
            have he : e' = e := by simpa [Document.closeLine, hl, hend, hb, hcl] using h
            subst he
            obtain ⟨bs, v, post, rfl, hbs, hrest⟩ := trailing_of_closeLine hcl
            refine ⟨t :: bs, v, post, rfl, fun u hu => ?_, hrest⟩
            rcases List.mem_cons.1 hu with rfl | hu
            · exact ⟨hb, hl⟩
            · exact hbs u hu
        · refine ⟨[], t, ts, rfl, Blanks.nil, hl, by simpa using hb, by simpa using hend, ?_⟩
          have := closeLine_trailing hl (by simpa using hb) (by simpa using hend) ts
          rw [this] at h
          cases h
          rfl
    · simp [Document.closeLine, hl] at h

/-- A directive's line that fails after what the directive has taken breaks the table's row of
trailing tokens. -/
theorem breaks_of_trailing {rs : List Unclosed} {dir : Token} {taken r : List Token} {e : Problem}
    (ht : LineTaken flags rs dir taken) (hcl : Document.closeLine dir r = .error e) :
    ∃ bs v post, r = bs ++ v :: post ∧ Breaks flags rs (dir :: (taken ++ bs)) v e := by
  obtain ⟨bs, v, post, rfl, hbs, hline, hblank, hend, rfl⟩ := trailing_of_closeLine hcl
  have ht' := ht.append_blanks hbs
  refine ⟨bs, v, post, rfl, ?_⟩
  by_cases hk : v.kind = .reference
  · rw [if_pos hk]
    exact .trailingReference ht' hline hk
  · rw [if_neg hk]
    exact .trailingText ht' hline hk hblank hend

/-- **Where a condition fails**, in a stream of whole lines: at the token after the optional
negation when it is no defined flag, or on the rest of the line. -/
theorem breaks_of_condition {rs : List Unclosed} {dir : Token} {ts : List Token} {e : Problem}
    (ho : Opens rs dir) (hlast : ∀ t ∈ (dir :: ts).getLast?, t.isLineEnd = true)
    (h : Document.condition flags dir ts = .error e) :
    ∃ taken v post, ts = taken ++ v :: post ∧ Breaks flags rs (dir :: taken) v e := by
  -- after the optional negation, the flag candidate decides
  have flagged : ∀ neg f r, ts = neg ++ f :: r → Negated dir neg →
      (neg = [] → f.kind = .negation → f.line ≠ dir.line) →
      ∃ taken v post, ts = taken ++ v :: post ∧ Breaks flags rs (dir :: taken) v e := by
    rintro neg f r rfl hneg hnn
    by_cases harg : Document.isArgument dir f = true
    · cases hv : flags.get? f.text with
      | none =>
        rw [condition_undefinedFlag hneg harg hv] at h
        cases h
        exact ⟨neg, f, r, rfl, .undefinedFlag ho hneg harg (by simp [Table.mem, hv])⟩
      | some b =>
        cases hcl : Document.closeLine dir r with
        | ok p =>
          obtain ⟨rest, hr⟩ := p
          obtain ⟨x, hr', hx⟩ := condition_lineOk hneg harg hv hcl
          rw [hx] at h
          cases h
        | error e' =>
          rw [condition_lineError hneg harg hv hcl] at h
          cases h
          have hmem : flags.mem f.text = true := by simp [Table.mem, hv]
          obtain ⟨bs, v, post, rfl, hb⟩ :=
            breaks_of_trailing (.condition f ho hneg harg hmem Blanks.nil) hcl
          exact ⟨neg ++ [f] ++ bs, v, post, by simp, by simpa using hb⟩
    · have harg' : Document.isArgument dir f = false := by simpa using harg
      rw [condition_missingFlag hneg hnn harg'] at h
      cases h
      exact ⟨neg, f, r, rfl, .missingFlag ho hneg harg' hnn⟩
  have hdir : dir.kind ≠ .text := by
    rcases ho with hk | ⟨hk, -⟩ <;> simp [hk]
  have hts : ts ≠ [] := by
    rintro rfl
    have hend := hlast dir rfl
    rw [isLineEnd_of_kind hdir] at hend
    cases hend
  obtain ⟨neg, f, r, hts', hneg, hnn⟩ := negated_split hts hlast
  exact flagged neg f r hts' hneg hnn

/-- A keyword that ends a body, met with no region open, is the table's first row. -/
theorem failsAt_unmatched {live : Bool} {t : Token} {r : List Token} {e : Problem}
    (hk : t.kind.endsBody = true) (h : Token.sweep flags live [] (t :: r) = .error e) :
    FailsAt flags [] (t :: r) e := by
  rw [sweep_unmatched hk] at h
  cases h
  exact .inl ⟨[], [], [], t, r, rfl, .nil, .unmatched hk⟩

/-- **Where a sweep fails.** On a stream of whole lines, a sweep that fails with `e` breaks, after
whole steps, a row of the table with `e`, or reads the whole stream and leaves a region open,
`e` being the innermost one. -/
theorem failsAt_of_sweep (flags : Flags) : ∀ (live : Bool) (frames : List Frame)
    (ts : List Token) (e : Problem), Lined ts → Token.sweep flags live frames ts = .error e →
    FailsAt flags (frames.map Frame.unclosed) ts e
  | _, [], [], _, _, h => by rw [Token.sweep.eq_def] at h; cases h
  | _, fr :: up, [], e, _, h => by
    rw [sweep_unclosed] at h
    cases h
    exact .inr ⟨fr.unclosed, up.map Frame.unclosed, .nil, rfl⟩
  | live, frames, t :: r, e, hl, h => by
    have hnot : t.kind.takesCondition = false → Lined r := hl.tail
    cases hk : t.kind with
    | text =>
      rw [sweep_literal (.inl hk)] at h
      exact FailsAt.prepend [t] (fun hs => .text t hk hs)
        (failsAt_of_sweep flags live frames r e (hnot (by rw [hk]; rfl)) (except_map_eq_error h))
    | negation => exact absurd hk (hl.head t rfl)
    | reference =>
      rw [sweep_reference hk] at h
      exact FailsAt.prepend [t] (fun hs => .reference t hk hs)
        (failsAt_of_sweep flags live frames r e (hnot (by rw [hk]; rfl)) (except_map_eq_error h))
    | «include» =>
      cases hn : Document.includeNode t r with
      | error e' =>
        rw [sweep_include_error hk hn] at h
        cases h
        -- the path is missing: the next token is none
        cases r with
        | nil => exact absurd (hl.last t rfl) (by simp [isLineEnd_of_kind, hk])
        | cons v post =>
          by_cases harg : Document.isArgument t v = true
          · simp [Document.includeNode, harg] at hn
          · simp only [Document.includeNode, harg, Bool.false_eq_true, if_false,
              Except.error.injEq] at hn
            subst hn
            exact .inl ⟨[], [t], _, v, post, rfl, .nil, .missingPath hk (by simpa using harg)⟩
      | ok p =>
        obtain ⟨n, r', hr'⟩ := p
        obtain ⟨path, rfl, harg⟩ := path_of_includeNode hn
        rw [sweep_include hk hn] at h
        have hpath : ∀ a ∈ [t, path].getLast?, a.kind.takesCondition = false := by
          simp [kind_of_isArgument harg, TokenKind.takesCondition]
        exact FailsAt.prepend [t, path] (fun hs => .include t path hk harg hs)
          (failsAt_of_sweep flags live frames r' e (@Lined.of_append [t, path] r' hl hpath)
            (except_map_eq_error h))
    | openIf =>
      cases hc : Document.condition flags t r with
      | error e' =>
        rw [sweep_openIf_error hk hc] at h
        cases h
        obtain ⟨taken, v, post, rfl, hb⟩ := breaks_of_condition (.inl hk) hl.last hc
        exact .inl ⟨[], t :: taken, _, v, post, by simp, .nil, hb⟩
      | ok p =>
        obtain ⟨b, r', hr'⟩ := p
        obtain ⟨head, rfl, hhead⟩ := head_of_condition hl.chain hl.last hc
        rw [sweep_openIf hk hc] at h
        exact FailsAt.prepend (t :: head) (fun hs => .openIf t hk hhead hs)
          (failsAt_of_sweep flags _ _ r' e (hl.after_directive hhead.ne_nil hhead.last_lineEnd) h)
    | elseIf =>
      cases frames with
      | nil => exact failsAt_unmatched (by rw [hk]; rfl) h
      | cons fr up =>
        cases hin : fr.inElse
        case true =>
          rw [sweep_elseIf_inElse hk hin] at h
          cases h
          have hfr : (fr :: up).map Frame.unclosed = ⟨fr.opener, true⟩ :: up.map Frame.unclosed := by
            simp [Frame.unclosed, hin]
          rw [hfr]
          exact .inl ⟨[], [], _, t, r, rfl, .nil, .elseIfAfterElse hk⟩
        have hfr : (fr :: up).map Frame.unclosed = ⟨fr.opener, false⟩ :: up.map Frame.unclosed := by
          simp [Frame.unclosed, hin]
        cases hc : Document.condition flags t r with
        | error e' =>
          rw [sweep_elseIf_error hk hin hc] at h
          cases h
          rw [hfr]
          have ho : Opens (⟨fr.opener, false⟩ :: up.map Frame.unclosed) t :=
            .inr ⟨hk, by simp [armsOpen]⟩
          obtain ⟨taken, v, post, rfl, hb⟩ := breaks_of_condition ho hl.last hc
          exact .inl ⟨[], t :: taken, _, v, post, by simp, .nil, hb⟩
        | ok p =>
          obtain ⟨b, r', hr'⟩ := p
          obtain ⟨head, rfl, hhead⟩ := head_of_condition hl.chain hl.last hc
          rw [sweep_elseIf hk hin hc] at h
          have hrest := failsAt_of_sweep flags _ _ r' e
            (hl.after_directive hhead.ne_nil hhead.last_lineEnd) h
          -- the frame stands for the same region, its `#else` still to come
          have hfr' : ({ fr with taken := fr.taken || b.cond } :: up).map Frame.unclosed =
              ⟨fr.opener, false⟩ :: up.map Frame.unclosed := by
            simp [Frame.unclosed, hin]
          rw [hfr'] at hrest
          rw [hfr]
          exact FailsAt.prepend (t :: head) (fun hs => .elseIf t hk hhead hs) hrest
    | otherwise =>
      cases frames with
      | nil => exact failsAt_unmatched (by rw [hk]; rfl) h
      | cons fr up =>
        cases hin : fr.inElse
        case true =>
          rw [sweep_otherwise_inElse hk hin] at h
          cases h
          have hfr : (fr :: up).map Frame.unclosed = ⟨fr.opener, true⟩ :: up.map Frame.unclosed := by
            simp [Frame.unclosed, hin]
          rw [hfr]
          exact .inl ⟨[], [], _, t, r, rfl, .nil, .duplicateElse hk⟩
        have hfr : (fr :: up).map Frame.unclosed = ⟨fr.opener, false⟩ :: up.map Frame.unclosed := by
          simp [Frame.unclosed, hin]
        rw [hfr]
        cases hc : Document.closeLine t r with
        | error e' =>
          rw [sweep_otherwise_error hk hin hc] at h
          cases h
          have ht : LineTaken flags (⟨fr.opener, false⟩ :: up.map Frame.unclosed) t [] :=
            .otherwise hk (by simp [armsOpen]) Blanks.nil
          obtain ⟨bs, v, post, rfl, hb⟩ := breaks_of_trailing ht hc
          exact .inl ⟨[], t :: ([] ++ bs), _, v, post, by simp, .nil, hb⟩
        | ok p =>
          obtain ⟨r', hr'⟩ := p
          obtain ⟨tail, rfl, htail⟩ :=
            lineRest_of_closeLine hl.chain hl.last (isLineEnd_of_kind (by simp [hk])) rfl hc
          rw [sweep_otherwise hk hin hc] at h
          have hrest := failsAt_of_sweep flags _ _ r' e
            (hl.after_directive htail.ne_nil htail.last_lineEnd) h
          -- the frame stands for the same region, its `#else` begun
          have hfr' : ({ fr with taken := true, inElse := true } :: up).map Frame.unclosed =
              ⟨fr.opener, true⟩ :: up.map Frame.unclosed := by
            simp [Frame.unclosed]
          rw [hfr'] at hrest
          exact FailsAt.prepend (t :: tail) (fun hs => .otherwise t hk htail hs) hrest
    | endIf =>
      cases frames with
      | nil => exact failsAt_unmatched (by rw [hk]; rfl) h
      | cons fr up =>
        cases hc : Document.closeLine t r with
        | error e' =>
          rw [sweep_endIf_error hk hc] at h
          cases h
          obtain ⟨bs, v, post, rfl, hb⟩ :=
            breaks_of_trailing (.endIf hk (List.cons_ne_nil _ _) Blanks.nil) hc
          exact .inl ⟨[], t :: ([] ++ bs), _, v, post, by simp, .nil, hb⟩
        | ok p =>
          obtain ⟨r', hr'⟩ := p
          obtain ⟨tail, rfl, htail⟩ :=
            lineRest_of_closeLine hl.chain hl.last (isLineEnd_of_kind (by simp [hk])) rfl hc
          rw [sweep_endIf hk hc] at h
          exact FailsAt.prepend (t :: tail) (fun hs => .endIf t hk htail hs)
            (failsAt_of_sweep flags _ _ r' e (hl.after_directive htail.ne_nil htail.last_lineEnd) h)
termination_by _ _ ts => ts.length
decreasing_by all_goals simp only [List.length_cons]; omega

end Locating

/-! ## Completing a prefix -/

/-- A text that no token of `ts` has: it is longer than all their texts together. -/
def freshText (ts : List Token) : Bytes := 97 :: ts.flatMap Token.text

theorem text_ne_freshText {ts : List Token} {t : Token} (h : t ∈ ts) : t.text ≠ freshText ts := by
  intro heq
  have hle : t.text.length ≤ (ts.flatMap Token.text).length := by
    rw [List.flatMap_def]
    exact (List.sublist_flatten_of_mem (List.mem_map_of_mem h)).length_le
  have hlen := congrArg List.length heq
  simp only [freshText, List.length_cons] at hlen
  omega

/-- The end of line `n`. -/
def endOfLine (n : Int) : Token := ⟨.text, [Bytes.lf], n, []⟩

/-- A word `s` alone on line `n`. -/
def wordLine (s : Bytes) (n : Int) : List Token := [⟨.text, s, n, []⟩, endOfLine n]

/-- `#endif` lines on line `n` that close the regions `rs`. -/
def closing (n : Int) (rs : List Unclosed) : List Token :=
  rs.flatMap fun _ => [⟨.endIf, Bytes.ofString "#endif", n, []⟩, endOfLine n]

theorem isLineEnd_endOfLine (n : Int) : (endOfLine n).isLineEnd = true := rfl

/-- A word that starts with a letter is a flag or a path for a directive on its line. -/
theorem isArgument_word (dir : Token) (s : Bytes) :
    Document.isArgument dir ⟨.text, 97 :: s, dir.line, []⟩ = true := by
  simp [Document.isArgument, isLineEnd, isBlank, Bytes.isBlankRun, Glyph.decode, Glyph.lead,
    Glyph.blank, ShaderVariants.isBlank, Bytes.lf]

theorem lined_endOfLine (n : Int) : Lined [endOfLine n] :=
  ⟨List.isChain_singleton _, by simp [endOfLine], by simp [isLineEnd_endOfLine]⟩

/-- A token on a line, then the line's end. -/
theorem lined_pair {a : Token} (n : Int) (ha : a.line = n) (hk : a.kind ≠ .negation) :
    Lined [a, endOfLine n] := by
  refine ⟨List.isChain_pair.2 ⟨fun _ => ha.symm ▸ rfl, fun h => by cases h⟩, by simp [hk],
    by simp [isLineEnd_endOfLine]⟩

theorem lined_closing (n : Int) : ∀ rs : List Unclosed, Lined (closing n rs)
  | [] => Lined.nil
  | _ :: rs => by
    show Lined ([⟨.endIf, Bytes.ofString "#endif", n, []⟩, endOfLine n] ++ closing n rs)
    exact Lined.append (lined_pair n rfl (by simp)) (lined_closing n rs)

theorem steps_closing {flags : Flags} (n : Int) : ∀ rs : List Unclosed,
    Steps flags rs (closing n rs) []
  | [] => .nil
  | _ :: rs => .endIf _ rfl (.lineEnd _ (isLineEnd_endOfLine n) rfl) (steps_closing n rs)

/-- A prefix of a stream of whole lines, then a stream of whole lines that starts on the
prefix's last line with no negation, make a stream of whole lines. -/
theorem Lined.join {xs ys : List Token} (hx : xs.IsChain Follows)
    (hxh : ∀ t ∈ xs.head?, t.kind ≠ .negation) (hy : Lined ys) (hne : ys ≠ [])
    (hj : ∀ a ∈ xs.getLast?, ∀ b ∈ ys.head?, Follows a b) : Lined (xs ++ ys) := by
  refine ⟨List.isChain_append.2 ⟨hx, hy.chain, hj⟩, ?_, ?_⟩
  · cases xs with
    | nil => exact hy.head
    | cons x xs => exact hxh
  · obtain ⟨y, hy'⟩ := Option.ne_none_iff_exists'.1 (mt List.getLast?_eq_none_iff.1 hne)
    rw [List.getLast?_append, hy']
    simpa using hy.last y hy'

theorem LineRest.of_blanks {dir : Token} {bs : List Token} (hbs : Blanks dir bs) :
    LineRest dir (bs ++ [endOfLine dir.line]) := by
  induction bs with
  | nil => exact .lineEnd _ (isLineEnd_endOfLine _) rfl
  | cons b bs ih =>
    obtain ⟨hb, hline⟩ := hbs b (.head _)
    exact .blank b hb hline (ih fun u hu => hbs u (.tail _ hu))

/-- A directive that may begin a condition, with a whole condition, is a whole step. -/
theorem steps_of_opens {flags : Flags} {rs : List Unclosed} {dir : Token} {head : List Token}
    (ho : Opens rs dir) (hh : Head flags dir head) : ∃ rs', Steps flags rs (dir :: head) rs' := by
  rcases ho with hk | ⟨hk, hopen⟩
  · exact ⟨_, by simpa using (Steps.openIf dir hk hh .nil : Steps flags rs (dir :: (head ++ [])) _)⟩
  · cases rs with
    | nil => exact hopen.elim
    | cons r rs =>
      obtain ⟨p, b⟩ := r
      have hb : b = false := hopen
      subst hb
      exact ⟨_, by simpa using
        (Steps.elseIf dir hk hh .nil : Steps flags (⟨p, false⟩ :: rs) (dir :: (head ++ [])) _)⟩

/-- What a directive has taken of its line, with the line's end, is a whole step. -/
theorem LineTaken.finish {flags : Flags} {rs : List Unclosed} {dir : Token} {taken : List Token}
    (ht : LineTaken flags rs dir taken) :
    ∃ rs', Steps flags rs ((dir :: taken) ++ [endOfLine dir.line]) rs' := by
  cases ht with
  | condition f ho hneg harg hmem hbs =>
    obtain ⟨rs', hs⟩ := steps_of_opens ho (Head.of_negated hneg harg hmem (LineRest.of_blanks hbs))
    exact ⟨rs', by simpa using hs⟩
  | otherwise hk hopen hbs =>
    cases rs with
    | nil => exact hopen.elim
    | cons r rs =>
      obtain ⟨p, b⟩ := r
      have hb : b = false := hopen
      subst hb
      exact ⟨_, by simpa using (Steps.otherwise dir hk (LineRest.of_blanks hbs) .nil :
        Steps flags (⟨p, false⟩ :: rs) (dir :: ((taken ++ [endOfLine dir.line]) ++ [])) _)⟩
  | endIf hk hne hbs =>
    cases rs with
    | nil => exact absurd rfl hne
    | cons r rs =>
      exact ⟨_, by simpa using (Steps.endIf dir hk (LineRest.of_blanks hbs) .nil :
        Steps flags (r :: rs) (dir :: ((taken ++ [endOfLine dir.line]) ++ [])) _)⟩

/-- The line a step under way stands on is its directive's. -/
theorem line_eq_of_getLast? {dir : Token} {ts : List Token} {n : Int}
    (h : ∀ t ∈ ts, t.line = dir.line) (hn : ∀ a ∈ (dir :: ts).getLast?, a.line = n) :
    dir.line = n := by
  have hlast := hn _ List.getLast?_cons
  cases hl : ts.getLast? with
  | none => simpa [hl] using hlast
  | some a =>
    rw [hl] at hlast
    rw [← h a (List.mem_of_getLast? hl)]
    exact hlast

section Finishing

variable {flags flags' : Flags}

/-- **A step begun can be finished**: on the line it stands on, a line end, after a path or a
flag `x` where one is wanted, makes it whole steps. -/
theorem Begun.finish {rs : List Unclosed} {part : List Token} (h : Begun flags rs part)
    (hag : AgreeOn flags flags' part) {x : Bytes} (hx : flags'.mem x = true)
    (hxa : ∃ s, x = 97 :: s) (n : Int) (hn : ∀ a ∈ part.getLast?, a.line = n) :
    ∃ fin rs', Steps flags' rs (part ++ fin) rs' ∧ Lined fin ∧ fin ≠ [] ∧
      ∀ b ∈ fin.head?, b.line = n ∧ b.kind ≠ .negation := by
  obtain ⟨s, rfl⟩ := hxa
  have hword : Lined (wordLine (97 :: s) n) := lined_pair n rfl (by simp)
  cases h with
  | between =>
    exact ⟨[endOfLine n], _, .text _ rfl .nil, lined_endOfLine n, by simp, by simp [endOfLine]⟩
  | @awaitsPath dir hdir =>
    -- a path ends the include's line
    have hline : dir.line = n := line_eq_of_getLast? (by simp) hn
    subst hline
    exact ⟨wordLine (97 :: s) dir.line, _,
      .include dir _ hdir (isArgument_word dir s) (.text _ rfl .nil), hword, by simp [wordLine],
      by simp [wordLine]⟩
  | @awaitsFlag dir neg ho hneg =>
    -- a defined flag ends the condition
    have hline : dir.line = n := line_eq_of_getLast? hneg.line hn
    subst hline
    obtain ⟨rs', hs⟩ := steps_of_opens ho
      (Head.of_negated hneg (isArgument_word dir s) hx (.lineEnd _ (isLineEnd_endOfLine _) rfl))
    exact ⟨wordLine (97 :: s) dir.line, rs', by simpa [wordLine] using hs, hword,
      by simp [wordLine], by simp [wordLine]⟩
  | @onLine dir taken ht =>
    -- the line's end ends the directive
    have hline : dir.line = n := line_eq_of_getLast? ht.line hn
    subst hline
    obtain ⟨rs', hs⟩ := (ht.transfer (hag.mono fun u hu => by simp [hu])).finish
    exact ⟨[endOfLine dir.line], rs', hs, lined_endOfLine _, by simp, by simp [endOfLine]⟩

/-- **The tokens before a violation are a prefix of the grammar**: the step under way is
finished on its line, with a flag no token before names where a flag is wanted, and every region
left open is closed. -/
theorem viable_of_breaks {ts pre post done part : List Token} {v : Token} {rs : List Unclosed}
    {e : Problem} (hl : Lined ts) (hts : ts = pre ++ v :: post) (hpre : pre = done ++ part)
    (hs : Steps flags [] done rs) (hb : Breaks flags rs part v e) : Viable flags pre := by
  -- a flag that no token before names, defined
  have hag : AgreeOn flags (flags.set (freshText pre) true) pre :=
    fun t ht => Table.mem_set_ne flags true (text_ne_freshText ht)
  have hx : (flags.set (freshText pre) true).mem (freshText pre) = true := by simp [Table.mem]
  -- the line the tokens before stop on
  obtain ⟨n, hndef⟩ : ∃ n : Int, (pre.getLast?.map Token.line).getD 0 = n := ⟨_, rfl⟩
  have hn : ∀ a ∈ part.getLast?, a.line = n := by
    intro a ha
    have hlast : pre.getLast? = some a := by
      rw [hpre, List.getLast?_append, Option.mem_def.1 ha]
      rfl
    simp [← hndef, hlast]
  obtain ⟨fin, rs', hfin, hlfin, hne, hhead⟩ :=
    hb.begun.finish (hag.mono fun u hu => by simp [hpre, hu]) hx ⟨_, rfl⟩ n hn
  refine ⟨flags.set (freshText pre) true, fin ++ closing n rs', hag,
    items_of_sweep ?_ (sweep_isOk_of_steps ?_)⟩
  · -- the tokens before, then whole lines that start on their last line
    have hchain : pre.IsChain Follows := (List.isChain_append.1 (hts ▸ hl.chain)).1
    have hfirst : ∀ t ∈ pre.head?, t.kind ≠ .negation := fun t ht =>
      hl.head t (by rw [hts, List.head?_append, Option.mem_def.1 ht]; rfl)
    refine Lined.join hchain hfirst (hlfin.append (lined_closing n rs')) (by simp [hne]) ?_
    intro a ha b hb'
    have hbfin : b ∈ fin.head? := by
      cases fin with
      | nil => exact absurd rfl hne
      | cons c cs => simpa using hb'
    obtain ⟨hbline, hbkind⟩ := hhead b hbfin
    have hna : n = a.line := by simp [← hndef, Option.mem_def.1 ha]
    exact ⟨fun _ => hbline.trans hna, fun h => absurd h hbkind⟩
  · -- whole steps from no open region to none
    have hall := (hs.transfer (hag.mono fun u hu => by simp [hpre, hu])).append
      (hfin.append (steps_closing n rs'))
    have heq : pre ++ (fin ++ closing n rs') = done ++ ((part ++ fin) ++ closing n rs') := by
      simp [hpre]
    rw [heq]
    exact hall

/-- Whole steps of a stream of whole lines are a prefix of the grammar: `#endif` lines close what
they leave open. -/
theorem viable_of_steps {ts : List Token} {rs : List Unclosed} (hl : Lined ts)
    (hs : Steps flags [] ts rs) : Viable flags ts :=
  ⟨flags, closing 0 rs, fun _ _ => rfl,
    items_of_sweep (hl.append (lined_closing 0 rs)) (sweep_isOk_of_steps (hs.append (steps_closing 0 rs)))⟩

/-- **Nothing completes the tokens up to a violation**: under flags that define the same of
their names, the sweep fails at the violation, where a stream of items sweeps through. -/
theorem not_viable_of_breaks {pre done part : List Token} {v : Token} {rs : List Unclosed}
    {e : Problem} (hpre : pre = done ++ part) (hs : Steps flags [] done rs)
    (hb : Breaks flags rs part v e) : ¬ Viable flags (pre ++ [v]) := by
  rintro ⟨flags', more, hag, hitems⟩
  subst hpre
  have hs' := hs.transfer (hag.mono fun u hu => by simp [hu])
  have hb' := hb.transfer (hag.mono fun u hu => by simp at hu ⊢; tauto)
  obtain ⟨live, frames, ys, hfr, hsweep⟩ := steps_sweep hs' true [] rfl (part ++ v :: more)
  have hok := sweep_isOk_of_items hitems
  rw [show done ++ part ++ [v] ++ more = done ++ (part ++ v :: more) by simp, hsweep,
    breaks_sweep hb' live frames hfr more] at hok
  cases hok

end Finishing

/-! ## The first violation -/

/-- **The parse accepts exactly the grammar, and reports its first violation.** On the tokens
of any source, the parse succeeds exactly when they are items of the grammar. When it fails, its
problem is the one the table of violations gives at the first token `v` where the stream stops
being a prefix of the grammar; or else the whole stream is a prefix of the grammar, and the
problem reports the innermost region it leaves open at its `#if`. -/
theorem parse_reports_first_violation (flags : Flags) (src file : Bytes) :
    let ts := ofSource src file
    ((Document.parse flags file ts).isOk = true ↔ Items flags ts) ∧
    ∀ e, Document.parse flags file ts = .error e →
      (∃ pre v post, ts = pre ++ v :: post ∧ Viable flags pre ∧ ¬ Viable flags (pre ++ [v]) ∧
        Violation flags pre v e) ∨
      (Viable flags ts ∧ ∃ r rs, Steps flags [] ts (r :: rs) ∧ e = .unclosed r.opener) := by
  intro ts
  have hl : Lined ts := lined_ofSource src file
  refine ⟨parse_isOk_iff_items flags file hl, fun e he => ?_⟩
  have hsweep : Token.sweep flags true [] ts = .error e := by
    rw [← parse_map_items flags file ts, he]
    rfl
  rcases failsAt_of_sweep flags true [] ts e hl hsweep with
    ⟨done, part, rs, v, post, hts, hs, hb⟩ | ⟨r, rs, hs, rfl⟩
  · -- a violation at `v`, after whole steps and the step under way
    have hts' : ts = (done ++ part) ++ v :: post := by rw [hts, List.append_assoc]
    exact .inl ⟨done ++ part, v, post, hts', viable_of_breaks hl hts' rfl hs hb,
      not_viable_of_breaks rfl hs hb, done, part, rs, rfl, hs, hb⟩
  · exact .inr ⟨viable_of_steps hl hs, r, rs, hs, rfl⟩

end Token

end ShaderVariants
