import ShaderVariants.Document.Outline
import ShaderVariants.Proofs.ParseInduction
/-!
# What a parse reads of the flags

The parser resolves every condition where it meets it, in the branches a region selects and in
those it does not, and it looks at the flags nowhere else. So the flags decide a parse only
through the names its document's conditions name: every such name is defined, and flags that
give these names the same values read the same document from the same tokens.

`Settles flags names P` says this of an outcome `P` of the parse: `flags` define every name of
`names`, and `P` holds under all flags that agree with `flags` on `names`. The parser's three
functions are read by one induction (`parse_reads`), with one obligation for each of them; an
`#elseif` or an `#else` passes the names of the branches read so far on to the branches after
it. `Document.ofSource_settles` is the statement for a whole source.
-/

namespace ShaderVariants

/-- `flags` define every name of `names`, and `P` holds under all flags that give each of these
names the value that `flags` give it. -/
def Settles (flags : Flags) (names : List Bytes) (P : Flags → Prop) : Prop :=
  (∀ x ∈ names, flags.mem x = true) ∧
    ∀ flags' : Flags, (∀ x ∈ names, flags'.get? x = flags.get? x) → P flags'

/-! ## The flags a tree names -/

@[simp] theorem Node.flagsNamedAll_nil : Node.flagsNamedAll [] = [] := rfl

@[simp] theorem Node.flagsNamedAll_cons (n : Node) (ns : List Node) :
    Node.flagsNamedAll (n :: ns) = n.flagsNamed ++ Node.flagsNamedAll ns := rfl

@[simp] theorem Branch.flagsNamedAll_nil : Branch.flagsNamedAll [] = [] := rfl

@[simp] theorem Branch.flagsNamedAll_cons (b : Branch) (bs : List Branch) :
    Branch.flagsNamedAll (b :: bs) =
      b.flag?.toList ++ Node.flagsNamedAll b.body ++ Branch.flagsNamedAll bs := by
  cases b; rfl

@[simp] theorem Branch.flag?_withBody (b : Branch) (c : Bool) (l : Int) (ns : List Node) :
    (Branch.mk b.guard c l ns).flag? = b.flag? := rfl

@[simp] theorem Node.flagsNamed_text (segs : List Segment) : (Node.text segs).flagsNamed = [] := rfl

@[simp] theorem Node.flagsNamed_include (path : Bytes) (p : Place) :
    (Node.include path p).flagsNamed = [] := rfl

@[simp] theorem Node.flagsNamed_region (p : Place) (bs : List Branch) (sel : Option Nat) :
    (Node.region p bs sel).flagsNamed = Branch.flagsNamedAll bs := rfl

@[simp] theorem Node.flagsNamedAll_append (xs ys : List Node) :
    Node.flagsNamedAll (xs ++ ys) = Node.flagsNamedAll xs ++ Node.flagsNamedAll ys := by
  induction xs with
  | nil => rfl
  | cons n ns ih => simp [ih]

@[simp] theorem Branch.flagsNamedAll_append (xs ys : List Branch) :
    Branch.flagsNamedAll (xs ++ ys) = Branch.flagsNamedAll xs ++ Branch.flagsNamedAll ys := by
  induction xs with
  | nil => rfl
  | cons b bs ih => simp [ih]

@[simp] theorem Node.flagsNamedAll_consSegment (s : Segment) (ns : List Node) :
    Node.flagsNamedAll (Document.consSegment s ns) = Node.flagsNamedAll ns := by
  unfold Document.consSegment
  split <;> simp

/-! ## Settled outcomes -/

namespace Settles

variable {flags : Flags} {xs ys : List Bytes} {P Q R : Flags → Prop}

theorem of_forall (h : ∀ f, P f) : Settles flags [] P := ⟨by simp, fun f _ => h f⟩

theorem defined (h : ∀ x ∈ xs, flags.mem x = true) : Settles flags xs fun _ => True :=
  ⟨h, fun _ _ => trivial⟩

theorem imp (h : Settles flags xs P) (hPQ : ∀ f, P f → Q f) : Settles flags xs Q :=
  ⟨h.1, fun f hf => hPQ f (h.2 f hf)⟩

theorem congr (h : Settles flags xs P) (hxy : xs = ys) : Settles flags ys P := hxy ▸ h

/-- The outcome holds of `flags` themselves. -/
theorem self (h : Settles flags xs P) : P flags := h.2 flags fun _ _ => rfl

theorem append (hx : Settles flags xs P) (hy : Settles flags ys Q) (hR : ∀ f, P f → Q f → R f) :
    Settles flags (xs ++ ys) R := by
  refine ⟨fun x hx' => ?_, fun f hf => hR f (hx.2 f fun x h => hf x (by simp [h]))
    (hy.2 f fun x h => hf x (by simp [h]))⟩
  rcases List.mem_append.1 hx' with h | h
  · exact hx.1 x h
  · exact hy.1 x h

theorem and_of_subset (hx : Settles flags xs P) (hy : Settles flags ys Q) (hsub : ∀ x ∈ xs, x ∈ ys) :
    Settles flags ys fun f => P f ∧ Q f :=
  ⟨hy.1, fun f hf => ⟨hx.2 f fun x h => hf x (hsub x h), hy.2 f hf⟩⟩

end Settles

/-! ## The parser -/

section Parse

variable {flags : Flags}

/-- A condition names one flag, defined, and reads the same under flags that give it the same
value. -/
theorem condition_settles {dir : Token} {ts r : List Token} {b : Branch} {hr : r.length ≤ ts.length}
    (h : Document.condition flags dir ts = .ok (b, ⟨r, hr⟩)) :
    ∃ x, b.flag? = some x ∧
      Settles flags [x] (fun f => Document.condition f dir ts = .ok (b, ⟨r, hr⟩)) := by
  obtain ⟨negated, t, after, v, hts, harg, hv, hcl, rfl⟩ := Document.condition_eq_ok.1 h
  refine ⟨t.text, rfl, ⟨by simp [Table.mem, hv], fun f hf => ?_⟩⟩
  have hv' : f.get? t.text = some v := by rw [hf _ (List.mem_singleton_self _), hv]
  exact Document.condition_eq_ok.2 ⟨negated, t, after, v, hts, harg, hv', hcl, rfl⟩

/-- An include node names no flag. -/
theorem includeNode_flagsNamed {dir : Token} {ts r : List Token} {n : Node}
    {hr : r.length < ts.length} (h : Document.includeNode dir ts = .ok (n, ⟨r, hr⟩)) :
    n.flagsNamed = [] := by
  unfold Document.includeNode at h
  split at h
  · split at h
    · simp only [Except.ok.injEq, Prod.mk.injEq] at h
      rw [← h.1]; rfl
    · simp at h
  · simp at h

/-- What a body read under `flags` owes them: the flags its nodes name settle it. -/
def BodyReads (flags : Flags) (ts : List Token) : Prop :=
  ∀ ns rest h, Document.body flags ts = .ok (ns, ⟨rest, h⟩) →
    Settles flags (Node.flagsNamedAll ns) fun f => Document.body f ts = .ok (ns, ⟨rest, h⟩)

/-- What a region read under `flags` owes them: the flags it names settle it. -/
def RegionReads (flags : Flags) (opener : Token) (ts : List Token) : Prop :=
  ∀ n rest h, Document.region flags opener ts = .ok (n, ⟨rest, h⟩) →
    Settles flags n.flagsNamed fun f => Document.region f opener ts = .ok (n, ⟨rest, h⟩)

/-- What the branches of a region read from `cur` on owe `flags`, when `flags` define the flag of
`cur`: the region has `done` in front of the branches read here, the first of them guarded as
`cur`, and the flags these name settle the reading. -/
def ArmsReads (flags : Flags) (opener : Token) (done : List Branch) (cur : Branch)
    (ts : List Token) : Prop :=
  ∀ n rest h, Document.arms flags opener done cur ts = .ok (n, ⟨rest, h⟩) →
    (∀ x ∈ cur.flag?, flags.mem x = true) →
    ∃ later, n = .region opener.place (done ++ later) (Document.selectedIndex (done ++ later)) ∧
      (∀ x ∈ cur.flag?, x ∈ Branch.flagsNamedAll later) ∧
      Settles flags (Branch.flagsNamedAll later)
        fun f => Document.arms f opener done cur ts = .ok (n, ⟨rest, h⟩)

/-- **What the parse reads of the flags**, by the joint induction over successful readings: a
text, a reference or an include reads none; a region reads the flag of its condition and those
of its branches; an `#elseif` or an `#else` passes the names read so far on to the branches
after it. -/
theorem parse_reads (flags : Flags) :
    (∀ ts, BodyReads flags ts) ∧ (∀ opener ts, RegionReads flags opener ts) ∧
      (∀ opener done cur ts, ArmsReads flags opener done cur ts) := by
  apply Document.ok_induction
  · -- the end of the tokens
    intro h
    exact Settles.of_forall fun f => by rw [Document.body]
  · -- a text token, or a negation standing as text
    intro t ts ns rest h h' ht _ ih
    refine (ih.imp fun f hf => ?_).congr (by simp)
    rw [Document.body]
    rcases ht with ht | ht <;> simp only [ht, hf]
  · -- a value reference
    intro t ts ns rest h h' ht _ ih
    refine (ih.imp fun f hf => ?_).congr (by simp)
    rw [Document.body]
    simp only [ht, hf]
  · -- an include and its path, which name no flag
    intro t ts n r1 h1 ns rest h h' ht hn _ ih
    refine (ih.imp fun f hf => ?_).congr (by simp [includeNode_flagsNamed hn])
    rw [Document.body]
    simp only [ht, hn, hf]
  · -- a region, then the rest of the body
    intro t ts n r1 h1 ns rest h h' ht _ ihr _ ih
    refine (ihr.append ih fun f hfr hfb => ?_).congr (by simp)
    rw [Document.body]
    simp only [ht, hfr, hfb]
  · -- a token that ends the body, whatever the flags
    intro t ts h ht
    exact Settles.of_forall fun f => Document.body_stop ht
  · -- a region: its condition, then its branches
    intro opener ts b r1 h1 n rest h h' hc _ ih
    obtain ⟨x, hx, hcs⟩ := condition_settles hc
    obtain ⟨later, rfl, hcur, has⟩ := ih (by simp [hx, hcs.1 x (by simp)])
    have hxl : x ∈ Branch.flagsNamedAll later := hcur x (by simp [hx])
    refine ⟨by simpa using has.1, fun f hf => ?_⟩
    have hf' : ∀ y ∈ Branch.flagsNamedAll later, f.get? y = flags.get? y := by simpa using hf
    dsimp only
    rw [Document.region]
    simp only [hcs.2 f (by simpa using hf' x hxl), has.2 f hf']
  · -- an `#elseif` closes the branch and opens the next
    intro opener done cur ts ns stop r h b r2 h2 n rest h3 h' _ ih hk hcur hc _ iha hdef
    have hdef' : ∀ x ∈ cur.flag?.toList, flags.mem x = true := by simpa using hdef
    obtain ⟨x, hx, hcs⟩ := condition_settles hc
    obtain ⟨later, rfl, hbl, has⟩ := iha (by simp [hx, hcs.1 x (by simp)])
    -- the next branch's flag is among the names the branches after this one read
    have has' := hcs.and_of_subset has (by simpa [hx] using hbl)
    refine ⟨⟨cur.guard, cur.cond, cur.line, ns⟩ :: later, by simp, fun y hy => by simpa using .inl hy, ?_⟩
    refine (((Settles.defined hdef').append ih fun _ _ h => h).append has'
      fun f hbf hca => ?_).congr (by simp)
    obtain ⟨hcf, haf⟩ := hca
    rw [Document.arms]
    simp only [hbf, hk, Branch.isElse_withBody, hcur, hcf, haf, Bool.false_eq_true, if_false]
  · -- the `#else` closes the branch and opens the last, which names no flag
    intro opener done cur ts ns stop r h r2 h2 n rest h3 h' _ ih hk hcur hcl _ iha hdef
    have hdef' : ∀ x ∈ cur.flag?.toList, flags.mem x = true := by simpa using hdef
    obtain ⟨later, rfl, -, has⟩ := iha (by simp [Branch.flag?])
    refine ⟨⟨cur.guard, cur.cond, cur.line, ns⟩ :: later, by simp, fun y hy => by simpa using .inl hy, ?_⟩
    refine (((Settles.defined hdef').append ih fun _ _ h => h).append has
      fun f hbf haf => ?_).congr (by simp)
    rw [Document.arms]
    simp only [hbf, hk, Branch.isElse_withBody, hcur, hcl, haf, Bool.false_eq_true, if_false]
  · -- the `#endif` closes the region, and is read the same way under any flags
    intro opener done cur ts ns stop r h r2 h2 h' _ ih hne1 hne2 hcl hdef
    have hdef' : ∀ x ∈ cur.flag?.toList, flags.mem x = true := by simpa using hdef
    refine ⟨[⟨cur.guard, cur.cond, cur.line, ns⟩], rfl, fun y hy => by simpa using .inl hy, ?_⟩
    refine ((Settles.defined hdef').append ih fun f _ hbf => ?_).congr (by simp)
    rw [Document.arms]
    simp only [hbf, hcl]

end Parse

/-- **A parse reads the flags only through the names its document names.** A document read
under some flags names only flags they define, and any flags that give these names the same
values read the same document from the same tokens. -/
theorem Document.parse_settles {flags : Flags} {file : Bytes} {ts : List Token} {d : Document}
    (h : Document.parse flags file ts = .ok d) :
    Settles flags (Node.flagsNamedAll d.nodes) fun f => Document.parse f file ts = .ok d := by
  unfold Document.parse at h
  cases hb : Document.body flags ts with
  | error e => rw [hb] at h; cases h
  | ok p =>
    obtain ⟨ns, rest, hr⟩ := p
    rw [hb] at h
    cases rest with
    | cons stop r => cases h
    | nil =>
      cases h
      refine ((parse_reads flags).1 ts ns [] hr hb).imp fun f hf => ?_
      simp only [Document.parse, hf]

/-- The same for a whole source. -/
theorem Document.ofSource_settles {flags : Flags} {file src : Bytes} {d : Document}
    (h : Document.ofSource flags file src = .ok d) :
    Settles flags (Node.flagsNamedAll d.nodes) fun f => Document.ofSource f file src = .ok d :=
  Document.parse_settles h

end ShaderVariants
