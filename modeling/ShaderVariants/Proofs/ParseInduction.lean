import ShaderVariants.Proofs.Sweep
/-!
# Induction over the parses that succeed

`Document.body`, `Document.region` and `Document.arms` call each other, and the joint induction
principle Lean derives for them has a case for every way each of them can end, the failures
included. A fact about what a successful parse returns owes nothing to the paths that fail, so
`Document.ok_induction` states that induction once over the successful readings only: one case
for each production of the grammar, given the readings it is made of and what holds of each.

The motives see the tokens a reading starts at, what it returns, and the tokens it stops at.
-/

namespace ShaderVariants

section Induction

variable {flags : Flags}
  {B : (ts : List Token) → List Node → (rest : List Token) → rest.length ≤ ts.length → Prop}
  {R : Token → (ts : List Token) → Node → (rest : List Token) → rest.length ≤ ts.length → Prop}
  {A : Token → List Branch → Branch → (ts : List Token) → Node → (rest : List Token) →
    rest.length ≤ ts.length → Prop}

/-- **The joint induction over successful readings of a body, a region and its branches.**
A body is empty at the end of the tokens, grows by a segment in front for a text, negation or
reference token, by an include or a region for an `#include` or an `#if`, and is empty at a token
that ends it. A region is its condition, then its branches. From a branch on, the branches are
closed by an `#elseif` with its condition, by an `#else`, or, with the region, by the `#endif`
line. -/
theorem Document.ok_induction
    (nil : ∀ h, B [] [] [] h)
    (literal : ∀ t ts ns rest h h', (t.kind = .text ∨ t.kind = .negation) →
      Document.body flags ts = .ok (ns, ⟨rest, h⟩) → B ts ns rest h →
      B (t :: ts) (Document.consSegment (.literal t.text t.place) ns) rest h')
    (reference : ∀ t ts ns rest h h', t.kind = .reference →
      Document.body flags ts = .ok (ns, ⟨rest, h⟩) → B ts ns rest h →
      B (t :: ts) (Document.consSegment (.reference t.text t.place) ns) rest h')
    (withInclude : ∀ t ts n r1 h1 ns rest h h', t.kind = .include →
      Document.includeNode t ts = .ok (n, ⟨r1, h1⟩) →
      Document.body flags r1 = .ok (ns, ⟨rest, h⟩) → B r1 ns rest h → B (t :: ts) (n :: ns) rest h')
    (withRegion : ∀ t ts n r1 h1 ns rest h h', t.kind = .openIf →
      Document.region flags t ts = .ok (n, ⟨r1, h1⟩) → R t ts n r1 h1 →
      Document.body flags r1 = .ok (ns, ⟨rest, h⟩) → B r1 ns rest h → B (t :: ts) (n :: ns) rest h')
    (stop : ∀ t ts h, t.kind.endsBody → B (t :: ts) [] (t :: ts) h)
    (opened : ∀ opener ts b r1 h1 n rest h h',
      Document.condition flags opener ts = .ok (b, ⟨r1, h1⟩) →
      Document.arms flags opener [] b r1 = .ok (n, ⟨rest, h⟩) → A opener [] b r1 n rest h →
      R opener ts n rest h')
    (nextElseIf : ∀ opener done cur ts ns stop r h b r2 h2 n rest h3 h',
      Document.body flags ts = .ok (ns, ⟨stop :: r, h⟩) → B ts ns (stop :: r) h →
      stop.kind = .elseIf → cur.isElse = false →
      Document.condition flags stop r = .ok (b, ⟨r2, h2⟩) →
      Document.arms flags opener (done ++ [{ cur with body := ns }]) b r2 = .ok (n, ⟨rest, h3⟩) →
      A opener (done ++ [{ cur with body := ns }]) b r2 n rest h3 →
      A opener done cur ts n rest h')
    (nextElse : ∀ opener done cur ts ns stop r h r2 h2 n rest h3 h',
      Document.body flags ts = .ok (ns, ⟨stop :: r, h⟩) → B ts ns (stop :: r) h →
      stop.kind = .otherwise → cur.isElse = false →
      Document.closeLine stop r = .ok ⟨r2, h2⟩ →
      Document.arms flags opener (done ++ [{ cur with body := ns }]) ⟨none, true, stop.line, []⟩ r2 =
        .ok (n, ⟨rest, h3⟩) →
      A opener (done ++ [{ cur with body := ns }]) ⟨none, true, stop.line, []⟩ r2 n rest h3 →
      A opener done cur ts n rest h')
    (closed : ∀ opener done cur ts ns stop r h r2 h2 h',
      Document.body flags ts = .ok (ns, ⟨stop :: r, h⟩) → B ts ns (stop :: r) h →
      stop.kind ≠ .elseIf → stop.kind ≠ .otherwise → Document.closeLine stop r = .ok ⟨r2, h2⟩ →
      A opener done cur ts (.region opener.place (done ++ [{ cur with body := ns }])
        (Document.selectedIndex (done ++ [{ cur with body := ns }]))) r2 h') :
    (∀ ts ns rest h, Document.body flags ts = .ok (ns, ⟨rest, h⟩) → B ts ns rest h) ∧
      (∀ opener ts n rest h, Document.region flags opener ts = .ok (n, ⟨rest, h⟩) →
        R opener ts n rest h) ∧
      (∀ opener done cur ts n rest h, Document.arms flags opener done cur ts = .ok (n, ⟨rest, h⟩) →
        A opener done cur ts n rest h) := by
  -- a body stops, with nothing read, at a token that ends it
  have hstop : ∀ t ts, t.kind.endsBody → ∀ ns rest h,
      Document.body flags (t :: ts) = .ok (ns, ⟨rest, h⟩) → B (t :: ts) ns rest h := by
    intro t ts ht ns rest h hb
    rw [Document.body_stop ht] at hb
    simp only [Except.ok.injEq, Prod.mk.injEq, Subtype.mk.injEq] at hb
    obtain ⟨rfl, rfl⟩ := hb
    exact stop t ts h ht
  apply Document.body.mutual_induct flags
    (fun ts => ∀ ns rest h, Document.body flags ts = .ok (ns, ⟨rest, h⟩) → B ts ns rest h)
    (fun opener ts => ∀ n rest h, Document.region flags opener ts = .ok (n, ⟨rest, h⟩) →
      R opener ts n rest h)
    (fun opener done cur ts => ∀ n rest h,
      Document.arms flags opener done cur ts = .ok (n, ⟨rest, h⟩) → A opener done cur ts n rest h)
  -- Each success case reads its equation back to the production it stands for; each failure
  -- case meets an equation that gives `.error` where the motive assumed `.ok`.
  · -- the end of the tokens
    intro ns rest h hb
    rw [Document.body] at hb
    simp only [Except.ok.injEq, Prod.mk.injEq, Subtype.mk.injEq] at hb
    obtain ⟨rfl, rfl⟩ := hb
    exact nil h
  · -- a text token
    intro t ts ht ns rest h hb ih ns' rest' h' hb'
    rw [Document.body] at hb'
    simp only [ht, hb, Except.ok.injEq, Prod.mk.injEq, Subtype.mk.injEq] at hb'
    obtain ⟨rfl, rfl⟩ := hb'
    exact literal t ts ns rest h h' (.inl ht) hb (ih ns rest h hb)
  · intro t ts ht e hb ih ns rest h hb'
    rw [Document.body] at hb'
    simp [ht, hb] at hb'
  · -- a negation standing as text
    intro t ts ht ns rest h hb ih ns' rest' h' hb'
    rw [Document.body] at hb'
    simp only [ht, hb, Except.ok.injEq, Prod.mk.injEq, Subtype.mk.injEq] at hb'
    obtain ⟨rfl, rfl⟩ := hb'
    exact literal t ts ns rest h h' (.inr ht) hb (ih ns rest h hb)
  · intro t ts ht e hb ih ns rest h hb'
    rw [Document.body] at hb'
    simp [ht, hb] at hb'
  · -- a value reference
    intro t ts ht ns rest h hb ih ns' rest' h' hb'
    rw [Document.body] at hb'
    simp only [ht, hb, Except.ok.injEq, Prod.mk.injEq, Subtype.mk.injEq] at hb'
    obtain ⟨rfl, rfl⟩ := hb'
    exact reference t ts ns rest h h' ht hb (ih ns rest h hb)
  · intro t ts ht e hb ih ns rest h hb'
    rw [Document.body] at hb'
    simp [ht, hb] at hb'
  · -- an include and its path
    intro t ts ht n r1 h1 hn ns rest h hb ih ns' rest' h' hb'
    rw [Document.body] at hb'
    simp only [ht, hn, hb, Except.ok.injEq, Prod.mk.injEq, Subtype.mk.injEq] at hb'
    obtain ⟨rfl, rfl⟩ := hb'
    exact withInclude t ts n r1 h1 ns rest h h' ht hn hb (ih ns rest h hb)
  · intro t ts ht n r1 h1 hn e hb ih ns rest h hb'
    rw [Document.body] at hb'
    simp [ht, hn, hb] at hb'
  · intro t ts ht e hn ns rest h hb'
    rw [Document.body] at hb'
    simp [ht, hn] at hb'
  · -- a region, then the rest of the body
    intro t ts ht n r1 h1 hr ns rest h hb ihr ih ns' rest' h' hb'
    rw [Document.body] at hb'
    simp only [ht, hr, hb, Except.ok.injEq, Prod.mk.injEq, Subtype.mk.injEq] at hb'
    obtain ⟨rfl, rfl⟩ := hb'
    exact withRegion t ts n r1 h1 ns rest h h' ht hr (ihr n r1 h1 hr) hb (ih ns rest h hb)
  · intro t ts ht n r1 h1 hr e hb ihr ih ns rest h hb'
    rw [Document.body] at hb'
    simp [ht, hr, hb] at hb'
  · intro t ts ht e hr ihr ns rest h hb'
    rw [Document.body] at hb'
    simp [ht, hr] at hb'
  · intro t ts ht; exact hstop t ts (by simp [ht, TokenKind.endsBody])
  · intro t ts ht; exact hstop t ts (by simp [ht, TokenKind.endsBody])
  · intro t ts ht; exact hstop t ts (by simp [ht, TokenKind.endsBody])
  · -- a region: its condition, then its branches
    intro opener ts b r1 h1 hc n r2 h2 ha ih n' rest h hr
    rw [Document.region] at hr
    simp only [hc, ha, Except.ok.injEq, Prod.mk.injEq, Subtype.mk.injEq] at hr
    obtain ⟨rfl, rfl⟩ := hr
    exact opened opener ts b r1 h1 n r2 h2 h hc ha (ih n r2 h2 ha)
  · intro opener ts b r1 h1 hc e ha ih n rest h hr
    rw [Document.region] at hr
    simp [hc, ha] at hr
  · intro opener ts e hc n rest h hr
    rw [Document.region] at hr
    simp [hc] at hr
  · -- the branch's body fails
    intro opener done cur ts e hb ih n rest h ha
    rw [Document.arms] at ha
    simp [hb] at ha
  · -- the tokens end inside the region
    intro opener done cur ts ns hlen h hb ih n rest h' ha
    rw [Document.arms] at ha
    simp [hb] at ha
  · -- an `#elseif` after the `#else`
    intro opener done cur ts ns br stop r hlen hk hel h hb ih n rest h' ha
    rw [Document.arms] at ha
    simp only [hb, hk] at ha
    simp [br] at hel
    simp [hel] at ha
  · -- an `#elseif` closes the branch and opens the next
    intro opener done cur ts ns br all stop r hlen hk hel b r2 h2 hc n r3 h3 ha h hb ih iha
      n' rest h' harms
    have hcur : cur.isElse = false := by simpa using (show ¬cur.isElse = true from hel)
    simp only [all, br] at ha iha
    rw [Document.arms] at harms
    simp only [hb, hk, Branch.isElse_withBody, hcur, hc, ha, Bool.false_eq_true, if_false,
      Except.ok.injEq, Prod.mk.injEq, Subtype.mk.injEq] at harms
    obtain ⟨rfl, rfl⟩ := harms
    exact nextElseIf opener done cur ts ns stop r h b r2 h2 n r3 h3 h' hb (ih ns (stop :: r) h hb)
      hk hcur hc ha (iha n r3 h3 ha)
  · intro opener done cur ts ns br all stop r hlen hk hel b r2 h2 hc e ha h hb ih iha n' rest h'
      harms
    have hcur : cur.isElse = false := by simpa using (show ¬cur.isElse = true from hel)
    simp only [all, br] at ha
    rw [Document.arms] at harms
    simp [hb, hk, Branch.isElse_withBody, hcur, hc, ha] at harms
  · intro opener done cur ts ns br stop r hlen hk hel e hc h hb ih n' rest h' harms
    have hcur : cur.isElse = false := by simpa using (show ¬cur.isElse = true from hel)
    rw [Document.arms] at harms
    simp [hb, hk, Branch.isElse_withBody, hcur, hc] at harms
  · -- a second `#else`
    intro opener done cur ts ns br stop r hlen hk hel h hb ih n rest h' ha
    have hcur : cur.isElse = true := hel
    rw [Document.arms] at ha
    simp [hb, hk, Branch.isElse_withBody, hcur] at ha
  · -- the `#else` closes the branch and opens the last
    intro opener done cur ts ns br all stop r hlen hk hel r2 h2 hcl n r3 h3 ha h hb ih iha
      n' rest h' harms
    have hcur : cur.isElse = false := by simpa using (show ¬cur.isElse = true from hel)
    simp only [all, br] at ha iha
    rw [Document.arms] at harms
    simp only [hb, hk, Branch.isElse_withBody, hcur, hcl, ha, Bool.false_eq_true, if_false,
      Except.ok.injEq, Prod.mk.injEq, Subtype.mk.injEq] at harms
    obtain ⟨rfl, rfl⟩ := harms
    exact nextElse opener done cur ts ns stop r h r2 h2 n r3 h3 h' hb (ih ns (stop :: r) h hb)
      hk hcur hcl ha (iha n r3 h3 ha)
  · intro opener done cur ts ns br all stop r hlen hk hel r2 h2 hcl e ha h hb ih iha n' rest h'
      harms
    have hcur : cur.isElse = false := by simpa using (show ¬cur.isElse = true from hel)
    simp only [all, br] at ha
    rw [Document.arms] at harms
    simp [hb, hk, Branch.isElse_withBody, hcur, hcl, ha] at harms
  · intro opener done cur ts ns br stop r hlen hk hel e hcl h hb ih n' rest h' harms
    have hcur : cur.isElse = false := by simpa using (show ¬cur.isElse = true from hel)
    rw [Document.arms] at harms
    simp [hb, hk, Branch.isElse_withBody, hcur, hcl] at harms
  · -- the `#endif` closes the branch and the region
    intro opener done cur ts ns stop r hlen r2 h2 hcl hne1 hne2 h hb ih n rest h' harms
    rw [Document.arms] at harms
    simp only [hb, hcl, Except.ok.injEq, Prod.mk.injEq, Subtype.mk.injEq] at harms
    obtain ⟨rfl, rfl⟩ := harms
    exact closed opener done cur ts ns stop r h r2 h2 h' hb (ih ns (stop :: r) h hb) hne1 hne2 hcl
  · intro opener done cur ts ns stop r hlen e hcl hne1 hne2 h hb ih n rest h' harms
    rw [Document.arms] at harms
    simp [hb, hcl] at harms

/-- **The branches a region ends with.** Branches read from `cur` on close a region whose
branches are those before `cur`, then `cur` with the body read for it, then those read after it;
the region selects the first that holds. -/
theorem Document.arms_eq_ok_region {opener : Token} {done : List Branch} {cur : Branch}
    {ts rest : List Token} {n : Node} {hr : rest.length ≤ ts.length}
    (h : Document.arms flags opener done cur ts = .ok (n, ⟨rest, hr⟩)) :
    ∃ nodes later, n = .region opener.place (done ++ { cur with body := nodes } :: later)
      (Document.selectedIndex (done ++ { cur with body := nodes } :: later)) := by
  have key : (∀ ts ns rest (h : rest.length ≤ ts.length),
        Document.body flags ts = .ok (ns, ⟨rest, h⟩) → True) ∧
      (∀ opener ts n rest (h : rest.length ≤ ts.length),
        Document.region flags opener ts = .ok (n, ⟨rest, h⟩) → True) ∧
      (∀ opener done cur ts n rest (h : rest.length ≤ ts.length),
        Document.arms flags opener done cur ts = .ok (n, ⟨rest, h⟩) →
        ∃ nodes later, n = .region opener.place (done ++ { cur with body := nodes } :: later)
          (Document.selectedIndex (done ++ { cur with body := nodes } :: later))) := by
    apply Document.ok_induction
    -- bodies and regions owe nothing here; only the three ways branches end say something
    · intros; trivial
    · intros; trivial
    · intros; trivial
    · intros; trivial
    · intros; trivial
    · intros; trivial
    · intros; trivial
    · -- an `#elseif`: `cur` is followed by the branches read from the next one on
      intro opener done cur ts ns stop r h b r2 h2 n rest h3 h' _ _ _ _ _ _ ih
      obtain ⟨nodes, later, rfl⟩ := ih
      exact ⟨ns, { b with body := nodes } :: later, by simp⟩
    · -- an `#else`: likewise, with the `#else` branch next
      intro opener done cur ts ns stop r h r2 h2 n rest h3 h' _ _ _ _ _ _ ih
      obtain ⟨nodes, later, rfl⟩ := ih
      exact ⟨ns, ⟨none, true, stop.line, nodes⟩ :: later, by simp⟩
    · -- the `#endif`: `cur` is the last branch
      intro opener done cur ts ns stop r h r2 h2 h' _ _ _ _ _
      exact ⟨ns, [], rfl⟩
  exact key.2.2 _ _ _ _ _ _ _ h

end Induction

end ShaderVariants
