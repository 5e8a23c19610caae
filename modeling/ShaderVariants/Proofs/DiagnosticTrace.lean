import ShaderVariants.Diagnostic
import ShaderVariants.Shader
import ShaderVariants.Proofs.SourceMap
/-!
# Tracing a compiler diagnostic to its source line

A diagnostic reads the line a compiler message names twice: in the expanded text of each stage,
and, through the stage's source map, in the raw text of the file that produced it. Both readings
split a text at its line feeds after reading each CR LF pair as a line feed, while the tokenizer
split the raw text into lines once, after that same reading and without the final line feed.

The expansion ends every line it writes with a line feed of its own. A line that ends in a
carriage return of its own (a CR no LF follows in the raw text, at a line's end or at the end of
the file) therefore meets a line feed in the expanded text and loses its carriage return there,
while the raw text keeps it.

`ofStages_traces_raw_line` states what a diagnostic reports for a pair whose sources write only
their own lines (no `#include`, no value reference, conditional keywords only at the head of a
line): the origin is in the stage's own file, and the output line is the raw line, less one final
carriage return.
-/

namespace ShaderVariants

/-! ## Lines split at line feeds -/

namespace Bytes

/-- The text without one final carriage return, if it ends in one. -/
def dropFinalCr (s : Bytes) : Bytes :=
  if s.getLast? = some cr then s.dropLast else s

theorem dropFinalCr_cons_cons (b c : UInt8) (r : Bytes) :
    dropFinalCr (b :: c :: r) = b :: dropFinalCr (c :: r) := by
  unfold dropFinalCr
  rw [List.getLast?_cons_cons]
  split <;> simp

theorem lf_not_mem_dropFinalCr {s : Bytes} (h : lf ∉ s) : lf ∉ dropFinalCr s := by
  unfold dropFinalCr
  split
  · exact fun h' => h (List.dropLast_subset s h')
  · exact h

theorem splitOn_ne_nil (sep : UInt8) (s : Bytes) : splitOn sep s ≠ [] := by
  cases s with
  | nil => simp
  | cons b r =>
    unfold splitOn
    split
    · simp
    · split <;> simp

/-- A line free of the separator, and the separator after it, split off the front. -/
theorem splitOn_line {sep : UInt8} {l : Bytes} (hl : sep ∉ l) (rest : Bytes) :
    splitOn sep (l ++ sep :: rest) = l :: splitOn sep rest := by
  induction l with
  | nil => simp [splitOn]
  | cons b l ih =>
    have hb : b ≠ sep := fun h => hl (by simp [h])
    rw [List.cons_append, splitOn, if_neg hb, ih fun h => hl (by simp [h])]

/-- Lines each ended by the separator split back into the lines and an empty last piece. -/
theorem splitOn_lines (sep : UInt8) {ls : List Bytes} (h : ∀ l ∈ ls, sep ∉ l) :
    splitOn sep (ls.flatMap (· ++ [sep])) = ls ++ [[]] := by
  induction ls with
  | nil => rfl
  | cons l ls ih =>
    rw [List.flatMap_cons, List.append_assoc, List.singleton_append, splitOn_line (h l (by simp)),
      ih fun l' hl' => h l' (by simp [hl'])]
    rfl

/-- A final separator adds an empty last piece. -/
theorem splitOn_append_sep (sep : UInt8) (s : Bytes) :
    splitOn sep (s ++ [sep]) = splitOn sep s ++ [[]] := by
  induction s with
  | nil => simp [splitOn]
  | cons b r ih =>
    rw [List.cons_append, splitOn, splitOn, ih]
    split
    · rfl
    · obtain ⟨p, ps, hps⟩ := List.exists_cons_of_ne_nil (splitOn_ne_nil sep r)
      rw [hps]
      rfl

/-- **A line and its line feed, with CR LF pairs read as line feeds.** A carriage return that
ends the line pairs with the line feed and is lost. -/
theorem normalizeLineEnds_line {l : Bytes} (hl : lf ∉ l) (rest : Bytes) :
    normalizeLineEnds (l ++ lf :: rest) = dropFinalCr l ++ lf :: normalizeLineEnds rest := by
  induction l with
  | nil => simp [normalizeLineEnds, dropFinalCr, lf]
  | cons b l ih =>
    cases l with
    | nil =>
      -- the line's one byte meets the line feed
      by_cases hb : b = cr
      · subst hb
        simp [normalizeLineEnds, dropFinalCr, cr, lf]
      · rw [List.singleton_append, normalizeLineEnds.eq_3 _ _ fun _ h _ => hb h]
        simp [normalizeLineEnds, dropFinalCr, hb, lf]
    | cons c l =>
      -- the line goes on after `b`, so `b` pairs with no line feed
      have hc : c ≠ lf := fun h => hl (by simp [h])
      rw [List.cons_append, List.cons_append,
        normalizeLineEnds.eq_3 b _ fun _ _ h => hc (List.cons.inj h).1, ← List.cons_append,
        ih fun h => hl (List.mem_cons_of_mem b h), dropFinalCr_cons_cons, List.cons_append]

/-- Lines each ended by a line feed, with CR LF pairs read as line feeds: each line loses one
final carriage return. -/
theorem normalizeLineEnds_lines {ls : List Bytes} (h : ∀ l ∈ ls, lf ∉ l) :
    normalizeLineEnds (ls.flatMap (· ++ [lf])) = (ls.map dropFinalCr).flatMap (· ++ [lf]) := by
  induction ls with
  | nil => rfl
  | cons l ls ih =>
    rw [List.flatMap_cons, List.append_assoc, List.singleton_append,
      normalizeLineEnds_line (h l (by simp)), ih fun l' hl' => h l' (by simp [hl'])]
    simp

end Bytes

/-! ## Reading a line back -/

/-- **Line `n` of a text written line by line** is that line, less one final carriage return. -/
theorem sourceLine_written {ls : List Bytes} (h : ∀ l ∈ ls, Bytes.lf ∉ l) {n : Nat} {l : Bytes}
    (hn : 1 ≤ n) (hl : ls[n - 1]? = some l) :
    sourceLine (ls.flatMap (· ++ [Bytes.lf])) n = Bytes.dropFinalCr l := by
  have hlt : n - 1 < (ls.map Bytes.dropFinalCr).length := by
    rw [List.length_map]
    exact (List.getElem?_eq_some_iff.1 hl).1
  have hcr : ∀ l ∈ ls.map Bytes.dropFinalCr, Bytes.lf ∉ l := by
    intro l' hl'
    obtain ⟨l, hl, rfl⟩ := List.mem_map.1 hl'
    exact Bytes.lf_not_mem_dropFinalCr (h l hl)
  unfold sourceLine
  rw [if_neg (by omega), Bytes.normalizeLineEnds_lines h, Bytes.splitOn_lines Bytes.lf hcr,
    List.getElem?_append_left hlt, List.getElem?_map, hl]
  rfl

/-- **Line `k` of a raw text** is line `k` of the text as the tokenizer splits it. -/
theorem sourceLine_of_lines {src l : Bytes} {k : Nat} (hk : 1 ≤ k)
    (h : (Token.lines src)[k - 1]? = some l) : sourceLine src k = l := by
  unfold sourceLine
  rw [if_neg (by omega)]
  unfold Token.lines Bytes.dropFinalLf at h
  dsimp only at h
  split at h
  · simp at h
  · split at h
    · next hlast =>
      -- the text ends in a line feed, which only adds an empty last line
      obtain ⟨ys, hys⟩ := List.getLast?_eq_some_iff.1 hlast
      rw [hys, List.dropLast_concat] at h
      rw [hys, Bytes.splitOn_append_sep, List.getElem?_append_left (List.getElem?_eq_some_iff.1 h).1,
        h]
      rfl
    · rw [h]
      rfl

/-! ## A stage traced back -/

namespace Token

/-- A source that writes only its own lines: none of its words is `#include`, none of its lines
refers to a value, and its conditional keywords stand only as the first word of a line. -/
structure SelfContained (src : Bytes) : Prop where
  no_include : ∀ l ∈ lines src, Bytes.ofString "#include" ∉ lineWords l
  no_reference : ∀ l ∈ lines src, Bytes.references l = []
  directive_first : ∀ l ∈ lines src, ∀ w ∈ (lineWords l).tail, isConditionalWord w = false

/-- A live line is line `p.2` of the source, counted from 1. -/
theorem liveContent_line {flags : Flags} {src file : Bytes} {p : Bytes × Nat}
    (hp : p ∈ liveContent flags src file) : 1 ≤ p.2 ∧ (lines src)[p.2 - 1]? = some p.1 := by
  have hmem := (mem_liveLines hp).1
  obtain ⟨hk, hlt, heq⟩ := List.mem_zipIdx (x := p.1) (i := p.2) hmem
  refine ⟨hk, ?_⟩
  rw [heq]
  exact List.getElem?_eq_getElem (by omega)

end Token

namespace Bytes

/-- The parts of a text spell it back, a reference as it is written. -/
theorem parts_spell (s : Bytes) :
    s.parts.flatMap (Sum.elim (fun b => [b]) fun name => 35 :: 123 :: (name ++ [125])) = s := by
  fun_induction parts s with
  | case1 s name rest h ih =>
    obtain ⟨rfl, -, -⟩ := Token.referenceAt?_eq_some h
    simp [ih]
  | case2 => rfl
  | case3 b r h ih => simp [ih]

/-- A text that refers to no value is left as it is. -/
theorem substitute_of_references_nil (values : Values) {s : Bytes} (h : references s = []) :
    substitute values s = s := by
  conv => rhs; rw [← parts_spell s]
  refine List.flatMap_congr fun x hx => ?_
  cases x with
  | inl b => rfl
  | inr name =>
    rw [references, List.filterMap_eq_nil_iff] at h
    exact absurd (h _ hx) (by simp)

end Bytes

namespace Session

/-- **A self-contained source expands to its live lines**, verbatim, each ended by a line feed
and with its own line as origin. -/
theorem expand_selfContained {s : Session} {src file : Bytes} {e : Expansion}
    (hsrc : Token.SelfContained src) (he : s.expand src file = .ok e) :
    e.text = (Token.liveContent s.flags src file).flatMap (fun p => p.1 ++ [Bytes.lf]) ∧
      e.origins = (Token.liveContent s.flags src file).map fun p => ⟨file, p.2⟩ := by
  obtain ⟨doc, hdoc⟩ : ∃ doc, s.parse src file = .ok doc := by
    unfold expand at he
    split at he
    · next doc hdoc => exact ⟨doc, hdoc⟩
    · cases he
  have hlines : ∀ l ∈ Token.lines src, Token.PlainLine l := fun l hl =>
    ⟨Token.lf_not_mem_of_mem_lines hl, hsrc.no_include l hl, hsrc.directive_first l hl⟩
  -- a live line is a line of the source, so it refers to no value
  have hnoref : ∀ p ∈ Token.liveContent s.flags src file, Bytes.references p.1 = [] :=
    fun p hp => hsrc.no_reference p.1 (List.mem_of_getElem? (Token.liveContent_line hp).2)
  obtain ⟨e', he', htext, horigins⟩ :=
    s.expand_lines hlines hdoc fun p hp name hname => by simp [hnoref p hp] at hname
  rw [he] at he'
  cases he'
  refine ⟨?_, horigins fun p hp name hname => by simp [hnoref p hp] at hname⟩
  rw [htext]
  exact List.flatMap_congr fun p hp => by rw [Bytes.substitute_of_references_nil _ (hnoref p hp)]

end Session

namespace StageText

/-- The origin of output line `n` of a stage that writes lines of its own raw text, each with its
line number as origin: the place of the `n`-th line written, and the raw text of that line. -/
theorem origin_of_live (u : StageText) {live : List (Bytes × Nat)}
    (hlive : ∀ p ∈ live, 1 ≤ p.2 ∧ (Token.lines u.raw)[p.2 - 1]? = some p.1)
    (horigins : u.expansion.origins = live.map fun p => ⟨u.file, p.2⟩)
    {n : Nat} (h1 : 1 ≤ n) {p : Bytes × Nat} (hp : live[n - 1]? = some p) :
    u.origin n = (⟨u.file, p.2⟩, p.1) := by
  obtain ⟨hk, hline⟩ := hlive p (List.mem_of_getElem? hp)
  have horigin : u.expansion.origin? n = some ⟨u.file, p.2⟩ := by
    rw [Expansion.origin?, if_neg (by omega), horigins]
    simp [hp]
  rw [origin, horigin]
  simp [sourceLine_of_lines hk hline]

/-- **One stage traced back.** When a stage's expansion writes lines of the stage's own raw text,
each ended by a line feed and with its line number as origin, an output line of the stage comes
from the stage's file, and reads as the raw line there less one final carriage return. -/
theorem origin_traces (u : StageText) {live : List (Bytes × Nat)}
    (hlive : ∀ p ∈ live, 1 ≤ p.2 ∧ (Token.lines u.raw)[p.2 - 1]? = some p.1)
    (htext : u.expansion.text = live.flatMap fun p => p.1 ++ [Bytes.lf])
    (horigins : u.expansion.origins = live.map fun p => ⟨u.file, p.2⟩)
    {n : Nat} (h1 : 1 ≤ n) (hn : n ≤ u.expansion.origins.length) :
    (u.origin n).1.file = u.file ∧
      sourceLine u.expansion.text n = Bytes.dropFinalCr (u.origin n).2 := by
  rw [horigins, List.length_map] at hn
  obtain ⟨p, hp⟩ : ∃ p, live[n - 1]? = some p := ⟨_, List.getElem?_eq_getElem (by omega)⟩
  -- the lines written are lines of the raw text, so none holds a line feed
  have hfree : ∀ l ∈ live.map Prod.fst, Bytes.lf ∉ l := by
    intro l hl
    obtain ⟨q, hq, rfl⟩ := List.mem_map.1 hl
    exact Token.lf_not_mem_of_mem_lines (List.mem_of_getElem? (hlive q hq).2)
  rw [u.origin_of_live hlive horigins h1 hp, htext, ← List.flatMap_map Prod.fst (· ++ [Bytes.lf])]
  exact ⟨rfl, sourceLine_written hfree h1 (by simp [hp])⟩

end StageText

/-! ## The diagnostic of a pair -/

namespace Session

/-- A source expands when its live expansion succeeds. -/
theorem exists_expand (s : Session) (src file : Bytes) (h : (s.expandLive 0 src file).isOk) :
    ∃ e, s.expand src file = .ok e := by
  have hmap := expand_map_pieces s src file
  cases hl : s.expandLive 0 src file with
  | error p => simp [hl, Except.isOk, Except.toBool] at h
  | ok ps =>
    rw [hl] at hmap
    obtain ⟨e, he, -⟩ := except_map_eq_ok hmap
    exact ⟨e, he⟩

end Session

namespace Pair

/-- A stage that loads is the expansion of the text its file reads as. -/
theorem expand_of_loadStage {s : Session} {path : Bytes} {stage : Stage} {u : StageSource}
    (h : loadStage s path stage = .ok u) : s.expand u.raw u.file = .ok u.expansion := by
  unfold loadStage at h
  dsimp only at h
  split at h
  · cases h
  · split at h
    · cases h
    · next e he =>
      cases h
      exact he

/-- A pair that loads holds its vertex and fragment stages as they load. -/
theorem loadStage_of_load {s : Session} {path : Bytes} {pair : Pair} (h : load s path = .ok pair) :
    loadStage s path .vertex = .ok pair.vertex ∧ loadStage s path .fragment = .ok pair.fragment := by
  unfold load at h
  split at h
  · cases h
  · next v hv =>
    split at h
    · cases h
    · next f hf =>
      cases h
      exact ⟨hv, hf⟩

/-- A pair loads as the texts its two files read as, expanded. -/
theorem load_of_expand {s : Session} {path vraw fraw : Bytes} {ev ef : Expansion}
    (hv : s.loader (path ++ Stage.vertex.ext) = .ok vraw)
    (hf : s.loader (path ++ Stage.fragment.ext) = .ok fraw)
    (hev : s.expand vraw (path ++ Stage.vertex.ext) = .ok ev)
    (hef : s.expand fraw (path ++ Stage.fragment.ext) = .ok ef) :
    load s path = .ok ⟨path, ⟨.vertex, path ++ Stage.vertex.ext, vraw, ev⟩,
      ⟨.fragment, path ++ Stage.fragment.ext, fraw, ef⟩⟩ := by
  simp [load, loadStage, hv, hf, hev, hef]

end Pair

/-- **A self-contained stage of a pair traced back.** An output line of the stage comes from the
stage's own file, and reads as the raw line there less one final carriage return. -/
theorem StageSource.traces_of_loadStage {s : Session} {path : Bytes} {stage : Stage}
    {u : StageSource} (hu : Pair.loadStage s path stage = .ok u) (hsrc : Token.SelfContained u.raw)
    {n : Nat} (h1 : 1 ≤ n) (hn : n ≤ u.expansion.origins.length) :
    (u.toStageText.origin n).1.file = u.file ∧
      sourceLine u.expansion.text n = Bytes.dropFinalCr (u.toStageText.origin n).2 := by
  obtain ⟨htext, horigins⟩ := Session.expand_selfContained hsrc (Pair.expand_of_loadStage hu)
  exact u.toStageText.origin_traces (fun p hp => Token.liveContent_line hp) htext horigins h1 hn

namespace Diagnostic

/-- The diagnostic of a message that names a line: the line read in both expanded texts, and
traced through both source maps. -/
theorem ofStages_of_parse? {msg : Bytes} {m : CompileMessage}
    (hm : CompileMessage.parse? msg = some m) (v f : StageText) :
    ofStages msg v f =
      { hasLine := true, line := m.line, type := m.type,
        vertexLine := sourceLine v.expansion.text m.line,
        fragmentLine := sourceLine f.expansion.text m.line,
        vertexOrigin := (v.origin m.line).1, rawVertexLine := (v.origin m.line).2,
        fragmentOrigin := (f.origin m.line).1, rawFragmentLine := (f.origin m.line).2 } := by
  simp [ofStages, ofMessage, hm]

/-- **A diagnostic traces its line to the raw source line.** For a pair whose two sources write
only their own lines, and a compiler message that names line `n ≥ 1`: when the vertex stage has
an output line `n`, the diagnostic's vertex origin is in the vertex file, and the vertex line is
the raw vertex line less one final carriage return; and the same for the fragment stage. The two
lines are equal exactly when the raw line does not end in a carriage return. -/
theorem ofStages_traces_raw_line (s : Session) (path : Bytes) (pair : Pair)
    (hload : Pair.load s path = .ok pair)
    (hv : Token.SelfContained pair.vertex.raw) (hf : Token.SelfContained pair.fragment.raw)
    (msg : Bytes) (m : CompileMessage) (hm : CompileMessage.parse? msg = some m)
    (h1 : 1 ≤ m.line) :
    let d := ofStages msg pair.vertex.toStageText pair.fragment.toStageText
    (m.line ≤ pair.vertex.expansion.origins.length →
      d.vertexOrigin.file = pair.vertex.file ∧ d.vertexLine = Bytes.dropFinalCr d.rawVertexLine) ∧
    (m.line ≤ pair.fragment.expansion.origins.length →
      d.fragmentOrigin.file = pair.fragment.file ∧
        d.fragmentLine = Bytes.dropFinalCr d.rawFragmentLine) := by
  intro d
  obtain ⟨hvl, hfl⟩ := Pair.loadStage_of_load hload
  rw [show d = _ from ofStages_of_parse? hm _ _]
  exact ⟨fun hn => StageSource.traces_of_loadStage hvl hv h1 hn,
    fun hn => StageSource.traces_of_loadStage hfl hf h1 hn⟩

/-- The trace at work: with the flag `F` off, output line 1 of the vertex stage is line 4 of its
file, whose CR LF pair is one line end; output line 1 of the fragment stage is its file's one
line, which ends in a carriage return. -/
theorem ofStages_traces_raw_line_sample :
    let s : Session := ⟨[(Bytes.ofString "F", false)], [], Loader.ofTable
      [(Bytes.ofString "x.vert", Bytes.ofString "#if F\nu\n#else\nv\r\n#endif\n"),
        (Bytes.ofString "x.frag", Bytes.ofString "f\r")], 0⟩
    ∃ pair, Pair.load s (Bytes.ofString "x") = .ok pair ∧
      1 ≤ pair.vertex.expansion.origins.length ∧ 1 ≤ pair.fragment.expansion.origins.length ∧
      let d := ofStages (Bytes.ofString "Compilation failed: ERROR: 1: bad")
        pair.vertex.toStageText pair.fragment.toStageText
      (d.vertexOrigin.file = pair.vertex.file ∧ d.vertexLine = Bytes.dropFinalCr d.rawVertexLine) ∧
      d.fragmentOrigin.file = pair.fragment.file ∧
        d.fragmentLine = Bytes.dropFinalCr d.rawFragmentLine := by
  intro s
  have hv : Token.SelfContained (Bytes.ofString "#if F\nu\n#else\nv\r\n#endif\n") :=
    ⟨by decide +kernel, by decide +kernel, by decide +kernel⟩
  have hf : Token.SelfContained (Bytes.ofString "f\r") :=
    ⟨by decide +kernel, by decide +kernel, by decide +kernel⟩
  obtain ⟨ev, hev⟩ := s.exists_expand (Bytes.ofString "#if F\nu\n#else\nv\r\n#endif\n")
    (Bytes.ofString "x" ++ Stage.vertex.ext) (by decide +kernel)
  obtain ⟨ef, hef⟩ := s.exists_expand (Bytes.ofString "f\r")
    (Bytes.ofString "x" ++ Stage.fragment.ext) (by decide +kernel)
  have hload := Pair.load_of_expand (by decide +kernel) (by decide +kernel) hev hef
  have hlv : 1 ≤ ev.origins.length := by
    rw [(Session.expand_selfContained hv hev).2, List.length_map]
    decide +kernel
  have hlf : 1 ≤ ef.origins.length := by
    rw [(Session.expand_selfContained hf hef).2, List.length_map]
    decide +kernel
  have htrace := ofStages_traces_raw_line s _ _ hload hv hf
    (Bytes.ofString "Compilation failed: ERROR: 1: bad") ⟨Bytes.ofString "ERROR", 1⟩
    (by decide +kernel) le_rfl
  exact ⟨_, hload, hlv, hlf, htrace.1 hlv, htrace.2 hlf⟩

/-- A line that ends in a lone carriage return. The vertex file `a` CR is one line, `a` CR, which
the expansion ends with a line feed; output line 1 then reads `a`, while the raw line shown
beside it is `a` CR. -/
theorem ofStages_lone_carriage_return :
    let s : Session := ⟨[], [], Loader.ofTable
      [(Bytes.ofString "x.vert", Bytes.ofString "a\r"),
        (Bytes.ofString "x.frag", Bytes.ofString "b\n")], 0⟩
    ∃ pair, Pair.load s (Bytes.ofString "x") = .ok pair ∧
      Token.SelfContained pair.vertex.raw ∧ Token.SelfContained pair.fragment.raw ∧
      pair.vertex.expansion.origins.length = 1 ∧
      let d := ofStages (Bytes.ofString "Compilation failed: ERROR: 1: bad")
        pair.vertex.toStageText pair.fragment.toStageText
      d.vertexOrigin = ⟨Bytes.ofString "x.vert", 1⟩ ∧ d.vertexLine = Bytes.ofString "a" ∧
        d.rawVertexLine = Bytes.ofString "a\r" := by
  intro s
  have hv : Token.SelfContained (Bytes.ofString "a\r") :=
    ⟨by decide +kernel, by decide +kernel, by decide +kernel⟩
  have hf : Token.SelfContained (Bytes.ofString "b\n") :=
    ⟨by decide +kernel, by decide +kernel, by decide +kernel⟩
  obtain ⟨ev, hev⟩ := s.exists_expand (Bytes.ofString "a\r")
    (Bytes.ofString "x" ++ Stage.vertex.ext) (by decide +kernel)
  obtain ⟨ef, hef⟩ := s.exists_expand (Bytes.ofString "b\n")
    (Bytes.ofString "x" ++ Stage.fragment.ext) (by decide +kernel)
  obtain ⟨htext, horigins⟩ := Session.expand_selfContained hv hev
  refine ⟨_, Pair.load_of_expand (by decide +kernel) (by decide +kernel) hev hef, hv, hf, ?_, ?_⟩
  · rw [horigins, List.length_map]
    decide +kernel
  · -- output line 1 is the one live line, `a` CR, and the expansion ends it with a line feed
    have hline : (Token.liveContent s.flags (Bytes.ofString "a\r")
        (Bytes.ofString "x" ++ Stage.vertex.ext))[1 - 1]? = some (Bytes.ofString "a\r", 1) := by
      decide +kernel
    have horigin := StageText.origin_of_live
      ⟨Bytes.ofString "x" ++ Stage.vertex.ext, Bytes.ofString "a\r", ev⟩
      (fun p hp => Token.liveContent_line hp) horigins le_rfl hline
    change StageText.origin _ 1 = (⟨_, 1⟩, _) at horigin
    rw [ofStages_of_parse? (m := ⟨Bytes.ofString "ERROR", 1⟩) (by decide +kernel)]
    simp only [StageSource.toStageText, horigin, htext]
    decide +kernel

end Diagnostic

end ShaderVariants
