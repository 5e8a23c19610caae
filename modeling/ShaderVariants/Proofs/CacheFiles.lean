import ShaderVariants.Cache
import ShaderVariants.Proofs.FlagWords
import ShaderVariants.Proofs.OutputPaths
import ShaderVariants.Proofs.FlagDependence
/-!
# The files of a cache entry

What a cache's Put and Get do to and read from its files, one key at a time, for keys that hold
no path separator:

* **Well-formed keys come back from JSON unchanged** (`Glyph.scrub_of_isUtf8`); a key with a
  stray byte does not (`Glyph.scrub_ne_of_not_isUtf8`), so its metadata names another key.
* **Entries have files of their own** (`Cache.join_entryName_inj`): joined onto the cache
  directory, the three files of an entry are three different files, and no file of one key is
  a file of another.
* **A Put, write by write** (`Cache.Store.put_stored` and the lemmas before it): the store after
  a Put that finished, or that the file system stopped at one of its writes.

Keys with a separator are left out: `filepath.Join` cleans the joined path, so `./b` or
`x/../b` names the files of `b`.
-/

namespace ShaderVariants

/-! ## Well-formed UTF-8 -/

namespace Glyph

/-- Whether a glyph is a character rather than a stray byte. -/
def isChar : Glyph → Bool
  | char _ _ => true
  | stray _ => false

/-- Whether a text is well-formed UTF-8: each of its glyphs a character. -/
def isUtf8 (s : Bytes) : Bool := (decode s).all isChar

/-- A well-formed sequence has all its continuation bytes in the text. -/
theorem lead_length {b : UInt8} {r : Bytes} {c n : Nat} (h : lead b r = some (c, n)) :
    n ≤ r.length := by
  unfold lead at h
  -- down the lead byte's ranges; a sequence of `n` continuation bytes matched `n` of them
  by_cases h1 : b < 0x80
  · rw [if_pos h1] at h
    cases h
    exact Nat.zero_le _
  rw [if_neg h1] at h
  by_cases h2 : b < 0xC2
  · rw [if_pos h2] at h
    cases h
  rw [if_neg h2] at h
  by_cases h3 : b < 0xE0
  · rw [if_pos h3] at h
    match r, h with
    | _ :: _, h =>
      simp only [Option.ite_none_right_eq_some, Option.some.injEq, Prod.mk.injEq] at h
      obtain ⟨-, -, rfl⟩ := h
      simp
  rw [if_neg h3] at h
  by_cases h4 : b < 0xF0
  · rw [if_pos h4] at h
    match r, h with
    | _ :: _ :: _, h =>
      simp only [Option.ite_none_right_eq_some, Option.some.injEq, Prod.mk.injEq] at h
      obtain ⟨-, -, rfl⟩ := h
      simp
  rw [if_neg h4] at h
  by_cases h5 : b < 0xF5
  · rw [if_pos h5] at h
    match r, h with
    | _ :: _ :: _ :: _, h =>
      simp only [Option.ite_none_right_eq_some, Option.some.injEq, Prod.mk.injEq] at h
      obtain ⟨-, -, rfl⟩ := h
      simp
  rw [if_neg h5] at h
  cases h

/-- A well-formed sequence reads the same with more bytes after the text: the branch taken
depends on the lead byte, and the bytes it reads are there already. -/
theorem lead_append {b : UInt8} {r : Bytes} {c n : Nat} (h : lead b r = some (c, n))
    (t : Bytes) : lead b (r ++ t) = some (c, n) := by
  unfold lead at h ⊢
  by_cases h1 : b < 0x80
  · rw [if_pos h1] at h ⊢
    exact h
  rw [if_neg h1] at h ⊢
  by_cases h2 : b < 0xC2
  · rw [if_pos h2] at h
    cases h
  rw [if_neg h2] at h ⊢
  by_cases h3 : b < 0xE0
  · rw [if_pos h3] at h ⊢
    match r, h with
    | _ :: _, h => exact h
  rw [if_neg h3] at h ⊢
  by_cases h4 : b < 0xF0
  · rw [if_pos h4] at h ⊢
    match r, h with
    | _ :: _ :: _, h => exact h
  rw [if_neg h4] at h ⊢
  by_cases h5 : b < 0xF5
  · rw [if_pos h5] at h ⊢
    match r, h with
    | _ :: _ :: _ :: _, h => exact h
  rw [if_neg h5] at h
  cases h

/-- A well-formed text read on with more bytes after it: its characters end where it ends, so
the bytes after it are read on their own. -/
theorem decode_append {a : Bytes} (ha : isUtf8 a) (t : Bytes) :
    decode (a ++ t) = decode a ++ decode t := by
  induction a using decode.induct with
  | case1 => simp [decode]
  | case2 b r c n h ih =>
    have hn := lead_length h
    have hrest : isUtf8 (r.drop n) := by
      simp only [isUtf8] at ha ⊢
      rw [decode, h] at ha
      simp only [List.all_cons, Bool.and_eq_true] at ha
      exact ha.2
    rw [List.cons_append, decode, lead_append h, decode, h]
    simp only [List.take_append_of_le_length hn, List.drop_append_of_le_length hn, ih hrest,
      List.cons_append]
  | case3 b r h ih =>
    simp [isUtf8, decode, h, isChar] at ha

theorem isUtf8_append {a b : Bytes} (ha : isUtf8 a) (hb : isUtf8 b) : isUtf8 (a ++ b) := by
  simp only [isUtf8, decode_append ha, List.all_append, Bool.and_eq_true] at ha hb ⊢
  exact ⟨ha, hb⟩

theorem isUtf8_of_ascii {s : Bytes} (h : ∀ b ∈ s, b < 0x80) : isUtf8 s := by
  simp [isUtf8, decode_ascii h, isChar]

/-- A well-formed text is written as it is. -/
theorem scrub_of_isUtf8 {s : Bytes} (hs : isUtf8 s) : scrub s = s := by
  have hchars : ∀ g ∈ decode s, utf8Bytes g = bytes g := by
    intro g hg
    cases g with
    | char c bs => rfl
    | stray b => simp [isUtf8, List.all_eq_true] at hs; exact absurd (hs _ hg) (by simp [isChar])
  conv_rhs => rw [← join_decode s]
  rw [scrub, List.flatMap_def, List.map_congr_left hchars]

theorem length_flatMap_utf8Bytes (gs : List Glyph) :
    (gs.flatMap utf8Bytes).length = (gs.flatMap bytes).length + 2 * gs.countP (!isChar ·) := by
  induction gs with
  | nil => rfl
  | cons g gs ih =>
    cases g with
    | char c bs => simp [utf8Bytes, bytes, isChar, ih]; omega
    | stray b =>
      have h3 : (encode replacement).length = 3 := by decide
      simp [utf8Bytes, bytes, isChar, ih, h3]; omega

/-- A text with a stray byte is not written as it is: each stray byte grows to three. -/
theorem scrub_ne_of_not_isUtf8 {s : Bytes} (hs : isUtf8 s = false) : scrub s ≠ s := by
  have hlen := length_flatMap_utf8Bytes (decode s)
  have hcount : 0 < (decode s).countP (!isChar ·) := by
    simp only [isUtf8, List.all_eq_false] at hs
    obtain ⟨g, hg, hc⟩ := hs
    exact List.countP_pos_iff.2 ⟨g, hg, by simpa using hc⟩
  intro h
  rw [← scrub, h] at hlen
  have hs' : ((decode s).flatMap bytes).length = s.length := by
    rw [List.flatMap_def, join_decode]
  omega

/-- Each byte JSON writes for a text is a byte of the text or of U+FFFD. -/
theorem mem_scrub {s : Bytes} {x : UInt8} (hx : x ∈ scrub s) :
    x ∈ s ∨ x ∈ encode replacement := by
  obtain ⟨g, hg, hx⟩ := List.mem_flatMap.1 hx
  cases g with
  | char c bs =>
    left
    rw [← join_decode s]
    exact List.mem_flatten.2 ⟨bytes (char c bs), List.mem_map_of_mem hg, hx⟩
  | stray b => exact .inr hx

theorem sep_not_mem_scrub {s : Bytes} (hs : Path.sep ∉ s) : Path.sep ∉ scrub s := by
  intro h
  rcases mem_scrub h with h | h
  · exact hs h
  · revert h
    decide

theorem isUtf8_of_scrub_eq {s : Bytes} (h : scrub s = s) : isUtf8 s := by
  cases hs : isUtf8 s
  · exact absurd h (scrub_ne_of_not_isUtf8 hs)
  · rfl

end Glyph

namespace Path

/-- Joining `.` onto a directory names the directory. -/
theorem join_dot {d : Bytes} (hd : d ≠ []) : join d [dot] = clean d := by
  have hdot : Bytes.splitOn sep [dot] = [[dot]] := Bytes.splitOn_of_not_mem (by decide)
  have hsplit : Bytes.splitOn sep (d ++ sep :: [dot]) = Bytes.splitOn sep d ++ [[dot]] := by
    rw [Bytes.splitOn_append_cons, hdot]
  have habs : isAbs (d ++ sep :: [dot]) = isAbs d := by
    obtain ⟨x, r, rfl⟩ := List.exists_cons_of_ne_nil hd
    rfl
  have hfold : ∀ rooted acc, fold rooted acc [[dot]] = acc := by
    intro rooted acc
    simp [fold]
  simp [join, hd, clean, hsplit, habs, fold_append, hfold]

end Path

namespace Table

variable {α : Type}

theorem get?_set_of_ne (t : Table α) {k x : Bytes} (v : α) (hx : x ≠ k) :
    (t.set k v).get? x = t.get? x := by
  have hkx : (k == x) = false := by simpa using fun h => hx h.symm
  rw [set, ← get?_filter_ne t hx]
  simp [get?, hkx]

end Table

namespace Cache

/-! ## The files of an entry -/

/-- The endings of an entry's files: the vertex data, the fragment data, the metadata. -/
def entryEndings : List Bytes :=
  [Bytes.ofString ".vert.spv", Bytes.ofString ".frag.spv", Bytes.ofString ".json"]

theorem entryEndings_eq : entryEndings =
    [[46, 118, 101, 114, 116, 46, 115, 112, 118], [46, 102, 114, 97, 103, 46, 115, 112, 118],
      [46, 106, 115, 111, 110]] := by
  cbv

theorem entryEndings_suffix_free :
    ∀ t ∈ entryEndings, ∀ t' ∈ entryEndings, t <:+ t' → t = t' := by
  rw [entryEndings_eq]
  decide

theorem vertexEnding_mem : Bytes.ofString ".vert.spv" ∈ entryEndings := by simp [entryEndings]

theorem fragmentEnding_mem : Bytes.ofString ".frag.spv" ∈ entryEndings := by simp [entryEndings]

theorem metaEnding_mem : Bytes.ofString ".json" ∈ entryEndings := by simp [entryEndings]

/-- The bytes of each ending, read off `entryEndings_eq`. -/
theorem entryEnding_bytes :
    Bytes.ofString ".vert.spv" = [46, 118, 101, 114, 116, 46, 115, 112, 118] ∧
      Bytes.ofString ".frag.spv" = [46, 102, 114, 97, 103, 46, 115, 112, 118] ∧
      Bytes.ofString ".json" = [46, 106, 115, 111, 110] := by
  simpa only [entryEndings, List.cons.injEq, and_true] using entryEndings_eq

theorem vertexEnding_ne_fragmentEnding :
    Bytes.ofString ".vert.spv" ≠ Bytes.ofString ".frag.spv" := by
  rw [entryEnding_bytes.1, entryEnding_bytes.2.1]
  decide

theorem vertexEnding_ne_metaEnding : Bytes.ofString ".vert.spv" ≠ Bytes.ofString ".json" := by
  rw [entryEnding_bytes.1, entryEnding_bytes.2.2]
  decide

theorem fragmentEnding_ne_metaEnding : Bytes.ofString ".frag.spv" ≠ Bytes.ofString ".json" := by
  rw [entryEnding_bytes.2.1, entryEnding_bytes.2.2]
  decide

theorem ascii_of_mem_entryEndings {t : Bytes} (ht : t ∈ entryEndings) : ∀ b ∈ t, b < 0x80 := by
  rw [entryEndings_eq] at ht
  simp only [List.mem_cons, List.not_mem_nil, or_false] at ht
  rcases ht with rfl | rfl | rfl <;> simp

theorem plain_entryName {k t : Bytes} (hk : Path.sep ∉ k) (ht : t ∈ entryEndings) :
    Path.Plain (k ++ t) := by
  rw [entryEndings_eq] at ht
  simp only [List.mem_cons, List.not_mem_nil, or_false] at ht
  -- each ending is longer than `..` and holds no separator
  have hlen : 2 < (k ++ t).length := by
    rcases ht with rfl | rfl | rfl <;> simp
  have hsep : Path.sep ∉ t := by
    rcases ht with rfl | rfl | rfl <;> decide
  refine ⟨?_, ?_, ?_, ?_⟩
  · intro h; simp [h] at hlen
  · simp [hk, hsep]
  · intro h; simp [h] at hlen
  · intro h; simp [h] at hlen

theorem dir_entryName {k t : Bytes} (hk : Path.sep ∉ k) (ht : t ∈ entryEndings) :
    Path.dir (k ++ t) = [Path.dot] := by
  have hsep := (plain_entryName hk ht).sep_not_mem
  have hdrop : (k ++ t).reverse.dropWhile (· != Path.sep) = [] := by
    rw [List.dropWhile_eq_nil_iff]
    intro x hx
    simp only [bne_iff_ne, ne_eq]
    rintro rfl
    exact hsep (List.mem_reverse.1 hx)
  rw [Path.dir, hdrop]
  rfl

theorem dir_vertexFile {k : Bytes} (hk : Path.sep ∉ k) : Path.dir (vertexFile k) = [Path.dot] :=
  dir_entryName hk vertexEnding_mem

theorem dir_fragmentFile {k : Bytes} (hk : Path.sep ∉ k) :
    Path.dir (fragmentFile k) = [Path.dot] :=
  dir_entryName hk fragmentEnding_mem

theorem dir_metaFile {k : Bytes} (hk : Path.sep ∉ k) : Path.dir (metaFile k) = [Path.dot] :=
  dir_entryName hk metaEnding_mem

/-- **Entries have files of their own**: joined onto one directory, two entry file names of keys
with no separator name one file only when keys and endings agree. -/
theorem join_entryName_inj (dir : Bytes) {k k' t t' : Bytes} (hk : Path.sep ∉ k)
    (hk' : Path.sep ∉ k') (ht : t ∈ entryEndings) (ht' : t' ∈ entryEndings)
    (h : Path.join dir (k ++ t) = Path.join dir (k' ++ t')) : k = k' ∧ t = t' := by
  have he := plain_entryName hk ht
  have he' := plain_entryName hk' ht'
  -- the last element of a joined plain name is the name
  have hbase : ∀ {e : Bytes}, Path.Plain e → Path.base (Path.join dir e) = e := by
    intro e hp
    obtain ⟨pre, hpre, hdir⟩ := Path.join_plain dir hp
    rw [hpre]
    exact Path.base_append hdir hp.ne_nil hp.sep_not_mem
  have hname : k ++ t = k' ++ t' := by rw [← hbase he, h, hbase he']
  exact Bytes.append_inj_of_suffix_free entryEndings_suffix_free ht ht' hname

/-- Two entry files of keys with no separator are different files unless keys and endings
agree. -/
theorem join_entryName_ne (dir : Bytes) {k k' t t' : Bytes} (hk : Path.sep ∉ k)
    (hk' : Path.sep ∉ k') (ht : t ∈ entryEndings) (ht' : t' ∈ entryEndings) (h : k ≠ k' ∨ t ≠ t') :
    Path.join dir (k ++ t) ≠ Path.join dir (k' ++ t') := fun heq => by
  obtain ⟨rfl, rfl⟩ := join_entryName_inj dir hk hk' ht ht' heq
  simp at h

/-- The metadata of a well-formed key reads back as the key and its own data files. -/
theorem entryMeta_of_isUtf8 {k : Bytes} (hk : Glyph.isUtf8 k) :
    entryMeta k = .names k (vertexFile k) (fragmentFile k) := by
  have hend : ∀ t ∈ entryEndings, Glyph.scrub (k ++ t) = k ++ t := fun t ht =>
    Glyph.scrub_of_isUtf8 (Glyph.isUtf8_append hk
      (Glyph.isUtf8_of_ascii (ascii_of_mem_entryEndings ht)))
  rw [entryMeta, Glyph.scrub_of_isUtf8 hk, vertexFile, fragmentFile,
    hend _ vertexEnding_mem, hend _ fragmentEnding_mem]

/-! ## A Put, write by write -/

namespace Store

theorem dirExists_join_dot (s : Store) : s.dirExists (Path.join s.dir [Path.dot]) = true := by
  by_cases hd : s.dir = []
  · have hclean : Path.clean [Path.dot] = [Path.dot] := by decide
    simp [dirExists, Path.join, hd, hclean]
  · rw [Path.join_dot hd]
    simp [dirExists]

variable {s : Store} {k : Bytes}

theorem put_blocked (p : Program) (hb : s.blocked = true) :
    s.put k p = (.error (.blocked s.dir), s) := by
  simp [put, hb]

theorem put_vertex_refused (hk : Path.sep ∉ k) (p : Program) (hb : s.blocked = false) {why : Bytes}
    (hv : s.refused.get? (Path.join s.dir (vertexFile k)) = some why) :
    s.put k p = (.error (.refused (Path.join s.dir (vertexFile k)) why), s) := by
  simp [put, hb, putWrites, writeAll, write, Write.name, dir_vertexFile hk, dirExists_join_dot, hv]

theorem put_fragment_refused (hk : Path.sep ∉ k) (p : Program) (hb : s.blocked = false)
    (hv : s.refused.get? (Path.join s.dir (vertexFile k)) = none) {why : Bytes}
    (hf : s.refused.get? (Path.join s.dir (fragmentFile k)) = some why) :
    s.put k p = (.error (.refused (Path.join s.dir (fragmentFile k)) why),
      { s with data := s.data.set (Path.join s.dir (vertexFile k)) p.vertex }) := by
  simp [put, hb, putWrites, writeAll, write, Write.name, dir_vertexFile hk, dir_fragmentFile hk,
    dirExists_join_dot, hv, hf]

theorem put_meta_refused (hk : Path.sep ∉ k) (p : Program) (hb : s.blocked = false)
    (hv : s.refused.get? (Path.join s.dir (vertexFile k)) = none)
    (hf : s.refused.get? (Path.join s.dir (fragmentFile k)) = none) {why : Bytes}
    (hm : s.refused.get? (Path.join s.dir (metaFile k)) = some why) :
    s.put k p = (.error (.refused (Path.join s.dir (metaFile k)) why),
      { s with data := ((s.data.set (Path.join s.dir (vertexFile k)) p.vertex).set
          (Path.join s.dir (fragmentFile k)) p.fragment) }) := by
  simp [put, hb, putWrites, writeAll, write, Write.name, dir_vertexFile hk, dir_fragmentFile hk,
    dir_metaFile hk, dirExists_join_dot, hv, hf, hm]

theorem put_stored (hk : Path.sep ∉ k) (p : Program) (hb : s.blocked = false)
    (hv : s.refused.get? (Path.join s.dir (vertexFile k)) = none)
    (hf : s.refused.get? (Path.join s.dir (fragmentFile k)) = none)
    (hm : s.refused.get? (Path.join s.dir (metaFile k)) = none) :
    s.put k p = (.ok (), { s with
      data := (s.data.set (Path.join s.dir (vertexFile k)) p.vertex).set
        (Path.join s.dir (fragmentFile k)) p.fragment
      metas := s.metas.set (Path.join s.dir (metaFile k)) (entryMeta k) }) := by
  simp [put, hb, putWrites, writeAll, write, Write.name, dir_vertexFile hk, dir_fragmentFile hk,
    dir_metaFile hk, dirExists_join_dot, hv, hf, hm]

/-! ## What a Put and a Get keep -/

/-- A write changes the files only: the directory and the counters stay. -/
theorem write_keeps {w : Write} {s' : Store} (h : s.write w = .ok s') :
    s'.dir = s.dir ∧ s'.hits = s.hits ∧ s'.misses = s.misses := by
  simp only [write] at h
  split_ifs at h
  cases hr : s.refused.get? (Path.join s.dir w.name) <;> simp only [hr, reduceCtorEq] at h
  cases w <;> (simp only [Except.ok.injEq] at h; rw [← h]; exact ⟨rfl, rfl, rfl⟩)

theorem writeAll_keeps (s : Store) (ws : List Write) :
    (s.writeAll ws).2.dir = s.dir ∧ (s.writeAll ws).2.hits = s.hits ∧
      (s.writeAll ws).2.misses = s.misses := by
  induction ws generalizing s with
  | nil => exact ⟨rfl, rfl, rfl⟩
  | cons w ws ih =>
    unfold writeAll
    split
    · exact ⟨rfl, rfl, rfl⟩
    · next s' hw =>
      obtain ⟨hd, hh, hm⟩ := write_keeps hw
      obtain ⟨hd', hh', hm'⟩ := ih s'
      exact ⟨hd'.trans hd, hh'.trans hh, hm'.trans hm⟩

theorem put_keeps (s : Store) (k : Bytes) (p : Program) :
    (s.put k p).2.dir = s.dir ∧ (s.put k p).2.hits = s.hits ∧ (s.put k p).2.misses = s.misses := by
  unfold put
  split
  · exact ⟨rfl, rfl, rfl⟩
  · exact writeAll_keeps s _

theorem get_fst (k : Bytes) : (s.get k).1 = s.lookup k := by
  unfold get
  split <;> simp_all

end Store

end Cache

end ShaderVariants
