import ShaderVariants.Cache.Sha256
import ShaderVariants.Shader
import ShaderVariants.Text.Utf8
/-!
# The program cache

Compiled programs are kept in a cache directory, keyed by the SHA-256 of the compiler's identity
and both expanded stages, each written as its byte length, a colon and its bytes, so that no
two different triples feed the hash the same bytes. The cache counts its hits and misses.

An entry of key `k` is three files, each named by joining the directory and `k` with a suffix:
`k.vert.spv` and `k.frag.spv` hold the stages, and `k.json` the metadata, which names the key and
the two data files. A Put creates the directory, then writes the vertex file, the fragment file
and the metadata, in that order, each whole (into a fresh temporary file, renamed over the old
one), and stops at the first write that fails. The metadata is JSON, which holds UTF-8 only: a
byte of the key that is not part of a UTF-8 character reads back as U+FFFD (`Glyph.scrub`).

A Get reads the metadata, checks that the key it reads back is the key asked for, and reads the
two data files the metadata names; anything missing or different is a miss. The three reads
are separate steps (`Reader`), so that the files can be changed between them.

`Store` models the files: data and metadata files by their joined paths, whether a file stands
where the cache directory should be, and the writes the file system refuses (a full disk, a
quota), with its message. Paths are joined as `filepath.Join` joins them, so two keys can name
the same files.
-/

namespace ShaderVariants

namespace Cache

/-- The text the cache key hashes: each part as its byte length, `:` and its bytes. -/
def keyInput (compiler vertex fragment : Bytes) : Bytes :=
  [compiler, vertex, fragment].flatMap fun p => Bytes.ofNat p.length ++ [58] ++ p

/-- The cache key of a compiler identity and two expanded stages, as 64 hex digits. -/
def key (compiler vertex fragment : Bytes) : Bytes := Sha256.hex (keyInput compiler vertex fragment)

/-- The name of a key's vertex data file. -/
def vertexFile (k : Bytes) : Bytes := k ++ Bytes.ofString ".vert.spv"

/-- The name of a key's fragment data file. -/
def fragmentFile (k : Bytes) : Bytes := k ++ Bytes.ofString ".frag.spv"

/-- The name of a key's metadata file. -/
def metaFile (k : Bytes) : Bytes := k ++ Bytes.ofString ".json"

/-- What a metadata file reads back as. -/
inductive Meta where
  /-- Metadata naming a key and the entry's data files, relative to the cache directory. -/
  | names (key vertexFile fragmentFile : Bytes)
  /-- Not readable as metadata. -/
  | garbled
  /-- Well-formed, naming a key that no look-up of its file asks for. -/
  | foreign
  deriving DecidableEq, Repr

/-- The metadata a Put of `k` writes, as it reads back: the key and the names of its data files,
each through JSON. -/
def entryMeta (k : Bytes) : Meta :=
  .names (Glyph.scrub k) (Glyph.scrub (vertexFile k)) (Glyph.scrub (fragmentFile k))

/-- Why a program could not be stored. -/
inductive StoreFault where
  /-- The cache directory could not be created, because a file stands in its place. -/
  | blocked (dir : Bytes)
  /-- The directory a file goes in does not exist. -/
  | noDirectory (path : Bytes)
  /-- The file system refused to write the file, with its message. -/
  | refused (path why : Bytes)
  deriving DecidableEq, Repr

/-- The message of a store fault. -/
def StoreFault.message : StoreFault → Bytes
  | blocked d => Bytes.ofString "creating cache directory: mkdir " ++ d ++ Bytes.ofString ": not a directory"
  | noDirectory p => Bytes.ofString "open " ++ p ++ Bytes.ofString ".*.tmp: no such file or directory"
  | refused _ why => why

/-- One write of a Put: a file of the cache directory, named relative to it, replaced whole. -/
inductive Write where
  | data (name bytes : Bytes)
  | metadata (name : Bytes) (m : Meta)
  deriving DecidableEq, Repr

/-- The name of the file a write replaces. -/
def Write.name : Write → Bytes
  | data n _ => n
  | metadata n _ => n

/-- The writes of a Put of `p` under `k`, in order: the data files, then the metadata. -/
def putWrites (k : Bytes) (p : Program) : List Write :=
  [.data (vertexFile k) p.vertex, .data (fragmentFile k) p.fragment,
   .metadata (metaFile k) (entryMeta k)]

/-- A cache directory, its files and the cache's counters. -/
structure Store where
  dir : Bytes
  /-- A regular file stands where the directory should be. -/
  blocked : Bool := false
  /-- The data files, by path. -/
  data : Table Bytes := []
  /-- The metadata files, by path. -/
  metas : Table Meta := []
  /-- The writes the file system refuses, by path, with its message. -/
  refused : Table Bytes := []
  hits : Nat := 0
  misses : Nat := 0
  deriving DecidableEq, Repr

/-- Where a look-up stands between its reads. -/
inductive Reader where
  /-- About to read the metadata of a key. -/
  | start (k : Bytes)
  /-- About to read the vertex file, having read the names of both data files. -/
  | vertex (vertexFile fragmentFile : Bytes)
  /-- About to read the fragment file, holding the vertex bytes. -/
  | fragment (fragmentFile vertex : Bytes)
  /-- Finished, with the program found or a miss. -/
  | done (found : Option Program)
  deriving DecidableEq, Repr

namespace Store

/-- Whether the directory `d` exists: the cache directory or one that holds it. -/
def dirExists (s : Store) (d : Bytes) : Bool :=
  let c := Path.clean s.dir
  d == c || d == [Path.dot] || d == [Path.sep] || (d ++ [Path.sep]).isPrefixOf c

/-- The store with one file replaced, or why it cannot be written: the directory the file goes
in does not exist, or the file system refuses the file. -/
def write (s : Store) (w : Write) : Except StoreFault Store :=
  let path := Path.join s.dir w.name
  if !s.dirExists (Path.join s.dir (Path.dir w.name)) then .error (.noDirectory path)
  else match s.refused.get? path with
    | some why => .error (.refused path why)
    | none =>
      match w with
      | .data _ b => .ok { s with data := s.data.set path b }
      | .metadata _ m => .ok { s with metas := s.metas.set path m }

/-- Writes in order, stopping at the first that fails: the store after them, with that
failure. -/
def writeAll (s : Store) : List Write → Except StoreFault Unit × Store
  | [] => (.ok (), s)
  | w :: ws =>
    match s.write w with
    | .error e => (.error e, s)
    | .ok s' => s'.writeAll ws

/-- Stores a program under a key: creates the directory, then writes the data files and the
metadata. A failure leaves the writes made before it. -/
def put (s : Store) (k : Bytes) (p : Program) : Except StoreFault Unit × Store :=
  if s.blocked then (.error (.blocked s.dir), s)
  else s.writeAll (putWrites k p)

/-- One read of a look-up, against the files as they are now. -/
def read (s : Store) : Reader → Reader
  | .start k =>
    match s.metas.get? (Path.join s.dir (metaFile k)) with
    | some (.names key vf ff) => if key == k then .vertex vf ff else .done none
    | _ => .done none
  | .vertex vf ff =>
    match s.data.get? (Path.join s.dir vf) with
    | some v => .fragment ff v
    | none => .done none
  | .fragment ff v =>
    match s.data.get? (Path.join s.dir ff) with
    | some f => .done (some { vertex := v, fragment := f })
    | none => .done none
  | .done r => .done r

/-- The program stored under a key: the metadata, then the two data files, read in turn. -/
def lookup (s : Store) (k : Bytes) : Option Program :=
  match s.read (s.read (s.read (.start k))) with
  | .done r => r
  | _ => none

/-- Looks a key up, counting the hit or the miss. -/
def get (s : Store) (k : Bytes) : Option Program × Store :=
  match s.lookup k with
  | some p => (some p, { s with hits := s.hits + 1 })
  | none => (none, { s with misses := s.misses + 1 })

/-- The hits and the misses so far. -/
def stats (s : Store) : Nat × Nat := (s.hits, s.misses)

/-- Damage done to an entry's files from outside. -/
inductive Damage where
  /-- The metadata overwritten with text that is no metadata. -/
  | garbleMeta
  /-- The metadata overwritten with metadata naming another key. -/
  | foreignMeta
  /-- The vertex file deleted. -/
  | dropVertex
  /-- The fragment file deleted. -/
  | dropFragment
  deriving DecidableEq, Repr

/-- The store with an entry's files damaged. -/
def damage (s : Store) (k : Bytes) : Damage → Store
  | .garbleMeta => { s with metas := s.metas.set (Path.join s.dir (metaFile k)) .garbled }
  | .foreignMeta => { s with metas := s.metas.set (Path.join s.dir (metaFile k)) .foreign }
  | .dropVertex => { s with data := s.data.erase (Path.join s.dir (vertexFile k)) }
  | .dropFragment => { s with data := s.data.erase (Path.join s.dir (fragmentFile k)) }

/-- The store with a regular file standing where the cache directory was: the files in the
directory are gone, and it cannot be created again. -/
def block (s : Store) : Store :=
  let inside (p : Bytes) : Bool := (Path.clean s.dir ++ [Path.sep]).isPrefixOf p
  { s with blocked := true, data := s.data.filter (!inside ·.1),
           metas := s.metas.filter (!inside ·.1) }

end Store

/-- A cached compile: a stored program for the same compiler and stages is reused; otherwise the
inner compiler runs, an absent program counts as an empty one, and the result is stored (a
failure to store is ignored, and leaves the writes made before it). Failures are never stored. -/
def compile (s : Store) (id : Bytes) (inner : Compiler) (vertex fragment : Bytes) :
    Except CompilerFault (Option Program) × Store :=
  let k := key id vertex fragment
  match s.get k with
  | (some p, s') => (.ok (some p), s')
  | (none, s') =>
    match inner vertex fragment with
    | .error e => (.error e, s')
    | .ok p =>
      let p := p.getD {}
      (.ok (some p), (s'.put k p).2)

end Cache

end ShaderVariants
