import ShaderVariants.Text.Bytes
/-!
# Name tables

A table maps names to values: the flags of a build map flag names to booleans, its values map
value names to texts, and an in-memory source tree maps paths to contents. A table is a list of
entries; a look-up finds the first entry of the name, and `Table.set` puts a new entry in front,
so a later setting hides an earlier one.

A table also stands for a map that a loop walks through (`MapOrder`, `Table.rangeM`). Such a loop
meets the entries in an order the map does not fix, and a map it builds has no order of its own,
so that map is kept in byte order of its names.
-/

namespace ShaderVariants

/-- A finite map from names to values, as a list of entries. -/
abbrev Table (α : Type) := List (Bytes × α)

namespace Table

variable {α : Type}

/-- The value of the first entry named `k`. -/
def get? (t : Table α) (k : Bytes) : Option α :=
  (t.find? fun e => e.1 == k).map Prod.snd

/-- Whether some entry is named `k`. -/
def mem (t : Table α) (k : Bytes) : Bool := (t.get? k).isSome

/-- The table with `k` set to `v`, hiding any earlier entry of `k`. -/
def set (t : Table α) (k : Bytes) (v : α) : Table α := (k, v) :: t.filter fun e => e.1 != k

/-- The table without any entry of `k`. -/
def erase (t : Table α) (k : Bytes) : Table α := t.filter fun e => e.1 != k

/-- `t` with every entry of `u` set on top of it, later entries of `u` winning. -/
def setAll (t u : Table α) : Table α := u.foldl (fun acc e => acc.set e.1 e.2) t

/-- The names of the table, each once, in byte order. -/
def names (t : Table α) : List Bytes := Bytes.sortDedup (t.map Prod.fst)

/-- The first entry of each name not in `seen`, in the order they were put in. -/
def firstsFrom (seen : List Bytes) : Table α → Table α
  | [] => []
  | e :: r => if seen.contains e.1 then firstsFrom seen r else e :: firstsFrom (e.1 :: seen) r

/-- The entries of a table as a map holds them: the first of each name, in the order they were
put in. -/
def firsts (t : Table α) : Table α := firstsFrom [] t

/-- A loop over a map's entries in the order `entries` gives, converting each and stopping at
the first failure. The map it builds holds the converted entries in byte order of their names. -/
def rangeM {ε β : Type} (entries : List (Bytes × α)) (f : Bytes × α → Except ε (Bytes × β)) :
    Except ε (Table β) :=
  (entries.mapM f).map fun out => out.mergeSort fun a b => !Bytes.lt b.1 a.1

@[simp] theorem get?_set_self (t : Table α) (k : Bytes) (v : α) : (t.set k v).get? k = some v := by
  simp [set, get?]

end Table

/-- The order in which loops over maps meet the entries: for the map found at each place, an
arrangement of its entries. Go leaves the order of a loop over a map open, and it changes from
run to run. -/
abbrev MapOrder (α : Type) := Bytes → Table α → List (Bytes × α)

/-- The entries of each map in the order they were put in. -/
def MapOrder.stored {α : Type} : MapOrder α := fun _ t => t.firsts

/-- The flags of a build: which conditions hold. -/
abbrev Flags := Table Bool

/-- The values of a build: what each `#{name}` reference is replaced by. -/
abbrev Values := Table Bytes

end ShaderVariants
