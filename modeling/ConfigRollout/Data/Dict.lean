/-!
# String-keyed maps in key order

`Dict α` is a finite map from strings, kept as its list of entries in strictly increasing
order of the keys (the order of code points, which is also the byte order of UTF-8). The order
is a field of the map (`Dict.sorted`), discharged by each operation that builds one, so no
map out of order can be built. Every map that the program reads or writes is of this kind:
annotations, labels, the data of ConfigMaps and Secrets, and the objects of the canonical hash
source. Iteration is in key order, so every list derived from a map (owner names, rendered
JSON) comes out sorted.

Main statement: a looked-up key after `insert` (`get?_insert`), by a case split on the key.
-/

set_option autoImplicit false

namespace ConfigRollout

/-- A finite map from strings to `α`, stored as entries in increasing key order. -/
@[ext] structure Dict (α : Type) where
  /-- The entries, in increasing order of their keys. -/
  entries : List (String × α)
  /-- Each key is below every later one, so no key has two entries. -/
  sorted : entries.Pairwise (fun a b => a.1 < b.1)
  deriving DecidableEq, Repr

namespace Dict

variable {α β : Type}

/-- The map without entries. -/
def empty : Dict α := ⟨[], .nil⟩

instance : EmptyCollection (Dict α) := ⟨empty⟩

instance : Inhabited (Dict α) := ⟨empty⟩

/-- Places an entry into a key-ordered list, replacing the entry of the same key. -/
def insertEntry (k : String) (v : α) : List (String × α) → List (String × α)
  | [] => [(k, v)]
  | (k', v') :: rest =>
    if k < k' then (k, v) :: (k', v') :: rest
    else if k = k' then (k, v) :: rest
    else (k', v') :: insertEntry k v rest

/-- Removes the entry of a key from a list of entries. -/
def eraseEntry (k : String) : List (String × α) → List (String × α)
  | [] => []
  | (k', v') :: rest => if k = k' then rest else (k', v') :: eraseEntry k rest

/-- The value of the first entry of a key in a list of entries. -/
def valueIn (l : List (String × α)) (k : String) : Option α :=
  (l.find? (fun e => e.1 == k)).map Prod.snd

/-- The value stored under a key. -/
def get? (d : Dict α) (k : String) : Option α :=
  valueIn d.entries k

/-- Whether a key has an entry. -/
def contains (d : Dict α) (k : String) : Bool :=
  d.entries.any (fun e => e.1 == k)

/-- An entry placed by `insertEntry` is the new one or an old one. -/
theorem mem_insertEntry {k : String} {v : α} {l : List (String × α)} {e : String × α}
    (h : e ∈ insertEntry k v l) : e = (k, v) ∨ e ∈ l := by
  induction l with
  | nil => simpa [insertEntry] using h
  | cons e' rest ih =>
      obtain ⟨k', v'⟩ := e'
      simp only [insertEntry] at h
      split at h
      · simpa using h
      · split at h
        · rcases List.mem_cons.mp h with h | h
          · exact .inl h
          · exact .inr (List.mem_cons_of_mem _ h)
        · rcases List.mem_cons.mp h with h | h
          · exact .inr (h ▸ List.mem_cons_self)
          · rcases ih h with h | h
            · exact .inl h
            · exact .inr (List.mem_cons_of_mem _ h)

/-- Placing an entry in order keeps entries sorted. -/
theorem pairwise_insertEntry (k : String) (v : α) {l : List (String × α)}
    (h : l.Pairwise (fun a b => a.1 < b.1)) : (insertEntry k v l).Pairwise (fun a b => a.1 < b.1) := by
  induction l with
  | nil => simp [insertEntry]
  | cons e rest ih =>
      obtain ⟨k', v'⟩ := e
      rw [List.pairwise_cons] at h
      simp only [insertEntry]
      split
      · -- the new key goes first: it is below `k'`, hence below every later key
        rename_i hlt
        refine List.Pairwise.cons ?_ (List.Pairwise.cons h.1 h.2)
        intro e he
        rcases List.mem_cons.mp he with rfl | he
        · exact hlt
        · exact String.lt_trans hlt (h.1 e he)
      · split
        · -- the new key replaces `k'`
          rename_i heq
          subst heq
          exact List.Pairwise.cons h.1 h.2
        · -- the new key goes further on, past `k'`, which stays below it
          rename_i hlt hne
          have hgt : k' < k := by grind
          refine List.Pairwise.cons ?_ (ih h.2)
          intro e he
          rcases mem_insertEntry he with rfl | he
          · exact hgt
          · exact h.1 e he

/-- Erasing an entry keeps the others, in order. -/
theorem eraseEntry_sublist (k : String) (l : List (String × α)) : (eraseEntry k l).Sublist l := by
  induction l with
  | nil => exact List.Sublist.slnil
  | cons e rest ih =>
      obtain ⟨k', v'⟩ := e
      simp only [eraseEntry]
      split
      · exact List.sublist_cons_self _ _
      · exact ih.cons_cons _

/-- The map with `k` bound to `v`; an earlier value of `k` is replaced. -/
def insert (d : Dict α) (k : String) (v : α) : Dict α :=
  ⟨insertEntry k v d.entries, pairwise_insertEntry k v d.sorted⟩

/-- The map without an entry for `k`. -/
def erase (d : Dict α) (k : String) : Dict α :=
  ⟨eraseEntry k d.entries, d.sorted.sublist (eraseEntry_sublist k d.entries)⟩

/-- The map of a list of bindings, where a later binding of a key wins. -/
def ofList (l : List (String × α)) : Dict α :=
  l.foldl (fun d e => d.insert e.1 e.2) empty

/-- The keys, in increasing order. -/
def keys (d : Dict α) : List String :=
  d.entries.map Prod.fst

/-- The entries, in increasing key order. -/
def toList (d : Dict α) : List (String × α) :=
  d.entries

/-- The number of entries. -/
def size (d : Dict α) : Nat :=
  d.entries.length

/-- Whether the map has no entry. -/
def isEmpty (d : Dict α) : Bool :=
  d.entries.isEmpty

/-- The values under the same keys, each transformed by `f`. -/
def mapValues (f : α → β) (d : Dict α) : Dict β :=
  ⟨d.entries.map (fun e => (e.1, f e.2)), List.pairwise_map.mpr d.sorted⟩

/-- The entries whose key and value pass a test. -/
def filter (p : String → α → Bool) (d : Dict α) : Dict α :=
  ⟨d.entries.filter (fun e => p e.1 e.2), d.sorted.filter _⟩

/-- A lookup finds the first entry of its key. -/
theorem valueIn_cons (k k' : String) (v : α) (rest : List (String × α)) :
    valueIn ((k', v) :: rest) k = if k' = k then some v else valueIn rest k := by
  by_cases h : k' = k <;> simp [valueIn, h]

@[simp] theorem get?_empty (k : String) : (empty : Dict α).get? k = none := rfl

/-- After inserting an entry, its key gives the new value and every other key what it gave. -/
theorem valueIn_insertEntry (k k' : String) (v : α) (l : List (String × α)) :
    valueIn (insertEntry k v l) k' = if k = k' then some v else valueIn l k' := by
  induction l with
  | nil => simp [insertEntry, valueIn_cons]
  | cons e rest ih =>
    obtain ⟨k₁, v₁⟩ := e
    simp only [insertEntry]
    split
    · simp only [valueIn_cons]
    · split
      · subst_vars
        simp only [valueIn_cons]
        by_cases h : k₁ = k' <;> simp [h]
      · rw [valueIn_cons, ih, valueIn_cons]
        by_cases h₁ : k₁ = k' <;> by_cases h₂ : k = k' <;> simp_all

/-- After `insert`, the key gives the new value and every other key is unchanged. -/
@[simp] theorem get?_insert (d : Dict α) (k k' : String) (v : α) :
    (d.insert k v).get? k' = if k = k' then some v else d.get? k' :=
  valueIn_insertEntry k k' v d.entries

end Dict

end ConfigRollout
