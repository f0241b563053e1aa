import Mathlib.Data.String.Basic
import Mathlib.Data.List.Nodup
import ConfigRollout.References

/-!
# Maps kept in key order

A `Dict` carries its entries in strictly increasing key order (`Dict.sorted`), so no lemma here
assumes it. Its keys are distinct (`Dict.nodup_keys`), erasing a key leaves no entry of it and
every other entry as it was (`Dict.get?_erase_self`, `Dict.get?_erase_of_ne`), and a map is
determined by its lookups (`Dict.ext_of_get?`). Each lookup lemma is stated once for a list of
entries (`Dict.valueIn`) and read off for maps. A list of entries read from elsewhere becomes a
map only when it is in that order (`Dict.ofSorted?`).

The objects a workload uses are such maps, one per kind. Main statement: any references name
each object, by kind and name, once (`References.nodup_uses`), which is what lets the
reconciler fetch and write each child independently of the others.
-/

set_option autoImplicit false

namespace ConfigRollout

namespace Dict

variable {α : Type}

/-- Placing a second value under a key replaces the first. -/
theorem insertEntry_insertEntry (k : String) (v v' : α) (l : List (String × α)) :
    insertEntry k v' (insertEntry k v l) = insertEntry k v' l := by
  induction l with
  | nil => simp [insertEntry]
  | cons e rest ih =>
      obtain ⟨k', w'⟩ := e
      by_cases hlt : k < k'
      · simp [insertEntry, hlt]
      · by_cases heq : k = k'
        · subst heq
          simp [insertEntry]
        · simp [insertEntry, hlt, heq, ih]

/-- Inserting a second value under a key replaces the first. -/
@[simp] theorem insert_insert (d : Dict α) (k : String) (v v' : α) :
    (d.insert k v).insert k v' = d.insert k v' :=
  Dict.ext (insertEntry_insertEntry k v v' d.entries)

/-- No entry of a key below every key of a list. -/
theorem valueIn_eq_none_of_lt {k : String} {l : List (String × α)} (h : ∀ e ∈ l, k < e.1) :
    valueIn l k = none := by
  simp only [valueIn, Option.map_eq_none_iff, List.find?_eq_none, beq_iff_eq]
  intro e he hek
  exact lt_irrefl k (hek ▸ h e he)

/-- In a list in key order a key has one entry, so erasing it leaves none. -/
theorem valueIn_eraseEntry_self (k : String) {l : List (String × α)} (h : l.Pairwise (fun a b => a.1 < b.1)) :
    valueIn (eraseEntry k l) k = none := by
  induction l with
  | nil => rfl
  | cons e rest ih =>
      obtain ⟨k', v'⟩ := e
      rw [List.pairwise_cons] at h
      simp only [eraseEntry]
      split
      · -- the erased entry was the only one: the later keys are above it
        rename_i heq
        subst heq
        exact valueIn_eq_none_of_lt h.1
      · rename_i hne
        rw [valueIn_cons, if_neg (Ne.symm hne), ih h.2]

/-- A key has one entry, so erasing it leaves none. -/
theorem get?_erase_self (d : Dict α) (k : String) : (d.erase k).get? k = none :=
  valueIn_eraseEntry_self k d.sorted

/-- Erasing a key leaves the value of every other key. -/
theorem valueIn_eraseEntry_of_ne {k k' : String} (h : k ≠ k') (l : List (String × α)) :
    valueIn (eraseEntry k l) k' = valueIn l k' := by
  induction l with
  | nil => rfl
  | cons e rest ih =>
      obtain ⟨k₁, v₁⟩ := e
      simp only [eraseEntry]
      split
      · -- the erased entry comes first, and `k'` is not its key
        rename_i heq
        subst heq
        rw [valueIn_cons _ k, if_neg h]
      · rw [valueIn_cons, valueIn_cons, ih]

/-- Erasing a key leaves the value of every other key. -/
theorem get?_erase_of_ne (d : Dict α) {k k' : String} (h : k ≠ k') : (d.erase k).get? k' = d.get? k' :=
  valueIn_eraseEntry_of_ne h d.entries

/-- Keeping the entries whose key passes a test keeps the value of such a key and drops the
others. -/
theorem valueIn_filter_key (p : String → Bool) (l : List (String × α)) (k : String) :
    valueIn (l.filter (fun e => p e.1)) k = if p k then valueIn l k else none := by
  induction l with
  | nil => simp [valueIn]
  | cons e rest ih =>
      obtain ⟨k', v⟩ := e
      rw [List.filter_cons]
      by_cases hk : k' = k
      · subst hk
        by_cases hp : p k' <;> simp [hp, valueIn_cons, ih]
      · split <;> simp [valueIn_cons, hk, ih]

/-- Keeping the entries whose key passes a test keeps the value of such a key and drops the
others. -/
theorem get?_filter_key (d : Dict α) (p : String → Bool) (k : String) :
    (d.filter (fun key _ => p key)).get? k = if p k then d.get? k else none :=
  valueIn_filter_key p d.entries k

/-- The keys of a map are distinct. -/
theorem nodup_keys (d : Dict α) : d.keys.Nodup := by
  unfold keys
  exact (List.pairwise_map.mpr d.sorted).imp (fun hlt => ne_of_lt hlt)

/-- A key below the first key of a sorted list has no entry. -/
theorem valueIn_eq_none_of_lt_head {k k' : String} {v : α} {rest : List (String × α)}
    (hrest : ∀ e ∈ rest, k' < e.1) (hlt : k < k') : valueIn ((k', v) :: rest) k = none :=
  valueIn_eq_none_of_lt (fun e he => by
    rcases List.mem_cons.mp he with rfl | he
    · exact hlt
    · exact lt_trans hlt (hrest e he))

/-- Two lists of entries in key order with the same lookups are equal. -/
theorem eq_of_valueIn {l l' : List (String × α)} (h : l.Pairwise (fun a b => a.1 < b.1))
    (h' : l'.Pairwise (fun a b => a.1 < b.1)) (hget : ∀ k, valueIn l k = valueIn l' k) : l = l' := by
  induction l generalizing l' with
  | nil =>
      cases l' with
      | nil => rfl
      | cons e rest =>
          have := hget e.1
          simp [valueIn] at this
  | cons e rest ih =>
      obtain ⟨k, v⟩ := e
      cases l' with
      | nil =>
          have := hget k
          simp [valueIn] at this
      | cons e' rest' =>
          obtain ⟨k', v'⟩ := e'
          rw [List.pairwise_cons] at h h'
          -- the first keys are the least of each list, so they agree
          have hk : k = k' := by
            rcases lt_trichotomy k k' with hlt | heq | hgt
            · have := hget k
              rw [valueIn_eq_none_of_lt_head h'.1 hlt, valueIn_cons, if_pos rfl] at this
              cases this
            · exact heq
            · have := hget k'
              rw [valueIn_eq_none_of_lt_head h.1 hgt, valueIn_cons k' k', if_pos rfl] at this
              cases this
          subst hk
          have hv : v = v' := by
            have := hget k
            rwa [valueIn_cons, valueIn_cons, if_pos rfl, if_pos rfl, Option.some.injEq] at this
          subst hv
          -- the rests agree on every key: on `k` neither has an entry
          have hrest : ∀ j, valueIn rest j = valueIn rest' j := by
            intro j
            by_cases hj : k = j
            · subst hj
              rw [valueIn_eq_none_of_lt h.1, valueIn_eq_none_of_lt h'.1]
            · have := hget j
              rwa [valueIn_cons, valueIn_cons, if_neg hj, if_neg hj] at this
          rw [ih h.2 h'.2 hrest]

/-- A map is determined by its lookups. -/
theorem ext_of_get? {d d' : Dict α} (hget : ∀ k, d.get? k = d'.get? k) : d = d' :=
  Dict.ext (eq_of_valueIn d.sorted d'.sorted hget)

/-- The map of a list of entries, when they are in strictly increasing key order. -/
def ofSorted? (l : List (String × α)) : Option (Dict α) :=
  if h : l.Pairwise (fun a b => a.1 < b.1) then some ⟨l, h⟩ else none

/-- The entries of a map, read back as a map, give the map. -/
@[simp] theorem ofSorted?_entries (d : Dict α) : ofSorted? d.entries = some d := by
  rw [ofSorted?, dif_pos d.sorted]

end Dict

namespace References

/-- Any references name each object, by kind and name, once: each kind's map has distinct
keys, and the two kinds are told apart. -/
theorem nodup_uses (r : References) : (r.toList.map (fun u => (u.1, u.2.1))).Nodup := by
  have hc := r.configMaps.nodup_keys
  have hs := r.secrets.nodup_keys
  unfold Dict.keys at hc hs
  simp only [toList, Dict.toList, List.map_append, List.map_map]
  rw [List.nodup_append]
  refine ⟨?_, ?_, ?_⟩
  · have hinj : Function.Injective (fun n : String => (ConfigKind.configMap, n)) :=
      fun _ _ hab => by simpa using hab
    simpa [Function.comp_def] using List.Nodup.map hinj hc
  · have hinj : Function.Injective (fun n : String => (ConfigKind.secret, n)) :=
      fun _ _ hab => by simpa using hab
    simpa [Function.comp_def] using List.Nodup.map hinj hs
  · intro a ha b hb hab
    simp only [List.mem_map, Function.comp_apply] at ha hb
    obtain ⟨_, _, rfl⟩ := ha
    obtain ⟨_, _, rfl⟩ := hb
    simp at hab

end References

end ConfigRollout
