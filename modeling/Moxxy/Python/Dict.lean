import Mathlib.Data.List.Nodup

/-!
Python's dictionaries as CPython 3.11 lays them out: the entry array with the holes `pop` leaves,
the rebuild an insertion makes when the array is full, and the iterator that walks the array.
-/

namespace Moxxy

/--
A Python dictionary: its entry array in insertion order, with `none` where an entry was popped,
and how many more keys fit before an insertion rebuilds the array (`dk_usable`).
-/
structure PyDict (κ ν : Type) where
  slots : List (Option (κ × ν))
  usable : Nat
  /-- Assignment to a present key overwrites it, so a key is never stored twice. -/
  nodup : ((slots.filterMap id).map Prod.fst).Nodup
  deriving DecidableEq

namespace PyDict

variable {κ ν : Type}

/-- The entries, oldest first, as iteration over `d.items()` yields them when nothing changes. -/
def entries (d : PyDict κ ν) : List (κ × ν) := d.slots.filterMap id

/-- `{}`. -/
def empty : PyDict κ ν := ⟨[], 0, List.nodup_nil⟩

/-- `d.keys()`, in insertion order. -/
def keys (d : PyDict κ ν) : List κ := d.entries.map Prod.fst

/-- `len(d)`. -/
def len (d : PyDict κ ν) : Nat := d.entries.length

@[simp] theorem entries_empty : (empty : PyDict κ ν).entries = [] := rfl

@[simp] theorem len_empty : (empty : PyDict κ ν).len = 0 := rfl

/-- No key is listed twice. -/
theorem keys_nodup (d : PyDict κ ν) : d.keys.Nodup := d.nodup

/-- The smallest power of two that is at least `n`. -/
def powerOfTwoAtLeast (n : Nat) : Nat := go n 1
where
  /-- Doubling `p` until it reaches `n`, at most `fuel` times. -/
  go : Nat → Nat → Nat
    | 0, p => p
    | fuel + 1, p => if n ≤ p then p else go fuel (2 * p)

/--
The size of the array a rebuild makes for `used` entries: `1 << calculate_log2_keysize(3 * used)`,
the smallest power of two at least `(3 * used) | 8`.
-/
def rebuiltSize (used : Nat) : Nat :=
  let wanted := 3 * used
  powerOfTwoAtLeast (if wanted / 8 % 2 = 1 then wanted else wanted + 8)

/--
`dictresize`: the entries copied into a fresh array without holes, which holds two thirds of its
size (`USABLE_FRACTION`).
-/
def rebuilt (d : PyDict κ ν) : PyDict κ ν :=
  ⟨d.entries.map some, 2 * rebuiltSize d.len / 3 - d.len, by
    simpa [entries, List.filterMap_map] using d.nodup⟩

@[simp] theorem entries_rebuilt (d : PyDict κ ν) : d.rebuilt.entries = d.entries := by
  simp [rebuilt, entries, List.filterMap_map]

/-- Appending a new key to an array whose keys are distinct keeps them distinct. -/
private theorem nodup_append_new {slots : List (Option (κ × ν))} {k : κ}
    (fresh : k ∉ (slots.filterMap id).map Prod.fst)
    (nodup : ((slots.filterMap id).map Prod.fst).Nodup)
    (v : ν) : (((slots ++ [some (k, v)]).filterMap id).map Prod.fst).Nodup := by
  simpa [List.filterMap_append, List.nodup_append, fresh] using nodup

/-- The array an insertion of a new key writes into: rebuilt first when no slot is usable. -/
def withRoom (d : PyDict κ ν) : PyDict κ ν := if d.usable = 0 then d.rebuilt else d

@[simp] theorem entries_withRoom (d : PyDict κ ν) : d.withRoom.entries = d.entries := by
  unfold withRoom
  split <;> simp

variable [DecidableEq κ]

/-- `k in d`. -/
def contains (d : PyDict κ ν) (k : κ) : Bool := d.keys.contains k

/-- `d[k]`, with `none` where Python raises KeyError. -/
def get? (d : PyDict κ ν) (k : κ) : Option ν := d.entries.lookup k

/-- The slot of an entry, with the value of `k` replaced. -/
def overwrite (k : κ) (v : ν) (slot : Option (κ × ν)) : Option (κ × ν) :=
  slot.map fun e => if e.1 = k then (k, v) else e

/-- Overwriting slot by slot rewrites the entries in place; a hole stays a hole. -/
private theorem entries_overwrite (slots : List (Option (κ × ν))) (k : κ) (v : ν) :
    (slots.map (overwrite k v)).filterMap id =
      (slots.filterMap id).map fun e => if e.1 = k then (k, v) else e := by
  simp only [List.filterMap_map, List.map_filterMap]
  rfl

/-- Overwriting the value of a present key keeps every key where it was. -/
private theorem keys_overwrite (slots : List (Option (κ × ν))) (k : κ) (v : ν) :
    ((slots.map (overwrite k v)).filterMap id).map Prod.fst =
      (slots.filterMap id).map Prod.fst := by
  -- An overwritten entry had the key `k` already.
  rw [entries_overwrite, List.map_map]
  exact List.map_congr_left fun e _ => by by_cases h : e.1 = k <;> simp [h]

/--
`d[k] = v`: a key already present keeps its slot and takes the new value; a new key goes in the
next slot, after a rebuild when none is usable.
-/
def set (d : PyDict κ ν) (k : κ) (v : ν) : PyDict κ ν :=
  if present : d.contains k then
    ⟨d.slots.map (overwrite k v), d.usable, by rw [keys_overwrite]; exact d.nodup⟩
  else
    have fresh : k ∉ d.withRoom.keys := by
      rw [keys, entries_withRoom]
      exact fun listed => present (List.elem_eq_true_of_mem listed)
    ⟨d.withRoom.slots ++ [some (k, v)], d.withRoom.usable - 1,
      nodup_append_new fresh d.withRoom.nodup v⟩

/-- The slot of an entry, emptied when it holds `k`. -/
def vacate (k : κ) (slot : Option (κ × ν)) : Option (κ × ν) :=
  slot.bind fun e => if e.1 = k then none else some e

/-- Emptying the slots of `k` drops exactly its entries. -/
private theorem entries_vacate (slots : List (Option (κ × ν))) (k : κ) :
    (slots.map (vacate k)).filterMap id = (slots.filterMap id).filter (fun e => e.1 ≠ k) := by
  induction slots with
  | nil => rfl
  | cons slot rest ih =>
    rcases slot with _ | ⟨a, b⟩
    · simpa [vacate] using ih
    · by_cases h : a = k <;> simp [vacate, h, ih]

/--
`d.pop(k)`: the removed value and the rest, its slot left empty, or `none` where Python raises
KeyError.
-/
def pop (d : PyDict κ ν) (k : κ) : Option (ν × PyDict κ ν) :=
  (d.get? k).map fun v =>
    (v, ⟨d.slots.map (vacate k), d.usable, by
      rw [entries_vacate]; exact d.nodup.sublist ((List.filter_sublist _).map Prod.fst)⟩)

@[simp] theorem get?_empty (k : κ) : (empty : PyDict κ ν).get? k = none := rfl

@[simp] theorem contains_empty (k : κ) : (empty : PyDict κ ν).contains k = false := rfl

/-- Membership is having a value. -/
theorem contains_iff_get? {d : PyDict κ ν} {k : κ} : d.contains k = true ↔ (d.get? k).isSome := by
  -- Both read the same key list.
  simp [contains, keys, get?]

/-- A key listed by `keys()` has a value. -/
theorem get?_of_mem_keys {d : PyDict κ ν} {k : κ} (listed : k ∈ d.keys) : ∃ v, d.get? k = some v :=
  Option.isSome_iff_exists.1 (contains_iff_get?.1 (by simpa [contains] using listed))

/-- A key is present exactly when some entry carries it. -/
theorem contains_iff {d : PyDict κ ν} {k : κ} : d.contains k = true ↔ ∃ v, (k, v) ∈ d.entries := by
  simp [contains, keys]

/-- Overwriting a present key rewrites its entry in place. -/
theorem entries_set_of_contains {d : PyDict κ ν} {k : κ} (present : d.contains k = true) (v : ν) :
    (d.set k v).entries = d.entries.map fun e => if e.1 = k then (k, v) else e := by
  simp only [set, present, dite_true, entries]
  exact entries_overwrite d.slots k v

/-- Assigning a new key appends its entry, whether or not the array was rebuilt first. -/
theorem entries_set_of_not_contains {d : PyDict κ ν} {k : κ} (absent : d.contains k = false)
    (v : ν) : (d.set k v).entries = d.entries ++ [(k, v)] := by
  -- The new entry goes after those of the array, rebuilt or not, which holds the same entries.
  have appended : (d.set k v).entries = d.withRoom.entries ++ [(k, v)] := by
    simp [set, absent, entries, List.filterMap_append]
  rw [appended, entries_withRoom]

/-- Assigning a new key makes the dictionary one entry longer. -/
theorem len_set_of_not_contains {d : PyDict κ ν} {k : κ} (absent : d.contains k = false) (v : ν) :
    (d.set k v).len = d.len + 1 := by
  simp [len, entries_set_of_not_contains absent]

/-- Overwriting the entry of `k` leaves every other key's value alone. -/
private theorem lookup_overwrite_ne (entries : List (κ × ν)) {k j : κ} (other : j ≠ k) (v : ν) :
    (entries.map (fun e => if e.1 = k then (k, v) else e)).lookup j = entries.lookup j := by
  -- Entry by entry: the overwritten one has key `k`, which `j` is not.
  have differ : (j == k) = false := by simpa using other
  induction entries with
  | nil => rfl
  | cons e rest ih =>
    obtain ⟨a, b⟩ := e
    by_cases here : a = k
    · subst here
      simp [List.lookup_cons, differ, ih]
    · simp [List.lookup_cons, here, ih]

/-- Overwriting the entry of a present key `k` makes `k` read as the new value. -/
private theorem lookup_overwrite_self {entries : List (κ × ν)} {k : κ}
    (present : k ∈ entries.map Prod.fst) (v : ν) :
    (entries.map (fun e => if e.1 = k then (k, v) else e)).lookup k = some v := by
  -- The first entry with key `k` is the one overwritten, and lookup stops there.
  induction entries with
  | nil => simp at present
  | cons e rest ih =>
    obtain ⟨a, b⟩ := e
    by_cases here : a = k
    · simp [List.lookup_cons, here]
    · have later : k ∈ rest.map Prod.fst := by
        simpa [Ne.symm here] using present
      have differ : (k == a) = false := by simpa using Ne.symm here
      simp [List.lookup_cons, here, differ, ih later]

/-- After `d[k] = v`, reading `k` gives `v`. -/
@[simp] theorem get?_set_self (d : PyDict κ ν) (k : κ) (v : ν) : (d.set k v).get? k = some v := by
  -- Either the entry of `k` was overwritten, or `k` was absent and its entry appended last.
  cases present : d.contains k
  · have fresh : d.get? k = none := by
      simpa [← Option.not_isSome_iff_eq_none, ← contains_iff_get?] using present
    simp only [get?] at fresh
    simp [get?, entries_set_of_not_contains present, List.lookup_append, fresh]
  · rw [get?, entries_set_of_contains present]
    exact lookup_overwrite_self (by simpa [contains, keys] using present) v

/-- After `d[k] = v`, every other key reads as before. -/
@[simp] theorem get?_set_ne (d : PyDict κ ν) {k j : κ} (other : j ≠ k) (v : ν) :
    (d.set k v).get? j = d.get? j := by
  -- Overwriting touches only the entry of `k`, and appending adds only `k`.
  cases present : d.contains k
  · have differ : (j == k) = false := by simpa using other
    simp [get?, entries_set_of_not_contains present, List.lookup_append, List.lookup_cons, differ]
  · rw [get?, entries_set_of_contains present]
    exact lookup_overwrite_ne d.entries other v

/-- Assignment keeps every key and adds the assigned one. -/
theorem contains_set (d : PyDict κ ν) (k : κ) (v : ν) (j : κ) :
    (d.set k v).contains j = (j == k || d.contains j) := by
  -- Membership is having a value, which the two lookup laws give.
  by_cases same : j = k
  · subst same
    simp [contains_iff_get?]
  · have := get?_set_ne d same v
    rw [Bool.eq_iff_iff]
    simp [contains_iff_get?, this, same]

/-- What `pop` removed: the key's value, and every other entry left in order. -/
theorem pop_eq_some {d : PyDict κ ν} {k : κ} {v : ν} {rest : PyDict κ ν}
    (popped : d.pop k = some (v, rest)) :
    d.get? k = some v ∧ rest.entries = d.entries.filter (fun e => e.1 ≠ k) := by
  unfold pop at popped
  cases found : d.get? k with
  | none => simp [found] at popped
  | some w =>
    simp only [found, Option.map_some', Option.some.injEq, Prod.mk.injEq] at popped
    obtain ⟨rfl, rfl⟩ := popped
    exact ⟨rfl, entries_vacate d.slots k⟩

/-- Dropping the entries of one key hides that key and no other. -/
private theorem lookup_filter_ne (entries : List (κ × ν)) (k j : κ) :
    (entries.filter (fun e => e.1 ≠ k)).lookup j = if j = k then none else entries.lookup j := by
  induction entries with
  | nil => simp
  | cons e rest ih =>
    obtain ⟨a, b⟩ := e
    by_cases here : j = a
    · -- The entry of `j` itself: dropped exactly when `j` is the popped key.
      subst here
      by_cases kept : j = k
      · subst kept
        rw [List.filter_cons_of_neg (by simp), ih]
        simp
      · rw [List.filter_cons_of_pos (by simpa using kept)]
        simp [kept]
    · -- Another key's entry: the lookup passes it either way.
      have differ : (j == a) = false := beq_eq_false_iff_ne.2 here
      by_cases kept : a = k
      · rw [List.filter_cons_of_neg (by simpa using kept), ih, List.lookup_cons, differ]
      · rw [List.filter_cons_of_pos (by simpa using kept), List.lookup_cons, differ, ih,
          List.lookup_cons, differ]

/-- What `pop` leaves: nothing at the popped key, and every other key's value as it was. -/
theorem get?_of_pop {d : PyDict κ ν} {k : κ} {v : ν} {rest : PyDict κ ν}
    (popped : d.pop k = some (v, rest)) (j : κ) :
    rest.get? j = if j = k then none else d.get? j := by
  rw [get?, (pop_eq_some popped).2]
  exact lookup_filter_ne d.entries k j

/-- The entry a lookup found is in the list. -/
private theorem mem_of_lookup {entries : List (κ × ν)} {k : κ} {v : ν}
    (found : entries.lookup k = some v) : (k, v) ∈ entries := by
  induction entries with
  | nil => simp at found
  | cons e rest ih =>
    obtain ⟨a, b⟩ := e
    by_cases here : k = a
    · subst here
      simp [List.lookup_cons] at found
      simp [found]
    · have differ : (k == a) = false := by simpa using here
      simp only [List.lookup_cons, differ] at found
      exact List.mem_cons_of_mem _ (ih found)

/-- A dictionary of at most one entry that holds `k` holds nothing else. -/
theorem entries_of_len_le_one {d : PyDict κ ν} {k : κ} {v : ν} (small : d.len ≤ 1)
    (found : d.get? k = some v) : d.entries = [(k, v)] := by
  have listed : (k, v) ∈ d.entries := mem_of_lookup found
  match entries : d.entries, small with
  | [], _ => simp [entries] at listed
  | [e], _ => simp_all
  | _ :: _ :: _, small => simp [len, entries] at small

/-- Assigning into the empty dictionary gives the one entry. -/
@[simp] theorem entries_empty_set (k : κ) (v : ν) :
    (empty.set k v : PyDict κ ν).entries = [(k, v)] :=
  entries_set_of_not_contains (contains_empty k) v

/-- A dictionary without entries holds no key. -/
theorem contains_of_entries_nil {d : PyDict κ ν} (none : d.entries = []) (k : κ) :
    d.contains k = false := by
  simp [contains, keys, none]

end PyDict

/-- The first live slot at or after `pos`, with its index. -/
def firstLive {α : Type} (slots : List (Option α)) (pos : Nat) : Option (Nat × α) :=
  ((slots.drop pos).enumFrom pos).findSome? fun (i, slot) => slot.map (i, ·)

/-- What `next()` on CPython's dict iterator does. -/
inductive IterStep (κ ν : Type) where
  /-- It yields an entry and moves on to the slot `next`. -/
  | item (entry : κ × ν) (next : Nat)
  /-- No live slot is left: the loop ends. -/
  | exhausted
  /-- `RuntimeError: dictionary changed size during iteration`. -/
  | resized
  /-- `RuntimeError: dictionary keys changed during iteration`. -/
  | keysChanged

namespace PyDict

variable {κ ν : Type}

/--
`dictiter_iternextitem` on the dictionary as it is now, for an iterator that started at size
`used`, reads from slot `pos` on, and still expects `remaining` entries: a size that changed
raises; otherwise the next live slot is yielded, unless the iterator expects no more, which
raises too.
-/
def iterNext (d : PyDict κ ν) (used pos remaining : Nat) : IterStep κ ν :=
  if d.len ≠ used then .resized
  else
    match firstLive d.slots pos with
    | none => .exhausted
    | some (i, entry) => if remaining = 0 then .keysChanged else .item entry (i + 1)

/-- An iterator that expects no more entries yields none. -/
theorem iterNext_zero (d : PyDict κ ν) (used pos : Nat) {entry : κ × ν} {next : Nat} :
    d.iterNext used pos 0 ≠ .item entry next := by
  unfold iterNext
  split
  · exact IterStep.noConfusion
  · split
    · exact IterStep.noConfusion
    · simp

end PyDict

end Moxxy
