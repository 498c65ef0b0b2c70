/-
Finite maps in the ascending order of their keys: what a label set, a table of reports and a
family of metric series are. The entries are a list whose keys strictly ascend, so a map has one
representation only.

`get?_insert_self`, `get?_insert_other`, `get?_erase_self`, `get?_erase_other` say what the two
updates do to look-up, `get?_filter` and `get?_map` what a selection and a replacement do, `ext` that
look-up decides equality, `get?_ofList_last` and `entries_ofList` what a list of entries amounts to, and
`sum_insert` what an insertion does to a sum over the entries.
-/
namespace ManagedDatabase

/-- Keys come in a strict linear order. -/
class KeyOrder (κ : Type) [LT κ] : Prop where
  irrefl : ∀ a : κ, ¬ a < a
  trans : ∀ a b c : κ, a < b → b < c → a < c
  connected : ∀ a b : κ, ¬ a < b → ¬ b < a → a = b

instance : KeyOrder String where
  irrefl := String.lt_irrefl
  trans _ _ _ := String.lt_trans
  connected _ _ h k := String.le_antisymm (String.not_lt.1 k) (String.not_lt.1 h)

instance : KeyOrder UInt64 where
  irrefl := UInt64.lt_irrefl
  trans _ _ _ := UInt64.lt_trans
  connected _ _ h k := UInt64.le_antisymm (UInt64.not_lt.1 k) (UInt64.not_lt.1 h)

/-- A finite map, its entries in strictly ascending order of the keys. -/
structure KeyMap (κ α : Type) [LT κ] where
  entries : List (κ × α)
  ascending : entries.Pairwise fun a b => a.1 < b.1

namespace KeyMap

variable {κ α : Type}

/-- The value of a key in a list of entries. -/
def lookup [DecidableEq κ] (k : κ) : List (κ × α) → Option α
  | [] => none
  | (k', v) :: rest => if k' = k then some v else lookup k rest

theorem mem_of_lookup [DecidableEq κ] {k : κ} {v : α} {es : List (κ × α)}
    (h : lookup k es = some v) : (k, v) ∈ es := by
  induction es with
  | nil => simp [lookup] at h
  | cons p rest ih =>
    obtain ⟨k', v'⟩ := p
    by_cases hk : k' = k
    · subst hk
      simp only [lookup, if_true, Option.some.injEq] at h
      simp [h]
    · simp only [lookup, hk, if_false] at h
      exact List.mem_cons_of_mem _ (ih h)

theorem lookup_map [DecidableEq κ] {β : Type} (f : κ → α → β) (k : κ) (es : List (κ × α)) :
    lookup k (es.map fun e => (e.1, f e.1 e.2)) = (lookup k es).map (f k) := by
  induction es with
  | nil => rfl
  | cons p rest ih =>
    obtain ⟨k', v'⟩ := p
    by_cases hk : k' = k
    · subst hk
      simp [lookup]
    · simp [lookup, hk, ih]

variable [LT κ]

/-- The map without entries. -/
def empty : KeyMap κ α := ⟨[], .nil⟩

/-- The keys in ascending order. -/
def keys (m : KeyMap κ α) : List κ := m.entries.map (·.1)

/-- The value of a key. -/
def get? [DecidableEq κ] (m : KeyMap κ α) (k : κ) : Option α := lookup k m.entries

/-- Entries with one more, in its place; a present key gets the new value. -/
def insertEntry [DecidableLT κ] (k : κ) (v : α) : List (κ × α) → List (κ × α)
  | [] => [(k, v)]
  | (k', v') :: rest =>
    if k < k' then (k, v) :: (k', v') :: rest
    else if k' < k then (k', v') :: insertEntry k v rest
    else (k, v) :: rest

theorem mem_insertEntry [DecidableLT κ] {k : κ} {v : α} {es : List (κ × α)} {e : κ × α}
    (h : e ∈ insertEntry k v es) : e = (k, v) ∨ e ∈ es := by
  induction es with
  | nil => simpa [insertEntry] using h
  | cons p rest ih =>
    obtain ⟨k', v'⟩ := p
    unfold insertEntry at h
    split at h
    · simpa using h
    · split at h
      · rcases List.mem_cons.1 h with h | h
        · exact .inr (by simp [h])
        · rcases ih h with h | h
          · exact .inl h
          · exact .inr (List.mem_cons_of_mem _ h)
      · rcases List.mem_cons.1 h with h | h
        · exact .inl h
        · exact .inr (List.mem_cons_of_mem _ h)

theorem ascending_insertEntry [DecidableLT κ] [KeyOrder κ] (k : κ) (v : α)
    {es : List (κ × α)} (h : es.Pairwise fun a b => a.1 < b.1) :
    (insertEntry k v es).Pairwise fun a b => a.1 < b.1 := by
  induction es with
  | nil => simp [insertEntry]
  | cons p rest ih =>
    obtain ⟨k', v'⟩ := p
    obtain ⟨hp, hr⟩ := List.pairwise_cons.1 h
    unfold insertEntry
    split
    · next hlt =>
      refine List.pairwise_cons.2 ⟨fun e he => ?_, h⟩
      rcases List.mem_cons.1 he with rfl | he
      · exact hlt
      · exact KeyOrder.trans _ _ _ hlt (hp e he)
    · next hnlt =>
      split
      · next hgt =>
        refine List.pairwise_cons.2 ⟨fun e he => ?_, ih hr⟩
        rcases mem_insertEntry he with rfl | he
        · exact hgt
        · exact hp e he
      · next hngt =>
        have hk : k = k' := KeyOrder.connected _ _ hnlt hngt
        exact List.pairwise_cons.2 ⟨fun e he => hk ▸ hp e he, hr⟩

/-- The map with a value for a key. -/
def insert [DecidableLT κ] [KeyOrder κ] (m : KeyMap κ α) (k : κ) (v : α) : KeyMap κ α :=
  ⟨insertEntry k v m.entries, ascending_insertEntry k v m.ascending⟩

/-- The entries that pass a test. -/
def filter (m : KeyMap κ α) (p : κ → α → Bool) : KeyMap κ α :=
  ⟨m.entries.filter fun e => p e.1 e.2, m.ascending.filter _⟩

/-- The map without a key. -/
def erase [DecidableEq κ] (m : KeyMap κ α) (k : κ) : KeyMap κ α :=
  m.filter fun k' _ => k' ≠ k

/-- The map with every value replaced. -/
def map {β : Type} (m : KeyMap κ α) (f : κ → α → β) : KeyMap κ β :=
  ⟨m.entries.map fun e => (e.1, f e.1 e.2),
    List.pairwise_map.2 (m.ascending.imp fun h => h)⟩

/-- The map of a list of entries; of two entries with one key the later counts. -/
def ofList [DecidableLT κ] [KeyOrder κ] (es : List (κ × α)) : KeyMap κ α :=
  es.foldl (fun m e => m.insert e.1 e.2) empty

theorem lookup_eq_none_of_lt [DecidableEq κ] [KeyOrder κ] {k : κ} {es : List (κ × α)}
    (h : ∀ e ∈ es, k < e.1) : lookup k es = none := by
  induction es with
  | nil => rfl
  | cons p rest ih =>
    obtain ⟨k', v'⟩ := p
    have hne : k' ≠ k := fun he => KeyOrder.irrefl k (by simpa [he] using h (k', v') (by simp))
    simp [lookup, hne, ih fun e he => h e (List.mem_cons_of_mem _ he)]

theorem lookup_insertEntry_self [DecidableEq κ] [DecidableLT κ] [KeyOrder κ]
    (k : κ) (v : α) (es : List (κ × α)) : lookup k (insertEntry k v es) = some v := by
  induction es with
  | nil => simp [insertEntry, lookup]
  | cons p rest ih =>
    obtain ⟨k', v'⟩ := p
    unfold insertEntry
    split
    · simp [lookup]
    · split
      · next hgt =>
        have hne : k' ≠ k := fun he => KeyOrder.irrefl k (by simpa [he] using hgt)
        simp [lookup, hne, ih]
      · simp [lookup]

theorem lookup_insertEntry_other [DecidableEq κ] [DecidableLT κ] [KeyOrder κ]
    {k j : κ} (v : α) (es : List (κ × α)) (hne : j ≠ k) :
    lookup j (insertEntry k v es) = lookup j es := by
  induction es with
  | nil => simp [insertEntry, lookup, Ne.symm hne]
  | cons p rest ih =>
    obtain ⟨k', v'⟩ := p
    unfold insertEntry
    split
    · simp [lookup, Ne.symm hne]
    · next hnlt =>
      split
      · simp [lookup, ih]
      · next hngt =>
        have hk : k = k' := KeyOrder.connected _ _ hnlt hngt
        subst hk
        simp [lookup, Ne.symm hne]

@[simp] theorem get?_empty [DecidableEq κ] (k : κ) : (empty : KeyMap κ α).get? k = none := rfl

@[simp] theorem get?_insert_self [DecidableEq κ] [DecidableLT κ] [KeyOrder κ]
    (m : KeyMap κ α) (k : κ) (v : α) : (m.insert k v).get? k = some v :=
  lookup_insertEntry_self k v m.entries

theorem get?_insert_other [DecidableEq κ] [DecidableLT κ] [KeyOrder κ]
    (m : KeyMap κ α) {k j : κ} (v : α) (hne : j ≠ k) : (m.insert k v).get? j = m.get? j :=
  lookup_insertEntry_other v m.entries hne

theorem lookup_filter [DecidableEq κ] [KeyOrder κ] (p : κ → α → Bool) (k : κ)
    {es : List (κ × α)} (h : es.Pairwise fun a b => a.1 < b.1) :
    lookup k (es.filter fun e => p e.1 e.2) = (lookup k es).filter (p k) := by
  induction es with
  | nil => rfl
  | cons q rest ih =>
    obtain ⟨k', v'⟩ := q
    obtain ⟨hq, hr⟩ := List.pairwise_cons.1 h
    by_cases hk : k' = k
    · subst hk
      by_cases hp : p k' v' = true
      · simp [hp, lookup, Option.filter]
      · have hnone : lookup k' (rest.filter fun e => p e.1 e.2) = none :=
          lookup_eq_none_of_lt fun e he => hq e ((List.mem_filter.1 he).1)
        simp [hp, lookup, hnone, Option.filter]
    · by_cases hp : p k' v' = true
      · simp [hp, lookup, hk, ih hr]
      · simp [hp, lookup, hk, ih hr]

theorem get?_filter [DecidableEq κ] [KeyOrder κ] (m : KeyMap κ α) (p : κ → α → Bool) (k : κ) :
    (m.filter p).get? k = (m.get? k).filter (p k) :=
  lookup_filter p k m.ascending

@[simp] theorem get?_erase_self [DecidableEq κ] [KeyOrder κ] (m : KeyMap κ α) (k : κ) :
    (m.erase k).get? k = none := by
  rw [erase, get?_filter]
  cases m.get? k <;> simp

theorem get?_erase_other [DecidableEq κ] [KeyOrder κ] (m : KeyMap κ α) {k j : κ} (hne : j ≠ k) :
    (m.erase k).get? j = m.get? j := by
  rw [erase, get?_filter]
  cases m.get? j <;> simp [hne]

theorem lookup_of_mem [DecidableEq κ] [KeyOrder κ] {k : κ} {v : α} {es : List (κ × α)}
    (hs : es.Pairwise fun a b => a.1 < b.1) (h : (k, v) ∈ es) : lookup k es = some v := by
  induction es with
  | nil => simp at h
  | cons p rest ih =>
    obtain ⟨k', v'⟩ := p
    obtain ⟨hp, hr⟩ := List.pairwise_cons.1 hs
    rcases List.mem_cons.1 h with he | hm
    · cases he
      simp [lookup]
    · have hne : k' ≠ k := fun he => KeyOrder.irrefl k (by simpa [he] using hp (k, v) hm)
      simp [lookup, hne, ih hr hm]

theorem get?_eq_some_iff [DecidableEq κ] [KeyOrder κ] {m : KeyMap κ α} {k : κ} {v : α} :
    m.get? k = some v ↔ (k, v) ∈ m.entries :=
  ⟨mem_of_lookup, lookup_of_mem m.ascending⟩

theorem mem_keys_iff [DecidableEq κ] [KeyOrder κ] {m : KeyMap κ α} {k : κ} :
    k ∈ m.keys ↔ ∃ v, m.get? k = some v := by
  simp only [keys, List.mem_map, get?_eq_some_iff]
  constructor
  · rintro ⟨⟨k', v⟩, h, rfl⟩
    exact ⟨v, h⟩
  · rintro ⟨v, h⟩
    exact ⟨(k, v), h, rfl⟩

theorem get?_eq_none_of_not_mem [DecidableEq κ] [KeyOrder κ] {m : KeyMap κ α} {k : κ}
    (h : k ∉ m.keys) : m.get? k = none := by
  cases hk : m.get? k with
  | none => rfl
  | some v => exact absurd (mem_keys_iff.2 ⟨v, hk⟩) h

theorem nodup_keys [KeyOrder κ] (m : KeyMap κ α) : m.keys.Nodup := by
  refine List.pairwise_map.2 (m.ascending.imp fun {a b} h => ?_)
  intro same
  rw [same] at h
  exact KeyOrder.irrefl _ h

theorem get?_map [DecidableEq κ] {β : Type} (m : KeyMap κ α) (f : κ → α → β) (k : κ) :
    (m.map f).get? k = (m.get? k).map (f k) :=
  lookup_map f k m.entries

theorem entries_eq [DecidableEq κ] [KeyOrder κ] {es fs : List (κ × α)}
    (he : es.Pairwise fun a b => a.1 < b.1) (hf : fs.Pairwise fun a b => a.1 < b.1)
    (h : ∀ k, lookup k es = lookup k fs) : es = fs := by
  induction es generalizing fs with
  | nil =>
    cases fs with
    | nil => rfl
    | cons q fs =>
      obtain ⟨k, v⟩ := q
      have := h k
      simp [lookup] at this
  | cons p es ih =>
    obtain ⟨k, v⟩ := p
    obtain ⟨hp, hes⟩ := List.pairwise_cons.1 he
    cases fs with
    | nil =>
      have := h k
      simp [lookup] at this
    | cons q fs =>
      obtain ⟨j, w⟩ := q
      obtain ⟨hq, hfs⟩ := List.pairwise_cons.1 hf
      have hkj : k = j := by
        refine KeyOrder.connected k j (fun hlt => ?_) (fun hlt => ?_)
        · have hk := h k
          have hnone : lookup k ((j, w) :: fs) = none := by
            refine lookup_eq_none_of_lt fun e he => ?_
            rcases List.mem_cons.1 he with rfl | he
            · exact hlt
            · exact KeyOrder.trans _ _ _ hlt (hq e he)
          rw [hnone] at hk
          simp [lookup] at hk
        · have hj := h j
          have hnone : lookup j ((k, v) :: es) = none := by
            refine lookup_eq_none_of_lt fun e he => ?_
            rcases List.mem_cons.1 he with rfl | he
            · exact hlt
            · exact KeyOrder.trans _ _ _ hlt (hp e he)
          rw [hnone] at hj
          simp [lookup] at hj
      subst hkj
      have hvw : v = w := by simpa [lookup] using h k
      subst hvw
      congr 1
      refine ih hes hfs fun i => ?_
      by_cases hi : k = i
      · subst hi
        rw [lookup_eq_none_of_lt hp, lookup_eq_none_of_lt hq]
      · simpa [lookup, hi] using h i

theorem eq_of_entries {m n : KeyMap κ α} (h : m.entries = n.entries) : m = n := by
  cases m
  cases n
  cases h
  rfl

/-- Maps with the same values at all keys are the same map. -/
theorem ext [DecidableEq κ] [KeyOrder κ] {m n : KeyMap κ α}
    (h : ∀ k, m.get? k = n.get? k) : m = n :=
  eq_of_entries (entries_eq m.ascending n.ascending h)

/-- Maps with values for the same keys list the same keys. -/
theorem keys_ext [DecidableEq κ] [KeyOrder κ] {m n : KeyMap κ α} (h : ∀ k, k ∈ m.keys ↔ k ∈ n.keys) :
    m.keys = n.keys := by
  -- without their values the maps are the same
  have bare : m.map (fun _ _ => ()) = n.map fun _ _ => () := by
    refine ext fun k => ?_
    have hk := h k
    simp only [mem_keys_iff] at hk
    simp only [get?_map]
    cases hm : m.get? k <;> cases hn : n.get? k <;> simp_all
  have keys : ∀ m : KeyMap κ α, (m.map fun _ _ => ()).keys = m.keys := fun m => by
    simp only [KeyMap.keys, map, List.map_map]
    rfl
  rw [← keys m, ← keys n, bare]

/-! ### Maps of lists -/

theorem mem_keys_insert [DecidableEq κ] [DecidableLT κ] [KeyOrder κ] {m : KeyMap κ α} {j k : κ}
    {v : α} : k ∈ (m.insert j v).keys ↔ k = j ∨ k ∈ m.keys := by
  simp only [mem_keys_iff]
  by_cases h : k = j
  · subst h
    simp
  · simp [get?_insert_other m v h, h]

theorem get?_foldl_insert_other [DecidableEq κ] [DecidableLT κ] [KeyOrder κ] {k : κ} :
    ∀ {es : List (κ × α)} (m : KeyMap κ α), (∀ e ∈ es, e.1 ≠ k) →
      (es.foldl (fun m e => m.insert e.1 e.2) m).get? k = m.get? k
  | [], _, _ => rfl
  | e :: es, m, h => by
    rw [List.foldl_cons, get?_foldl_insert_other _ fun f hf => h f (List.mem_cons_of_mem _ hf),
      get?_insert_other _ _ (h e (by simp)).symm]

/-- Of the entries with one key the last one counts. -/
theorem get?_ofList_last [DecidableEq κ] [DecidableLT κ] [KeyOrder κ] {k : κ} {v : α}
    {before later : List (κ × α)} (h : ∀ e ∈ later, e.1 ≠ k) :
    (ofList (before ++ (k, v) :: later)).get? k = some v := by
  simp only [ofList, List.foldl_append, List.foldl_cons]
  rw [get?_foldl_insert_other _ h, get?_insert_self]

theorem mem_keys_foldl_insert [DecidableEq κ] [DecidableLT κ] [KeyOrder κ] {k : κ} :
    ∀ {es : List (κ × α)} {m : KeyMap κ α},
      k ∈ (es.foldl (fun m e => m.insert e.1 e.2) m).keys ↔ k ∈ es.map (·.1) ∨ k ∈ m.keys
  | [], _ => by simp
  | e :: es, m => by
    simp only [List.foldl_cons, mem_keys_foldl_insert, mem_keys_insert, List.map_cons, List.mem_cons]
    constructor
    · rintro (h | h | h)
      · exact .inl (.inr h)
      · exact .inl (.inl h)
      · exact .inr h
    · rintro ((h | h) | h)
      · exact .inr (.inl h)
      · exact .inl h
      · exact .inr (.inr h)

theorem mem_keys_ofList [DecidableEq κ] [DecidableLT κ] [KeyOrder κ] {k : κ}
    {es : List (κ × α)} : k ∈ (ofList es).keys ↔ k ∈ es.map (·.1) := by
  simp only [ofList, mem_keys_foldl_insert]
  simp [empty, keys]

theorem insertEntry_last [DecidableLT κ] [KeyOrder κ] {k : κ} (v : α) :
    ∀ {es : List (κ × α)}, (∀ e ∈ es, e.1 < k) → insertEntry k v es = es ++ [(k, v)]
  | [], _ => rfl
  | (k', v') :: rest, h => by
    have before : k' < k := h (k', v') (by simp)
    have not_behind : ¬ k < k' := fun behind => KeyOrder.irrefl k (KeyOrder.trans _ _ _ behind before)
    rw [insertEntry, if_neg not_behind, if_pos before,
      insertEntry_last v fun e he => h e (List.mem_cons_of_mem _ he), List.cons_append]

theorem entries_foldl_insert [DecidableLT κ] [KeyOrder κ] : ∀ {es : List (κ × α)} {m : KeyMap κ α},
    (m.entries ++ es).Pairwise (fun a b => a.1 < b.1) →
      (es.foldl (fun m e => m.insert e.1 e.2) m).entries = m.entries ++ es
  | [], _, _ => (List.append_nil _).symm
  | e :: es, m, ascending => by
    have last : (m.insert e.1 e.2).entries = m.entries ++ [e] := insertEntry_last e.2 fun e' he' =>
      (List.pairwise_append.1 ascending).2.2 e' he' e (by simp)
    rw [List.append_cons, ← last] at ascending ⊢
    exact entries_foldl_insert ascending

/-- Entries in ascending order are those of their map. -/
theorem entries_ofList [DecidableLT κ] [KeyOrder κ] {es : List (κ × α)}
    (ascending : es.Pairwise fun a b => a.1 < b.1) : (ofList es).entries = es :=
  entries_foldl_insert ascending

/-! ### Sums over entries -/

/-- What the entries of a list count together. -/
def total (f : κ × α → Nat) (es : List (κ × α)) : Nat := es.foldr (fun e n => f e + n) 0

/-- What the entries count together. -/
def sum (m : KeyMap κ α) (f : κ × α → Nat) : Nat := total f m.entries

omit [LT κ] in
theorem total_cons (f : κ × α → Nat) (e : κ × α) (es : List (κ × α)) :
    total f (e :: es) = f e + total f es := rfl

theorem total_insertEntry [DecidableEq κ] [DecidableLT κ] [KeyOrder κ] (f : κ × α → Nat) (k : κ)
    (v : α) {es : List (κ × α)} (h : es.Pairwise fun a b => a.1 < b.1) :
    total f (insertEntry k v es) + ((lookup k es).map fun old => f (k, old)).getD 0 =
      total f es + f (k, v) := by
  induction es with
  | nil => simp [insertEntry, lookup, total]
  | cons p rest ih =>
    obtain ⟨k', v'⟩ := p
    obtain ⟨hp, hr⟩ := List.pairwise_cons.1 h
    unfold insertEntry
    split
    · next hlt =>
      have new : lookup k ((k', v') :: rest) = none := by
        refine lookup_eq_none_of_lt fun e he => ?_
        rcases List.mem_cons.1 he with rfl | he
        · exact hlt
        · exact KeyOrder.trans _ _ _ hlt (hp e he)
      simp only [new, total_cons, Option.map_none, Option.getD_none]
      omega
    · next hnlt =>
      split
      · next hgt =>
        have hne : k' ≠ k := fun he => KeyOrder.irrefl k (by simpa [he] using hgt)
        have rest := ih hr
        simp only [lookup, hne, if_false, total_cons]
        omega
      · next hngt =>
        have hk : k = k' := KeyOrder.connected _ _ hnlt hngt
        subst hk
        simp only [lookup, if_true, total_cons, Option.map_some, Option.getD_some]
        omega

/-- An insertion adds what the new entry counts and takes away what the old one did. -/
theorem sum_insert [DecidableEq κ] [DecidableLT κ] [KeyOrder κ] (m : KeyMap κ α) (f : κ × α → Nat)
    (k : κ) (v : α) :
    (m.insert k v).sum f + ((m.get? k).map fun old => f (k, old)).getD 0 = m.sum f + f (k, v) :=
  total_insertEntry f k v m.ascending

end KeyMap
end ManagedDatabase
