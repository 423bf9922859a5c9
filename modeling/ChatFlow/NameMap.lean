/-!
# Maps ordered by name

A `NameMap` files at most one value under each name and keeps its entries in
increasing order of the names, so equal maps list the same entries.  Names
are ordered by their characters' code points, which is also the byte order of
their UTF-8 form.  The main statements say what a look-up finds after an
insertion and that look-ups determine the map.
-/

namespace ChatFlow

/-- Entries with pairwise different names, in increasing order of the names. -/
structure NameMap (α : Type) where
  entries : List (String × α)
  increasing : entries.Pairwise fun a b => a.1 < b.1

namespace NameMap

variable {α : Type}

@[ext] theorem ext {m n : NameMap α} (h : m.entries = n.entries) : m = n := by
  cases m
  cases n
  simpa using h

instance [DecidableEq α] : DecidableEq (NameMap α) := fun m n =>
  decidable_of_iff (m.entries = n.entries) ⟨ext, congrArg entries⟩

instance [Repr α] : Repr (NameMap α) where
  reprPrec m := reprPrec m.entries

def empty : NameMap α where
  entries := []
  increasing := .nil

instance : EmptyCollection (NameMap α) := ⟨empty⟩

instance : Inhabited (NameMap α) := ⟨empty⟩

/-- The value found first under a name. -/
def lookup (name : String) : List (String × α) → Option α
  | [] => none
  | (key, value) :: rest => if key = name then some value else lookup name rest

/-- The entries with one more at its place, instead of an earlier one of the
same name. -/
def place (name : String) (value : α) : List (String × α) → List (String × α)
  | [] => [(name, value)]
  | (key, old) :: rest =>
      if name < key then (name, value) :: (key, old) :: rest
      else if name = key then (name, value) :: rest
      else (key, old) :: place name value rest

theorem mem_place {name : String} {value : α} {entries : List (String × α)}
    {entry : String × α} (h : entry ∈ place name value entries) :
    entry = (name, value) ∨ entry ∈ entries := by
  induction entries with
  | nil => exact Or.inl (List.mem_singleton.mp h)
  | cons head rest ih =>
      obtain ⟨key, old⟩ := head
      unfold place at h
      split at h
      · exact List.mem_cons.mp h
      · split at h
        · exact (List.mem_cons.mp h).imp id (List.mem_cons_of_mem _)
        · rcases List.mem_cons.mp h with rfl | hmem
          · exact Or.inr List.mem_cons_self
          · exact (ih hmem).imp id (List.mem_cons_of_mem _)

theorem place_increasing (name : String) (value : α) {entries : List (String × α)}
    (h : entries.Pairwise fun a b => a.1 < b.1) :
    (place name value entries).Pairwise fun a b => a.1 < b.1 := by
  induction entries with
  | nil => exact List.pairwise_singleton _ _
  | cons head rest ih =>
      obtain ⟨key, old⟩ := head
      obtain ⟨hhead, hrest⟩ := List.pairwise_cons.mp h
      unfold place
      split
      next hlt =>
        refine List.pairwise_cons.mpr ⟨fun entry hmem => ?_, h⟩
        rcases List.mem_cons.mp hmem with rfl | hmem
        · exact hlt
        · exact String.lt_trans hlt (hhead entry hmem)
      next hlt =>
        split
        next heq =>
          subst heq
          exact List.pairwise_cons.mpr ⟨hhead, hrest⟩
        next hne =>
          refine List.pairwise_cons.mpr ⟨fun entry hmem => ?_, ih hrest⟩
          rcases mem_place hmem with rfl | hmem
          · apply String.not_le.mp
            exact fun hle => hne (String.le_antisymm hle (String.not_lt.mp hlt))
          · exact hhead entry hmem

/-- Files a value under a name, in place of an earlier one. -/
def insert (m : NameMap α) (name : String) (value : α) : NameMap α where
  entries := place name value m.entries
  increasing := place_increasing name value m.increasing

def get? (m : NameMap α) (name : String) : Option α :=
  lookup name m.entries

def contains (m : NameMap α) (name : String) : Bool :=
  (m.get? name).isSome

def names (m : NameMap α) : List String :=
  m.entries.map Prod.fst

def values (m : NameMap α) : List α :=
  m.entries.map Prod.snd

def size (m : NameMap α) : Nat :=
  m.entries.length

def isEmpty (m : NameMap α) : Bool :=
  m.entries.isEmpty

/-- Inserts the entries in turn, so the last one of a name wins. -/
def ofList (entries : List (String × α)) : NameMap α :=
  entries.foldl (fun m entry => m.insert entry.1 entry.2) empty

/-! ## Look-ups -/

@[simp] theorem get?_empty (name : String) : (empty : NameMap α).get? name = none := rfl

theorem lookup_place_self (name : String) (value : α) (entries : List (String × α)) :
    lookup name (place name value entries) = some value := by
  induction entries with
  | nil => simp [place, lookup]
  | cons head rest ih =>
      unfold place
      split
      · simp [lookup]
      · split
        · simp [lookup]
        next hne => simp [lookup, Ne.symm hne, ih]

theorem lookup_place_of_ne {name other : String} (hne : other ≠ name) (value : α)
    (entries : List (String × α)) :
    lookup other (place name value entries) = lookup other entries := by
  induction entries with
  | nil => simp [place, lookup, Ne.symm hne]
  | cons head rest ih =>
      unfold place
      split
      · simp [lookup, Ne.symm hne]
      · split
        next heq => simp [lookup, ← heq, Ne.symm hne]
        · simp [lookup, ih]

theorem get?_insert (m : NameMap α) (name other : String) (value : α) :
    (m.insert name value).get? other =
      if other = name then some value else m.get? other := by
  split
  next heq => exact heq ▸ lookup_place_self name value m.entries
  next hne => exact lookup_place_of_ne hne value m.entries

@[simp] theorem get?_insert_self (m : NameMap α) (name : String) (value : α) :
    (m.insert name value).get? name = some value := by
  simp [get?_insert]

theorem mem_of_lookup {name : String} {value : α} {entries : List (String × α)}
    (h : lookup name entries = some value) : (name, value) ∈ entries := by
  induction entries with
  | nil => simp [lookup] at h
  | cons head rest ih =>
      unfold lookup at h
      split at h
      next heq =>
        obtain ⟨key, old⟩ := head
        simp_all
      next => exact List.mem_cons_of_mem _ (ih h)

theorem lookup_of_mem {name : String} {value : α} {entries : List (String × α)}
    (hinc : entries.Pairwise fun a b => a.1 < b.1) (h : (name, value) ∈ entries) :
    lookup name entries = some value := by
  induction entries with
  | nil => simp at h
  | cons head rest ih =>
      obtain ⟨hhead, hrest⟩ := List.pairwise_cons.mp hinc
      rcases List.mem_cons.mp h with rfl | hmem
      · simp [lookup]
      · have hlt := hhead _ hmem
        have hne : head.1 ≠ name := fun heq => String.lt_irrefl _ (heq ▸ hlt)
        simp [lookup, hne, ih hrest hmem]

theorem get?_eq_some_iff {m : NameMap α} {name : String} {value : α} :
    m.get? name = some value ↔ (name, value) ∈ m.entries :=
  ⟨mem_of_lookup, lookup_of_mem m.increasing⟩

/-- A map is determined by its look-ups. -/
theorem ext_get? {m n : NameMap α} (h : ∀ name, m.get? name = n.get? name) : m = n := by
  have hnodup (k : NameMap α) : k.entries.Nodup := by
    refine k.increasing.imp fun {a b} hlt heq => ?_
    rw [heq] at hlt
    exact String.lt_irrefl b.1 hlt
  apply ext
  refine List.Perm.eq_of_pairwise (fun a b _ _ hab hba => ?_) m.increasing n.increasing
    ((List.perm_ext_iff_of_nodup (hnodup m) (hnodup n)).mpr fun entry => ?_)
  · exact absurd hba (String.lt_asymm hab)
  · rw [← get?_eq_some_iff, ← get?_eq_some_iff, h]

theorem mem_names_iff {m : NameMap α} {name : String} :
    name ∈ m.names ↔ m.contains name = true := by
  simp [names, contains, Option.isSome_iff_exists, get?_eq_some_iff]

theorem names_increasing (m : NameMap α) : m.names.Pairwise (· < ·) :=
  List.pairwise_map.mpr m.increasing

theorem names_nodup (m : NameMap α) : m.names.Nodup := by
  refine m.names_increasing.imp fun {a b} hlt heq => ?_
  rw [heq] at hlt
  exact String.lt_irrefl b hlt

/-- Maps with values under the same names list the same names. -/
theorem names_eq_of_contains_eq {β : Type} {m : NameMap α} {n : NameMap β}
    (h : ∀ name, m.contains name = n.contains name) : m.names = n.names := by
  refine List.Perm.eq_of_pairwise (fun a b _ _ hab hba => ?_)
    m.names_increasing n.names_increasing
    ((List.perm_ext_iff_of_nodup m.names_nodup n.names_nodup).mpr fun name => ?_)
  · exact absurd hba (String.lt_asymm hab)
  · rw [mem_names_iff, mem_names_iff, h]

/-! ## Inserting entries in their order -/

/-- An entry goes to the end if its name comes after all the others. -/
theorem place_eq_append {name : String} {entries : List (String × α)}
    (h : ∀ entry ∈ entries, entry.1 < name) (value : α) :
    place name value entries = entries ++ [(name, value)] := by
  induction entries with
  | nil => rfl
  | cons head rest ih =>
      obtain ⟨key, old⟩ := head
      have hlt : key < name := h (key, old) List.mem_cons_self
      have hne : name ≠ key := fun heq => String.lt_irrefl key (heq ▸ hlt)
      rw [place, if_neg (String.lt_asymm hlt), if_neg hne,
        ih fun entry hmem => h entry (List.mem_cons_of_mem _ hmem), List.cons_append]

theorem entries_foldl_insert (m : NameMap α) (entries : List (String × α))
    (h : (m.entries ++ entries).Pairwise fun a b => a.1 < b.1) :
    (entries.foldl (fun m entry => m.insert entry.1 entry.2) m).entries =
      m.entries ++ entries := by
  induction entries generalizing m with
  | nil => exact (List.append_nil _).symm
  | cons entry rest ih =>
      have hlast : ∀ other ∈ m.entries, other.1 < entry.1 := fun other hmem =>
        (List.pairwise_append.mp h).2.2 other hmem entry List.mem_cons_self
      have hplace : (m.insert entry.1 entry.2).entries = m.entries ++ [entry] :=
        place_eq_append hlast entry.2
      rw [List.foldl_cons, ih, hplace, List.append_assoc, List.singleton_append]
      rwa [hplace, List.append_assoc, List.singleton_append]

/-- A map is made again from its entries. -/
theorem ofList_entries (m : NameMap α) : ofList m.entries = m :=
  ext (entries_foldl_insert empty m.entries m.increasing)

end NameMap

end ChatFlow
