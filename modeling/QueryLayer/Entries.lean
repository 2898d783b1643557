/-! # Sorted entries

Finite maps with text keys, as lists of pairs in strictly increasing key order. `Sorted` is kept
apart from the lists so that they can stand inside a recursive type.
-/

set_option autoImplicit false

namespace QueryLayer.Entries

variable {α β : Type}

def insert (key : String) (a : α) : List (String × α) → List (String × α)
  | [] => [(key, a)]
  | (k, b) :: rest =>
    if key < k then (key, a) :: (k, b) :: rest
    else if key = k then (key, a) :: rest
    else (k, b) :: insert key a rest

/-- The entries of `pairs`, the last pair of a repeated key winning. -/
def ofList (pairs : List (String × α)) : List (String × α) :=
  pairs.foldl (fun entries pair => insert pair.1 pair.2 entries) []

def keys (entries : List (String × α)) : List String := entries.map Prod.fst

def find? (key : String) : List (String × α) → Option α
  | [] => none
  | (k, a) :: rest => if key = k then some a else find? key rest

def modify (key : String) (f : α → α) : List (String × α) → List (String × α)
  | [] => []
  | (k, a) :: rest => if key = k then (k, f a) :: rest else (k, a) :: modify key f rest

def insertNew (key : String) (a : α) (entries : List (String × α)) : List (String × α) :=
  match find? key entries with
  | some _ => entries
  | none => insert key a entries

def Sorted (entries : List (String × α)) : Prop := entries.Pairwise fun x y => x.1 < y.1

@[simp] theorem find?_nil (key : String) : find? key ([] : List (String × α)) = none := rfl

theorem find?_append (key : String) (entries more : List (String × α)) :
    find? key (entries ++ more) = (find? key entries).or (find? key more) := by
  induction entries with
  | nil => rfl
  | cons entry rest ih =>
    obtain ⟨l, b⟩ := entry
    by_cases h : key = l <;> simp [find?, h, ih]

theorem find?_map (key : String) (f : String → α → β) (entries : List (String × α)) :
    find? key (entries.map fun entry => (entry.1, f entry.1 entry.2)) =
      (find? key entries).map (f key) := by
  induction entries with
  | nil => rfl
  | cons entry rest ih =>
    obtain ⟨l, b⟩ := entry
    by_cases h : key = l
    · subst h
      simp [find?]
    · simp [find?, h, ih]

theorem find?_eq_some_iff {key : String} {a : α} {entries : List (String × α)} :
    find? key entries = some a ↔
      ∃ earlier later, entries = earlier ++ (key, a) :: later ∧ ∀ b, (key, b) ∉ earlier := by
  induction entries with
  | nil => simp
  | cons entry rest ih =>
    obtain ⟨l, b⟩ := entry
    rw [find?]
    by_cases h : key = l
    · subst h
      rw [if_pos rfl]
      constructor
      · rintro ⟨⟩
        exact ⟨[], rest, rfl, nofun⟩
      · rintro ⟨_ | ⟨first, others⟩, later, heq, hnot⟩
        · cases heq
          rfl
        · cases heq
          exact absurd List.mem_cons_self (hnot b)
    · rw [if_neg h, ih]
      constructor
      · rintro ⟨earlier, later, rfl, hnot⟩
        refine ⟨(l, b) :: earlier, later, rfl, fun c hc => ?_⟩
        rcases List.mem_cons.mp hc with heq | hc
        · exact h (congrArg Prod.fst heq)
        · exact hnot c hc
      · rintro ⟨_ | ⟨first, others⟩, later, heq, hnot⟩
        · cases heq
          exact absurd rfl h
        · cases heq
          exact ⟨others, later, rfl, fun c hc => hnot c (List.mem_cons_of_mem _ hc)⟩

theorem find?_eq_none_iff {key : String} {entries : List (String × α)} :
    find? key entries = none ↔ ∀ a, (key, a) ∉ entries := by
  induction entries with
  | nil => simp
  | cons entry rest ih =>
    obtain ⟨l, b⟩ := entry
    by_cases h : key = l
    · subst h
      rw [find?, if_pos rfl]
      exact iff_of_false nofun fun hnot => hnot b List.mem_cons_self
    · simp [find?, h, ih]

theorem isSome_find?_iff {key : String} {entries : List (String × α)} :
    (find? key entries).isSome = true ↔ key ∈ keys entries := by
  induction entries with
  | nil => simp [keys]
  | cons entry rest ih =>
    obtain ⟨l, b⟩ := entry
    by_cases h : key = l
    · simp [find?, keys, h]
    · rw [find?, if_neg h, ih]
      simp [keys, h]

theorem find?_of_not_mem_keys {key : String} {entries : List (String × α)}
    (h : key ∉ keys entries) : find? key entries = none := by
  rwa [← isSome_find?_iff, Bool.not_eq_true, Option.isSome_eq_false_iff,
    Option.isNone_iff_eq_none] at h

theorem find?_of_mem {key : String} {a : α} {entries : List (String × α)}
    (hkeys : (keys entries).Nodup) (h : (key, a) ∈ entries) : find? key entries = some a := by
  obtain ⟨earlier, later, rfl⟩ := List.mem_iff_append.mp h
  refine find?_eq_some_iff.mpr ⟨earlier, later, rfl, fun b hb => ?_⟩
  rw [keys, List.map_append, List.nodup_append] at hkeys
  exact hkeys.2.2 key (List.mem_map_of_mem hb) key List.mem_cons_self rfl

theorem find?_insert (key k : String) (a : α) (entries : List (String × α)) :
    find? k (insert key a entries) = if k = key then some a else find? k entries := by
  induction entries with
  | nil => by_cases h : k = key <;> simp [insert, find?, h]
  | cons entry rest ih =>
    obtain ⟨l, b⟩ := entry
    by_cases hlt : key < l
    · simp [insert, hlt, find?]
    · by_cases heq : key = l
      · subst heq
        by_cases h : k = key <;> simp [insert, find?, h]
      · by_cases hk : k = l
        · subst hk
          simp [insert, hlt, heq, find?, Ne.symm heq]
        · simp [insert, hlt, heq, find?, hk, ih]

theorem find?_modify (key k : String) (f : α → α) (entries : List (String × α)) :
    find? k (modify key f entries) =
      if k = key then (find? k entries).map f else find? k entries := by
  induction entries with
  | nil => simp [modify]
  | cons entry rest ih =>
    obtain ⟨l, b⟩ := entry
    by_cases hkey : key = l
    · subst hkey
      by_cases h : k = key <;> simp [modify, find?, h]
    · by_cases hk : k = l
      · subst hk
        simp [modify, find?, hkey, Ne.symm hkey]
      · simp [modify, find?, hkey, hk, ih]

@[simp] theorem keys_modify (key : String) (f : α → α) (entries : List (String × α)) :
    keys (modify key f entries) = keys entries := by
  induction entries with
  | nil => rfl
  | cons entry rest ih =>
    obtain ⟨l, b⟩ := entry
    by_cases h : key = l <;> simp_all [modify, keys]

theorem modify_of_find?_eq_none {key : String} {entries : List (String × α)}
    (h : find? key entries = none) (f : α → α) : modify key f entries = entries := by
  induction entries with
  | nil => rfl
  | cons entry rest ih =>
    obtain ⟨l, b⟩ := entry
    by_cases hkey : key = l
    · simp [find?, hkey] at h
    · rw [find?, if_neg hkey] at h
      rw [modify, if_neg hkey, ih h]

theorem modify_id (key : String) (entries : List (String × α)) :
    modify key (fun a => a) entries = entries := by
  induction entries with
  | nil => rfl
  | cons entry rest ih => simp [modify, ih]

theorem modify_modify (key : String) (f g : α → α) (entries : List (String × α)) :
    modify key g (modify key f entries) = modify key (fun a => g (f a)) entries := by
  induction entries with
  | nil => rfl
  | cons entry rest ih =>
    obtain ⟨l, b⟩ := entry
    by_cases h : key = l <;> simp [modify, h, ih]

theorem modify_comm {key other : String} (h : key ≠ other) (f g : α → α)
    (entries : List (String × α)) :
    modify key f (modify other g entries) = modify other g (modify key f entries) := by
  induction entries with
  | nil => rfl
  | cons entry rest ih =>
    obtain ⟨l, b⟩ := entry
    by_cases hkey : key = l
    · subst hkey
      simp [modify, Ne.symm h]
    · by_cases hother : other = l <;> simp [modify, hkey, hother, ih]

/-- Changes of an entry that look alike under `p` leave entries that look alike. -/
theorem map_modify_congr {key : String} {f g : α → α} {p : α → β} {entries : List (String × α)}
    (h : ∀ a, find? key entries = some a → p (f a) = p (g a)) :
    (modify key f entries).map (fun entry => (entry.1, p entry.2)) =
      (modify key g entries).map fun entry => (entry.1, p entry.2) := by
  induction entries with
  | nil => rfl
  | cons entry rest ih =>
    obtain ⟨l, b⟩ := entry
    by_cases hkey : key = l
    · subst hkey
      simp [modify, h b (by simp [find?])]
    · simp only [find?, if_neg hkey] at h
      simp [modify, hkey, ih h]

theorem mem_modify_of_ne {key : String} {f : α → α} {entries : List (String × α)}
    {entry : String × α} (h : entry.1 ≠ key) : entry ∈ modify key f entries ↔ entry ∈ entries := by
  have hne : ∀ a, entry ≠ (key, a) := fun a heq => h (congrArg Prod.fst heq)
  induction entries with
  | nil => rfl
  | cons head rest ih =>
    obtain ⟨l, b⟩ := head
    by_cases hkey : key = l
    · subst hkey
      simp [modify, hne]
    · simp [modify, hkey, ih]

theorem mem_insert {key : String} {a : α} {entries : List (String × α)} {entry : String × α} :
    entry ∈ insert key a entries → entry = (key, a) ∨ entry ∈ entries := by
  induction entries with
  | nil => simp [insert]
  | cons head rest ih =>
    obtain ⟨l, b⟩ := head
    by_cases hlt : key < l
    · simp [insert, hlt]
    · by_cases heq : key = l <;> grind [insert]

theorem sorted_insert {key : String} {a : α} {entries : List (String × α)} (h : Sorted entries) :
    Sorted (insert key a entries) := by
  induction entries with
  | nil => simp [insert, Sorted]
  | cons head rest ih =>
    obtain ⟨l, b⟩ := head
    obtain ⟨hhead, hrest⟩ := List.pairwise_cons.mp h
    by_cases hlt : key < l
    · rw [insert, if_pos hlt]
      refine List.pairwise_cons.mpr ⟨fun entry hentry => ?_, h⟩
      rcases List.mem_cons.mp hentry with rfl | hentry
      · exact hlt
      · exact String.lt_trans hlt (hhead entry hentry)
    · by_cases heq : key = l
      · subst heq
        rw [insert, if_neg hlt, if_pos rfl]
        exact List.pairwise_cons.mpr ⟨hhead, hrest⟩
      · rw [insert, if_neg hlt, if_neg heq]
        refine List.pairwise_cons.mpr ⟨fun entry hentry => ?_, ih hrest⟩
        rcases mem_insert hentry with rfl | hentry
        · exact String.not_le.mp fun hle => heq (String.le_antisymm hle (String.not_lt.mp hlt))
        · exact hhead entry hentry

theorem sorted_ofList (pairs : List (String × α)) : Sorted (ofList pairs) := by
  suffices ∀ entries : List (String × α), Sorted entries →
      Sorted (pairs.foldl (fun entries pair => insert pair.1 pair.2 entries) entries) from
    this [] List.Pairwise.nil
  induction pairs with
  | nil => exact fun _ h => h
  | cons pair rest ih => exact fun entries h => ih _ (sorted_insert h)

theorem find?_ofList (key : String) (pairs : List (String × α)) :
    find? key (ofList pairs) = find? key pairs.reverse := by
  have hfold : ∀ entries : List (String × α),
      find? key (pairs.foldl (fun entries pair => insert pair.1 pair.2 entries) entries) =
        (find? key pairs.reverse).or (find? key entries) := by
    induction pairs with
    | nil => exact fun _ => rfl
    | cons pair rest ih =>
      intro entries
      rw [List.foldl_cons, ih, find?_insert, List.reverse_cons, find?_append, Option.or_assoc]
      congr 1
      by_cases h : key = pair.1 <;> simp [find?, h]
  rw [ofList, hfold, find?_nil, Option.or_none]

theorem find?_ofList_map (key : String) (f : α → β) (pairs : List (String × α)) :
    find? key (ofList (pairs.map fun pair => (pair.1, f pair.2))) =
      (find? key (ofList pairs)).map f := by
  rw [find?_ofList, find?_ofList, ← List.map_reverse, find?_map key fun _ => f]

theorem insertNew_of_some {key : String} {a b : α} {entries : List (String × α)}
    (h : find? key entries = some b) : insertNew key a entries = entries := by
  rw [insertNew, h]

theorem insertNew_of_none {key : String} {a : α} {entries : List (String × α)}
    (h : find? key entries = none) : insertNew key a entries = insert key a entries := by
  rw [insertNew, h]

theorem find?_insertNew (key k : String) (a : α) (entries : List (String × α)) :
    find? k (insertNew key a entries) =
      (find? k entries).or (if k = key then some a else none) := by
  cases h : find? key entries with
  | some b =>
    rw [insertNew_of_some h]
    by_cases hk : k = key
    · rw [hk, h, Option.some_or]
    · rw [if_neg hk, Option.or_none]
  | none =>
    rw [insertNew_of_none h, find?_insert]
    by_cases hk : k = key
    · rw [if_pos hk, if_pos hk, hk, h, Option.none_or]
    · rw [if_neg hk, if_neg hk, Option.or_none]

theorem sorted_insertNew {key : String} {a : α} {entries : List (String × α)}
    (h : Sorted entries) : Sorted (insertNew key a entries) := by
  rw [insertNew]
  split
  · exact h
  · exact sorted_insert h

theorem find?_reverse {entries : List (String × α)} (hkeys : (keys entries).Nodup) (key : String) :
    find? key entries.reverse = find? key entries := by
  cases h : find? key entries with
  | none =>
    rw [find?_eq_none_iff] at h ⊢
    intro a ha
    exact h a (List.mem_reverse.mp ha)
  | some a =>
    obtain ⟨earlier, later, rfl, -⟩ := find?_eq_some_iff.mp h
    refine find?_of_mem ?_ (by simp)
    rw [keys, List.map_reverse]
    exact List.pairwise_reverse.mpr (hkeys.imp Ne.symm)

theorem find?_filter (key : String) (p : String → Bool) (entries : List (String × α)) :
    find? key (entries.filter fun entry => p entry.1) =
      if p key then find? key entries else none := by
  induction entries with
  | nil => simp
  | cons entry rest ih =>
    obtain ⟨l, b⟩ := entry
    by_cases h : key = l
    · subst h
      cases hp : p key <;> simp [hp, find?, ih]
    · cases hp : p l <;> simp [hp, find?, h, ih]

theorem mem_iff_find? {entries : List (String × α)} (hkeys : (keys entries).Nodup) {key : String}
    {a : α} : (key, a) ∈ entries ↔ find? key entries = some a := by
  constructor
  · exact find?_of_mem hkeys
  · intro h
    obtain ⟨earlier, later, rfl, -⟩ := find?_eq_some_iff.mp h
    exact List.mem_append_right _ List.mem_cons_self

theorem sorted_iff {entries : List (String × α)} :
    Sorted entries ↔ (keys entries).Pairwise (· < ·) := by
  rw [keys, List.pairwise_map]
  rfl

theorem Sorted.nodup_keys {entries : List (String × α)} (h : Sorted entries) :
    (keys entries).Nodup := by
  refine (sorted_iff.mp h).imp ?_
  rintro key _ hlt rfl
  exact String.lt_irrefl key hlt

theorem filter_key {entries : List (String × α)} (hkeys : (keys entries).Nodup) (key : String) :
    entries.filter (fun entry => entry.1 == key) =
      ((find? key entries).map fun a => (key, a)).toList := by
  induction entries with
  | nil => rfl
  | cons entry rest ih =>
    obtain ⟨l, b⟩ := entry
    obtain ⟨hl, hrest⟩ := List.nodup_cons.mp hkeys
    by_cases h : key = l
    · subst h
      have hnone : find? key rest = none := find?_of_not_mem_keys hl
      simp [ih hrest, hnone, find?]
    · rw [List.filter_cons_of_neg (by simpa using Ne.symm h), ih hrest, find?, if_neg h]

theorem eq_of_find?_eq {entries others : List (String × α)} (h : Sorted entries)
    (h' : Sorted others) (hfind : ∀ key, find? key entries = find? key others) :
    entries = others := by
  have hmem : ∀ entry, entry ∈ entries ↔ entry ∈ others := by
    rintro ⟨key, a⟩
    rw [mem_iff_find? h.nodup_keys, mem_iff_find? h'.nodup_keys, hfind]
  have hnodup : ∀ {entries : List (String × α)}, Sorted entries → entries.Nodup := by
    intro entries hsorted
    refine hsorted.imp ?_
    rintro entry _ hlt rfl
    exact String.lt_irrefl _ hlt
  have hperm : entries.Perm others := (List.perm_ext_iff_of_nodup (hnodup h) (hnodup h')).mpr hmem
  refine hperm.eq_of_pairwise ?_ h h'
  intro entry other _ _ hlt hgt
  exact absurd (String.lt_trans hlt hgt) (String.lt_irrefl _)

end QueryLayer.Entries
