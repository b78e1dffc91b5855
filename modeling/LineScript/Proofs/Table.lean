import LineScript.Table

/-! # Tables with distinct names

A table that is built up by `put` and `erase` holds every name once, so what it finds under a name
is the only entry of that name.
-/

namespace LineScript

namespace Table

variable {α : Type}

def Distinct (entries : List (Text × α)) : Prop :=
  (entries.map (·.1)).Nodup

theorem mem_putEntry {name other : Text} {value : α} {entries : List (Text × α)} :
    other ∈ (putEntry name value entries).map (·.1) ↔
      other = name ∨ other ∈ entries.map (·.1) := by
  induction entries with
  | nil => simp [putEntry]
  | cons entry rest ih =>
      rw [putEntry]
      split
      · rename_i h
        simp [h]
      · simp only [List.map_cons, List.mem_cons, ih]
        exact or_left_comm

theorem distinct_putEntry (name : Text) (value : α) {entries : List (Text × α)}
    (h : Distinct entries) : Distinct (putEntry name value entries) := by
  induction entries with
  | nil => simp [putEntry, Distinct]
  | cons entry rest ih =>
      obtain ⟨hnot, hrest⟩ := List.nodup_cons.1 h
      rw [putEntry]
      split
      · rename_i hname
        rw [← hname]
        exact List.nodup_cons.2 ⟨hnot, hrest⟩
      · rename_i hname
        refine List.nodup_cons.2 ⟨?_, ih hrest⟩
        rw [mem_putEntry]
        rintro (heq | hmem)
        · exact hname heq
        · exact hnot hmem

theorem distinct_filter {entries : List (Text × α)} (p : Text × α → Bool)
    (h : Distinct entries) : Distinct (entries.filter p) :=
  h.sublist (List.filter_sublist.map _)

theorem lookup_of_mem {entries : List (Text × α)} (h : Distinct entries)
    {entry : Text × α} (hmem : entry ∈ entries) : lookup entry.1 entries = some entry.2 := by
  induction entries with
  | nil => cases hmem
  | cons first rest ih =>
      obtain ⟨hnot, hrest⟩ := List.nodup_cons.1 h
      rcases List.mem_cons.1 hmem with rfl | hmem
      · simp [lookup]
      · have hne : first.1 ≠ entry.1 := by
          intro heq
          apply hnot
          change first.1 ∈ rest.map (·.1)
          rw [heq]
          exact List.mem_map_of_mem hmem
        rw [lookup, if_neg hne]
        exact ih hrest hmem

theorem putEntry_putEntry (name : Text) (first second : α) (entries : List (Text × α)) :
    putEntry name second (putEntry name first entries) = putEntry name second entries := by
  induction entries with
  | nil => simp [putEntry]
  | cons entry rest ih =>
      by_cases h : entry.1 = name
      · simp [putEntry, h]
      · simp [putEntry, h, ih]

/-- A name that is there already keeps its place, so it can be set before or after another one. -/
theorem putEntry_comm {name other : Text} (hne : name ≠ other) (value more : α)
    {entries : List (Text × α)} (h : name ∈ entries.map (·.1)) :
    putEntry name value (putEntry other more entries) =
      putEntry other more (putEntry name value entries) := by
  induction entries with
  | nil => cases h
  | cons entry rest ih =>
      by_cases hname : entry.1 = name
      · simp [putEntry, hname, hne]
      · by_cases hother : entry.1 = other
        · simp [putEntry, hother, hne.symm]
        · have hrest : name ∈ rest.map (·.1) := by
            rcases List.mem_cons.1 h with heq | hrest
            · exact absurd heq.symm hname
            · exact hrest
          simp [putEntry, hname, hother, ih hrest]

theorem update_comm {name : Text} (value : α) {more : List (Text × α)} {table : Table α}
    (hnot : name ∉ more.map (·.1)) (h : name ∈ table.entries.map (·.1)) :
    (table.update ⟨more⟩).put name value = (table.put name value).update ⟨more⟩ := by
  induction more generalizing table with
  | nil => rfl
  | cons entry more ih =>
      rw [List.map_cons, List.mem_cons, not_or] at hnot
      have hcomm : (table.put entry.1 entry.2).put name value =
          (table.put name value).put entry.1 entry.2 :=
        congrArg Table.mk (putEntry_comm hnot.1 value entry.2 h)
      have hmem : name ∈ (table.put entry.1 entry.2).entries.map (·.1) :=
        mem_putEntry.2 (.inr h)
      change ((table.put entry.1 entry.2).update ⟨more⟩).put name value =
        ((table.put name value).put entry.1 entry.2).update ⟨more⟩
      rw [ih hnot.2 hmem, hcomm]

/-- What is set last in `more` can as well be set last of all. -/
theorem update_put (table : Table α) {more : Table α} (h : Distinct more.entries) (name : Text)
    (value : α) : table.update (more.put name value) = (table.update more).put name value := by
  obtain ⟨entries⟩ := more
  induction entries generalizing table with
  | nil => rfl
  | cons entry rest ih =>
      obtain ⟨hnot, hrest⟩ := List.nodup_cons.1 h
      by_cases hname : entry.1 = name
      · have hput : (⟨entry :: rest⟩ : Table α).put name value = ⟨(name, value) :: rest⟩ := by
          simp [put, putEntry, hname]
        have hmem : name ∈ (table.put entry.1 entry.2).entries.map (·.1) :=
          mem_putEntry.2 (.inl hname.symm)
        have hsame : (table.put entry.1 entry.2).put name value = table.put name value := by
          rw [hname]
          exact congrArg Table.mk (putEntry_putEntry name entry.2 value table.entries)
        rw [hput]
        change (table.put name value).update ⟨rest⟩ =
          ((table.put entry.1 entry.2).update ⟨rest⟩).put name value
        rw [update_comm value (by rw [← hname]; exact hnot) hmem, hsame]
      · have hput : (⟨entry :: rest⟩ : Table α).put name value =
            ⟨entry :: ((⟨rest⟩ : Table α).put name value).entries⟩ := by
          simp [put, putEntry, hname]
        rw [hput]
        exact ih (table.put entry.1 entry.2) hrest

theorem mem_of_mem_putEntry {name : Text} {value : α} {entries : List (Text × α)}
    {entry : Text × α} (h : entry ∈ putEntry name value entries) :
    entry = (name, value) ∨ entry ∈ entries := by
  induction entries with
  | nil => exact .inl (List.mem_singleton.1 h)
  | cons first rest ih =>
      rw [putEntry] at h
      split at h
      · exact (List.mem_cons.1 h).imp_right (List.mem_cons_of_mem first)
      · rcases List.mem_cons.1 h with rfl | h
        · exact .inr List.mem_cons_self
        · exact (ih h).imp_right (List.mem_cons_of_mem first)

theorem mem_of_mem_update {table more : Table α} {entry : Text × α}
    (h : entry ∈ (table.update more).entries) : entry ∈ table.entries ∨ entry ∈ more.entries := by
  obtain ⟨entries⟩ := more
  induction entries generalizing table with
  | nil => exact .inl h
  | cons first rest ih =>
      have hput : entry ∈ ((table.put first.1 first.2).update ⟨rest⟩).entries := h
      rcases ih hput with h | h
      · rcases mem_of_mem_putEntry h with rfl | h
        · exact .inr List.mem_cons_self
        · exact .inl h
      · exact .inr (List.mem_cons_of_mem first h)

theorem distinct_update {table : Table α} (more : Table α) (h : Distinct table.entries) :
    Distinct (table.update more).entries := by
  obtain ⟨entries⟩ := more
  induction entries generalizing table with
  | nil => exact h
  | cons first rest ih => exact ih (distinct_putEntry first.1 first.2 h)

theorem lookup_eq_none {name : Text} {entries : List (Text × α)}
    (h : name ∉ entries.map (·.1)) : lookup name entries = none := by
  induction entries with
  | nil => rfl
  | cons entry rest ih =>
      rw [List.map_cons, List.mem_cons, not_or] at h
      rw [lookup, if_neg (Ne.symm h.1)]
      exact ih h.2

/-- What a table finds under a name is the latest that was set. -/
theorem get?_update (table : Table α) {more : Table α} (h : Distinct more.entries)
    (name : Text) : (table.update more).get? name = (more.get? name).or (table.get? name) := by
  obtain ⟨entries⟩ := more
  induction entries generalizing table with
  | nil => rfl
  | cons entry rest ih =>
      obtain ⟨hnot, hrest⟩ := List.nodup_cons.1 h
      have hlater : (table.update ⟨entry :: rest⟩).get? name =
          ((⟨rest⟩ : Table α).get? name).or ((table.put entry.1 entry.2).get? name) :=
        ih (table.put entry.1 entry.2) hrest
      rw [hlater, get?_put]
      unfold get?
      rw [lookup]
      split
      · rename_i hname
        rw [← hname, lookup_eq_none hnot]
        rfl
      · rfl

theorem mem_of_get? {table : Table α} {name : Text} {value : α}
    (h : table.get? name = some value) : (name, value) ∈ table.entries := by
  obtain ⟨entries⟩ := table
  induction entries with
  | nil => cases h
  | cons entry rest ih =>
      unfold get? at h
      rw [lookup] at h
      split at h
      · rename_i hname
        cases h
        rw [← hname]
        exact List.mem_cons_self
      · exact List.mem_cons_of_mem entry (ih h)

theorem get?_eq_some_iff {table : Table α} (h : Distinct table.entries) {name : Text}
    {value : α} : table.get? name = some value ↔ (name, value) ∈ table.entries :=
  ⟨mem_of_get?, lookup_of_mem h⟩

theorem mem_values_of_get? {table : Table α} {name : Text} {value : α}
    (h : table.get? name = some value) : value ∈ table.values :=
  List.mem_map_of_mem (mem_of_get? h)

end Table

end LineScript
