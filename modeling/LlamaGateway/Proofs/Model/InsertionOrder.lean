import LlamaGateway.Model.AliasTable
import Mathlib.Data.List.Nodup

/-!
# Insertion order of the alias table

A table is known from what was inserted into it: every alias stands once, where it was inserted
first and with the model that it was given last. Looking up and resolving follow from that list
alone, and a resource that an identifier resolves to resolves again.
-/

namespace LlamaGateway

namespace AliasTable

/-- The aliases of a table, in order. -/
def aliases (table : AliasTable) : List String :=
  table.entries.map Prod.fst

/-- The model that insertions give an alias last. -/
def lastModel? (inserted : List (String × ModelTarget)) (name : String) : Option ModelTarget :=
  inserted.reverse.lookup name

/-- The aliases of insertions in the order of their first one, each with its last model. -/
def inOrder (inserted : List (String × ModelTarget)) : List (String × ModelTarget) :=
  (inserted.map Prod.fst).eraseDups.filterMap fun name =>
    (lastModel? inserted name).map (name, ·)

/-- The table that insertions make. -/
structure Records (inserted : List (String × ModelTarget)) (table : AliasTable) : Prop where
  /-- The aliases stand in the order of their first insertion. -/
  aliases_eq : table.aliases = (inserted.map Prod.fst).eraseDups
  /-- Each alias has the model of its last insertion. -/
  lookup_eq (name : String) : table.entries.lookup name = lastModel? inserted name

variable {table : AliasTable} {inserted : List (String × ModelTarget)}

theorem eraseDups_eq_self {names : List String} (distinct : names.Nodup) :
    names.eraseDups = names := by
  induction names with
  | nil => rfl
  | cons name names induction =>
    obtain ⟨new, later⟩ := List.nodup_cons.1 distinct
    have kept : (names.filter fun other => !other == name) = names := by
      refine List.filter_eq_self.2 fun other member => ?_
      simpa using fun same : other = name => new (same ▸ member)
    rw [List.eraseDups_cons, kept, induction later]

theorem lookup_cons_of_ne {name first : String} (other : name ≠ first) (model : ModelTarget)
    (entries : List (String × ModelTarget)) :
    ((first, model) :: entries).lookup name = entries.lookup name := by
  rw [List.lookup_cons, beq_eq_false_iff_ne.2 other]

theorem lookup_eq_none_of_new {name : String} {entries : List (String × ModelTarget)}
    (new : name ∉ entries.map Prod.fst) : entries.lookup name = none := by
  refine List.lookup_eq_none_iff.2 fun entry member => ?_
  simpa using fun same : name = entry.1 => new (same ▸ List.mem_map_of_mem member)

/-- Without repeated aliases it makes no difference from which end entries are looked through. -/
theorem lookup_reverse {entries : List (String × ModelTarget)}
    (distinct : (entries.map Prod.fst).Nodup) (name : String) :
    entries.reverse.lookup name = entries.lookup name := by
  induction entries with
  | nil => rfl
  | cons entry entries induction =>
    obtain ⟨first, model⟩ := entry
    obtain ⟨new, later⟩ := List.nodup_cons.1 distinct
    rw [List.reverse_cons, List.lookup_append, induction later]
    by_cases same : name = first
    · subst same
      rw [lookup_eq_none_of_new new, Option.none_or, List.lookup_cons_self, List.lookup_cons_self]
    · rw [lookup_cons_of_ne same, lookup_cons_of_ne same, List.lookup_nil, Option.or_none]

/-- Distinct entries are the looked-up models of their aliases. -/
theorem filterMap_lookup {entries : List (String × ModelTarget)}
    (distinct : (entries.map Prod.fst).Nodup) :
    ((entries.map Prod.fst).filterMap fun name => (entries.lookup name).map (name, ·)) =
      entries := by
  induction entries with
  | nil => rfl
  | cons entry entries induction =>
    obtain ⟨first, model⟩ := entry
    obtain ⟨new, later⟩ := List.nodup_cons.1 distinct
    have behind : ((entries.map Prod.fst).filterMap fun name =>
        (((first, model) :: entries).lookup name).map (name, ·)) = entries := by
      refine (List.filterMap_congr fun name member => ?_).trans (induction later)
      have other : name ≠ first := fun same => new (same ▸ member)
      rw [lookup_cons_of_ne other]
    rw [List.map_cons, List.filterMap_cons, List.lookup_cons_self, Option.map_some, behind]

/-- A table is made by inserting its own entries. -/
theorem records_entries (table : AliasTable) : Records table.entries table where
  aliases_eq := (eraseDups_eq_self table.distinct).symm
  lookup_eq name := (lookup_reverse table.distinct name).symm

theorem Records.entries_eq (records : Records inserted table) :
    table.entries = inOrder inserted := by
  have listed := filterMap_lookup table.distinct
  rw [inOrder, ← records.aliases_eq, ← funext records.lookup_eq]
  exact listed.symm

variable {name : String} (model : ModelTarget)

theorem aliases_insert_of_mem (known : name ∈ table.aliases) :
    (table.insert name model).aliases = table.aliases := by
  simp only [aliases, insert] at known ⊢
  generalize table.entries = entries at known ⊢
  induction entries with
  | nil => cases known
  | cons entry entries induction =>
    obtain ⟨first, held⟩ := entry
    rw [putEntry]
    split
    · next same => rw [List.map_cons, List.map_cons, same]
    · next other =>
      have later := (List.mem_cons.1 known).resolve_left (Ne.symm other)
      rw [List.map_cons, List.map_cons, induction later]

theorem aliases_insert_of_not_mem (new : name ∉ table.aliases) :
    (table.insert name model).aliases = table.aliases ++ [name] := by
  simp only [aliases, insert] at new ⊢
  generalize table.entries = entries at new ⊢
  induction entries with
  | nil => rfl
  | cons entry entries induction =>
    obtain ⟨first, held⟩ := entry
    obtain ⟨other, later⟩ := List.ne_and_not_mem_of_not_mem_cons new
    rw [putEntry, if_neg (Ne.symm other), List.map_cons, List.map_cons, induction later,
      List.cons_append]

theorem lookup_insert (name other : String) :
    (table.insert name model).entries.lookup other =
      if other = name then some model else table.entries.lookup other := by
  simp only [insert]
  generalize table.entries = entries
  induction entries with
  | nil =>
    rw [putEntry]
    by_cases asked : other = name
    · rw [asked, List.lookup_cons_self, if_pos rfl]
    · rw [lookup_cons_of_ne asked, if_neg asked]
  | cons entry entries induction =>
    obtain ⟨first, held⟩ := entry
    rw [putEntry]
    by_cases same : first = name
    · subst same
      rw [if_pos rfl]
      by_cases asked : other = first
      · rw [asked, List.lookup_cons_self, if_pos rfl]
      · rw [lookup_cons_of_ne asked, lookup_cons_of_ne asked, if_neg asked]
    · rw [if_neg same]
      by_cases asked : other = first
      · rw [asked, List.lookup_cons_self, List.lookup_cons_self, if_neg same]
      · rw [lookup_cons_of_ne asked, lookup_cons_of_ne asked, induction]

/-- One more insertion is recorded behind those before it. -/
theorem Records.insert (records : Records inserted table) (name : String) :
    Records (inserted ++ [(name, model)]) (table.insert name model) where
  aliases_eq := by
    have known_iff : name ∈ table.aliases ↔ name ∈ inserted.map Prod.fst := by
      rw [records.aliases_eq, List.mem_eraseDups]
    rw [List.map_append, List.eraseDups_append, ← records.aliases_eq, List.map_singleton]
    by_cases known : name ∈ table.aliases
    · have old : [name].removeAll (inserted.map Prod.fst) = [] := by
        simp [List.removeAll, known_iff.1 known]
      rw [aliases_insert_of_mem model known, old, List.eraseDups_nil, List.append_nil]
    · have new : [name].removeAll (inserted.map Prod.fst) = [name] := by
        simp [List.removeAll, mt known_iff.2 known]
      rw [aliases_insert_of_not_mem model known, new]
      rfl
  lookup_eq other := by
    rw [lookup_insert, records.lookup_eq, lastModel?, lastModel?, List.reverse_append,
      List.reverse_singleton, List.singleton_append]
    by_cases same : other = name
    · rw [same, if_pos rfl, List.lookup_cons_self]
    · rw [if_neg same, lookup_cons_of_ne same]

/-- A run of insertions is recorded as a whole. -/
theorem Records.insertAll (records : Records inserted table)
    (steps : List (String × ModelTarget)) :
    Records (inserted ++ steps) (table.insertAll steps) := by
  induction steps generalizing inserted table with
  | nil =>
    rw [List.append_nil]
    exact records
  | cons step steps induction =>
    obtain ⟨name, model⟩ := step
    have later := induction (records.insert model name)
    rw [List.append_assoc, List.singleton_append] at later
    exact later

/-- An alias comes before all resource identifiers. -/
theorem find?_eq_or (table : AliasTable) (identifier : String) :
    table.find? identifier = (table.entries.lookup identifier).or
      ((table.entries.map Prod.snd).find? fun model => model.resource = identifier) := by
  rw [find?]
  cases table.entries.lookup identifier <;> rfl

theorem target_eq_ok_iff {identifier : String} {model : ModelTarget} :
    table.target identifier = .ok model ↔ table.find? identifier = some model := by
  rw [target]
  cases table.find? identifier <;> simp

theorem target_eq_error_iff {identifier : String} {failure : InferenceError} :
    table.target identifier = .error failure ↔
      table.find? identifier = none ∧ failure = .unknownModel identifier := by
  rw [target]
  cases table.find? identifier <;> simp [eq_comm]

theorem find?_insert_self (table : AliasTable) (name : String) :
    (table.insert name model).find? name = some model := by
  rw [find?_eq_or, lookup_insert, if_pos rfl, Option.some_or]

theorem find?_insert_of_ne {other : String} (known : other ∈ table.aliases)
    (different : other ≠ name) : (table.insert name model).find? other = table.find? other := by
  have held : (table.entries.lookup other).isSome := by
    refine List.lookup_isSome_iff.2 ?_
    obtain ⟨entry, member, rfl⟩ := List.mem_map.1 known
    exact ⟨entry, member, beq_self_eq_true _⟩
  obtain ⟨found, lookup⟩ := Option.isSome_iff_exists.1 held
  rw [find?_eq_or, find?_eq_or, lookup_insert, if_neg different, lookup, Option.some_or,
    Option.some_or]

theorem mem_models_of_find? {identifier : String} {model : ModelTarget}
    (found : table.find? identifier = some model) : model ∈ table.entries.map Prod.snd := by
  rw [find?_eq_or, Option.or_eq_some_iff] at found
  rcases found with isAlias | ⟨-, isResource⟩
  · obtain ⟨before, behind, whole, -⟩ := List.lookup_eq_some_iff.1 isAlias
    rw [whole]
    simp
  · exact List.mem_of_find?_eq_some isResource

/-- The resource of a found model is found again, and if it is no alias, then as itself. -/
theorem find?_resource {identifier : String} {model : ModelTarget}
    (found : table.find? identifier = some model) :
    ∃ again, table.find? model.resource = some again ∧
      (model.resource ∉ table.aliases → again.resource = model.resource) := by
  rw [find?_eq_or]
  cases held : table.entries.lookup model.resource with
  | some again =>
    refine ⟨again, rfl, fun noAlias => ?_⟩
    rw [lookup_eq_none_of_new noAlias] at held
    cases held
  | none =>
    have present : ((table.entries.map Prod.snd).find? fun other =>
        other.resource = model.resource).isSome := by
      rw [List.find?_isSome]
      exact ⟨model, mem_models_of_find? found, decide_eq_true rfl⟩
    obtain ⟨again, first⟩ := Option.isSome_iff_exists.1 present
    refine ⟨again, ?_, fun _ => ?_⟩
    · rw [Option.none_or, first]
    · simpa using List.find?_some first

/-- A table behaves as the ordered map of what was inserted. -/
structure OrderedMapOf (inserted : List (String × ModelTarget)) (table : AliasTable) : Prop where
  /-- Each alias stands once. -/
  once : table.aliases.Nodup
  /-- The aliases stand where they were inserted first, with the models they were given last. -/
  listed : table.entries = inOrder inserted
  /-- An identifier stands for the last model of the alias, or else for the first listed model with
  that resource. -/
  found (identifier : String) : table.find? identifier =
    (lastModel? inserted identifier).or
      (((inOrder inserted).map Prod.snd).find? fun model => model.resource = identifier)
  /-- What is found is resolved. -/
  known {identifier : String} {model : ModelTarget} :
    table.target identifier = .ok model ↔ table.find? identifier = some model
  /-- What is not found is an unknown model of that name, and nothing else is an error. -/
  unknown {identifier : String} {failure : InferenceError} :
    table.target identifier = .error failure ↔
      table.find? identifier = none ∧ failure = .unknownModel identifier
  /-- One more insertion sets its alias. -/
  replaced (name : String) (model : ModelTarget) :
    (table.insert name model).find? name = some model
  /-- One more insertion leaves the other aliases as they are. -/
  kept (name : String) (model : ModelTarget) : ∀ other ∈ table.aliases, other ≠ name →
    (table.insert name model).find? other = table.find? other
  /-- The resource of a resolved identifier resolves, and if it is no alias, then to itself. -/
  closed {identifier : String} {model : ModelTarget}
    (resolved : table.target identifier = .ok model) : ∃ again,
      table.target model.resource = .ok again ∧
        (model.resource ∉ table.aliases → again.resource = model.resource)

theorem Records.orderedMapOf (records : Records inserted table) : OrderedMapOf inserted table where
  once := table.distinct
  listed := records.entries_eq
  found identifier := by
    rw [find?_eq_or, records.lookup_eq, records.entries_eq]
  known := target_eq_ok_iff
  unknown := target_eq_error_iff
  replaced name model := find?_insert_self model table name
  kept _ model _ known different := find?_insert_of_ne model known different
  closed resolved := by
    obtain ⟨again, found, same⟩ := find?_resource (target_eq_ok_iff.1 resolved)
    exact ⟨again, target_eq_ok_iff.2 found, same⟩

end AliasTable

/-- Whatever is inserted into a table, it is the ordered map of all that was inserted, and so is the
table of a configuration, whose models come behind the hosted ones. -/
theorem alias_table_is_ordered_map (table : AliasTable) (steps : List (String × ModelTarget)) :
    AliasTable.OrderedMapOf (table.entries ++ steps) (table.insertAll steps) ∧
      AliasTable.OrderedMapOf (AliasTable.hosted.entries ++ steps)
        (AliasTable.hostedWith steps) :=
  ⟨(table.records_entries.insertAll steps).orderedMapOf,
    (AliasTable.hosted.records_entries.insertAll steps).orderedMapOf⟩

/-- A new alias, and one that takes the place of a hosted one. -/
def houseModels : List (String × ModelTarget) :=
  [("house-model", ⟨"accounts/acme/models/tuned-8b", .llama31⟩),
    ("Llama3.1-8B-Instruct", ⟨"accounts/acme/models/pinned-8b", .llama31⟩)]

/-- The replaced alias stays in front, and the hosted resource is still known by its other alias. -/
theorem alias_table_is_ordered_map_houseModels :
    (AliasTable.hosted.insertAll houseModels).entries.head? =
        some ("Llama3.1-8B-Instruct", ⟨"accounts/acme/models/pinned-8b", .llama31⟩) ∧
      (AliasTable.hosted.insertAll houseModels).target
          "accounts/fireworks/models/llama-v3p1-8b-instruct" =
        .ok ⟨"accounts/fireworks/models/llama-v3p1-8b-instruct", .llama31⟩ := by
  have isMap := (alias_table_is_ordered_map AliasTable.hosted houseModels).1
  refine ⟨?_, isMap.known.2 ?_⟩
  · rw [isMap.listed]
    decide +kernel
  · rw [isMap.found]
    decide +kernel

end LlamaGateway
