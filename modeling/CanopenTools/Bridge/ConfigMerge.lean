import CanopenTools.Mappings.Nested

/-!
# Merging a configuration with defaults

`merge` of `load_config`, which fills a configuration in place with what it leaves open, for any two
nested mappings. It goes along the entries of the defaults: a plain value is set unless its key is
there, and a mapping is merged into the mapping that is there, or into a new one. `merge` fails
where it has to go on in something that is not a mapping (`merge_error_iff`).

`Merged` says what a key, or a path, stands for after a merge. It holds of every key
(`merged_lookup`), and so of every path (`merged_get`).
-/

set_option autoImplicit false
set_option relaxedAutoImplicit false

namespace CanopenTools.Bridge

open Mappings

variable {κ υ : Type*} [DecidableEq κ]

/-! ### The function -/

/-- The `AttributeError` of a value without `setdefault`. -/
inductive AttributeError
  | noSetdefault
  deriving DecidableEq, Repr

/-- `merge(dst, src)` of `load_config`, on mappings. On a value that is not a mapping the loop over
an empty `src` does nothing, and otherwise its first `setdefault` fails. -/
def merge (dst : Mapping κ υ) : Mapping κ υ → Except AttributeError (Mapping κ υ)
  | .empty => .ok dst
  | .value key plain rest => merge (dst.setDefault key (.value plain)).2 rest
  | .node key child rest =>
    match dst.setDefault key (.mapping .empty) with
    | (.mapping node, dst) => do
      let node ← merge node child
      merge (dst.set key (.mapping node)) rest
    | (.value _, dst) =>
      match child with
      | .empty => merge dst rest
      | _ => .error .noSetdefault

/-! ### One entry of the defaults -/

/-- A mapping at a new key is merged into a new one. -/
theorem merge_node_of_none {dst : Mapping κ υ} {key : κ} (hkey : dst.lookup key = none)
    (child rest : Mapping κ υ) :
    merge dst (.node key child rest) =
      (merge .empty child).bind fun node ↦ merge (dst.set key (.mapping node)) rest := by
  have hset : ∀ node, (dst.set key (.mapping .empty)).set key (.mapping node) =
      dst.set key (.mapping node) := fun node ↦ dst.set_set key _ _
  simp only [merge, Mapping.setDefault, hkey, hset]
  rfl

/-- A mapping is merged into the mapping that is there. -/
theorem merge_node_of_mapping {dst node : Mapping κ υ} {key : κ}
    (hkey : dst.lookup key = some (.mapping node)) (child rest : Mapping κ υ) :
    merge dst (.node key child rest) =
      (merge node child).bind fun node ↦ merge (dst.set key (.mapping node)) rest := by
  simp only [merge, Mapping.setDefault, hkey]
  rfl

/-- An empty mapping asks nothing of the value that is there. -/
theorem merge_node_of_value_empty {dst : Mapping κ υ} {key : κ} {plain : υ}
    (hkey : dst.lookup key = some (.value plain)) (rest : Mapping κ υ) :
    merge dst (.node key .empty rest) = merge dst rest := by
  simp only [merge, Mapping.setDefault, hkey]

/-- Any other mapping fails on a value. -/
theorem merge_node_of_value {dst : Mapping κ υ} {key : κ} {plain : υ}
    (hkey : dst.lookup key = some (.value plain)) {child : Mapping κ υ} (hchild : child ≠ .empty)
    (rest : Mapping κ υ) : merge dst (.node key child rest) = .error .noSetdefault := by
  cases child with
  | empty => exact absurd rfl hchild
  | value => simp only [merge, Mapping.setDefault, hkey]
  | node => simp only [merge, Mapping.setDefault, hkey]

/-! ### Defaults that are new -/

omit [DecidableEq κ] in
/-- After the first of some new defaults has been added, the others are still new. -/
theorem disjoint_append_cons {dst rest : Mapping κ υ} {key : κ} (entry : Entry κ υ)
    (hfresh : key ∉ rest.keys) (hdisjoint : ∀ other ∈ key :: rest.keys, other ∉ dst.keys) :
    ∀ other ∈ rest.keys, other ∉ (dst.append (.cons key entry .empty)).keys := by
  intro other hother hmem
  rw [Mapping.keys_append, List.mem_append, Mapping.keys_cons] at hmem
  rcases hmem with hold | hnew
  · exact hdisjoint other (List.mem_cons_of_mem _ hother) hold
  · rw [List.mem_singleton.mp hnew] at hother
    exact hfresh hother

/-- Defaults of which no key is there are added at the end, as they are. -/
theorem merge_of_disjoint {dst src : Mapping κ υ} (hsrc : src.UniqueKeys)
    (hdisjoint : ∀ key ∈ src.keys, key ∉ dst.keys) : merge dst src = .ok (dst.append src) := by
  induction src generalizing dst with
  | empty => rw [merge, Mapping.append_empty]
  | value key plain rest ih =>
    obtain ⟨hfresh, hrest⟩ := hsrc
    have hnone : dst.lookup key = none :=
      (dst.lookup_eq_none_iff key).mpr (hdisjoint key List.mem_cons_self)
    have hlast : (dst.setDefault key (.value plain)).2 =
        dst.append (.cons key (.value plain) .empty) := by
      rw [Mapping.setDefault, hnone]
      exact Mapping.set_of_lookup_eq_none hnone _
    rw [merge, hlast, ih hrest (disjoint_append_cons _ hfresh hdisjoint), Mapping.append_assoc]
    rfl
  | node key child rest ihchild ih =>
    obtain ⟨hfresh, hchild, hrest⟩ := hsrc
    have hnone : dst.lookup key = none :=
      (dst.lookup_eq_none_iff key).mpr (hdisjoint key List.mem_cons_self)
    have hnew : merge .empty child = .ok child := ihchild hchild fun _ _ ↦ List.not_mem_nil
    rw [merge_node_of_none hnone, hnew]
    change merge (dst.set key (.mapping child)) rest = _
    rw [Mapping.set_of_lookup_eq_none hnone,
      ih hrest (disjoint_append_cons _ hfresh hdisjoint), Mapping.append_assoc]
    rfl

/-- A new mapping is filled with the defaults as they are. -/
theorem merge_empty_left {src : Mapping κ υ} (hsrc : src.UniqueKeys) : merge .empty src = .ok src :=
  merge_of_disjoint hsrc fun _ _ ↦ List.not_mem_nil

/-! ### When the merge fails -/

/-- Along some path the defaults go on in a mapping with entries where a plain value is. -/
def Clash (dst src : Option (Entry κ υ)) : Prop :=
  ∃ path child plain, (src.bind fun entry ↦ entry.get path) = some (.mapping child) ∧
    child ≠ .empty ∧ (dst.bind fun entry ↦ entry.get path) = some (.value plain)

theorem not_clash_none_left (src : Option (Entry κ υ)) : ¬ Clash none src := by
  rintro ⟨path, child, plain, -, -, hdst⟩
  cases hdst

theorem not_clash_none_right (dst : Option (Entry κ υ)) : ¬ Clash dst none := by
  rintro ⟨path, child, plain, hsrc, -, -⟩
  cases hsrc

theorem not_clash_value_right (dst : Option (Entry κ υ)) (plain : υ) :
    ¬ Clash dst (some (.value plain)) := by
  rintro ⟨path, child, other, hsrc, -, -⟩
  cases path <;> cases hsrc

theorem clash_value_mapping (plain : υ) (child : Mapping κ υ) :
    Clash (some (.value plain)) (some (.mapping child)) ↔ child ≠ .empty := by
  constructor
  · rintro ⟨path, inner, other, hsrc, hinner, hdst⟩
    cases path with
    | nil =>
      obtain rfl := Entry.mapping.inj (Option.some.inj hsrc)
      exact hinner
    | cons key path => cases hdst
  · intro hchild
    exact ⟨[], child, plain, rfl, hchild, rfl⟩

/-- Two mappings clash inside some key. -/
theorem clash_mapping_iff (dst src : Mapping κ υ) :
    Clash (some (.mapping dst)) (some (.mapping src)) ↔
      ∃ key, Clash (dst.lookup key) (src.lookup key) := by
  constructor
  · rintro ⟨path, child, plain, hsrc, hchild, hdst⟩
    cases path with
    | nil => cases hdst
    | cons key path => exact ⟨key, path, child, plain, hsrc, hchild, hdst⟩
  · rintro ⟨key, path, child, plain, hsrc, hchild, hdst⟩
    exact ⟨key :: path, child, plain, hsrc, hchild, hdst⟩

/-- Two mappings do not clash if the mappings inside the second one do not. -/
theorem not_clash_of_lookup {dst src : Mapping κ υ}
    (hsrc : ∀ key child, src.lookup key = some (.mapping child) →
      ¬ Clash (dst.lookup key) (some (.mapping child))) :
    ¬ Clash (some (.mapping dst)) (some (.mapping src)) := by
  rw [clash_mapping_iff]
  rintro ⟨key, hclash⟩
  match hlookup : src.lookup key with
  | none =>
    rw [hlookup] at hclash
    exact not_clash_none_right _ hclash
  | some (.value plain) =>
    rw [hlookup] at hclash
    exact not_clash_value_right _ _ hclash
  | some (.mapping child) =>
    rw [hlookup] at hclash
    exact hsrc key child hlookup hclash

/-- A clash of two mappings is at the first entry of the defaults or in the others. -/
theorem clash_cons_iff {dst after rest : Mapping κ υ} {key : κ} (hfresh : key ∉ rest.keys)
    (hafter : ∀ other, key ≠ other → after.lookup other = dst.lookup other) (entry : Entry κ υ) :
    Clash (some (.mapping dst)) (some (.mapping (.cons key entry rest))) ↔
      Clash (dst.lookup key) (some entry) ∨
        Clash (some (.mapping after)) (some (.mapping rest)) := by
  rw [clash_mapping_iff, clash_mapping_iff]
  constructor
  · rintro ⟨other, hclash⟩
    rw [Mapping.lookup_cons] at hclash
    by_cases hother : key = other
    · subst hother
      rw [if_pos rfl] at hclash
      exact Or.inl hclash
    · rw [if_neg hother, ← hafter other hother] at hclash
      exact Or.inr ⟨other, hclash⟩
  · rintro (hclash | ⟨other, hclash⟩)
    · exact ⟨key, by rwa [Mapping.lookup_cons, if_pos rfl]⟩
    · by_cases hother : key = other
      · subst hother
        rw [(rest.lookup_eq_none_iff key).mpr hfresh] at hclash
        exact absurd hclash (not_clash_none_right _)
      · rw [hafter other hother] at hclash
        exact ⟨other, by rwa [Mapping.lookup_cons, if_neg hother]⟩

/-- A mapping of the defaults either clashes with what is there, and then the merge fails, or the
merge goes on with the other defaults, and no other key has changed. -/
theorem merge_node_step (dst : Mapping κ υ) (key : κ) {child : Mapping κ υ}
    (hchild : child.UniqueKeys)
    (hinner : ∀ node, (∃ error, merge node child = .error error) ↔
      Clash (some (.mapping node)) (some (.mapping child))) (rest : Mapping κ υ) :
    (Clash (dst.lookup key) (some (.mapping child)) ∧
        ∃ error, merge dst (.node key child rest) = .error error) ∨
      (¬ Clash (dst.lookup key) (some (.mapping child)) ∧
        ∃ after, (∀ other, key ≠ other → after.lookup other = dst.lookup other) ∧
          merge dst (.node key child rest) = merge after rest) := by
  have hset (node : Mapping κ υ) : ∀ other, key ≠ other →
      (dst.set key (.mapping node)).lookup other = dst.lookup other :=
    fun other hother ↦ dst.lookup_set_of_ne hother _
  match hkey : dst.lookup key with
  | none =>
    refine Or.inr ⟨not_clash_none_left _, _, hset child, ?_⟩
    rw [merge_node_of_none hkey, merge_empty_left hchild]
    rfl
  | some (.mapping node) =>
    rw [← hinner, merge_node_of_mapping hkey]
    cases hmerge : merge node child with
    | error error => exact Or.inl ⟨⟨error, rfl⟩, error, rfl⟩
    | ok inner => exact Or.inr ⟨by simp, _, hset inner, rfl⟩
  | some (.value plain) =>
    rw [clash_value_mapping]
    by_cases hempty : child = .empty
    · subst hempty
      exact Or.inr ⟨not_not.mpr rfl, dst, fun _ _ ↦ rfl, merge_node_of_value_empty hkey rest⟩
    · exact Or.inl ⟨hempty, _, merge_node_of_value hkey hempty rest⟩

/-- The merge fails exactly when the two mappings clash. -/
theorem merge_error_iff {dst src : Mapping κ υ} (hsrc : src.UniqueKeys) :
    (∃ error, merge dst src = .error error) ↔
      Clash (some (.mapping dst)) (some (.mapping src)) := by
  induction src generalizing dst with
  | empty =>
    refine iff_of_false (by simp [merge]) ?_
    rw [clash_mapping_iff]
    rintro ⟨key, hclash⟩
    exact not_clash_none_right _ hclash
  | value key plain rest ih =>
    obtain ⟨hfresh, hrest⟩ := hsrc
    have hafter : ∀ other, key ≠ other →
        (dst.setDefault key (.value plain)).2.lookup other = dst.lookup other := by
      intro other hother
      rw [Mapping.lookup_setDefault, if_neg hother]
    have hcons := clash_cons_iff hfresh hafter (.value plain)
    rw [or_iff_right (not_clash_value_right _ _)] at hcons
    rw [merge, ih hrest]
    exact hcons.symm
  | node key child rest ihchild ih =>
    obtain ⟨hfresh, hchild, hrest⟩ := hsrc
    have hinner (node : Mapping κ υ) : (∃ error, merge node child = .error error) ↔
        Clash (some (.mapping node)) (some (.mapping child)) := ihchild hchild
    rcases merge_node_step dst key hchild hinner rest with
      ⟨hclash, hfails⟩ | ⟨hnot, after, hafter, hgoesOn⟩
    · refine iff_of_true hfails ?_
      exact (clash_cons_iff hfresh (fun other _ ↦ Eq.refl (dst.lookup other)) _).mpr (Or.inl hclash)
    · have hcons := clash_cons_iff hfresh hafter (.mapping child)
      rw [or_iff_right hnot] at hcons
      rw [hgoesOn, ih hrest]
      exact hcons.symm

/-! ### What the merge makes -/

/-- What a merge that does not fail has done with a mapping of the defaults. -/
theorem merge_node_cases {dst child rest result : Mapping κ υ} {key : κ}
    (hchild : child.UniqueKeys) (hmerge : merge dst (.node key child rest) = .ok result) :
    (dst.lookup key = none ∧ merge (dst.set key (.mapping child)) rest = .ok result) ∨
      (∃ node inner, dst.lookup key = some (.mapping node) ∧ merge node child = .ok inner ∧
        merge (dst.set key (.mapping inner)) rest = .ok result) ∨
      ∃ plain, dst.lookup key = some (.value plain) ∧ child = .empty ∧
        merge dst rest = .ok result := by
  match hkey : dst.lookup key with
  | none =>
    rw [merge_node_of_none hkey, merge_empty_left hchild] at hmerge
    exact Or.inl ⟨rfl, hmerge⟩
  | some (.mapping node) =>
    rw [merge_node_of_mapping hkey] at hmerge
    match hnode : merge node child with
    | .error error =>
      rw [hnode] at hmerge
      cases hmerge
    | .ok inner =>
      rw [hnode] at hmerge
      exact Or.inr (Or.inl ⟨node, inner, rfl, hnode, hmerge⟩)
  | some (.value plain) =>
    by_cases hempty : child = .empty
    · subst hempty
      rw [merge_node_of_value_empty hkey] at hmerge
      exact Or.inr (Or.inr ⟨plain, rfl, rfl, hmerge⟩)
    · rw [merge_node_of_value hkey hempty] at hmerge
      cases hmerge

/-- What a key or a path stands for after a merge, by what it stands for in the configuration and in
the defaults. What is not in the configuration comes from the defaults. A plain value stays, and the
defaults do not go on in it. A mapping stays as it is unless the defaults have a mapping there, and
these two are merged. -/
inductive Merged : Option (Entry κ υ) → Option (Entry κ υ) → Option (Entry κ υ) → Prop
  | absent (source : Option (Entry κ υ)) : Merged none source source
  | plain (value : υ) {source : Option (Entry κ υ)}
      (hsource : ∀ child, source = some (.mapping child) → child = .empty) :
      Merged (some (.value value)) source (some (.value value))
  | kept (own : Mapping κ υ) {source : Option (Entry κ υ)}
      (hsource : ∀ child, source ≠ some (.mapping child)) :
      Merged (some (.mapping own)) source (some (.mapping own))
  | merged (own child result : Mapping κ υ) (hmerge : merge own child = .ok result) :
      Merged (some (.mapping own)) (some (.mapping child)) (some (.mapping result))

/-- What the defaults do not have stays. -/
theorem merged_none_iff (own result : Option (Entry κ υ)) :
    Merged own none result ↔ result = own := by
  constructor
  · rintro (_ | _ | _ | _) <;> rfl
  · rintro rfl
    match result with
    | none => exact .absent none
    | some (.value value) => exact .plain value nofun
    | some (.mapping own) => exact .kept own nofun

/-- A default that is set where nothing was, and leaves alone what was there. -/
theorem Merged.of_getD_value (own : Option (Entry κ υ)) (plain : υ) :
    Merged own (some (.value plain)) (some (own.getD (.value plain))) :=
  match own with
  | none => .absent _
  | some (.value value) => .plain value nofun
  | some (.mapping own) => .kept own nofun

/-- Every key after a merge, from the first entry of the defaults and the merge of the others. -/
theorem merged_cons {dst after rest result : Mapping κ υ} {key : κ} (entry : Entry κ υ)
    {found : Entry κ υ} (hfresh : key ∉ rest.keys)
    (hafter : ∀ other, after.lookup other = if key = other then some found else dst.lookup other)
    (hfirst : Merged (dst.lookup key) (some entry) (some found))
    (hrest : ∀ other, Merged (after.lookup other) (rest.lookup other) (result.lookup other))
    (wanted : κ) :
    Merged (dst.lookup wanted) ((Mapping.cons key entry rest).lookup wanted)
      (result.lookup wanted) := by
  have hwanted := hrest wanted
  rw [hafter] at hwanted
  rw [Mapping.lookup_cons]
  by_cases hkey : key = wanted
  · subst hkey
    rw [if_pos rfl, (rest.lookup_eq_none_iff key).mpr hfresh, merged_none_iff] at hwanted
    rwa [if_pos rfl, hwanted]
  · rwa [if_neg hkey] at hwanted ⊢

/-- Every key of a merge. -/
theorem merged_lookup {dst src result : Mapping κ υ} (hsrc : src.UniqueKeys)
    (hmerge : merge dst src = .ok result) (wanted : κ) :
    Merged (dst.lookup wanted) (src.lookup wanted) (result.lookup wanted) := by
  induction src generalizing dst wanted with
  | empty =>
    obtain rfl := Except.ok.inj hmerge
    exact (merged_none_iff _ _).mpr rfl
  | value key plain rest ih =>
    obtain ⟨hfresh, hrest⟩ := hsrc
    exact merged_cons (.value plain) hfresh (fun other ↦ dst.lookup_setDefault key other _)
      (.of_getD_value _ plain) (fun other ↦ ih hrest hmerge other) wanted
  | node key child rest _ ih =>
    obtain ⟨hfresh, hchild, hrest⟩ := hsrc
    have hset (node : Mapping κ υ) (other : κ) := dst.lookup_set key other (.mapping node)
    rcases merge_node_cases hchild hmerge with
      ⟨hkey, hlater⟩ | ⟨node, inner, hkey, hnode, hlater⟩ | ⟨plain, hkey, rfl, hlater⟩
    · refine merged_cons (.mapping child) hfresh (hset child) ?_
        (fun other ↦ ih hrest hlater other) wanted
      rw [hkey]
      exact .absent _
    · refine merged_cons (.mapping child) hfresh (hset inner) ?_
        (fun other ↦ ih hrest hlater other) wanted
      rw [hkey]
      exact .merged node child inner hnode
    · have hsame : ∀ other, dst.lookup other =
          if key = other then some (.value plain) else dst.lookup other := by
        intro other
        split_ifs with hother
        · rw [← hother, hkey]
        · rfl
      refine merged_cons (.mapping .empty) hfresh hsame ?_
        (fun other ↦ ih hrest hlater other) wanted
      rw [hkey]
      exact .plain plain fun child hsome ↦ (Entry.mapping.inj (Option.some.inj hsome)).symm

/-- A key that the defaults do not have. -/
theorem lookup_merge_of_not_mem {dst src result : Mapping κ υ} (hsrc : src.UniqueKeys)
    (hmerge : merge dst src = .ok result) {key : κ} (hkey : key ∉ src.keys) :
    result.lookup key = dst.lookup key := by
  have hmerged := merged_lookup hsrc hmerge key
  rwa [(src.lookup_eq_none_iff key).mpr hkey, merged_none_iff] at hmerged

theorem source_get_nil (source : Option (Entry κ υ)) :
    (source.bind fun entry ↦ entry.get []) = source := by
  cases source with
  | none => rfl
  | some entry => exact entry.get_nil

/-- Nothing comes after a plain value or an empty mapping. -/
theorem source_get_cons {source : Option (Entry κ υ)}
    (hsource : ∀ child, source = some (.mapping child) → child = .empty) {key : κ} {path : List κ} :
    (source.bind fun entry ↦ entry.get (key :: path)) = none := by
  match source with
  | none => rfl
  | some (.value plain) => rfl
  | some (.mapping child) =>
    rw [hsource child rfl]
    rfl

/-- Every path of a merge. -/
theorem merged_get {dst src result : Mapping κ υ} (hsrc : src.UniqueKeys)
    (hmerge : merge dst src = .ok result) (path : List κ) :
    Merged (dst.get path) (src.get path) (result.get path) := by
  induction path generalizing dst src result with
  | nil => exact .merged dst src result hmerge
  | cons key path ih =>
    have hkey := merged_lookup hsrc hmerge key
    have hunique : ∀ child, src.lookup key = some (.mapping child) → child.UniqueKeys :=
      fun child hchild ↦ Mapping.uniqueKeys_of_lookup hsrc hchild
    rw [Mapping.get_cons, Mapping.get_cons, Mapping.get_cons]
    generalize dst.lookup key = own, src.lookup key = source, result.lookup key = made
      at hkey hunique
    cases hkey with
    | absent => exact .absent _
    | plain value hsource =>
      cases path with
      | nil =>
        rw [Option.bind_some, Entry.get_nil, source_get_nil]
        exact .plain value hsource
      | cons next path =>
        rw [source_get_cons fun child hchild ↦ hsource child hchild]
        exact .absent none
    | kept own hsource =>
      cases path with
      | nil =>
        rw [Option.bind_some, Entry.get_nil, source_get_nil]
        exact .kept own hsource
      | cons next path =>
        rw [source_get_cons fun child hchild ↦ absurd hchild (hsource child), merged_none_iff]
    | merged own child inner hinner => exact ih (hunique child rfl) hinner

/-- Merging the defaults a second time changes nothing. -/
theorem merge_again {dst src result : Mapping κ υ} (hsrc : src.UniqueKeys)
    (hmerge : merge dst src = .ok result) : merge result src = .ok result := by
  induction src generalizing dst result with
  | empty => rfl
  | value key plain rest ih =>
    obtain ⟨hfresh, hrest⟩ := hsrc
    have hkey := lookup_merge_of_not_mem hrest hmerge hfresh
    rw [Mapping.lookup_setDefault, if_pos rfl] at hkey
    rw [merge, Mapping.setDefault_of_lookup hkey]
    exact ih hrest hmerge
  | node key child rest ihchild ih =>
    obtain ⟨hfresh, hchild, hrest⟩ := hsrc
    have hagain {node : Mapping κ υ} (hkey : result.lookup key = some (.mapping node))
        (hnode : merge node child = .ok node) (hlater : merge result rest = .ok result) :
        merge result (.node key child rest) = .ok result := by
      rw [merge_node_of_mapping hkey, hnode]
      change merge (result.set key (.mapping node)) rest = .ok result
      rwa [Mapping.set_of_lookup hkey]
    rcases merge_node_cases hchild hmerge with
      ⟨-, hlater⟩ | ⟨node, inner, -, hnode, hlater⟩ | ⟨plain, hplain, rfl, hlater⟩
    · have hkey := lookup_merge_of_not_mem hrest hlater hfresh
      rw [Mapping.lookup_set_self] at hkey
      exact hagain hkey (ihchild hchild (merge_empty_left hchild)) (ih hrest hlater)
    · have hkey := lookup_merge_of_not_mem hrest hlater hfresh
      rw [Mapping.lookup_set_self] at hkey
      exact hagain hkey (ihchild hchild hnode) (ih hrest hlater)
    · have hkey := lookup_merge_of_not_mem hrest hlater hfresh
      rw [merge_node_of_value_empty (hkey.trans hplain)]
      exact ih hrest hlater

/-- The merge of a configuration with defaults. It fails exactly if along some path the defaults
have a mapping with entries and the configuration a value that is no mapping. Otherwise the value of
the configuration is kept at every path where it has one, the defaults are taken at every other
path, what the defaults do not have stays as it is, and a second merge changes nothing. -/
theorem merge_spec (dst src : Config κ υ) :
    ((∃ error, merge dst.entries src.entries = .error error) ↔
      ∃ path child plain, src.entries.get path = some (.mapping child) ∧ child ≠ .empty ∧
        dst.entries.get path = some (.value plain)) ∧
    ∀ result, merge dst.entries src.entries = .ok result →
      (∀ path,
        (∀ plain, dst.entries.get path = some (.value plain) →
          result.get path = some (.value plain)) ∧
        (∀ own, dst.entries.get path = some (.mapping own) →
          ∃ made, result.get path = some (.mapping made)) ∧
        (dst.entries.get path = none → result.get path = src.entries.get path) ∧
        (src.entries.get path = none → result.get path = dst.entries.get path)) ∧
      merge result src.entries = .ok result := by
  refine ⟨merge_error_iff src.unique, fun result hmerge ↦ ⟨?_, merge_again src.unique hmerge⟩⟩
  intro path
  have hpath := merged_get src.unique hmerge path
  generalize dst.entries.get path = own, src.entries.get path = source, result.get path = made
    at hpath ⊢
  refine ⟨?_, ?_, ?_, ?_⟩
  · rintro plain rfl
    cases hpath
    rfl
  · rintro inner rfl
    cases hpath with
    | kept => exact ⟨inner, rfl⟩
    | merged _ _ made => exact ⟨made, rfl⟩
  · rintro rfl
    cases hpath
    rfl
  · rintro rfl
    exact (merged_none_iff _ _).mp hpath

end CanopenTools.Bridge
